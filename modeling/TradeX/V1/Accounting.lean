import TradeX.Lib.AverageCost
import TradeX.V1.PositionManager

/-! The books of a v1 position: a fill changes it as it changes a holding at average cost, in units of
the multiplier, save that an empty fill of a flat position leaves its price behind. -/

namespace TradeX.V1

open Lib

namespace Position

/-- The position in units of its multiplier. -/
def holding (position : Position) : Holding ℚ where
  quantity := position.quantity
  average := position.avgPrice
  realized := position.realizedPnl / position.mult

/-- The fills of a list, each a signed quantity and a price. -/
def withFills (position : Position) (fills : List (ℤ × ℚ)) : Position :=
  fills.foldl (fun held fill => held.withFill fill.1 fill.2) position

/-- `Position.with_fill`, or nothing where it comes to a division by zero. -/
def tryFill (position : Position) (fillQty : ℤ) (price : ℚ) : Option Position :=
  if position.quantity ≠ 0 ∧ ¬position.closing fillQty ∧ position.quantity + fillQty = 0 then none
  else some (position.withFill fillQty price)

def tryFills (position : Position) (fills : List (ℤ × ℚ)) : Option Position :=
  fills.foldlM (fun held fill => held.tryFill fill.1 fill.2) position

/-- A position without shares, of a multiplier. -/
def unfilled (symbol exchange : String) (multiplier : ℚ) : Position := { symbol, exchange, multiplier }

variable {position : Position} {fillQty : ℤ} (price : ℚ)

theorem mult_pos (position : Position) : 0 < position.mult := by
  unfold mult
  split
  · next positive => exact positive
  · exact one_pos

theorem withFill_mult : (position.withFill fillQty price).mult = position.mult := rfl

theorem against_iff : Against (position.holding.quantity) (fillQty : ℚ) ↔ position.closing fillQty := by
  unfold Against holding closing
  dsimp only
  constructor
  · rintro (⟨long, sells⟩ | ⟨short, buys⟩)
    · exact .inl ⟨by exact_mod_cast long, by exact_mod_cast sells⟩
    · exact .inr ⟨by exact_mod_cast short, by exact_mod_cast buys⟩
  · rintro (⟨long, sells⟩ | ⟨short, buys⟩)
    · exact .inl ⟨by exact_mod_cast long, by exact_mod_cast sells⟩
    · exact .inr ⟨by exact_mod_cast short, by exact_mod_cast buys⟩

/-- The quantity that is divided by is not zero. -/
theorem tryFill_eq (position : Position) (fillQty : ℤ) :
    position.tryFill fillQty price = some (position.withFill fillQty price) := by
  refine if_neg ?_
  rintro ⟨held, opening, whole⟩
  refine opening ?_
  unfold closing
  omega

theorem tryFills_eq (position : Position) (fills : List (ℤ × ℚ)) :
    position.tryFills fills = some (position.withFills fills) := by
  induction fills generalizing position with
  | nil => rfl
  | cons fill rest ih =>
    unfold tryFills
    rw [List.foldlM_cons, tryFill_eq]
    exact ih (position.withFill fill.1 fill.2)

/-- A fill against the position realizes what it closes, in units of the multiplier. -/
theorem realized_against (against : position.closing fillQty) {closed : ℚ}
    (size : |closed| = min |(position.quantity : ℚ)| |(fillQty : ℚ)|) (sign : 0 < closed ↔ 0 < position.quantity) :
    position.computeRealizedPnl fillQty price / position.mult =
      position.realizedPnl / position.mult + closed * (price - position.avgPrice) := by
  have held : position.quantity ≠ 0 := by
    rcases against with ⟨long, -⟩ | ⟨short, -⟩ <;> omega
  have unit : position.mult ≠ 0 := (mult_pos position).ne'
  have sized : ((min |position.quantity| |fillQty| : ℤ) : ℚ) = |closed| := by
    rw [size]
    push_cast
    rfl
  unfold computeRealizedPnl
  rw [if_neg held, if_pos against]
  dsimp only
  rw [sized]
  by_cases long : position.quantity > 0
  · rw [if_pos long, abs_of_pos (sign.mpr long)]
    field_simp
  · rw [if_neg long, abs_of_nonpos (not_lt.mp fun positive => long (sign.mp positive))]
    field_simp

/-- Save for the empty fill of a flat position, a fill is that of the holding. -/
theorem withFill_holding (filled : position.quantity ≠ 0 ∨ fillQty ≠ 0) :
    (position.withFill fillQty price).holding = position.holding.fill fillQty price := by
  have unfolded : (position.withFill fillQty price).holding = ⟨position.quantity + fillQty,
      position.computeAvgPrice (position.quantity + fillQty) fillQty price,
      position.computeRealizedPnl fillQty price / position.mult⟩ := by
    simp only [holding, withFill_mult]
    simp only [withFill, Int.cast_add]
  rw [unfolded]
  cases fillMeets position.holding.quantity (fillQty : ℚ) with
  | idle flat empty =>
    rcases filled with held | full
    · exact absurd (Int.cast_eq_zero.mp flat) held
    · exact absurd (Int.cast_eq_zero.mp empty) full
  | opens flat full =>
    rw [Holding.fill_opens price flat full]
    have none : position.quantity = 0 := Int.cast_eq_zero.mp flat
    simp [computeAvgPrice, computeRealizedPnl, holding, none]
  | stays held empty =>
    rw [Holding.fill_stays price held empty]
    have some : position.quantity ≠ 0 := fun none => held (by simp [holding, none])
    have none : fillQty = 0 := Int.cast_eq_zero.mp empty
    have opening : ¬position.closing 0 := by
      unfold closing
      omega
    have unit : (position.quantity : ℚ) ≠ 0 := held
    simp only [computeAvgPrice, computeRealizedPnl, holding, none, if_neg some, if_neg opening, Int.cast_zero, zero_mul,
      add_zero, mul_div_cancel_left₀ _ unit]
  | adds along =>
    rw [Holding.fill_adds price along]
    have opening : ¬position.closing fillQty := by
      rw [← against_iff]
      exact not_against_of_along along
    have some : position.quantity ≠ 0 := by
      intro none
      rcases along with ⟨held, -⟩ | ⟨held, -⟩ <;> simp [holding, none] at held
    simp only [computeAvgPrice, computeRealizedPnl, holding, if_neg some, if_neg opening, Int.cast_add]
  | reduces against part =>
    rw [Holding.fill_reduces price against part]
    have closing : position.closing fillQty := against_iff.mp against
    have some : position.quantity ≠ 0 := by
      rcases closing with ⟨long, -⟩ | ⟨short, -⟩ <;> omega
    have size : |-(fillQty : ℚ)| = min |(position.quantity : ℚ)| |(fillQty : ℚ)| := by
      rw [abs_neg]
      exact (min_eq_right part.le).symm
    have sign : 0 < -(fillQty : ℚ) ↔ 0 < position.quantity := by
      rw [neg_pos, Int.cast_lt_zero]
      rcases closing with ⟨long, sells⟩ | ⟨short, buys⟩ <;> omega
    have smaller : |fillQty| < |position.quantity| := by
      have cast : |(fillQty : ℚ)| < |(position.quantity : ℚ)| := part
      exact_mod_cast cast
    have left : position.quantity + fillQty ≠ 0 := by
      intro whole
      have opposite : fillQty = -position.quantity := by omega
      rw [opposite, abs_neg] at smaller
      exact lt_irrefl _ smaller
    rw [realized_against price closing size sign]
    simp only [computeAvgPrice, holding, if_neg some, if_pos closing, if_neg left, if_neg smaller.not_gt]
  | closes against whole =>
    rw [Holding.fill_closes price against whole]
    have closing : position.closing fillQty := against_iff.mp against
    have some : position.quantity ≠ 0 := by
      rcases closing with ⟨long, -⟩ | ⟨short, -⟩ <;> omega
    have flat : (position.quantity : ℚ) + fillQty = 0 := whole
    have none : position.quantity + fillQty = 0 := by exact_mod_cast flat
    have size : |(position.quantity : ℚ)| = min |(position.quantity : ℚ)| |(fillQty : ℚ)| := by
      have same := against.abs_eq_iff.mp whole
      exact (min_eq_left same.ge).symm
    have sign : 0 < (position.quantity : ℚ) ↔ 0 < position.quantity := Int.cast_pos
    rw [realized_against price closing size sign]
    simp only [computeAvgPrice, holding, if_neg some, if_pos closing, if_pos none, flat]
  | reverses against beyond =>
    rw [Holding.fill_reverses price against beyond]
    have closing : position.closing fillQty := against_iff.mp against
    have some : position.quantity ≠ 0 := by
      rcases closing with ⟨long, -⟩ | ⟨short, -⟩ <;> omega
    have size : |(position.quantity : ℚ)| = min |(position.quantity : ℚ)| |(fillQty : ℚ)| :=
      (min_eq_left beyond.le).symm
    have sign : 0 < (position.quantity : ℚ) ↔ 0 < position.quantity := Int.cast_pos
    have greater : |position.quantity| < |fillQty| := by
      have cast : |(position.quantity : ℚ)| < |(fillQty : ℚ)| := beyond
      exact_mod_cast cast
    have left : position.quantity + fillQty ≠ 0 := by
      intro whole
      have opposite : fillQty = -position.quantity := by omega
      rw [opposite, abs_neg] at greater
      exact lt_irrefl _ greater
    rw [realized_against price closing size sign]
    simp only [computeAvgPrice, holding, if_neg some, if_pos closing, if_neg left, gt_iff_lt, if_pos greater]

theorem withFill_idle (flat : position.quantity = 0) (empty : fillQty = 0) :
    (position.withFill fillQty price).holding = ⟨0, price, position.holding.realized⟩ := by
  subst empty
  simp [holding, withFill_mult]
  simp [withFill, computeAvgPrice, computeRealizedPnl, flat]

/-- Every fill is that of the holding, up to the price of no quantity. -/
theorem withFill_agree (position : Position) (fillQty : ℤ) :
    (position.withFill fillQty price).holding.Agree (position.holding.fill fillQty price) := by
  by_cases idle : position.quantity = 0 ∧ fillQty = 0
  · obtain ⟨flat, empty⟩ := idle
    have none : position.holding.quantity = 0 := Int.cast_eq_zero.mpr flat
    rw [withFill_idle price flat empty, Holding.fill_idle price none (Int.cast_eq_zero.mpr empty)]
    exact ⟨rfl, rfl, fun held => absurd rfl held⟩
  · rw [withFill_holding price (by tauto)]
    exact Holding.Agree.refl _

/-- A list of fills with exact quantities. -/
def flow (fills : List (ℤ × ℚ)) : List (ℚ × ℚ) := fills.map fun fill => (fill.1, fill.2)

variable {held : Holding ℚ} (fills : List (ℤ × ℚ))

theorem withFills_agree (agree : position.holding.Agree held) :
    (position.withFills fills).holding.Agree (held.fills (flow fills)) := by
  induction fills generalizing position held with
  | nil => exact agree
  | cons fill rest ih =>
    have next := withFill_agree fill.2 position fill.1
    rw [agree.fill] at next
    exact ih next

/-- Where no fill is empty the prices agree too. -/
theorem withFills_holding (filled : ∀ fill ∈ fills, fill.1 ≠ 0) :
    (position.withFills fills).holding = position.holding.fills (flow fills) := by
  induction fills generalizing position with
  | nil => rfl
  | cons fill rest ih =>
    obtain ⟨first, others⟩ := List.forall_mem_cons.mp filled
    have later := @ih (position.withFill fill.1 fill.2) others
    rw [withFill_holding fill.2 (.inr first)] at later
    exact later

theorem withFills_mult : (position.withFills fills).mult = position.mult := by
  induction fills generalizing position with
  | nil => rfl
  | cons fill rest ih => exact @ih (position.withFill fill.1 fill.2)

theorem withFills_quantity : (position.withFills fills).quantity = position.quantity + (fills.map Prod.fst).sum := by
  induction fills generalizing position with
  | nil => exact (add_zero _).symm
  | cons fill rest ih =>
    rw [List.map_cons, List.sum_cons, ← add_assoc]
    exact @ih (position.withFill fill.1 fill.2)

theorem flow_cash : ((flow fills).map fun fill => fill.1 * fill.2).sum =
    (fills.map fun fill => (fill.1 : ℚ) * fill.2).sum := by
  unfold flow
  rw [List.map_map]
  rfl

/-- A position is balanced by its fills: the quantity is their sum, the profits are the multiplier
times their cash flow and the value held. -/
structure Balanced (position : Position) (multiplier : ℚ) (fills : List (ℤ × ℚ)) : Prop where
  quantity : position.quantity = (fills.map Prod.fst).sum
  realized : position.realizedPnl = multiplier *
    (-(fills.map fun fill => (fill.1 : ℚ) * fill.2).sum + position.quantity * position.avgPrice)
  marked : ∀ ltp, (position.withLtp ltp).unrealizedPnl = position.quantity * (ltp - position.avgPrice) * multiplier

/-- Fills of a position without shares balance it. -/
theorem withFills_balanced (symbol exchange : String) {multiplier : ℚ} (positive : 0 < multiplier) :
    ((unfilled symbol exchange multiplier).withFills fills).Balanced multiplier fills := by
  have unit : ((unfilled symbol exchange multiplier).withFills fills).mult = multiplier := by
    rw [withFills_mult]
    exact if_pos positive
  have start : (unfilled symbol exchange multiplier).holding = Holding.flat := by
    simp [unfilled, holding, Holding.flat]
  have agree := @withFills_agree (unfilled symbol exchange multiplier) _ fills (Holding.Agree.refl _)
  have quantity := @withFills_quantity (unfilled symbol exchange multiplier) fills
  rw [start] at agree
  generalize (unfilled symbol exchange multiplier).withFills fills = position at unit agree quantity ⊢
  have cost : position.holding.quantity * position.holding.average = (Holding.flat.fills (flow fills)).quantity *
      (Holding.flat.fills (flow fills)).average := by
    by_cases flat : (Holding.flat.fills (flow fills)).quantity = 0
    · rw [agree.quantity, flat, zero_mul, zero_mul]
    · rw [agree.quantity, agree.average flat]
  have cash : position.holding.cash = -(fills.map fun fill => (fill.1 : ℚ) * fill.2).sum := by
    have paid := Holding.fills_cash Holding.flat (flow fills)
    rw [flow_cash] at paid
    unfold Holding.cash at paid ⊢
    rw [agree.realized, cost, paid]
    simp [Holding.flat]
  have realized := position.holding.realized_eq
  rw [cash] at realized
  refine ⟨?_, ?_, fun ltp => ?_⟩
  · rw [quantity]
    exact zero_add _
  · have scaled : position.realizedPnl / multiplier = position.holding.realized := by
      unfold holding
      rw [unit]
    rw [div_eq_iff positive.ne', mul_comm] at scaled
    rw [scaled, realized]
    rfl
  · unfold withLtp
    dsimp only
    rw [unit]
    split
    · rfl
    · next flat =>
      rw [not_not.mp flat]
      simp

end Position

end TradeX.V1
