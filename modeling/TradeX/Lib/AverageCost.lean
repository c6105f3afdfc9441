import Mathlib

/-! Accounting at average cost. A fill on the side of a holding averages its price into the cost;
a fill against it realizes the profit of what it closes, and what it leaves over opens at its own
price. Whatever the branch, the fill is paid for with its quantity times its price. -/

namespace TradeX.Lib

/-- A signed quantity, its average cost, and the profit realized so far. -/
structure Holding (α : Type u) where
  quantity : α
  average : α
  realized : α
  deriving DecidableEq, Repr

/-- The two quantities have opposite signs. -/
def Against {α : Type u} [Zero α] [LT α] (quantity signed : α) : Prop :=
  (0 < quantity ∧ signed < 0) ∨ (quantity < 0 ∧ 0 < signed)

/-- The ways in which a signed fill can meet a signed quantity. -/
inductive FillMeets {α : Type u} [Field α] [LinearOrder α] (quantity signed : α) : Prop where
  | idle (flat : quantity = 0) (empty : signed = 0)
  | opens (flat : quantity = 0) (filled : signed ≠ 0)
  | stays (held : quantity ≠ 0) (empty : signed = 0)
  | adds (along : (0 < quantity ∧ 0 < signed) ∨ (quantity < 0 ∧ signed < 0))
  | reduces (against : Against quantity signed) (part : |signed| < |quantity|)
  | closes (against : Against quantity signed) (whole : quantity + signed = 0)
  | reverses (against : Against quantity signed) (beyond : |quantity| < |signed|)

namespace Holding

variable {α : Type u} [Field α]

/-- What the fills have paid into the account: the realized profit less the cost still held. -/
def cash (holding : Holding α) : α := holding.realized - holding.quantity * holding.average

/-- Cash and realized profit are read off each other through the cost held. -/
theorem realized_eq (holding : Holding α) :
    holding.realized = holding.cash + holding.quantity * holding.average := by
  unfold cash
  ring

/-- Realized and unrealized profit at a mark are the cash and the value of the holding. -/
theorem marked (holding : Holding α) (mark : α) :
    holding.realized + (mark - holding.average) * holding.quantity = holding.cash + mark * holding.quantity := by
  unfold cash
  ring

def flat : Holding α := ⟨0, 0, 0⟩

variable [LinearOrder α]

/-- The part of the holding that a fill closes, with the sign of the holding. -/
def closed (holding : Holding α) (signed : α) : α :=
  if 0 ≤ holding.quantity * signed then 0
  else if |signed| < |holding.quantity| then -signed
  else holding.quantity

def fill (holding : Holding α) (signed price : α) : Holding α where
  quantity := holding.quantity + signed
  average :=
    if holding.quantity + signed = 0 then 0
    else if 0 ≤ holding.quantity * signed then
      (holding.quantity * holding.average + signed * price) / (holding.quantity + signed)
    else if |signed| < |holding.quantity| then holding.average
    else price
  realized := holding.realized + holding.closed signed * (price - holding.average)

/-- A flat holding carries no cost. -/
def Settled (holding : Holding α) : Prop := holding.quantity = 0 → holding.average = 0

theorem fill_settled (holding : Holding α) (signed price : α) : (holding.fill signed price).Settled := by
  intro flat
  exact if_pos flat

end Holding

section

variable {α : Type u} [Field α] [LinearOrder α] [IsStrictOrderedRing α] {quantity signed : α}

theorem Against.mul_neg (against : Against quantity signed) : ¬ 0 ≤ quantity * signed := by
  apply not_le.mpr
  rcases against with ⟨long, sells⟩ | ⟨short, buys⟩
  · exact mul_neg_of_pos_of_neg long sells
  · exact mul_neg_of_neg_of_pos short buys

/-- The sizes are compared by the sign of what is left. -/
theorem Against.abs_eq_iff (against : Against quantity signed) :
    quantity + signed = 0 ↔ |signed| = |quantity| := by
  rcases against with ⟨long, sells⟩ | ⟨short, buys⟩
  · rw [abs_of_pos long, abs_of_neg sells]
    constructor <;> intro same <;> linarith
  · rw [abs_of_neg short, abs_of_pos buys]
    constructor <;> intro same <;> linarith

theorem along_ne_zero (along : (0 < quantity ∧ 0 < signed) ∨ (quantity < 0 ∧ signed < 0)) :
    quantity + signed ≠ 0 := by
  rcases along with ⟨long, buys⟩ | ⟨short, sells⟩
  · exact (add_pos long buys).ne'
  · exact (add_neg short sells).ne

theorem not_against_of_along (along : (0 < quantity ∧ 0 < signed) ∨ (quantity < 0 ∧ signed < 0)) :
    ¬Against quantity signed := by
  rintro (⟨long, sells⟩ | ⟨short, buys⟩)
  · rcases along with ⟨-, up⟩ | ⟨down, -⟩ <;> linarith
  · rcases along with ⟨up, -⟩ | ⟨-, down⟩ <;> linarith

theorem fillMeets (quantity signed : α) : FillMeets quantity signed := by
  by_cases empty : signed = 0
  · by_cases flat : quantity = 0
    · exact .idle flat empty
    · exact .stays flat empty
  · by_cases flat : quantity = 0
    · exact .opens flat empty
    · have met (against : Against quantity signed) : FillMeets quantity signed := by
        rcases lt_trichotomy |signed| |quantity| with part | whole | beyond
        · exact .reduces against part
        · exact .closes against (against.abs_eq_iff.mpr whole)
        · exact .reverses against beyond
      rcases lt_or_gt_of_ne flat with short | long <;> rcases lt_or_gt_of_ne empty with sells | buys
      · exact .adds (.inr ⟨short, sells⟩)
      · exact met (.inr ⟨short, buys⟩)
      · exact met (.inl ⟨long, sells⟩)
      · exact .adds (.inl ⟨long, buys⟩)

namespace Holding

variable {holding : Holding α} (price : α)

omit [IsStrictOrderedRing α] in
theorem fill_idle (flat : holding.quantity = 0) (empty : signed = 0) :
    holding.fill signed price = ⟨0, 0, holding.realized⟩ := by
  simp [fill, closed, flat, empty]

omit [IsStrictOrderedRing α] in
theorem fill_opens (flat : holding.quantity = 0) (filled : signed ≠ 0) :
    holding.fill signed price = ⟨signed, price, holding.realized⟩ := by
  simp [fill, closed, flat, filled]

omit [IsStrictOrderedRing α] in
theorem fill_stays (held : holding.quantity ≠ 0) (empty : signed = 0) :
    holding.fill signed price = holding := by
  simp [fill, closed, held, empty]

theorem fill_adds
    (along : (0 < holding.quantity ∧ 0 < signed) ∨ (holding.quantity < 0 ∧ signed < 0)) :
    holding.fill signed price = ⟨holding.quantity + signed,
      (holding.quantity * holding.average + signed * price) / (holding.quantity + signed), holding.realized⟩ := by
  have aligned : 0 ≤ holding.quantity * signed := by
    rcases along with ⟨long, buys⟩ | ⟨short, sells⟩
    · exact (mul_pos long buys).le
    · exact (mul_pos_of_neg_of_neg short sells).le
  simp [fill, closed, aligned, along_ne_zero along]

theorem fill_reduces (against : Against holding.quantity signed) (part : |signed| < |holding.quantity|) :
    holding.fill signed price = ⟨holding.quantity + signed, holding.average,
      holding.realized + -signed * (price - holding.average)⟩ := by
  have left : holding.quantity + signed ≠ 0 := fun whole => part.ne (against.abs_eq_iff.mp whole)
  simp only [fill, closed, if_neg against.mul_neg, if_pos part, if_neg left]

theorem fill_closes (against : Against holding.quantity signed) (whole : holding.quantity + signed = 0) :
    holding.fill signed price = ⟨0, 0, holding.realized + holding.quantity * (price - holding.average)⟩ := by
  have same : ¬ |signed| < |holding.quantity| := (against.abs_eq_iff.mp whole).not_lt
  simp only [fill, closed, if_neg against.mul_neg, if_neg same, whole, if_true]

theorem fill_reverses (against : Against holding.quantity signed) (beyond : |holding.quantity| < |signed|) :
    holding.fill signed price = ⟨holding.quantity + signed, price,
      holding.realized + holding.quantity * (price - holding.average)⟩ := by
  have left : holding.quantity + signed ≠ 0 := fun whole => beyond.ne' (against.abs_eq_iff.mp whole)
  simp only [fill, closed, if_neg against.mul_neg, if_neg beyond.not_gt, if_neg left]

/-- The price of a fill tells in the average cost unless it only closes. -/
theorem fill_average_eq_iff {price other : α} (filled : signed ≠ 0) :
    (holding.fill signed price).average = (holding.fill signed other).average ↔
      price = other ∨ (Against holding.quantity signed ∧ |signed| ≤ |holding.quantity|) := by
  cases fillMeets holding.quantity signed with
  | idle flat empty => exact absurd empty filled
  | stays held empty => exact absurd empty filled
  | opens flat full =>
    have apart : ¬Against holding.quantity signed := by
      rintro (⟨long, -⟩ | ⟨short, -⟩) <;> linarith
    rw [fill_opens price flat full, fill_opens other flat full]
    simp only [apart, false_and, or_false]
  | adds along =>
    rw [fill_adds price along, fill_adds other along]
    simp only [not_against_of_along along, false_and, or_false]
    rw [div_left_inj' (along_ne_zero along), add_right_inj, mul_right_inj' filled]
  | reduces against part =>
    rw [fill_reduces price against part, fill_reduces other against part]
    exact iff_of_true rfl (.inr ⟨against, part.le⟩)
  | closes against whole =>
    rw [fill_closes price against whole, fill_closes other against whole]
    exact iff_of_true rfl (.inr ⟨against, (against.abs_eq_iff.mp whole).le⟩)
  | reverses against beyond =>
    rw [fill_reverses price against beyond, fill_reverses other against beyond]
    simp only [not_le.mpr beyond, and_false, or_false]

/-- A fill changes the cash by its price. -/
theorem fill_cash (holding : Holding α) (signed price : α) :
    (holding.fill signed price).cash = holding.cash - signed * price := by
  unfold cash
  cases fillMeets holding.quantity signed with
  | idle flat empty =>
    rw [fill_idle price flat empty, flat, empty]
    ring
  | opens flat filled =>
    rw [fill_opens price flat filled, flat]
    ring
  | stays held empty =>
    rw [fill_stays price held empty, empty]
    ring
  | adds along =>
    rw [fill_adds price along]
    simp only [mul_div_cancel₀ _ (along_ne_zero along)]
    ring
  | reduces against part =>
    rw [fill_reduces price against part]
    ring
  | closes against whole =>
    have opposite : signed = -holding.quantity := by linarith
    rw [fill_closes price against whole, opposite]
    ring
  | reverses against beyond =>
    rw [fill_reverses price against beyond]
    ring

/-- The fills of a list, each a signed quantity and a price. -/
def fills (holding : Holding α) (flow : List (α × α)) : Holding α :=
  flow.foldl (fun held fill => held.fill fill.1 fill.2) holding

variable (holding : Holding α) (flow : List (α × α))

omit [IsStrictOrderedRing α] in
theorem fills_quantity : (holding.fills flow).quantity = holding.quantity + (flow.map Prod.fst).sum := by
  induction flow generalizing holding with
  | nil => exact (add_zero _).symm
  | cons fill flow ih =>
    have later := ih (holding.fill fill.1 fill.2)
    rw [List.map_cons, List.sum_cons, ← add_assoc]
    exact later

theorem fills_cash :
    (holding.fills flow).cash = holding.cash - (flow.map fun fill => fill.1 * fill.2).sum := by
  induction flow generalizing holding with
  | nil => exact (sub_zero _).symm
  | cons fill flow ih =>
    have later := ih (holding.fill fill.1 fill.2)
    rw [fill_cash] at later
    rw [List.map_cons, List.sum_cons, ← sub_sub]
    exact later

omit [IsStrictOrderedRing α] in
theorem fills_settled {holding : Holding α} (settled : holding.Settled) : (holding.fills flow).Settled := by
  induction flow generalizing holding with
  | nil => exact settled
  | cons fill flow ih => exact ih (fill_settled holding fill.1 fill.2)

/-- Holdings that can only differ in the price of no quantity. -/
structure Agree (holding other : Holding α) : Prop where
  quantity : holding.quantity = other.quantity
  realized : holding.realized = other.realized
  average : other.quantity ≠ 0 → holding.average = other.average

omit [LinearOrder α] [IsStrictOrderedRing α] in
theorem Agree.refl : holding.Agree holding := ⟨rfl, rfl, fun _ => rfl⟩

omit [IsStrictOrderedRing α] in
/-- No fill reads the price of no quantity. -/
theorem Agree.fill {holding other : Holding α} (agree : holding.Agree other) (signed price : α) :
    holding.fill signed price = other.fill signed price := by
  obtain ⟨quantity, realized, average⟩ := agree
  by_cases flat : other.quantity = 0
  · simp [Holding.fill, closed, quantity, realized, flat]
  · have same : holding = other := by
      obtain ⟨_, _, _⟩ := holding
      obtain ⟨_, _, _⟩ := other
      simp only at quantity realized average flat
      rw [quantity, realized, average flat]
    rw [same]

end Holding

end

end TradeX.Lib
