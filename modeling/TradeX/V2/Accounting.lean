import TradeX.Lib.AverageCost
import TradeX.V2.Oms

/-! The books of the v2 position manager: every trade changes the position of its instrument as a
fill changes a holding at average cost, and no other position. -/

namespace TradeX.V2

open Lib

def Trade.signed (trade : Trade) : ℚ := trade.side.signed trade.quantity

/-- A trade as a fill: the signed quantity and the price. -/
def Trade.fill (trade : Trade) : ℚ × ℚ := (trade.signed, trade.price)

def Position.holding (position : Position) : Holding ℚ where
  quantity := position.quantity
  average := position.avgPrice
  realized := position.realizedPnl

/-- A position accounts for the trades of its instrument: the quantity is theirs, the profits and
the value at any mark are their cash flow and the value held, and a flat position has no price. -/
structure Position.Accounts (position : Position) (trades : List Trade) : Prop where
  quantity : position.quantity = (trades.map Trade.signed).sum
  realized : position.realizedPnl =
    -(trades.map fun trade => trade.signed * trade.price).sum + position.quantity * position.avgPrice
  marked : ∀ mark, position.realizedPnl + (mark - position.avgPrice) * position.quantity =
    -(trades.map fun trade => trade.signed * trade.price).sum + mark * position.quantity
  flat : position.quantity = 0 → position.avgPrice = 0

namespace PositionManager

/-- A fill against the position takes the branch of `project` that realizes a profit: on `closed`,
the smaller of the two sizes with the sign of the position. -/
theorem project_against {pos : Position} {signed : ℚ} (price : ℚ) (against : Against pos.quantity signed)
    {closed : ℚ} (size : |closed| = min |pos.quantity| |signed|) (sign : 0 < closed ↔ 0 < pos.quantity) :
    project pos signed price =
      (if pos.quantity + signed = 0 then 0
        else if decide (pos.quantity > 0) ≠ decide (pos.quantity + signed > 0) then price
        else pos.avgPrice,
      pos.realizedPnl + closed * (price - pos.avgPrice)) := by
  have realizes : ¬ (pos.quantity = 0 ∨ (pos.quantity > 0 ∧ signed > 0) ∨ (pos.quantity < 0 ∧ signed < 0)) := by
    rcases against with ⟨long, sells⟩ | ⟨short, buys⟩
    · rintro (flat | ⟨-, buys⟩ | ⟨short, -⟩) <;> linarith
    · rintro (flat | ⟨long, -⟩ | ⟨-, sells⟩) <;> linarith
  have profit : (if pos.quantity > 0 then (price - pos.avgPrice) * |closed| else (pos.avgPrice - price) * |closed|) =
      closed * (price - pos.avgPrice) := by
    by_cases long : pos.quantity > 0
    · rw [if_pos long, abs_of_pos (sign.mpr long), mul_comm]
    · rw [if_neg long, abs_of_nonpos (not_lt.mp fun positive => long (sign.mp positive))]
      ring
  simp only [project, if_neg realizes, ← size, profit]

/-- `project` is the fill of a holding. -/
theorem project_fill (pos : Position) (signed price : ℚ) :
    project pos signed price =
      ((pos.holding.fill signed price).average, (pos.holding.fill signed price).realized) := by
  cases fillMeets pos.holding.quantity signed with
  | idle flat empty =>
    rw [Holding.fill_idle price flat empty]
    simp only [Position.holding] at flat ⊢
    simp [project, flat, empty]
  | opens flat filled =>
    rw [Holding.fill_opens price flat filled]
    simp only [Position.holding] at flat ⊢
    simp [project, flat, filled]
  | stays held empty =>
    rw [Holding.fill_stays price held empty]
    simp only [Position.holding] at held ⊢
    simp [project, held, empty]
  | adds along =>
    rw [Holding.fill_adds price along]
    simp only [Position.holding] at along ⊢
    have opening : pos.quantity = 0 ∨ (pos.quantity > 0 ∧ signed > 0) ∨ (pos.quantity < 0 ∧ signed < 0) := .inr along
    simp only [project, if_pos opening, if_neg (along_ne_zero along)]
    rcases along with ⟨long, buys⟩ | ⟨short, sells⟩
    · rw [abs_of_pos long, abs_of_pos buys, abs_of_pos (add_pos long buys), mul_comm pos.avgPrice, mul_comm price]
    · rw [abs_of_neg short, abs_of_neg sells, abs_of_neg (add_neg short sells), ← neg_div_neg_eq]
      ring_nf
  | reduces against part =>
    rw [Holding.fill_reduces price against part]
    simp only [Position.holding] at against part ⊢
    have size : |-signed| = min |pos.quantity| |signed| := by rw [abs_neg, min_eq_right part.le]
    have sign : 0 < -signed ↔ 0 < pos.quantity := by
      rcases against with ⟨long, sells⟩ | ⟨short, buys⟩ <;> constructor <;> intro _ <;> linarith
    have left : pos.quantity + signed ≠ 0 := fun whole => part.ne (against.abs_eq_iff.mp whole)
    have same : pos.quantity > 0 ↔ pos.quantity + signed > 0 := by
      rcases against with ⟨long, sells⟩ | ⟨short, buys⟩
      · rw [abs_of_pos long, abs_of_neg sells] at part
        constructor <;> intro _ <;> linarith
      · rw [abs_of_neg short, abs_of_pos buys] at part
        constructor <;> intro _ <;> linarith
    rw [project_against price against size sign, if_neg left]
    simp only [same, ne_eq, not_true_eq_false, if_false]
  | closes against whole =>
    rw [Holding.fill_closes price against whole]
    simp only [Position.holding] at against whole ⊢
    have size : |pos.quantity| = min |pos.quantity| |signed| := (min_eq_left (against.abs_eq_iff.mp whole).ge).symm
    rw [project_against price against size Iff.rfl, if_pos whole]
  | reverses against beyond =>
    rw [Holding.fill_reverses price against beyond]
    simp only [Position.holding] at against beyond ⊢
    have size : |pos.quantity| = min |pos.quantity| |signed| := (min_eq_left beyond.le).symm
    have left : pos.quantity + signed ≠ 0 := fun whole => beyond.ne' (against.abs_eq_iff.mp whole)
    have turned : decide (pos.quantity > 0) ≠ decide (pos.quantity + signed > 0) := by
      rcases against with ⟨long, sells⟩ | ⟨short, buys⟩
      · rw [abs_of_pos long, abs_of_neg sells] at beyond
        have sold : ¬ pos.quantity + signed > 0 := by linarith
        simp only [gt_iff_lt, long, decide_true, sold, decide_false, ne_eq, Bool.true_eq_false, not_false_eq_true]
      · rw [abs_of_neg short, abs_of_pos buys] at beyond
        have bought : pos.quantity + signed > 0 := by linarith
        simp only [gt_iff_lt, short.not_gt, decide_false, bought, decide_true, ne_eq, Bool.false_eq_true,
          not_false_eq_true]
    rw [project_against price against size Iff.rfl, if_neg left, if_pos turned]

/-- The trades in their order, through `apply_trade`. -/
def applyTrades (cache : TradingCache) (trades : List Trade) : TradingCache := trades.foldl applyTrade cache

/-- The holding of an instrument; an absent position is flat. -/
def holding (cache : TradingCache) (instrumentId : InstrumentId) : Holding ℚ :=
  ((cache.getPosition instrumentId).getD (flat instrumentId)).holding

/-- The trades of an instrument as fills. -/
def flow (trades : List Trade) (instrumentId : InstrumentId) : List (ℚ × ℚ) :=
  (trades.filter fun trade => trade.instrumentId = instrumentId).map Trade.fill

variable {cache : TradingCache}

/-- A trade fills the holding of its instrument, and only that. -/
theorem applyTrade_holding (keyed : Keyed cache) (trade : Trade) (instrumentId : InstrumentId) :
    holding (applyTrade cache trade) instrumentId =
      if trade.instrumentId = instrumentId then (holding cache instrumentId).fill trade.signed trade.price
      else holding cache instrumentId := by
  unfold holding applyTrade
  dsimp only
  rw [TradingCache.getPosition_setPosition, project_fill]
  simp only [keyed_start keyed]
  by_cases same : trade.instrumentId = instrumentId
  · subst same
    rw [if_pos rfl, if_pos rfl]
    rfl
  · rw [if_neg fun equal => same equal.symm, if_neg same]

theorem applyTrades_holding (keyed : Keyed cache) (trades : List Trade) (instrumentId : InstrumentId) :
    holding (applyTrades cache trades) instrumentId = (holding cache instrumentId).fills (flow trades instrumentId) := by
  induction trades generalizing cache with
  | nil => rfl
  | cons trade trades ih =>
    have later := ih (applyTrade_keyed keyed trade)
    rw [applyTrade_holding keyed] at later
    by_cases same : trade.instrumentId = instrumentId
    · rw [if_pos same] at later
      unfold flow
      rw [List.filter_cons_of_pos (by simpa using same)]
      exact later
    · rw [if_neg same] at later
      unfold flow
      rw [List.filter_cons_of_neg (by simpa using same)]
      exact later

/-- An instrument without a position has had no trades. -/
theorem applyTrades_absent (trades : List Trade) {instrumentId : InstrumentId}
    (absent : (applyTrades cache trades).getPosition instrumentId = none) (keyed : Keyed cache) :
    cache.getPosition instrumentId = none ∧ ∀ trade ∈ trades, trade.instrumentId ≠ instrumentId := by
  induction trades generalizing cache with
  | nil => exact ⟨absent, by simp⟩
  | cons trade trades ih =>
    obtain ⟨before, others⟩ := ih absent (applyTrade_keyed keyed trade)
    simp only [applyTrade, TradingCache.getPosition_setPosition, keyed_start keyed] at before
    split at before
    · cases before
    · next other => exact ⟨before, List.forall_mem_cons.mpr ⟨fun same => other same.symm, others⟩⟩

/-- Every position reached from an empty cache accounts for the trades of its instrument, and an
instrument without a position has none. -/
theorem accounting_identity (trades : List Trade) (instrumentId : InstrumentId) :
    match (applyTrades {} trades).getPosition instrumentId with
    | some position => position.Accounts (trades.filter fun trade => trade.instrumentId = instrumentId)
    | none => ∀ trade ∈ trades, trade.instrumentId ≠ instrumentId := by
  have keyed : Keyed {} := by
    intro instrumentId position found
    cases found
  have books := applyTrades_holding keyed trades instrumentId
  have start : holding {} instrumentId = Holding.flat := rfl
  rw [start] at books
  split
  · next position found =>
    have held : holding (applyTrades {} trades) instrumentId = position.holding := by
      unfold holding
      rw [found, Option.getD_some]
    rw [held] at books
    have quantity := Holding.fills_quantity Holding.flat (flow trades instrumentId)
    have cash := Holding.fills_cash Holding.flat (flow trades instrumentId)
    have settled := Holding.fills_settled (flow trades instrumentId) (fun _ => rfl : (Holding.flat : Holding ℚ).Settled)
    rw [← books] at quantity cash settled
    simp only [flow, List.map_map, Holding.flat, zero_add] at quantity
    have paid : position.holding.cash =
        -((trades.filter fun trade => trade.instrumentId = instrumentId).map fun trade => trade.signed * trade.price).sum := by
      rw [cash, Holding.cash, flow, List.map_map]
      simp only [Holding.flat, mul_zero, sub_zero, zero_sub]
      rfl
    exact {
      quantity := quantity
      realized := by rw [← paid]; exact position.holding.realized_eq
      marked := fun mark => by rw [← paid]; exact position.holding.marked mark
      flat := settled }
  · next absent => exact (applyTrades_absent trades absent keyed).2

end PositionManager

end TradeX.V2
