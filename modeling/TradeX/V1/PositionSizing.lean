import TradeX.V1.ExecutionPlan

/-! The notional of a position after a planned order against the limit of the context. The quantity that is sized
from a percentage keeps to it; one that the signal names is capped by the percentage of the signal, which the limit
does not hold down. -/

namespace TradeX.V1.Planning

open Lib
open Trading (Signal computeRemainingQuantity)

variable {signal : Signal} {ctx : PlanContext} {price : ℚ}

/-- What is left of a percentage of the equity is used up to the last whole unit. -/
theorem remaining_greatest {equity pct existing : ℚ} (positive : 0 < price) (capital : 0 < equity) (some_ : 0 < pct)
    (within : existing ≤ equity * pct / 100) : IsGreatest {n : ℤ | existing + n * price ≤ equity * pct / 100}
      (computeRemainingQuantity equity pct price existing) := by
  have room : 0 ≤ equity * pct / 100 - existing := sub_nonneg.mpr within
  have quotient : 0 ≤ (equity * pct / 100 - existing) / price := div_nonneg room positive.le
  have usable : ¬ (price ≤ 0 ∨ equity ≤ 0 ∨ pct ≤ 0) :=
    not_or.mpr ⟨positive.not_ge, not_or.mpr ⟨capital.not_ge, some_.not_ge⟩⟩
  rw [computeRemainingQuantity, if_neg usable, ← mul_div_assoc]
  dsimp only
  rw [max_eq_right room, Decimal.toInt_of_nonneg quotient, max_eq_right (Int.floor_nonneg.mpr quotient)]
  exact Decimal.isGreatest_units positive

/-- Nothing is bought where more than the percentage is held. -/
theorem remaining_exceeded {equity pct existing : ℚ} (beyond : equity * pct / 100 < existing) :
    computeRemainingQuantity equity pct price existing = 0 := by
  have room : equity * pct / 100 - existing ≤ 0 := (sub_neg.mpr beyond).le
  rw [computeRemainingQuantity, ← mul_div_assoc]
  split
  · rfl
  · dsimp only
    rw [max_eq_left room, zero_div, Decimal.toInt_of_nonneg le_rfl, Int.floor_zero, max_self]

/-- The notional that is allowed for a percentage. -/
def share (ctx : PlanContext) (pct : ℚ) : ℚ := ctx.equity * pct / 100

theorem share_mono {low high : ℚ} (capital : 0 < ctx.equity) (le : low ≤ high) : share ctx low ≤ share ctx high := by
  rw [share, share]
  gcongr

theorem signalPct_positive (limit : 0 < ctx.maxPositionPct) : 0 < signalPct signal ctx := by
  rw [signalPct]
  split
  · assumption
  · exact limit

namespace ExecutionPlan

/-- What the sizing is to do: the order keeps the position within the limit, and one that is sized from a percentage
uses what is left of that up to the last unit, if anything is. -/
structure WithinCap (signal : Signal) (ctx : PlanContext) (price : ℚ) : Prop where
  bound : ctx.existingNotional + (resolveSizing signal ctx price).totalQty * price ≤ share ctx ctx.maxPositionPct
  largest : (resolveSizing signal ctx price).method = .PCT_EQUITY →
    if ctx.existingNotional ≤ share ctx (effectivePct signal ctx) then
      IsGreatest {n : ℤ | ctx.existingNotional + n * price ≤ share ctx (effectivePct signal ctx)}
        (resolveSizing signal ctx price).totalQty
    else (resolveSizing signal ctx price).totalQty = 0

/-- No number of units up to that of the signal takes the position above the limit and leaves it within the percentage
of the signal. -/
def Capped (signal : Signal) (ctx : PlanContext) (price : ℚ) : Prop :=
  0 < signal.quantity → ¬ ∃ n : ℤ, n ≤ signal.quantity ∧
    share ctx ctx.maxPositionPct < ctx.existingNotional + n * price ∧
    ctx.existingNotional + n * price ≤ share ctx (signalPct signal ctx)

theorem effectivePct_bounds (limit : 0 < ctx.maxPositionPct) :
    0 < effectivePct signal ctx ∧ effectivePct signal ctx ≤ ctx.maxPositionPct := by
  rw [effectivePct, if_pos limit]
  split
  · next own => exact ⟨lt_min own limit, min_le_right _ _⟩
  · exact ⟨limit, le_rfl⟩

section

variable (positive : 0 < price) (capital : 0 < ctx.equity) (limit : 0 < ctx.maxPositionPct)
  (held : ctx.existingNotional ≤ share ctx ctx.maxPositionPct)

include positive capital limit held

/-- A quantity that is sized from a percentage keeps to the limit. -/
theorem withinCap_percentage (unsized : ¬ 0 < signal.quantity) : WithinCap signal ctx price := by
  obtain ⟨some_, below⟩ : 0 < effectivePct signal ctx ∧ effectivePct signal ctx ≤ ctx.maxPositionPct :=
    effectivePct_bounds limit
  have sized : resolveSizing signal ctx price = {
      totalQty := computeRemainingQuantity ctx.equity (effectivePct signal ctx) price ctx.existingNotional
      perLegAllocation :=
        [computeRemainingQuantity ctx.equity (effectivePct signal ctx) price ctx.existingNotional]
      method := .PCT_EQUITY
      equity := ctx.equity
      maxPositionPct := effectivePct signal ctx
      existingNotional := ctx.existingNotional } := by
    rw [resolveSizing, if_neg unsized]
    exact if_pos ⟨some_, positive⟩
  constructor
  · rw [sized]
    dsimp only
    rcases le_or_gt ctx.existingNotional (share ctx (effectivePct signal ctx)) with within | beyond
    · exact (remaining_greatest positive capital some_ within).1.trans (share_mono capital below)
    · rw [remaining_exceeded beyond, Int.cast_zero, zero_mul, add_zero]
      exact held
  · intro _
    rw [sized]
    split
    · next within => exact remaining_greatest positive capital some_ within
    · next beyond => exact remaining_exceeded (not_le.mp beyond)

/-- A quantity of the signal is capped by what is left of the percentage of the signal. -/
theorem withinCap_explicit (explicit : 0 < signal.quantity) (capped : ctx.capExplicitQuantity = true) :
    WithinCap signal ctx price ↔ Capped signal ctx price := by
  have some_ : 0 < signalPct signal ctx := signalPct_positive limit
  have usable : ¬ (signalPct signal ctx ≤ 0 ∨ price ≤ 0) := not_or.mpr ⟨some_.not_ge, positive.not_ge⟩
  obtain ⟨room, qty⟩ : ∃ room, room = computeRemainingQuantity ctx.equity (signalPct signal ctx) price
      ctx.existingNotional := ⟨_, rfl⟩
  have sized : resolveSizing signal ctx price =
      ⟨min signal.quantity room, [min signal.quantity room], .FIXED, 0, 0, 0, none, 0⟩ := by
    rw [resolveSizing, if_pos explicit, if_pos capped, pctEquityQty, if_neg usable, ← qty]
  have bounded : WithinCap signal ctx price ↔
      ctx.existingNotional + min signal.quantity room * price ≤ share ctx ctx.maxPositionPct := by
    constructor
    · intro within
      have bound := within.bound
      rwa [sized] at bound
    · intro bound
      constructor
      · rwa [sized]
      · intro method
        rw [sized] at method
        cases method
  have grows {low high : ℤ} (le : low ≤ high) :
      ctx.existingNotional + low * price ≤ ctx.existingNotional + high * price := by
    have cast : (low : ℚ) ≤ high := Int.cast_le.mpr le
    gcongr
  rw [bounded, ← not_lt, Capped]
  rcases le_or_gt ctx.existingNotional (share ctx (signalPct signal ctx)) with within | beyond
  · have greatest : IsGreatest {n : ℤ | ctx.existingNotional + n * price ≤ share ctx (signalPct signal ctx)} room :=
      qty ▸ remaining_greatest positive capital some_ within
    constructor
    · rintro bound _ ⟨n, units, above, inside⟩
      exact bound (above.trans_le (grows (le_min units (greatest.2 inside))))
    · intro none_ above
      exact none_ explicit ⟨_, min_le_left _ _, above, (grows (min_le_right _ _)).trans greatest.1⟩
  · have nothing : room = 0 := qty.trans (remaining_exceeded beyond)
    constructor
    · rintro _ _ ⟨n, -, above, inside⟩
      -- Such a number would be negative, and the position be above the limit before.
      have fewer : (n : ℚ) * price ≤ 0 := by linarith
      linarith
    · intro _ above
      rw [nothing, min_eq_right explicit.le, Int.cast_zero, zero_mul, add_zero] at above
      exact above.not_ge held

/-- With a limit that the position does not exceed, the sizing is right exactly where no explicit quantity is cut by
a percentage of the signal that allows more than the limit. -/
theorem withinCap_iff (capped : signal.quantity ≤ 0 ∨ ctx.capExplicitQuantity = true) :
    WithinCap signal ctx price ↔ Capped signal ctx price := by
  by_cases explicit : 0 < signal.quantity
  · exact withinCap_explicit positive capital limit held explicit (capped.resolve_left explicit.not_ge)
  · exact iff_of_true (withinCap_percentage positive capital limit held explicit) fun quantity =>
      absurd quantity explicit

end

/-- A signal of 40 units with a percentage of 5 under a limit of 10. -/
theorem capped_below_limit_iff :
    let signal : Signal := {
      symbol := "TCS"
      exchange := "NSE"
      signalType := .BUY
      confidence := 1
      quantity := 40
      positionSizePct := 5 }
    let ctx : PlanContext := {
      equity := 100000
      maxPositionPct := 10
      existingNotional := 1000
      capExplicitQuantity := true }
    WithinCap signal ctx 1000 ↔ Capped signal ctx 1000 :=
  withinCap_iff (by norm_num) (by norm_num) (by norm_num) (by norm_num [share]) (.inr rfl)

/-- Of 40 units at 1000 with a percentage of 20, twenty are left under a limit of 10, which allows ten. -/
theorem percentage_above_limit :
    let signal : Signal := {
      symbol := "TCS"
      exchange := "NSE"
      signalType := .BUY
      confidence := 1
      quantity := 40
      positionSizePct := 20 }
    let ctx : PlanContext := {
      equity := 100000
      maxPositionPct := 10
      capExplicitQuantity := true }
    (resolveSizing signal ctx 1000).totalQty = 20 ∧ ¬ WithinCap signal ctx 1000 := by
  intro signal ctx
  have qty : (resolveSizing signal ctx 1000).totalQty = 20 := by decide +kernel
  refine ⟨qty, fun within => ?_⟩
  have bound := within.bound
  rw [qty] at bound
  exact absurd bound (by decide +kernel)

end ExecutionPlan

end TradeX.V1.Planning
