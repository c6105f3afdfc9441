import Mathlib

/-! Conversion of exact decimals to integers, by truncation towards zero. -/

namespace TradeX.Lib.Decimal

/-- `int(value)`. -/
def toInt (value : ℚ) : ℤ := if 0 ≤ value then ⌊value⌋ else ⌈value⌉

/-- The value has no fraction. -/
def Whole (value : ℚ) : Prop := (toInt value : ℚ) = value

instance (value : ℚ) : Decidable (Whole value) := inferInstanceAs (Decidable (_ = _))

theorem toInt_le {value : ℚ} (positive : 0 < toInt value) : (toInt value : ℚ) ≤ value := by
  unfold toInt at positive ⊢
  split at positive
  · next nonneg =>
    rw [if_pos nonneg]
    exact Int.floor_le value
  · next negative =>
    have low : ⌈value⌉ ≤ 0 := Int.ceil_le.mpr (by exact_mod_cast (not_le.mp negative).le)
    exact absurd positive (not_lt.mpr low)

@[simp] theorem toInt_intCast (value : ℤ) : toInt (value : ℚ) = value := by
  unfold toInt
  rw [Int.floor_intCast, Int.ceil_intCast, ite_self]

theorem whole_intCast (value : ℤ) : Whole (value : ℚ) := by
  rw [Whole, toInt_intCast]

theorem toInt_of_nonneg {value : ℚ} (nonneg : 0 ≤ value) : toInt value = ⌊value⌋ := if_pos nonneg

/-- What is left of a budget buys as many units as its quotient by the price has whole ones. -/
theorem isGreatest_units {budget spent price : ℚ} (positive : 0 < price) :
    IsGreatest {n : ℤ | spent + n * price ≤ budget} ⌊(budget - spent) / price⌋ := by
  have within (n : ℤ) : spent + n * price ≤ budget ↔ n ≤ ⌊(budget - spent) / price⌋ := by
    rw [Int.le_floor, le_div_iff₀ positive, le_sub_iff_add_le']
  constructor
  · exact (within _).mpr le_rfl
  · intro n member
    exact (within n).mp member

end TradeX.Lib.Decimal
