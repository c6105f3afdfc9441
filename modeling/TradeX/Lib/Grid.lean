import Mathlib

/-! Two grids on a line: the cells of a step, and the cells of a multiple of it, which are shifted by an offset.
Where the step divides the offset, every cell of the first lies in one cell of the second. -/

namespace TradeX.Lib.Grid

/-- The start of the cell of a point. -/
def start {α : Type*} [Field α] [LinearOrder α] [FloorRing α] (step : ℤ) (point : α) : ℤ := ⌊point / step⌋ * step

/-- The number of the cell of a point in the grid that is shifted by an offset. -/
def cell {α : Type*} [Field α] [LinearOrder α] [FloorRing α] (wide offset : ℤ) (point : α) : ℤ :=
  ⌊(point + offset) / wide⌋

section

variable {α : Type*} [Field α] [LinearOrder α] [IsStrictOrderedRing α] [FloorRing α] {step wide offset : ℤ}

theorem start_eq (positive : 0 < step) (point : α) : start step point = ⌊point⌋ / step * step := by
  rw [start, Int.floor_div_cast_of_nonneg positive.le]

theorem cell_eq (positive : 0 < wide) (point : α) : cell wide offset point = (⌊point⌋ + offset) / wide := by
  rw [cell, Int.floor_div_cast_of_nonneg positive.le, Int.floor_add_intCast]

theorem start_le (positive : 0 < step) (point : α) : (start step point : α) ≤ point := by
  have scaled : (0 : α) < step := by exact_mod_cast positive
  rw [start, Int.cast_mul]
  exact (le_div_iff₀ scaled).mp (Int.floor_le _)

theorem lt_start_add (positive : 0 < step) (point : α) : point < (start step point : α) + step := by
  have scaled : (0 : α) < step := by exact_mod_cast positive
  rw [start, Int.cast_mul]
  have below := (div_lt_iff₀ scaled).mp (Int.lt_floor_add_one (point / (step : α)))
  linarith only [below]

theorem start_start (positive : 0 < step) (point : α) : start step ((start step point : ℤ) : α) = start step point := by
  rw [start_eq positive, start_eq positive, Int.floor_intCast, Int.mul_ediv_cancel _ positive.ne']

omit [IsStrictOrderedRing α] in
/-- A cell starts at a whole number of steps behind the start of any shifted cell exactly where the step divides
the offset. -/
theorem aligned_iff (divides : step ∣ wide) (point other : α) :
    step ∣ start step point - (cell wide offset other * wide - offset) ↔ step ∣ offset := by
  have own : step ∣ start step point := Dvd.intro_left _ rfl
  have whole : step ∣ cell wide offset other * wide := divides.mul_left _
  have shifted : start step point - (cell wide offset other * wide - offset) =
      start step point - cell wide offset other * wide + offset := by ring
  rw [shifted]
  exact dvd_add_right (own.sub whole)

/-- Where the step divides the offset, the points of a cell are in one shifted cell. -/
theorem cell_of_start (positive : 0 < step) (widePositive : 0 < wide) (divides : step ∣ wide) (shifts : step ∣ offset)
    {point other : α} (same : start step point = start step other) :
    cell wide offset point = cell wide offset other := by
  obtain ⟨factor, rfl⟩ := divides
  obtain ⟨shift, rfl⟩ := shifts
  rw [start_eq positive, start_eq positive] at same
  have cells : ⌊point⌋ / step = ⌊other⌋ / step := Int.eq_of_mul_eq_mul_right positive.ne' same
  have inner : ∀ n : ℤ, (n + step * shift) / (step * factor) = (n / step + shift) / factor := by
    intro n
    rw [← Int.ediv_ediv_of_nonneg positive.le, Int.add_mul_ediv_left _ _ positive.ne']
  rw [cell_eq widePositive, cell_eq widePositive, inner, inner, cells]

/-- Where it does not, the start of a shifted cell parts the cell that it lies in. -/
theorem cell_parted (positive : 0 < step) (widePositive : 0 < wide) (shifts : ¬step ∣ offset) :
    ∃ point other : α, start step point = start step other ∧ cell wide offset point ≠ cell wide offset other := by
  refine ⟨((start step ((-offset : ℤ) : α) : ℤ) : α), ((-offset : ℤ) : α), start_start positive _, ?_⟩
  have below : start step ((-offset : ℤ) : α) < -offset := by
    refine lt_of_le_of_ne ?_ fun same => shifts ?_
    · exact_mod_cast start_le positive ((-offset : ℤ) : α)
    · rw [← dvd_neg, ← same]
      exact Dvd.intro_left _ rfl
  rw [cell_eq widePositive, cell_eq widePositive, Int.floor_intCast, Int.floor_intCast, neg_add_cancel, Int.zero_ediv]
  exact (Int.ediv_neg_of_neg_of_pos (by omega) widePositive).ne

end

end TradeX.Lib.Grid
