import Mathlib

/-! Two ways to slice a total into whole parts: a number of parts that differ by one at most, and parts of a given size
with a last one for what remains. -/

namespace TradeX.Lib.Slicing

/-- A number of parts, of which the first have one more where the total is not a multiple. -/
def even (total count : ℤ) : List ℤ :=
  (List.range count.toNat).map fun i : ℕ => total / count + if (i : ℤ) < total % count then 1 else 0

/-- How many parts of a size the total has, the last one included. -/
def parts (total size : ℤ) : ℤ := (total + size - 1) / size

/-- Parts of a size, and the rest. -/
def capped (total size : ℤ) : List ℤ :=
  List.replicate (parts total size - 1).toNat size ++ [total - size * (parts total size - 1)]

variable {total count size q r : ℤ}

variable (total) in
theorem parts_bounds (positive : 0 < size) :
    size * (parts total size - 1) < total ∧ total ≤ size * parts total size := by
  have division := Int.mul_ediv_add_emod (total + size - 1) size
  have low := Int.emod_nonneg (total + size - 1) positive.ne'
  have high := Int.emod_lt_of_pos (total + size - 1) positive
  rw [mul_sub, mul_one, parts]
  omega

theorem parts_positive (some_ : 0 < total) (positive : 0 < size) : 0 < parts total size := by
  by_contra none_
  have product : size * parts total size ≤ 0 := mul_nonpos_of_nonneg_of_nonpos positive.le (not_lt.mp none_)
  have bound := (parts_bounds total positive).2
  omega

/-- The number of parts is the one at which the total is used up. -/
theorem parts_eq_iff (positive : 0 < size) :
    parts total size = count ↔ size * (count - 1) < total ∧ total ≤ size * count := by
  constructor
  · rintro rfl
    exact parts_bounds total positive
  · rintro ⟨low, high⟩
    obtain ⟨below, above⟩ := parts_bounds total positive
    have first := lt_of_mul_lt_mul_left (below.trans_le high) positive.le
    have second := lt_of_mul_lt_mul_left (low.trans_le above) positive.le
    omega

theorem mem_even (member : q ∈ even total count) : total / count ≤ q ∧ q ≤ total / count + 1 := by
  obtain ⟨i, -, rfl⟩ := List.mem_map.mp member
  split
  · omega
  · omega

variable (total) in
theorem length_even (nonneg : 0 ≤ count) : ((even total count).length : ℤ) = count := by
  rw [even, List.length_map, List.length_range, Int.toNat_of_nonneg nonneg]

theorem length_capped (some_ : 0 < total) (positive : 0 < size) :
    ((capped total size).length : ℤ) = parts total size := by
  have one := parts_positive some_ positive
  rw [capped, List.length_append, List.length_replicate, List.length_singleton]
  omega

/-- The parts that have one more come first. -/
theorem even_eq (positive : 0 < count) : even total count =
    List.replicate (total % count).toNat (total / count + 1) ++
      List.replicate (count - total % count).toNat (total / count) := by
  have low := Int.emod_nonneg total positive.ne'
  have high := Int.emod_lt_of_pos total positive
  have indices : count.toNat = (total % count).toNat + (count - total % count).toNat := by omega
  rw [even, indices, List.range_add, List.map_append, List.map_map]
  congr 1
  · rw [List.eq_replicate_iff, List.length_map, List.length_range]
    refine ⟨rfl, fun q member => ?_⟩
    obtain ⟨i, index, rfl⟩ := List.mem_map.mp member
    have before := List.mem_range.mp index
    rw [if_pos (by omega)]
  · rw [List.eq_replicate_iff, List.length_map, List.length_range]
    refine ⟨rfl, fun q member => ?_⟩
    obtain ⟨i, -, rfl⟩ := List.mem_map.mp member
    rw [Function.comp_apply, if_neg (by omega), add_zero]

theorem sum_even (positive : 0 < count) : (even total count).sum = total := by
  have low := Int.emod_nonneg total positive.ne'
  have high := Int.emod_lt_of_pos total positive
  have division := Int.mul_ediv_add_emod total count
  rw [even_eq positive, List.sum_append, List.sum_replicate, List.sum_replicate, nsmul_eq_mul, nsmul_eq_mul,
    Int.toNat_of_nonneg low, Int.toNat_of_nonneg (by omega)]
  linear_combination division

/-- Of more parts than there are units, the empty ones are those beyond the units. -/
theorem filter_even (some_ : 0 < total) (positive : 0 < count) :
    (even total count).filter (fun q => 0 < q) = even total (min count total) := by
  rcases le_or_gt count total with few | many
  · rw [min_eq_left few]
    apply List.filter_eq_self.mpr
    intro q member
    have one : 1 ≤ total / count := (Int.le_ediv_iff_mul_le positive).mpr (by omega)
    have bound := (mem_even member).1
    exact decide_eq_true (by omega)
  · have division : total / count = 0 := Int.ediv_eq_zero_of_lt some_.le many
    have rest : total % count = total := Int.emod_eq_of_lt some_.le many
    rw [min_eq_right many.le, even_eq positive, even_eq some_, division, rest, Int.ediv_self some_.ne', Int.emod_self,
      List.filter_append, List.filter_replicate, List.filter_replicate]
    simp

theorem sum_capped (some_ : 0 < total) (positive : 0 < size) : (capped total size).sum = total := by
  have one := parts_positive some_ positive
  rw [capped, List.sum_append, List.sum_replicate, List.sum_singleton, nsmul_eq_mul,
    Int.toNat_of_nonneg (by omega), mul_comm]
  omega

theorem mem_capped (positive : 0 < size) (member : q ∈ capped total size) : 0 < q ∧ q ≤ size := by
  obtain ⟨below, above⟩ := parts_bounds total positive
  rcases List.mem_append.mp member with full | last
  · rw [List.eq_of_mem_replicate full]
    exact ⟨positive, le_rfl⟩
  · rw [List.mem_singleton.mp last, mul_sub, mul_one] at *
    omega

theorem filter_capped (positive : 0 < size) : (capped total size).filter (fun q => 0 < q) = capped total size :=
  List.filter_eq_self.mpr fun _ member => decide_eq_true (mem_capped positive member).1

theorem even_single (total : ℤ) : even total 1 = [total] := by
  rw [even_eq one_pos, Int.emod_one, Int.ediv_one]
  rfl

theorem even_eq_single (positive : 0 < count) : even total count = [total] ↔ count = 1 := by
  constructor
  · intro same
    rw [← length_even total positive.le, same, List.length_singleton, Nat.cast_one]
  · rintro rfl
    exact even_single total

theorem capped_eq_single (some_ : 0 < total) (positive : 0 < size) : capped total size = [total] ↔ total ≤ size := by
  have one : parts total size = 1 ↔ total ≤ size := by
    rw [parts_eq_iff positive, sub_self, mul_zero, mul_one]
    exact and_iff_right some_
  rw [← one]
  constructor
  · intro same
    rw [← length_capped some_ positive, same, List.length_singleton, Nat.cast_one]
  · intro alone
    rw [capped, alone, sub_self, mul_zero, sub_zero]
    rfl

/-- Both ways agree where all parts but the last have the size, and the last one unit less or none. -/
theorem even_eq_capped (positive : 0 < size) (some_ : 0 < count) (enough : count ≤ total) :
    even total count = capped total size ↔ (count = 1 ∨ size * count ≤ total + 1) ∧ total ≤ size * count := by
  have units : 0 < total := some_.trans_le enough
  constructor
  · intro same
    have number : parts total size = count := by
      rw [← length_capped units positive, ← same, length_even total some_.le]
    obtain ⟨-, above⟩ := (parts_eq_iff positive).mp number
    refine ⟨?_, above⟩
    rcases eq_or_ne count 1 with one | several
    · exact .inl one
    · right
      have full : size ∈ capped total size := by
        apply List.mem_append_left
        rw [List.mem_replicate, number]
        exact ⟨by omega, rfl⟩
      have last : total - size * (count - 1) ∈ capped total size := by
        apply List.mem_append_right
        rw [number]
        exact List.mem_singleton_self _
      rw [← same] at full last
      have high := (mem_even full).2
      have low := (mem_even last).1
      rw [mul_sub, mul_one] at low
      omega
  · rintro ⟨least, most⟩
    rcases eq_or_ne count 1 with rfl | several
    · rw [even_single, eq_comm, capped_eq_single units positive]
      rwa [mul_one] at most
    · have bound := least.resolve_left several
      have number : parts total size = count := by
        apply (parts_eq_iff positive).mpr
        refine ⟨?_, most⟩
        rw [mul_sub, mul_one]
        rcases eq_or_ne size 1 with rfl | larger
        · omega
        · omega
      rw [even_eq some_, capped, number]
      rcases eq_or_ne total (size * count) with rfl | less
      · rw [Int.mul_ediv_cancel _ some_.ne', Int.mul_emod_left, sub_zero, mul_sub, mul_one, sub_sub_cancel]
        have successor : count.toNat = (count - 1).toNat + 1 := by omega
        rw [Int.toNat_zero, List.replicate_zero, List.nil_append, successor, List.replicate_succ']
      · have short : total = (size - 1) * count + (count - 1) := by
          rw [sub_mul, one_mul]
          omega
        obtain ⟨quotient, rest⟩ : total / count = size - 1 ∧ total % count = count - 1 := by
          apply (Int.ediv_emod_unique some_).mpr
          refine ⟨?_, by omega, by omega⟩
          rw [short]
          ring
        have last : total - size * (count - 1) = size - 1 := by
          rw [short]
          ring
        rw [quotient, rest, last, sub_add_cancel, sub_sub_cancel]
        rfl

end TradeX.Lib.Slicing
