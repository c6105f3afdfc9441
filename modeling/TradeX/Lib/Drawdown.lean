import Mathlib

/-! The losses along a path: how far it falls from one of its values to a later one, as a part of the first.
The greatest loss is kept up with by the peak so far and the greatest loss from a peak. -/

namespace TradeX.Lib.Drawdown

section Places

variable {K : Type u} [LinearOrder K]

/-- The first place of the highest value. -/
def FirstHighest (path : List K) (k : Nat) : Prop :=
  ∃ top, path[k]? = some top ∧ (∀ v ∈ path, v ≤ top) ∧ top ∉ path.take k

/-- The first place of the lowest value from `k` on. -/
def FirstLowest (path : List K) (k l : Nat) : Prop :=
  k ≤ l ∧ ∃ bottom, path[l]? = some bottom ∧ (∀ v ∈ path.drop k, bottom ≤ v) ∧ bottom ∉ (path.drop k).take (l - k)

variable {path : List K} {value : K}

/-- The place where a value stands for the first time. -/
theorem first_place {k : Nat} (found : path[k]? = some value) (fresh : value ∉ path.take k) : k = path.idxOf value := by
  have member : value ∈ path := List.mem_of_getElem? found
  have here : value ∈ path.take (k + 1) := by
    apply List.mem_of_getElem? (i := k)
    rw [List.getElem?_take_of_lt (Nat.lt_succ_self k), found]
  rw [List.mem_take_iff_idxOf_lt member] at here fresh
  omega

theorem FirstHighest.unique {k m : Nat} (first : FirstHighest path k) (second : FirstHighest path m) : k = m := by
  obtain ⟨top, found, above, fresh⟩ := first
  obtain ⟨other, again, below, late⟩ := second
  obtain rfl : top = other :=
    le_antisymm (below top (List.mem_of_getElem? found)) (above other (List.mem_of_getElem? again))
  rw [first_place found fresh, first_place again late]

theorem FirstLowest.unique {k l m : Nat} (first : FirstLowest path k l) (second : FirstLowest path k m) : l = m := by
  obtain ⟨order, bottom, found, below, fresh⟩ := first
  obtain ⟨later, other, again, above, late⟩ := second
  have here {l : Nat} {v : K} (order : k ≤ l) (found : path[l]? = some v) : (path.drop k)[l - k]? = some v := by
    rw [List.getElem?_drop, Nat.add_sub_cancel' order, found]
  obtain rfl : bottom = other :=
    le_antisymm (below other (List.mem_of_getElem? (here later again)))
      (above bottom (List.mem_of_getElem? (here order found)))
  have places := (first_place (here order found) fresh).trans (first_place (here later again) late).symm
  omega

end Places

variable {K : Type u} [Field K]

/-- What is lost from `high` to `low`, as a part of `high`. -/
def loss (high low : K) : K := (high - low) / high

/-- The path loses `part` from its place `i` to its place `j`. -/
def Loses (path : List K) (i j : Nat) (part : K) : Prop :=
  i ≤ j ∧ ∃ a b, path[i]? = some a ∧ path[j]? = some b ∧ loss a b = part

/-- All that the path loses from one place to another. -/
def losses (path : List K) : Set K := {part | ∃ i j, Loses path i j part}

variable {path : List K} {high higher low lower value peak worst part : K} {i j : Nat}

theorem loss_self : loss value value = 0 := by
  rw [loss, sub_self, zero_div]

theorem Loses.mem (loses : Loses path i j part) : ∃ a ∈ path, ∃ b ∈ path, loss a b = part := by
  obtain ⟨-, a, b, first, second, same⟩ := loses
  exact ⟨a, List.mem_of_getElem? first, b, List.mem_of_getElem? second, same⟩

theorem Loses.append (loses : Loses path i j part) (more : List K) : Loses (path ++ more) i j part := by
  obtain ⟨order, a, b, first, second, same⟩ := loses
  refine ⟨order, a, b, ?_, ?_, same⟩
  · rw [List.getElem?_append_left (List.getElem?_eq_some_iff.mp first).1, first]
  · rw [List.getElem?_append_left (List.getElem?_eq_some_iff.mp second).1, second]

variable [LinearOrder K]

/-- A place from which the path loses most, to another. -/
def Deepest (path : List K) (i j : Nat) : Prop := ∃ part, Loses path i j part ∧ IsGreatest (losses path) part

/-- The peak and the greatest loss of a path. -/
structure Reads (path : List K) (peak worst : K) : Prop where
  peak : IsGreatest {value | value ∈ path} peak
  worst : IsGreatest (losses path) worst

theorem loss_eq (positive : 0 < high) : loss high low = 1 - low / high := by
  rw [loss, sub_div, div_self positive.ne']

theorem reads_singleton : Reads [value] value 0 where
  peak := ⟨List.mem_singleton_self value, fun other member => (List.mem_singleton.mp member).le⟩
  worst := by
    constructor
    · exact ⟨0, 0, le_rfl, value, value, rfl, rfl, loss_self⟩
    · rintro part ⟨i, j, loses⟩
      obtain ⟨a, first, b, second, rfl⟩ := loses.mem
      rw [List.mem_singleton.mp first, List.mem_singleton.mp second, loss_self]

variable [IsStrictOrderedRing K]

/-- More is lost from a higher value to a lower one. -/
theorem loss_mono (positive : 0 < high) (nonneg : 0 ≤ lower) (up : high ≤ higher) (down : lower ≤ low) :
    loss high low ≤ loss higher lower := by
  rw [loss_eq positive, loss_eq (positive.trans_le up)]
  exact sub_le_sub_left (div_le_div₀ (nonneg.trans down) down positive up) 1

/-- One more value: the peak rises to it, or the path falls to it from the peak. -/
theorem Reads.concat (reads : Reads path peak worst) (positive : ∀ v ∈ path ++ [value], 0 < v) :
    Reads (path ++ [value]) (max peak value) (max worst (loss (max peak value) value)) := by
  have last : 0 < value := positive value (List.mem_append_right _ (List.mem_singleton_self value))
  have top : IsGreatest {v | v ∈ path ++ [value]} (max peak value) := by
    constructor
    · rcases max_choice peak value with same | same
      · rw [same]
        exact List.mem_append_left _ reads.peak.1
      · rw [same]
        exact List.mem_append_right _ (List.mem_singleton_self value)
    · intro v member
      rcases List.mem_append.mp member with old | new
      · exact (reads.peak.2 old).trans (le_max_left _ _)
      · exact (List.mem_singleton.mp new).le.trans (le_max_right _ _)
  refine ⟨top, ?_, ?_⟩
  · rcases max_choice worst (loss (max peak value) value) with same | same
    · rw [same]
      obtain ⟨i, j, loses⟩ := reads.worst.1
      exact ⟨i, j, loses.append [value]⟩
    · rw [same]
      obtain ⟨i, found⟩ := List.mem_iff_getElem?.mp top.1
      have inside := (List.getElem?_eq_some_iff.mp found).1
      rw [List.length_append, List.length_singleton] at inside
      exact ⟨i, path.length, by omega, _, _, found, List.getElem?_concat_length, rfl⟩
  · rintro part ⟨i, j, order, a, b, first, second, rfl⟩
    have low : 0 < b := positive b (List.mem_of_getElem? second)
    have start : 0 < a := positive a (List.mem_of_getElem? first)
    rcases Nat.lt_or_ge j path.length with old | new
    · rw [List.getElem?_append_left old] at second
      rw [List.getElem?_append_left (order.trans_lt old)] at first
      exact (reads.worst.2 ⟨i, j, order, a, b, first, second, rfl⟩).trans (le_max_left _ _)
    · have end_ : j = path.length := by
        have inside := (List.getElem?_eq_some_iff.mp second).1
        rw [List.length_append, List.length_singleton] at inside
        omega
      rw [end_, List.getElem?_concat_length] at second
      rw [← Option.some.inj second]
      exact (loss_mono start last.le (top.2 (List.mem_of_getElem? first)) le_rfl).trans (le_max_right _ _)

/-- If a path loses most from its highest value, it loses as much from the first place of that value to the
first place of the lowest one from there on. -/
theorem deepest_of_highest {k l : Nat} (positive : ∀ v ∈ path, 0 < v) (deepest : Deepest path i j)
    (highest : ∀ v ∈ path, ∀ top, path[i]? = some top → v ≤ top) (first : FirstHighest path k)
    (lowest : FirstLowest path k l) : Deepest path k l := by
  obtain ⟨part, ⟨falls, a, b, start, stop, rfl⟩, greatest⟩ := deepest
  obtain ⟨top, found, above, fresh⟩ := first
  obtain ⟨order, bottom, least, below, -⟩ := lowest
  obtain rfl : top = a :=
    le_antisymm (highest top (List.mem_of_getElem? found) a start) (above a (List.mem_of_getElem? start))
  have before : k ≤ i := by
    by_contra later
    apply fresh
    apply List.mem_of_getElem? (i := i)
    rw [List.getElem?_take_of_lt (by omega), start]
  have down : bottom ≤ b := by
    apply below b
    apply List.mem_of_getElem? (i := j - k)
    rw [List.getElem?_drop, Nat.add_sub_cancel' (before.trans falls), stop]
  have here : Loses path k l (loss top bottom) := ⟨order, top, bottom, found, least, rfl⟩
  have more : loss top b ≤ loss top bottom :=
    loss_mono (positive top (List.mem_of_getElem? found)) (positive bottom (List.mem_of_getElem? least)).le le_rfl down
  refine ⟨_, here, ⟨k, l, here⟩, ?_⟩
  intro other lost
  exact (greatest.2 lost).trans more

end TradeX.Lib.Drawdown
