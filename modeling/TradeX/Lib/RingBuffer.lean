import Mathlib

/-! Ring buffers: a row of slots and the place of the next write, with what is read of them from the
oldest item to the newest. Whatever stood in the slots before, these are the last items pushed, as many as
there are slots. -/

namespace TradeX.Lib

/-- A ring of `size` slots. Until it is full, its next write is to the first slot that is not filled. -/
structure Ring (α : Type u) (size : Nat) where
  slots : Fin size → α
  filled : Nat
  head : Nat
  filled_le : filled ≤ size
  head_lt : head < size
  head_filling : filled < size → head = filled

namespace Ring

variable {α : Type u} {size : Nat}

/-- No slot is filled; what stands in them is left there. -/
def empty (memory : Fin size → α) (some_ : 0 < size) : Ring α size where
  slots := memory
  filled := 0
  head := 0
  filled_le := size.zero_le
  head_lt := some_
  head_filling := fun _ => rfl

def push (ring : Ring α size) (item : α) : Ring α size where
  slots := Function.update ring.slots ⟨ring.head, ring.head_lt⟩ item
  filled := if ring.filled < size then ring.filled + 1 else ring.filled
  head := (ring.head + 1) % size
  filled_le := by
    have := ring.filled_le
    split <;> omega
  head_lt := Nat.mod_lt _ (Nat.zero_lt_of_lt ring.head_lt)
  head_filling := by
    split
    · next room =>
      intro still
      rw [ring.head_filling room, Nat.mod_eq_of_lt still]
    · next full => exact fun room => absurd room full

variable (ring : Ring α size)

/-- The slot of an index of any size, around the ring. -/
def slot (i : ℤ) : α :=
  ring.slots ⟨(i % size).toNat, by
    have some_ : (0 : ℤ) < size := by exact_mod_cast Nat.zero_lt_of_lt ring.head_lt
    have low := Int.emod_nonneg i some_.ne'
    have high := Int.emod_lt_of_pos i some_
    omega⟩

/-- The items from the oldest to the newest: the filled slots, or once all are filled a round of the ring
that ends before its head. -/
def toList : List α :=
  if ring.filled < size then (List.ofFn ring.slots).take ring.filled
  else (List.range size).map fun k : Nat => ring.slot (ring.head - size + k)

/-- The ring after these items: each of the last ones is in the slot of its number. -/
structure Holds (ring : Ring α size) (items : List α) : Prop where
  filled : ring.filled = min items.length size
  head : ring.head = items.length % size
  slot : ∀ i, (inside : i < items.length) → items.length ≤ i + size → ring.slot i = items[i]

variable {ring} {items : List α}

theorem slot_natCast (i : Nat) :
    ring.slot i = ring.slots ⟨i % size, Nat.mod_lt i (Nat.zero_lt_of_lt ring.head_lt)⟩ := by
  simp only [slot, ← Int.natCast_mod, Int.toNat_natCast]

theorem slot_emod {i j : ℤ} (round : i % size = j % size) : ring.slot i = ring.slot j := by
  simp only [slot, round]

theorem slot_push (item : α) (i : Nat) :
    (ring.push item).slot i = if i % size = ring.head then item else ring.slot i := by
  simp only [slot_natCast, push, Function.update_apply, Fin.mk.injEq]

theorem holds_empty (memory : Fin size → α) (some_ : 0 < size) : Holds (empty memory some_) [] where
  filled := (Nat.zero_min size).symm
  head := (Nat.zero_mod size).symm
  slot := fun _ inside => absurd inside (Nat.not_lt_zero _)

/-- Two numbers less than a round apart have different slots. -/
theorem mod_ne {i n : Nat} (before : i < n) (near : n < i + size) : i % size ≠ n % size := by
  intro same
  have divides : size ∣ n - i := (Nat.modEq_iff_dvd' before.le).mp same
  have : size ≤ n - i := Nat.le_of_dvd (by omega) divides
  omega

theorem Holds.push (holds : Holds ring items) (item : α) : Holds (ring.push item) (items ++ [item]) where
  filled := by
    have := holds.filled
    simp only [Ring.push, List.length_append, List.length_singleton]
    split <;> omega
  head := by
    simp only [Ring.push, holds.head, List.length_append, List.length_singleton, Nat.mod_add_mod]
  slot := by
    intro i inside near
    rw [slot_push, holds.head]
    rw [List.length_append, List.length_singleton] at inside near
    rcases Nat.lt_or_ge i items.length with old | new
    · rw [if_neg (mod_ne old (by omega)), List.getElem_append_left old]
      exact holds.slot i old (by omega)
    · have last : i = items.length := by omega
      subst last
      rw [if_pos rfl, List.getElem_concat_length rfl]

theorem Holds.pushAll (holds : Holds ring items) (more : List α) :
    Holds (more.foldl Ring.push ring) (items ++ more) := by
  induction more generalizing ring items with
  | nil => rwa [List.append_nil]
  | cons item more ih =>
    have pushed := ih (holds.push item)
    rwa [List.append_assoc] at pushed

/-- What is read of the ring: the last items, in the order in which they were pushed. -/
theorem Holds.toList (holds : Holds ring items) : ring.toList = items.drop (items.length - size) := by
  have filled := holds.filled
  rw [Ring.toList]
  split
  · next room =>
    have short : items.length < size := by omega
    rw [Nat.sub_eq_zero_of_le short.le, List.drop_zero]
    apply List.ext_getElem
    · rw [List.length_take, List.length_ofFn]
      omega
    · intro i _ inside
      have read := holds.slot i inside (by omega)
      rw [slot_natCast] at read
      simp only [Nat.mod_eq_of_lt (inside.trans short)] at read
      rw [List.getElem_take, List.getElem_ofFn, read]
  · next full =>
    have long : size ≤ items.length := by omega
    apply List.ext_getElem
    · rw [List.length_map, List.length_range, List.length_drop]
      omega
    · intro k inside _
      rw [List.length_map, List.length_range] at inside
      rw [List.getElem_map, List.getElem_range, List.getElem_drop,
        ← holds.slot (items.length - size + k) (by omega) (by omega)]
      apply slot_emod
      -- The head and the number of items are a whole number of rounds apart.
      have rounds : (ring.head : ℤ) = items.length - size * (items.length / size : Nat) := by
        have := Nat.div_add_mod items.length size
        rw [holds.head]
        omega
      rw [rounds]
      push_cast [long]
      exact Int.ModEq.symm (Int.modEq_iff_dvd.mpr ⟨-(items.length / size : Nat), by push_cast; ring⟩)

/-- After any pushes, over whatever stood in the slots. -/
theorem toList_pushAll (memory : Fin size → α) (some_ : 0 < size) (items : List α) :
    (items.foldl Ring.push (empty memory some_)).toList = items.drop (items.length - size) :=
  ((holds_empty memory some_).pushAll items).toList

example : ([1, 2, 3, 4, 5].foldl push (empty (fun _ : Fin 3 => 0) (by decide))).toList = [3, 4, 5] := by decide

end Ring

end TradeX.Lib
