import Mathlib

/-! Columns of a table: windows that end at a row, columns that are shifted by some rows, and comparisons of two
columns with entries that are missing. What all of them make of the first rows depends on the first rows only. -/

namespace TradeX.Lib.Series

variable {α : Type u} {β : Type v} {xs : List α} {column : List (Option α)} {size i m n : ℕ} {a : α}

/-- The rows of the window that ends at a row. -/
def window (size i : ℕ) (xs : List α) : List α := (xs.take (i + 1)).drop (i + 1 - size)

/-- What is made of the window of every row. -/
def rolling (size : ℕ) (f : List α → β) (xs : List α) : List β :=
  (List.range xs.length).map fun i => f (window size i xs)

/-- The column is moved down, and its first entries are missing. -/
def shift (n : ℕ) (column : List (Option α)) : List (Option α) := (List.replicate n none ++ column).take column.length

/-- A comparison row by row, which fails where an entry is missing. -/
def compare (rel : α → β → Bool) : List α → List (Option β) → List Bool :=
  List.zipWith fun a b => b.any (rel a)

theorem mem_window : a ∈ window size i xs ↔ ∃ k, i < k + size ∧ k ≤ i ∧ xs[k]? = some a := by
  rw [window, List.mem_iff_getElem?]
  constructor
  · rintro ⟨k, found⟩
    rw [List.getElem?_drop, List.getElem?_take] at found
    split at found
    · next inside => exact ⟨i + 1 - size + k, by omega, by omega, found⟩
    · cases found
  · rintro ⟨k, after, before, found⟩
    refine ⟨k - (i + 1 - size), ?_⟩
    have place : i + 1 - size + (k - (i + 1 - size)) = k := by omega
    rw [List.getElem?_drop, place, List.getElem?_take_of_lt (by omega), found]

theorem window_take (inside : i < m) : window size i (xs.take m) = window size i xs := by
  rw [window, List.take_take, min_eq_left inside, window]

theorem length_rolling {f : List α → β} : (rolling size f xs).length = xs.length := by
  rw [rolling, List.length_map, List.length_range]

theorem getElem?_rolling {f : List α → β} (inside : i < xs.length) :
    (rolling size f xs)[i]? = some (f (window size i xs)) := by
  rw [rolling, List.getElem?_map, List.getElem?_range inside, Option.map_some]

theorem take_rolling (f : List α → β) (m : ℕ) : (rolling size f xs).take m = rolling size f (xs.take m) := by
  rw [rolling, rolling, ← List.map_take, List.take_range, List.length_take]
  refine List.map_congr_left fun i member => ?_
  have inside := List.mem_range.mp member
  rw [window_take (by omega)]

theorem length_shift : (shift n column).length = column.length := by
  rw [shift, List.length_take, List.length_append, List.length_replicate]
  omega

theorem getElem?_shift (inside : i < column.length) :
    (shift n column)[i]? = if i < n then some none else column[i - n]? := by
  rw [shift, List.getElem?_take_of_lt inside]
  split
  · next early =>
    rw [List.getElem?_append_left (by rwa [List.length_replicate]), List.getElem?_replicate_of_lt early]
  · next late =>
    rw [List.getElem?_append_right (by rw [List.length_replicate]; omega), List.length_replicate]

theorem take_shift (n m : ℕ) : (shift n column).take m = shift n (column.take m) := by
  rw [shift, shift, List.take_take, List.length_take, List.take_append, List.take_append, List.take_take]
  congr 2
  omega

theorem length_compare {rel : α → β → Bool} {ys : List (Option β)} (same : ys.length = xs.length) :
    (compare rel xs ys).length = xs.length := by
  rw [compare, List.length_zipWith, same, min_self]

theorem getElem?_compare {rel : α → β → Bool} {ys : List (Option β)} {b : Option β} (first : xs[i]? = some a)
    (second : ys[i]? = some b) : (compare rel xs ys)[i]? = some (b.any (rel a)) := by
  rw [compare, List.getElem?_zipWith, first, second]

theorem take_compare (rel : α → β → Bool) (ys : List (Option β)) (m : ℕ) :
    (compare rel xs ys).take m = compare rel (xs.take m) (ys.take m) := List.take_zipWith ..

end TradeX.Lib.Series
