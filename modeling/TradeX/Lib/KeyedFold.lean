import TradeX.Lib.Dict

/-! Folds that keep one value for each key, and lists in the order of an injective rank. What a
fold holds under a key depends on the elements with that key alone. -/

namespace TradeX.Lib

namespace Dict

variable {κ : Type u} {ν : Type v} {α : Type w} [DecidableEq κ]

/-- The value of the element's key is replaced by its next value; a new key starts from `init`. -/
def advance (key : α → κ) (init : α → ν) (next : ν → α → ν) (d : Dict κ ν) (a : α) : Dict κ ν :=
  d.set (key a) (next ((d.get (key a)).getD (init a)) a)

variable {key : α → κ} {init : α → ν} {next : ν → α → ν} {d : Dict κ ν} {k : κ}

theorem get_advance (a : α) : (d.advance key init next a).get k =
    if k = key a then some (next ((d.get k).getD (init a)) a) else d.get k := by
  unfold advance
  rw [get_set]
  split
  · next same => rw [same]
  · rfl

/-- Behind a first value, the fold of a key is the fold of its elements. -/
theorem get_foldl_advance_some {v : ν} (xs : List α) (held : d.get k = some v) :
    (xs.foldl (advance key init next) d).get k = some ((xs.filter fun a => key a = k).foldl next v) := by
  induction xs generalizing d v with
  | nil => exact held
  | cons a xs ih =>
    rw [List.foldl_cons]
    by_cases same : key a = k
    · have moved : (d.advance key init next a).get k = some (next v a) := by
        rw [get_advance, if_pos same.symm, held, Option.getD_some]
      rw [ih moved, List.filter_cons_of_pos (by simpa using same), List.foldl_cons]
    · have kept : (d.advance key init next a).get k = some v := by
        rw [get_advance, if_neg fun equal => same equal.symm, held]
      rw [ih kept, List.filter_cons_of_neg (by simpa using same)]

/-- A key without a value stays so, or starts from the first of its elements. -/
theorem get_foldl_advance_none (xs : List α) (absent : d.get k = none) :
    (xs.foldl (advance key init next) d).get k =
      (xs.filter fun a => key a = k).head?.map fun first => (xs.filter fun a => key a = k).foldl next (init first) := by
  induction xs generalizing d with
  | nil => exact absent
  | cons a xs ih =>
    rw [List.foldl_cons]
    by_cases same : key a = k
    · have started : (d.advance key init next a).get k = some (next (init a) a) := by
        rw [get_advance, if_pos same.symm, absent, Option.getD_none]
      rw [get_foldl_advance_some xs started, List.filter_cons_of_pos (by simpa using same)]
      rfl
    · have kept : (d.advance key init next a).get k = none := by
        rw [get_advance, if_neg fun equal => same equal.symm, absent]
      rw [ih kept, List.filter_cons_of_neg (by simpa using same)]

/-- Every element filed under its key; a later one replaces an earlier one. -/
def latest (key : α → κ) (xs : List α) : Dict κ α := xs.foldl (fun filed a => filed.set (key a) a) ∅

theorem get_foldl_set (xs : List α) (filed : Dict κ α) :
    (xs.foldl (fun filed a => filed.set (key a) a) filed).get k = ((latest key xs).get k).or (filed.get k) := by
  induction xs generalizing filed with
  | nil => rfl
  | cons a xs ih =>
    simp only [latest, List.foldl_cons]
    rw [ih, ih, get_set, get_set, get_empty, Option.or_assoc]
    congr 1
    split <;> rfl

theorem get_latest_cons (a : α) (xs : List α) : (latest key (a :: xs)).get k =
    ((latest key xs).get k).or (if k = key a then some a else none) := by
  refine (get_foldl_set xs _).trans ?_
  rw [get_set, get_empty]

theorem get_latest_mem {xs : List α} {a : α} (filed : (latest key xs).get k = some a) : a ∈ xs ∧ key a = k := by
  induction xs with
  | nil => cases filed
  | cons b xs ih =>
    rw [get_latest_cons, Option.or_eq_some_iff] at filed
    rcases filed with later | ⟨-, first⟩
    · obtain ⟨member, same⟩ := ih later
      exact ⟨List.mem_cons_of_mem _ member, same⟩
    · split at first
      · next same =>
        cases first
        exact ⟨List.mem_cons_self, same.symm⟩
      · cases first

theorem get_latest_none {xs : List α} : (latest key xs).get k = none ↔ ∀ a ∈ xs, key a ≠ k := by
  induction xs with
  | nil => exact ⟨fun _ _ member => (nomatch member), fun _ => rfl⟩
  | cons b xs ih =>
    rw [get_latest_cons, Option.or_eq_none_iff, ih, List.forall_mem_cons, and_comm]
    refine and_congr_left fun _ => ?_
    split
    · next same => exact ⟨fun absent => (nomatch absent), fun differs => absurd same.symm differs⟩
    · next differs => exact ⟨fun _ same => differs same.symm, fun _ => rfl⟩

/-- A value that no other element with its key differs from is the one filed. -/
theorem get_latest_of_unique {xs : List α} {a : α} (member : a ∈ xs)
    (unique : ∀ b ∈ xs, key b = key a → b = a) : (latest key xs).get (key a) = some a := by
  cases filed : (latest key xs).get (key a) with
  | none => exact absurd rfl (get_latest_none.mp filed a member)
  | some b =>
    obtain ⟨other, same⟩ := get_latest_mem filed
    rw [unique b other same]

/-- Among distinct keys every element is filed. -/
theorem get_latest_of_mem {xs : List α} {a : α} (distinct : (xs.map key).Nodup) (member : a ∈ xs) :
    (latest key xs).get (key a) = some a :=
  get_latest_of_unique member fun _ other same => List.inj_on_of_nodup_map distinct other member same

theorem mem_values {v : ν} : v ∈ d.values ↔ ∃ k, d.get k = some v := by
  constructor
  · intro member
    obtain ⟨⟨k, _⟩, entry, rfl⟩ := List.mem_map.mp member
    exact ⟨k, get_eq_some.mpr entry⟩
  · rintro ⟨k, held⟩
    exact List.mem_map.mpr ⟨(k, v), get_eq_some.mp held, rfl⟩

end Dict

section

variable {α : Type u} {β : Type v} {name : α → β} {xs : List α} {a : α}

/-- Among distinct names the first element with a name is the only one. -/
theorem find_named [DecidableEq β] (distinct : (xs.map name).Nodup) (member : a ∈ xs) :
    xs.find? (fun b => name b = name a) = some a := by
  obtain ⟨b, found⟩ : ∃ b, xs.find? (fun b => name b = name a) = some b := by
    apply Option.isSome_iff_exists.mp
    exact List.find?_isSome.mpr ⟨a, member, decide_eq_true rfl⟩
  have same : name b = name a := by simpa using List.find?_some found
  rw [found, List.inj_on_of_nodup_map distinct (List.mem_of_find?_eq_some found) member same]

end

section

variable {α : Type u} {β : Type v} [LinearOrder β] {rank : α → β} {xs ys : List α}

/-- `sorted(xs, key=rank)`. -/
def sortedBy (rank : α → β) (xs : List α) : List α := xs.insertionSort fun a b => rank a ≤ rank b

theorem sortedBy_perm (rank : α → β) (xs : List α) : (sortedBy rank xs).Perm xs := List.perm_insertionSort _ xs

theorem sortedBy_pairwise (rank : α → β) (xs : List α) : (sortedBy rank xs).Pairwise fun a b => rank a ≤ rank b := by
  have total : Std.Total fun a b : α => rank a ≤ rank b := ⟨fun a b => le_total (rank a) (rank b)⟩
  have trans : IsTrans α fun a b => rank a ≤ rank b := ⟨fun _ _ _ first second => first.trans second⟩
  exact List.pairwise_insertionSort _ xs

private theorem orderedInsert_filter {k : β} (a : α) (xs : List α) :
    (xs.orderedInsert (fun a b => rank a ≤ rank b) a).filter (fun b => rank b = k) =
      (a :: xs).filter fun b => rank b = k := by
  induction xs with
  | nil => rfl
  | cons b xs ih =>
    rw [List.orderedInsert_cons]
    split
    · rfl
    · next above =>
      rw [List.filter_cons, ih]
      by_cases own : rank a = k
      · have other : rank b ≠ k := fun same => above (own.trans same.symm).le
        simp [own, other]
      · simp [own, List.filter_cons]

/-- The sort keeps the order of the elements of one rank. -/
theorem sortedBy_stable (rank : α → β) (k : β) (xs : List α) :
    (sortedBy rank xs).filter (fun a => rank a = k) = xs.filter fun a => rank a = k := by
  induction xs with
  | nil => rfl
  | cons a xs ih =>
    have inserted : sortedBy rank (a :: xs) = (sortedBy rank xs).orderedInsert (fun a b => rank a ≤ rank b) a := rfl
    rw [inserted, orderedInsert_filter, List.filter_cons, List.filter_cons, ih]

/-- Two orderings of the same elements by distinct ranks are one list. -/
theorem eq_of_perm_of_ranked (rank : α → β) (perm : xs.Perm ys) (distinct : (xs.map rank).Nodup)
    (first : xs.Pairwise fun a b => rank a ≤ rank b) (second : ys.Pairwise fun a b => rank a ≤ rank b) : xs = ys := by
  apply perm.eq_of_pairwise _ first second
  intro a b listed member below above
  exact List.inj_on_of_nodup_map distinct listed (perm.mem_iff.mpr member) (le_antisymm below above)

theorem sortedBy_congr (perm : xs.Perm ys) (distinct : (xs.map rank).Nodup) : sortedBy rank xs = sortedBy rank ys := by
  apply eq_of_perm_of_ranked rank
  · exact (sortedBy_perm rank xs).trans (perm.trans (sortedBy_perm rank ys).symm)
  · exact ((sortedBy_perm rank xs).map rank).nodup_iff.mpr distinct
  · exact sortedBy_pairwise rank xs
  · exact sortedBy_pairwise rank ys

theorem sortedBy_strict (distinct : (xs.map rank).Nodup) :
    (sortedBy rank xs).Pairwise fun a b => rank a < rank b := by
  have sorted : ((sortedBy rank xs).map rank).Nodup := ((sortedBy_perm rank xs).map rank).nodup_iff.mpr distinct
  have apart : (sortedBy rank xs).Pairwise fun a b => rank a ≠ rank b := List.pairwise_map.mp sorted
  exact ((sortedBy_pairwise rank xs).and apart).imp fun both => lt_of_le_of_ne both.1 both.2

/-- In an order the elements up to a rank are those in front of the first above it. -/
theorem takeWhile_upto (sorted : xs.Pairwise fun a b => rank a ≤ rank b) (k : β) :
    xs.takeWhile (fun a => rank a ≤ k) = xs.filter fun a => rank a ≤ k := by
  induction xs with
  | nil => rfl
  | cons a xs ih =>
    obtain ⟨first, later⟩ := List.pairwise_cons.mp sorted
    by_cases low : rank a ≤ k
    · rw [List.takeWhile_cons_of_pos (by simpa using low), List.filter_cons_of_pos (by simpa using low), ih later]
    · rw [List.takeWhile_cons_of_neg (by simpa using low), List.filter_cons_of_neg (by simpa using low)]
      symm
      apply List.filter_eq_nil_iff.mpr
      intro b member
      simpa using (not_le.mp low).trans_le (first b member)

/-- In a strict order the elements up to one of them are those in front of it and itself. -/
theorem filter_upto {a : α} (strict : (xs ++ a :: ys).Pairwise fun a b => rank a < rank b) :
    (xs ++ a :: ys).filter (fun b => rank b ≤ rank a) = xs ++ [a] := by
  obtain ⟨-, behind, across⟩ := List.pairwise_append.mp strict
  have front : xs.filter (fun b => rank b ≤ rank a) = xs := by
    apply List.filter_eq_self.mpr
    intro b member
    exact decide_eq_true (across b member a List.mem_cons_self).le
  have back : ys.filter (fun b => rank b ≤ rank a) = [] := by
    apply List.filter_eq_nil_iff.mpr
    intro b member
    have above := (List.pairwise_cons.mp behind).1 b member
    simpa using above
  rw [List.filter_append, front, List.filter_cons_of_pos (by simp), back]

end

section

variable {σ : Type u} {τ : Type v} {α : Type w} {step : σ → α → σ} {viewed : τ → α → τ} {mine : α → Prop}
  [DecidablePred mine]

/-- A view of the state that no element moves but its own: the fold moves it by these. -/
theorem foldl_view (view : σ → τ) (holds : σ → Prop) (keeps : ∀ s a, holds s → holds (step s a))
    (moves : ∀ s a, holds s → mine a → view (step s a) = viewed (view s) a)
    (rests : ∀ s a, holds s → ¬mine a → view (step s a) = view s) (xs : List α) {s : σ} (start : holds s) :
    view (xs.foldl step s) = (xs.filter fun a => mine a).foldl viewed (view s) := by
  induction xs generalizing s with
  | nil => rfl
  | cons a xs ih =>
    rw [List.foldl_cons, ih (keeps s a start)]
    by_cases own : mine a
    · rw [moves s a start own, List.filter_cons_of_pos (by simpa using own), List.foldl_cons]
    · rw [rests s a start own, List.filter_cons_of_neg (by simpa using own)]

end

end TradeX.Lib
