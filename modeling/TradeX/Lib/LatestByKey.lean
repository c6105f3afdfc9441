import TradeX.Lib.KeyedFold

/-! Consolidation of a log: of all elements with a key the last one is kept, in the order of the keys.
A log may be consolidated part by part. -/

namespace TradeX.Lib

variable {α : Type u} {β : Type v} [LinearOrder β] {key : α → β} {k : β} {a : α} {xs ys : List α}

/-- The last element with the key. -/
def latestAt (key : α → β) (k : β) (xs : List α) : Option α := (xs.filter fun a => key a = k).getLast?

theorem latestAt_append (key : α → β) (k : β) (xs ys : List α) :
    latestAt key k (xs ++ ys) = (latestAt key k ys).or (latestAt key k xs) := by
  simp only [latestAt, List.filter_append, List.getLast?_append]

theorem latestAt_cons : latestAt key k (a :: xs) = (latestAt key k xs).or (if key a = k then some a else none) := by
  rw [← List.singleton_append, latestAt_append]
  congr 1
  by_cases same : key a = k
  · simp [latestAt, same]
  · simp [latestAt, same]

theorem latestAt_mem (last : latestAt key k xs = some a) : a ∈ xs ∧ key a = k := by
  have listed := List.mem_of_getLast? last
  simpa using listed

theorem latestAt_eq_none : latestAt key k xs = none ↔ ∀ a ∈ xs, key a ≠ k := by
  simp [latestAt]

theorem latestAt_isSome : (∃ a, latestAt key k xs = some a) ↔ ∃ a ∈ xs, key a = k := by
  constructor
  · rintro ⟨a, last⟩
    exact ⟨a, latestAt_mem last⟩
  · rintro ⟨a, member, same⟩
    cases last : latestAt key k xs with
    | none => exact absurd same (latestAt_eq_none.mp last a member)
    | some b => exact ⟨b, rfl⟩

/-- Among distinct keys every element is the last one with its key. -/
theorem latestAt_of_distinct (distinct : (xs.map key).Nodup) :
    latestAt key k xs = some a ↔ a ∈ xs ∧ key a = k := by
  constructor
  · exact latestAt_mem
  · rintro ⟨member, same⟩
    obtain ⟨b, last⟩ := latestAt_isSome.mpr ⟨a, member, same⟩
    obtain ⟨other, same'⟩ := latestAt_mem last
    rw [last, List.inj_on_of_nodup_map distinct member other (same.trans same'.symm)]

/-- The elements behind which none has the same key. -/
def keepLast (key : α → β) (xs : List α) : List α := xs.pwFilter fun a b => key a ≠ key b

theorem keepLast_nodup (key : α → β) (xs : List α) : ((keepLast key xs).map key).Nodup :=
  List.pairwise_map.mpr (List.pairwise_pwFilter xs)

theorem mem_keepLast : a ∈ keepLast key xs ↔ latestAt key (key a) xs = some a := by
  have apart (b : α) (ys : List α) : (∀ c ∈ keepLast key ys, key b ≠ key c) ↔ ∀ c ∈ ys, key b ≠ key c := by
    apply List.forall_mem_pwFilter
    intro x y z differ
    by_contra same
    rw [not_or, not_not, not_not] at same
    exact differ (same.1.trans same.2)
  induction xs with
  | nil => simp [keepLast, latestAt]
  | cons b xs ih =>
    rw [latestAt_cons, Option.or_eq_some_iff, propext ih.symm, latestAt_eq_none]
    by_cases last : ∀ c ∈ xs, key b ≠ key c
    · have kept : keepLast key (b :: xs) = b :: keepLast key xs := List.pwFilter_cons_of_pos ((apart b xs).mpr last)
      rw [kept, List.mem_cons, or_comm]
      apply or_congr_right
      constructor
      · rintro rfl
        exact ⟨fun c member same => last c member same.symm, if_pos rfl⟩
      · rintro ⟨-, first⟩
        split at first
        · exact (Option.some.inj first).symm
        · cases first
    · have dropped : keepLast key (b :: xs) = keepLast key xs :=
        List.pwFilter_cons_of_neg fun all => last ((apart b xs).mp all)
      rw [dropped, iff_self_or]
      rintro ⟨none, first⟩
      split at first
      · next same =>
        exact absurd (fun c member equal => none c member (equal.symm.trans same)) last
      · cases first

/-- The last element of every key, by increasing key. -/
def consolidated (key : α → β) (xs : List α) : List α := sortedBy key (keepLast key xs)

theorem consolidated_increasing (key : α → β) (xs : List α) :
    (consolidated key xs).Pairwise fun a b => key a < key b :=
  sortedBy_strict (keepLast_nodup key xs)

theorem mem_consolidated : a ∈ consolidated key xs ↔ latestAt key (key a) xs = some a := by
  rw [consolidated, (sortedBy_perm key _).mem_iff, mem_keepLast]

theorem latestAt_consolidated (k : β) : latestAt key k (consolidated key xs) = latestAt key k xs := by
  have distinct : ((consolidated key xs).map key).Nodup :=
    List.pairwise_map.mpr ((consolidated_increasing key xs).imp ne_of_lt)
  ext a
  rw [latestAt_of_distinct distinct, mem_consolidated]
  constructor
  · rintro ⟨last, rfl⟩
    exact last
  · intro last
    have same := (latestAt_mem last).2
    exact ⟨same ▸ last, same⟩

/-- The keys of a log survive. -/
theorem consolidated_keys : (∃ a ∈ consolidated key xs, key a = k) ↔ ∃ a ∈ xs, key a = k := by
  rw [← latestAt_isSome, latestAt_consolidated, latestAt_isSome]

/-- Two logs with the same last elements are consolidated alike. -/
theorem consolidated_congr (same : ∀ k, latestAt key k xs = latestAt key k ys) :
    consolidated key xs = consolidated key ys := by
  apply eq_of_perm_of_ranked key
  · apply (List.perm_ext_iff_of_nodup _ _).mpr
    · intro a
      rw [mem_consolidated, mem_consolidated, same]
    · exact (consolidated_increasing key xs).imp fun below => ne_of_apply_ne key below.ne
    · exact (consolidated_increasing key ys).imp fun below => ne_of_apply_ne key below.ne
  · exact List.pairwise_map.mpr ((consolidated_increasing key xs).imp ne_of_lt)
  · exact (consolidated_increasing key xs).imp le_of_lt
  · exact (consolidated_increasing key ys).imp le_of_lt

/-- A consolidated front of a log stands for it. -/
theorem consolidated_append (key : α → β) (xs ys : List α) :
    consolidated key (consolidated key xs ++ ys) = consolidated key (xs ++ ys) := by
  apply consolidated_congr
  intro k
  rw [latestAt_append, latestAt_append, latestAt_consolidated]

/-- The front of a log may be left out exactly when each of its keys comes again. -/
theorem consolidated_absorbs :
    consolidated key ys = consolidated key (xs ++ ys) ↔ ∀ a ∈ xs, ∃ b ∈ ys, key b = key a := by
  constructor
  · intro same a member
    apply consolidated_keys.mp
    rw [same, consolidated_keys]
    exact ⟨a, List.mem_append_left ys member, rfl⟩
  · intro again
    apply consolidated_congr
    intro k
    rw [latestAt_append]
    cases last : latestAt key k ys with
    | some b => rfl
    | none =>
      rw [Option.none_or]
      symm
      apply latestAt_eq_none.mpr
      intro a member same
      obtain ⟨b, listed, equal⟩ := again a member
      exact latestAt_eq_none.mp last b listed (equal.trans same)

/-- The least and the greatest key of an increasing list stand at its ends. -/
theorem min?_of_increasing (increasing : xs.Pairwise fun a b => key a < key b) :
    (xs.map key).min? = xs.head?.map key := by
  cases xs with
  | nil => rfl
  | cons a xs =>
    apply List.min?_eq_some_iff.mpr
    constructor
    · exact List.mem_cons_self
    · intro k member
      obtain ⟨b, listed, rfl⟩ := List.mem_map.mp member
      rcases List.mem_cons.mp listed with rfl | behind
      · exact le_refl _
      · exact ((List.pairwise_cons.mp increasing).1 b behind).le

theorem max?_of_increasing (increasing : xs.Pairwise fun a b => key a < key b) :
    (xs.map key).max? = xs.getLast?.map key := by
  cases xs using List.reverseRecOn with
  | nil => rfl
  | append_singleton xs a =>
    rw [List.getLast?_concat]
    apply List.max?_eq_some_iff.mpr
    constructor
    · simp
    · intro k member
      obtain ⟨b, listed, rfl⟩ := List.mem_map.mp member
      rcases List.mem_append.mp listed with front | last
      · exact ((List.pairwise_append.mp increasing).2.2 b front a List.mem_cons_self).le
      · rw [List.mem_singleton.mp last]

end TradeX.Lib
