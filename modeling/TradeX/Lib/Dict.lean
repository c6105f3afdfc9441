import Mathlib

/-! Insertion-ordered finite maps: the entries in insertion order, each key once.
An update keeps the place of a present key and appends a new one. -/

namespace TradeX.Lib

structure Dict (κ : Type u) (ν : Type v) where
  entries : List (κ × ν)
  nodup : (entries.map Prod.fst).Nodup
  deriving DecidableEq

namespace Dict

variable {κ : Type u} {ν : Type v}

def empty : Dict κ ν := ⟨[], List.nodup_nil⟩

instance : EmptyCollection (Dict κ ν) := ⟨empty⟩

def keys (d : Dict κ ν) : List κ := d.entries.map Prod.fst

def values (d : Dict κ ν) : List ν := d.entries.map Prod.snd

def size (d : Dict κ ν) : Nat := d.entries.length

variable [DecidableEq κ]

private def assign (k : κ) (v : ν) : List (κ × ν) → List (κ × ν)
  | [] => [(k, v)]
  | (j, w) :: rest => if j = k then (k, v) :: rest else (j, w) :: assign k v rest

private def remove (k : κ) (es : List (κ × ν)) : List (κ × ν) := es.filter fun e => e.1 ≠ k

private theorem assign_keys (k : κ) (v : ν) (es : List (κ × ν)) :
    (assign k v es).map Prod.fst =
      if k ∈ es.map Prod.fst then es.map Prod.fst else es.map Prod.fst ++ [k] := by
  induction es with
  | nil => rfl
  | cons e es ih =>
    obtain ⟨j, w⟩ := e
    by_cases same : j = k
    · simp only [assign, List.map_cons, same, List.mem_cons, true_or, if_true]
    · have other : k ≠ j := fun h => same h.symm
      simp only [assign, if_neg same, List.map_cons, ih, List.mem_cons, other, false_or]
      split <;> rfl

private theorem assign_nodup (k : κ) (v : ν) {es : List (κ × ν)} (nodup : (es.map Prod.fst).Nodup) :
    ((assign k v es).map Prod.fst).Nodup := by
  rw [assign_keys]
  split
  · exact nodup
  · next fresh => exact List.nodup_append.mpr ⟨nodup, List.nodup_singleton k, by grind⟩

private theorem remove_nodup (k : κ) {es : List (κ × ν)} (nodup : (es.map Prod.fst).Nodup) :
    ((remove k es).map Prod.fst).Nodup :=
  nodup.sublist (List.filter_sublist.map _)

private theorem lookup_assign (k j : κ) (v : ν) (es : List (κ × ν)) :
    (assign k v es).lookup j = if j = k then some v else es.lookup j := by
  induction es with
  | nil => grind [assign, List.lookup]
  | cons e es ih => grind [assign, List.lookup]

private theorem lookup_remove (k j : κ) (es : List (κ × ν)) :
    (remove k es).lookup j = if j = k then none else es.lookup j := by
  induction es with
  | nil => grind [remove, List.lookup]
  | cons e es ih => grind [remove, List.lookup]

private theorem lookup_some_iff {k : κ} {v : ν} {es : List (κ × ν)}
    (nodup : (es.map Prod.fst).Nodup) : es.lookup k = some v ↔ (k, v) ∈ es := by
  induction es with
  | nil => simp [List.lookup]
  | cons e es ih =>
    obtain ⟨j, w⟩ := e
    rw [List.map_cons, List.nodup_cons] at nodup
    by_cases same : k = j
    · subst same
      have absent : (k, v) ∉ es := fun member => nodup.1 (List.mem_map.mpr ⟨_, member, rfl⟩)
      simp only [List.lookup, beq_self_eq_true, Option.some.injEq, List.mem_cons, Prod.mk.injEq,
        true_and, absent, or_false, eq_comm]
    · have differs : (k == j) = false := by simpa using same
      simp only [List.lookup, differs, ih nodup.2, List.mem_cons, Prod.mk.injEq, same, false_and,
        false_or]

def get (d : Dict κ ν) (k : κ) : Option ν := d.entries.lookup k

def set (d : Dict κ ν) (k : κ) (v : ν) : Dict κ ν := ⟨assign k v d.entries, assign_nodup k v d.nodup⟩

def pop (d : Dict κ ν) (k : κ) : Dict κ ν := ⟨remove k d.entries, remove_nodup k d.nodup⟩

def contains (d : Dict κ ν) (k : κ) : Bool := (d.get k).isSome

variable (d : Dict κ ν) (k j : κ) (v : ν)

@[simp] theorem get_empty : (∅ : Dict κ ν).get k = none := rfl

theorem get_set : (d.set k v).get j = if j = k then some v else d.get j := lookup_assign k j v d.entries

@[simp] theorem get_set_self : (d.set k v).get k = some v := by rw [get_set, if_pos rfl]

@[simp] theorem get_set_other (other : j ≠ k) : (d.set k v).get j = d.get j := by
  rw [get_set, if_neg other]

theorem get_pop : (d.pop k).get j = if j = k then none else d.get j := lookup_remove k j d.entries

@[simp] theorem get_pop_other (other : j ≠ k) : (d.pop k).get j = d.get j := by
  rw [get_pop, if_neg other]

variable {d k v}

theorem get_eq_some : d.get k = some v ↔ (k, v) ∈ d.entries := lookup_some_iff d.nodup

/-- A dictionary that has one key at most. -/
theorem entries_single (only : ∀ j v, d.get j = some v → j = k) :
    d.entries = ((d.get k).map fun v => (k, v)).toList := by
  cases entries : d.entries with
  | nil =>
    have absent : d.get k = none := by rw [get, entries, List.lookup_nil]
    rw [absent]
    rfl
  | cons e rest =>
    have all : ∀ f ∈ e :: rest, f.1 = k := fun f member => only f.1 f.2 (get_eq_some.mpr (entries ▸ member))
    have nodup : ((e :: rest).map Prod.fst).Nodup := entries ▸ d.nodup
    have alone : rest = [] := by
      apply List.eq_nil_iff_forall_not_mem.mpr
      intro f member
      have apart := (List.nodup_cons.mp nodup).1
      rw [all e List.mem_cons_self, ← all f (List.mem_cons_of_mem e member)] at apart
      exact apart (List.mem_map_of_mem member)
    have found : d.get k = some e.2 := by
      apply get_eq_some.mpr
      rw [entries, ← all e List.mem_cons_self]
      exact List.mem_cons_self
    rw [found, alone, Option.map_some, Option.toList_some, ← all e List.mem_cons_self]

theorem mem_keys (found : d.get k = some v) : k ∈ d.keys :=
  List.mem_map.mpr ⟨(k, v), get_eq_some.mp found, rfl⟩

private theorem assign_fresh {es : List (κ × ν)} (fresh : k ∉ es.map Prod.fst) : assign k v es = es ++ [(k, v)] := by
  induction es with
  | nil => rfl
  | cons e es ih =>
    obtain ⟨differs, later⟩ := not_or.mp (List.mem_cons.not.mp fresh)
    rw [assign, if_neg fun same => differs same.symm, ih later, List.cons_append]

private theorem assign_entries (v : ν) {es : List (κ × ν)} (nodup : (es.map Prod.fst).Nodup) : assign k v es =
    if k ∈ es.map Prod.fst then es.map (fun e => if e.1 = k then (k, v) else e) else es ++ [(k, v)] := by
  induction es with
  | nil => rfl
  | cons e es ih =>
    obtain ⟨absent, distinct⟩ := List.nodup_cons.mp nodup
    obtain ⟨j, w⟩ := e
    by_cases same : j = k
    · subst same
      have others : es.map (fun e => if e.1 = j then (j, v) else e) = es := by
        conv_rhs => rw [← List.map_id es]
        apply List.map_congr_left
        intro e member
        exact if_neg fun equal => absent (List.mem_map.mpr ⟨e, member, equal⟩)
      rw [assign, if_pos rfl, List.map_cons, List.map_cons, if_pos List.mem_cons_self, if_pos rfl, others]
    · have other : k ≠ j := fun h => same h.symm
      simp only [assign, if_neg same, List.map_cons, ih distinct, List.mem_cons, other, false_or]
      split <;> rfl

/-- An update writes over the entry of its key, or appends one. -/
theorem entries_set : (d.set k v).entries =
    if k ∈ d.keys then d.entries.map (fun e => if e.1 = k then (k, v) else e) else d.entries ++ [(k, v)] :=
  assign_entries v d.nodup

theorem not_mem_keys (absent : d.get k = none) : k ∉ d.keys := by
  intro listed
  obtain ⟨⟨_, v⟩, member, rfl⟩ := List.mem_map.mp listed
  rw [get_eq_some.mpr member] at absent
  cases absent

/-- A new key takes one more place. -/
theorem size_set (absent : d.get k = none) : (d.set k v).size = d.size + 1 := by
  rw [size, entries_set, if_neg (not_mem_keys absent), List.length_append, List.length_singleton, size]

/-- New keys are appended in their order. -/
theorem entries_foldl_set {es : List (κ × ν)} (nodup : ((d.entries ++ es).map Prod.fst).Nodup) :
    (es.foldl (fun filed e => filed.set e.1 e.2) d).entries = d.entries ++ es := by
  induction es generalizing d with
  | nil => rw [List.foldl_nil, List.append_nil]
  | cons e es ih =>
    have fresh : e.1 ∉ d.entries.map Prod.fst := by
      rw [List.map_append, List.map_cons] at nodup
      exact fun member => (List.nodup_append.mp nodup).2.2 _ member _ List.mem_cons_self rfl
    have appended : (d.set e.1 e.2).entries = d.entries ++ [e] := assign_fresh fresh
    have step : (d.set e.1 e.2).entries ++ es = d.entries ++ e :: es := by
      rw [appended, List.append_assoc, List.singleton_append]
    rw [List.foldl_cons, ih (step.symm ▸ nodup), step]

private theorem assign_perm (es : List (κ × ν)) (nodup : (es.map Prod.fst).Nodup) :
    (assign k v es).Perm ((k, v) :: remove k es) := by
  induction es with
  | nil => exact .refl _
  | cons e es ih =>
    obtain ⟨absent, distinct⟩ := List.nodup_cons.mp nodup
    by_cases same : e.1 = k
    · have kept : remove k (e :: es) = es := by
        refine (List.filter_cons_of_neg ?_).trans (List.filter_eq_self.mpr ?_)
        · simp only [same, ne_eq, not_true_eq_false, decide_false, Bool.false_eq_true, not_false_eq_true]
        · intro other member
          exact decide_eq_true fun equal => absent (List.mem_map.mpr ⟨other, member, equal.trans same.symm⟩)
      rw [assign, if_pos same, kept]
    · have kept : remove k (e :: es) = e :: remove k es := List.filter_cons_of_pos (decide_eq_true same)
      rw [assign, if_neg same, kept]
      exact ((ih distinct).cons e).trans (.swap _ _ _)

/-- Setting a key replaces its entry and leaves the others. -/
theorem entries_set_perm : (d.set k v).entries.Perm ((k, v) :: (d.pop k).entries) :=
  assign_perm d.entries d.nodup

private theorem assign_same {es : List (κ × ν)} (found : es.lookup k = some v) : assign k v es = es := by
  induction es with
  | nil => cases found
  | cons e es ih =>
    obtain ⟨j, w⟩ := e
    by_cases same : j = k
    · subst same
      rw [List.lookup_cons_self] at found
      rw [assign, if_pos rfl, Option.some.inj found]
    · have differs : (k == j) = false := by simpa using fun equal => same equal.symm
      simp only [List.lookup, differs] at found
      rw [assign, if_neg same, ih found]

/-- The entry of a key and the others. -/
theorem entries_perm_pop (found : d.get k = some v) : d.entries.Perm ((k, v) :: (d.pop k).entries) := by
  have whole : (assign k v d.entries).Perm ((k, v) :: (d.pop k).entries) := assign_perm d.entries d.nodup
  rwa [assign_same found] at whole

theorem entries_pop_absent (absent : d.get k = none) : (d.pop k).entries = d.entries := by
  apply List.filter_eq_self.mpr
  intro e member
  refine decide_eq_true fun same => ?_
  rw [← same, get_eq_some.mpr member] at absent
  cases absent

theorem set_same (found : d.get k = some v) : d.set k v = d := by
  have entries : (d.set k v).entries = d.entries := assign_same found
  obtain ⟨es, nodup⟩ := d
  simpa only [set, mk.injEq] using entries

/-- A total over the values changes by what the entry of the key was and what it becomes. -/
theorem sum_values_set {A : Type w} [AddCommGroup A] (f : ν → A) :
    ((d.set k v).values.map f).sum = (d.values.map f).sum - ((d.get k).map f).getD 0 + f v := by
  have written : ((d.set k v).values.map f).sum = f v + ((d.pop k).values.map f).sum :=
    ((entries_set_perm.map Prod.snd).map f).sum_eq
  cases found : d.get k with
  | none =>
    have others : (d.pop k).values = d.values := congrArg (List.map Prod.snd) (entries_pop_absent found)
    rw [written, others, Option.map_none, Option.getD_none, sub_zero, add_comm]
  | some old =>
    have before : (d.values.map f).sum = f old + ((d.pop k).values.map f).sum :=
      (((entries_perm_pop found).map Prod.snd).map f).sum_eq
    rw [written, before, Option.map_some, Option.getD_some, add_sub_cancel_left, add_comm]

/-- A total over the values depends on what is found only. -/
theorem sum_values_congr {A : Type w} [AddCommMonoid A] {e : Dict κ ν} (f : ν → A)
    (same : ∀ k, (d.get k).map f = (e.get k).map f) : (d.values.map f).sum = (e.values.map f).sum := by
  have tagged : ∀ c : Dict κ ν, (c.entries.map fun entry => (entry.1, f entry.2)).Nodup := by
    intro c
    apply List.Nodup.of_map Prod.fst
    rw [List.map_map]
    exact c.nodup
  have member : ∀ (c : Dict κ ν) (k : κ) (a : A),
      (k, a) ∈ c.entries.map (fun entry => (entry.1, f entry.2)) ↔ (c.get k).map f = some a := by
    intro c k a
    rw [List.mem_map, Option.map_eq_some_iff]
    constructor
    · rintro ⟨⟨key, v⟩, inside, equal⟩
      cases equal
      exact ⟨v, get_eq_some.mpr inside, rfl⟩
    · rintro ⟨v, found, rfl⟩
      exact ⟨(k, v), get_eq_some.mp found, rfl⟩
  have perm : (d.entries.map fun entry => (entry.1, f entry.2)).Perm
      (e.entries.map fun entry => (entry.1, f entry.2)) := by
    apply (List.perm_ext_iff_of_nodup (tagged d) (tagged e)).mpr
    rintro ⟨k, a⟩
    rw [member, member, same]
  have totals := (perm.map Prod.snd).sum_eq
  rw [List.map_map, List.map_map] at totals
  rw [values, values, List.map_map, List.map_map]
  exact totals

theorem entries_pop_sublist : (d.pop k).entries.Sublist d.entries := List.filter_sublist

theorem mem_entries_pop {e : κ × ν} : e ∈ (d.pop k).entries ↔ e ∈ d.entries ∧ e.1 ≠ k := by
  refine List.mem_filter.trans (and_congr_right fun _ => ?_)
  exact decide_eq_true_iff

/-- The key inserted first. -/
def oldest (d : Dict κ ν) : Option κ := d.entries.head?.map Prod.fst

/-- The entries whose value passes the test. -/
def keep (test : ν → Bool) (d : Dict κ ν) : Dict κ ν :=
  ⟨d.entries.filter fun e => test e.2, d.nodup.sublist (List.filter_sublist.map _)⟩

theorem get_keep (test : ν → Bool) (k : κ) : (d.keep test).get k = (d.get k).filter test := by
  refine Option.ext fun v => ?_
  rw [get_eq_some, Option.filter_eq_some_iff, get_eq_some]
  exact List.mem_filter

/-- The same keys with the images of the values. -/
def mapValues {μ : Type w} (f : ν → μ) (d : Dict κ ν) : Dict κ μ :=
  ⟨d.entries.map fun e => (e.1, f e.2), by
    rw [List.map_map]
    exact d.nodup⟩

omit [DecidableEq κ] in
theorem values_mapValues {μ : Type w} (f : ν → μ) : (d.mapValues f).values = d.values.map f := by
  unfold values mapValues
  rw [List.map_map, List.map_map]
  rfl

theorem get_mapValues {μ : Type w} (f : ν → μ) (k : κ) : (d.mapValues f).get k = (d.get k).map f := by
  have images : ∀ es : List (κ × ν), (es.map fun e => (e.1, f e.2)).lookup k = (es.lookup k).map f := by
    intro es
    induction es with
    | nil => rfl
    | cons e es ih =>
      rw [List.map_cons, List.lookup_cons, List.lookup_cons, ih]
      split <;> rfl
  exact images d.entries

/-- Where every value names its key, the value of a key is the one with its name. -/
theorem find_values {name : ν → κ} (named : ∀ k v, d.get k = some v → name v = k) (k : κ) :
    d.values.find? (fun v => name v = k) = d.get k := by
  have found : ∀ es : List (κ × ν), (∀ e ∈ es, name e.2 = e.1) →
      (es.map Prod.snd).find? (fun v => name v = k) = es.lookup k := by
    intro es keyed
    induction es with
    | nil => rfl
    | cons e es ih =>
      have first := keyed e List.mem_cons_self
      have rest := ih fun e member => keyed e (List.mem_cons_of_mem _ member)
      rw [List.map_cons, List.find?_cons, List.lookup_cons, first, rest]
      by_cases same : e.1 = k
      · simp only [same, decide_true, beq_self_eq_true]
      · have differs : (k == e.1) = false := by simpa using fun equal => same equal.symm
        simp only [same, decide_false, differs]
  exact found d.entries fun e member => named e.1 e.2 (get_eq_some.mpr member)

/-- The values filed again, each under the key `name` gives it. -/
def rekey (name : ν → κ) (d : Dict κ ν) : Dict κ ν :=
  d.values.foldl (fun filed v => filed.set (name v) v) ∅

private theorem get_refile {name : ν → κ} (es : List (κ × ν)) (filed : Dict κ ν)
    (nodup : (es.map Prod.fst).Nodup) (named : ∀ e ∈ es, name e.2 = e.1) (k : κ) :
    ((es.map Prod.snd).foldl (fun filed v => filed.set (name v) v) filed).get k =
      (es.lookup k).or (filed.get k) := by
  induction es generalizing filed with
  | nil => rfl
  | cons e es ih =>
    obtain ⟨j, w⟩ := e
    rw [List.map_cons, List.nodup_cons] at nodup
    have first : name w = j := named (j, w) List.mem_cons_self
    rw [List.map_cons, List.foldl_cons, ih _ nodup.2 fun e member =>
      named e (List.mem_cons_of_mem _ member), get_set, first]
    by_cases same : k = j
    · subst same
      have absent : es.lookup k = none := by
        rw [List.lookup_eq_none_iff]
        intro e member
        rw [bne_iff_ne]
        exact fun equal => nodup.1 (List.mem_map.mpr ⟨e, member, equal.symm⟩)
      simp only [absent, if_true, Option.none_or, List.lookup, beq_self_eq_true, Option.some_or]
    · have differs : (k == j) = false := by simpa using same
      simp only [if_neg same, List.lookup, differs]

theorem get_rekey {name : ν → κ} (named : ∀ k v, d.get k = some v → name v = k) (k : κ) :
    (d.rekey name).get k = d.get k := by
  have filed := get_refile d.entries ∅ d.nodup
    (fun e member => named e.1 e.2 (get_eq_some.mpr member)) k
  exact filed.trans (by rw [get_empty, Option.or_none]; rfl)

end Dict

end TradeX.Lib
