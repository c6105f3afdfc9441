import TradeX.Lib.Dict

/-! An index of names under pairs of a key and a value, as a map of maps, and when it is the inverse
of the table that gives each name its pairs. -/

namespace TradeX.Lib

variable {κ : Type u} {μ : Type v} {ν : Type w} [DecidableEq κ] [DecidableEq μ] [DecidableEq ν]

/-- `index[key][value]`. -/
abbrev PairIndex (κ : Type u) (μ : Type v) (ν : Type w) := Dict κ (Dict μ ν)

namespace PairIndex

def find (index : PairIndex κ μ ν) (key : κ) (value : μ) : Option ν := (Dict.get index key).bind fun bucket => bucket.get value

/-- `index.setdefault(key, {})[value] = name`. -/
def file (index : PairIndex κ μ ν) (name : ν) (pair : κ × μ) : PairIndex κ μ ν :=
  Dict.set index pair.1 (((Dict.get index pair.1).getD ∅).set pair.2 name)

/-- The entry of the pair is deleted where it holds the name. -/
def unfile (index : PairIndex κ μ ν) (name : ν) (pair : κ × μ) : PairIndex κ μ ν :=
  match Dict.get index pair.1 with
  | none => index
  | some bucket => if bucket.get pair.2 = some name then Dict.set index pair.1 (bucket.pop pair.2) else index

def fileAll (index : PairIndex κ μ ν) (name : ν) (pairs : List (κ × μ)) : PairIndex κ μ ν :=
  pairs.foldl (fun filed pair => file filed name pair) index

def unfileAll (index : PairIndex κ μ ν) (name : ν) (pairs : List (κ × μ)) : PairIndex κ μ ν :=
  pairs.foldl (fun filed pair => unfile filed name pair) index

variable (index : PairIndex κ μ ν) (name : ν) (pair : κ × μ) (pairs : List (κ × μ)) (key : κ) (value : μ)

omit [DecidableEq ν] in
theorem find_file : find (file index name pair) key value =
    if (key, value) = pair then some name else find index key value := by
  obtain ⟨k, v⟩ := pair
  unfold find file
  dsimp only
  rw [Dict.get_set]
  by_cases sameKey : key = k
  · subst sameKey
    rw [if_pos rfl, Option.bind_some, Dict.get_set]
    by_cases sameValue : value = v
    · rw [if_pos sameValue, if_pos (by rw [sameValue])]
    · rw [if_neg sameValue, if_neg (by simpa using sameValue)]
      cases Dict.get index key with
      | none => exact Dict.get_empty value
      | some bucket => rfl
  · rw [if_neg sameKey, if_neg (by simp [sameKey])]

theorem find_unfile : find (unfile index name pair) key value =
    if (key, value) = pair ∧ find index key value = some name then none else find index key value := by
  obtain ⟨k, v⟩ := pair
  unfold find unfile
  dsimp only
  by_cases sameKey : key = k
  · subst sameKey
    cases held : Dict.get index key with
    | none => simp [held]
    | some bucket =>
      dsimp only
      by_cases named : bucket.get v = some name
      · rw [if_pos named, Dict.get_set_self, Option.bind_some, Option.bind_some, Dict.get_pop]
        by_cases sameValue : value = v
        · rw [if_pos sameValue, if_pos ⟨by rw [sameValue], by rw [sameValue]; exact named⟩]
        · rw [if_neg sameValue, if_neg fun both => sameValue (congrArg Prod.snd both.1)]
      · rw [if_neg named, held, Option.bind_some]
        refine (if_neg ?_).symm
        rintro ⟨same, found⟩
        have sameValue : value = v := congrArg Prod.snd same
        exact named (sameValue ▸ found)
  · have kept : (if (key, value) = (k, v) ∧ ((Dict.get index key).bind fun bucket => bucket.get value) = some name then none
        else (Dict.get index key).bind fun bucket => bucket.get value) =
        (Dict.get index key).bind fun bucket => bucket.get value :=
      if_neg fun both => sameKey (congrArg Prod.fst both.1)
    rw [kept]
    cases Dict.get index k with
    | none => rfl
    | some bucket =>
      dsimp only
      split
      · rw [Dict.get_set_other _ _ _ _ sameKey]
      · rfl

omit [DecidableEq ν] in
/-- Filing makes the pairs the name's, and leaves the others. -/
theorem find_fileAll : find (fileAll index name pairs) key value =
    if (key, value) ∈ pairs then some name else find index key value := by
  induction pairs generalizing index with
  | nil => simp [fileAll]
  | cons pair rest ih =>
    have later := ih (file index name pair)
    rw [find_file] at later
    unfold fileAll at later ⊢
    rw [List.foldl_cons, later]
    by_cases inRest : (key, value) ∈ rest
    · rw [if_pos inRest, if_pos (List.mem_cons_of_mem _ inRest)]
    · rw [if_neg inRest]
      simp only [List.mem_cons, inRest, or_false]

/-- Unfiling takes the pairs from the name, and leaves those that are another's. -/
theorem find_unfileAll : find (unfileAll index name pairs) key value =
    if (key, value) ∈ pairs ∧ find index key value = some name then none else find index key value := by
  induction pairs generalizing index with
  | nil => simp [unfileAll]
  | cons pair rest ih =>
    have later := ih (unfile index name pair)
    rw [find_unfile] at later
    unfold unfileAll at later ⊢
    rw [List.foldl_cons, later]
    by_cases named : find index key value = some name
    · by_cases first : (key, value) = pair
      · simp [first, named]
      · simp [first, named]
    · simp [named]

end PairIndex

/-- `find` is the inverse of the table: a pair is filed under the name that has it. -/
def Inverse (table : ν → Option (List (κ × μ))) (find : κ → μ → Option ν) : Prop :=
  ∀ key value name, find key value = some name ↔ ∃ pairs, table name = some pairs ∧ (key, value) ∈ pairs

section

variable {table : ν → Option (List (κ × μ))} {index : PairIndex κ μ ν} {name : ν} {old new : List (κ × μ)}

/-- A name is given up: all its pairs are unfiled. -/
theorem Inverse.unfileAll (inverse : Inverse table (PairIndex.find index))
    (known : ∀ key value, PairIndex.find index key value = some name → (key, value) ∈ old) :
    Inverse (Function.update table name none) (PairIndex.find (PairIndex.unfileAll index name old)) := by
  intro key value other
  rw [PairIndex.find_unfileAll]
  by_cases same : other = name
  · subst same
    rw [Function.update_self]
    simp only [reduceCtorEq, false_and, exists_false, iff_false]
    split
    · exact nofun
    · next kept => exact fun found => kept ⟨known key value found, found⟩
  · rw [Function.update_of_ne same, ← inverse key value other]
    split
    · next unfiled =>
      rw [unfiled.2]
      exact ⟨nofun, fun found => absurd (Option.some.inj found).symm same⟩
    · rfl

/-- A name gets pairs that no other name has, among them all that are filed under it. -/
theorem Inverse.fileAll (inverse : Inverse table (PairIndex.find index))
    (covered : ∀ key value, PairIndex.find index key value = some name → (key, value) ∈ new)
    (apart : ∀ other pairs, other ≠ name → table other = some pairs → ∀ pair ∈ new, pair ∉ pairs) :
    Inverse (Function.update table name (some new)) (PairIndex.find (PairIndex.fileAll index name new)) := by
  intro key value other
  rw [PairIndex.find_fileAll]
  by_cases same : other = name
  · subst same
    rw [Function.update_self]
    by_cases filed : (key, value) ∈ new
    · simp [filed]
    · rw [if_neg filed]
      simp only [Option.some.injEq, exists_eq_left', filed, iff_false]
      exact fun found => filed (covered key value found)
  · rw [Function.update_of_ne same]
    by_cases filed : (key, value) ∈ new
    · rw [if_pos filed]
      constructor
      · exact fun found => absurd (Option.some.inj found).symm same
      · rintro ⟨pairs, listed, member⟩
        exact absurd member (apart other pairs same listed _ filed)
    · rw [if_neg filed]
      exact inverse key value other

/-- A name is filed anew: its old pairs are unfiled and the new ones filed. -/
theorem Inverse.refile (inverse : Inverse table (PairIndex.find index))
    (known : ∀ key value, PairIndex.find index key value = some name → (key, value) ∈ old)
    (apart : ∀ other pairs, other ≠ name → table other = some pairs → ∀ pair ∈ new, pair ∉ pairs) :
    Inverse (Function.update table name (some new))
      (PairIndex.find (PairIndex.fileAll (PairIndex.unfileAll index name old) name new)) := by
  have given := inverse.unfileAll known
  have covered : ∀ key value, PairIndex.find (PairIndex.unfileAll index name old) key value = some name →
      (key, value) ∈ new := by
    intro key value found
    have listed := (given key value name).mp found
    rw [Function.update_self] at listed
    obtain ⟨pairs, none_, -⟩ := listed
    cases none_
  have others : ∀ other pairs, other ≠ name → Function.update table name none other = some pairs →
      ∀ pair ∈ new, pair ∉ pairs := by
    intro other pairs differs listed
    rw [Function.update_of_ne differs] at listed
    exact apart other pairs differs listed
  have filed := given.fileAll covered others
  rw [Function.update_idem] at filed
  exact filed

end

end TradeX.Lib
