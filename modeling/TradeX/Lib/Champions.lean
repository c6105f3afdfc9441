import TradeX.Lib.KeyedFold

/-! Contests by rank: of the elements with one key the one of the highest rank is held, and of equal ones the
last. What is held does not depend on the order of the elements where no two of the highest differ. -/

namespace TradeX.Lib.Champions

variable {α : Type u} {κ : Type v} {β : Type w} [DecidableEq κ] [LinearOrder β]

/-- One more element stands against the one that is held. -/
def contest (key : α → κ) (rank : α → β) (held : Dict κ α) (a : α) : Dict κ α :=
  match held.get (key a) with
  | none => held.set (key a) a
  | some best => if rank best ≤ rank a then held.set (key a) a else held

/-- What is held of each key after all elements. -/
def champions (key : α → κ) (rank : α → β) (xs : List α) : Dict κ α := xs.foldl (contest key rank) ∅

/-- An element of the highest rank among those with its key. -/
structure Top (key : α → κ) (rank : α → β) (xs : List α) (a : α) : Prop where
  mem : a ∈ xs
  highest : ∀ b ∈ xs, key b = key a → rank b ≤ rank a

variable {key : α → κ} {rank : α → β} {held : Dict κ α} {xs ys : List α} {a b : α} {k : κ}

theorem get_contest_other (other : k ≠ key a) : (contest key rank held a).get k = held.get k := by
  rw [contest]
  split
  · exact Dict.get_set_other held (key a) k a other
  · split
    · exact Dict.get_set_other held (key a) k a other
    · rfl

/-- The key of an element holds it where nothing above it was held, and else what was. -/
theorem get_contest_self (key : α → κ) (rank : α → β) (held : Dict κ α) (a : α) :
    ((contest key rank held a).get (key a) = some a ∧ ∀ best, held.get (key a) = some best → rank best ≤ rank a) ∨
    ∃ best, held.get (key a) = some best ∧ rank a < rank best ∧ (contest key rank held a).get (key a) = some best := by
  cases found : held.get (key a) with
  | none =>
    left
    simp only [contest, found, Dict.get_set_self]
    exact ⟨trivial, fun best none_ => absurd none_.symm (Option.some_ne_none best)⟩
  | some best =>
    rcases le_or_gt (rank best) (rank a) with up | down
    · left
      simp only [contest, found, if_pos up, Dict.get_set_self]
      exact ⟨trivial, fun other same => Option.some.inj same ▸ up⟩
    · right
      refine ⟨best, rfl, down, ?_⟩
      simp only [contest, found, if_neg down.not_ge]

theorem champions_nil : (champions key rank []).values = [] := rfl

theorem champions_singleton : (champions key rank [a]).values = [a] := rfl

theorem champions_concat : champions key rank (xs ++ [a]) = contest key rank (champions key rank xs) a :=
  List.foldl_concat ..

theorem get_champions_none : (champions key rank xs).get k = none ↔ ∀ a ∈ xs, key a ≠ k := by
  induction xs using List.reverseRecOn with
  | nil => exact ⟨fun _ _ member => (nomatch member), fun _ => rfl⟩
  | append_singleton xs a ih =>
    rw [champions_concat, List.forall_mem_append, List.forall_mem_singleton]
    rcases eq_or_ne k (key a) with rfl | other
    · refine iff_of_false ?_ fun none_ => none_.2 rfl
      rcases get_contest_self key rank (champions key rank xs) a with ⟨new, -⟩ | ⟨_, _, _, old⟩
      · rw [new]
        exact Option.some_ne_none _
      · rw [old]
        exact Option.some_ne_none _
    · rw [get_contest_other other, ih]
      exact ⟨fun none_ => ⟨none_, other.symm⟩, And.left⟩

/-- What is held is an element of its key, and none is above it. -/
theorem get_champions_some (found : (champions key rank xs).get k = some a) : key a = k ∧ Top key rank xs a := by
  induction xs using List.reverseRecOn generalizing a with
  | nil => cases found
  | append_singleton xs x ih =>
    rw [champions_concat] at found
    rcases eq_or_ne k (key x) with rfl | other
    · rcases get_contest_self key rank (champions key rank xs) x with ⟨new, above⟩ | ⟨best, old, up, kept⟩
      · obtain rfl : x = a := Option.some.inj (new.symm.trans found)
        refine ⟨rfl, List.mem_append_right _ (List.mem_singleton_self x), ?_⟩
        rw [List.forall_mem_append, List.forall_mem_singleton]
        refine ⟨?_, fun _ => le_rfl⟩
        intro b member same
        -- Something of the key is held, as the element before shows.
        have some_ : (champions key rank xs).get (key x) ≠ none := fun none_ =>
          get_champions_none.mp none_ b member same
        obtain ⟨best, old⟩ := Option.ne_none_iff_exists'.mp some_
        obtain ⟨own, top⟩ := ih old
        exact (top.highest b member (same.trans own.symm)).trans (above best old)
      · obtain rfl : best = a := Option.some.inj (kept.symm.trans found)
        obtain ⟨own, top⟩ := ih old
        refine ⟨own, List.mem_append_left _ top.mem, ?_⟩
        rw [List.forall_mem_append, List.forall_mem_singleton]
        exact ⟨top.highest, fun _ => up.le⟩
    · rw [get_contest_other other] at found
      obtain ⟨own, top⟩ := ih found
      refine ⟨own, List.mem_append_left _ top.mem, ?_⟩
      rw [List.forall_mem_append, List.forall_mem_singleton]
      exact ⟨top.highest, fun same => absurd (own.symm.trans same.symm) other⟩

/-- The last element holds its key where none is above it. -/
theorem get_champions_last (top : Top key rank (xs ++ [a]) a) :
    (champions key rank (xs ++ [a])).get (key a) = some a := by
  rw [champions_concat]
  rcases get_contest_self key rank (champions key rank xs) a with ⟨new, -⟩ | ⟨best, old, up, -⟩
  · exact new
  · obtain ⟨own, other⟩ := get_champions_some old
    exact absurd up (top.highest best (List.mem_append_left _ other.mem) own).not_gt

omit [DecidableEq κ] in
theorem Top.perm (top : Top key rank xs a) (perm : xs.Perm ys) : Top key rank ys a where
  mem := perm.mem_iff.mp top.mem
  highest := fun b member => top.highest b (perm.mem_iff.mpr member)

/-- Every element of the highest rank of its key holds it for some order of the elements. -/
theorem Top.holds [DecidableEq α] (top : Top key rank xs a) :
    ∃ ys, ys.Perm xs ∧ (champions key rank ys).get (key a) = some a := by
  have last : (xs.erase a ++ [a]).Perm xs :=
    (List.perm_append_singleton a (xs.erase a)).trans (List.perm_cons_erase top.mem).symm
  exact ⟨_, last, get_champions_last (top.perm last.symm)⟩

/-- What is held does not depend on the order exactly when no two of the highest of a key differ. -/
theorem champions_perm_iff [DecidableEq α] :
    (∀ ys, ys.Perm xs → ∀ k, (champions key rank ys).get k = (champions key rank xs).get k) ↔
      ∀ a b, Top key rank xs a → Top key rank xs b → key a = key b → a = b := by
  constructor
  · intro same a b first second keys
    obtain ⟨ys, perm, held⟩ := first.holds
    obtain ⟨zs, reordered, other⟩ := second.holds
    rw [same ys perm] at held
    rw [same zs reordered, ← keys, held] at other
    exact Option.some.inj other
  · intro unique ys perm k
    cases held : (champions key rank xs).get k with
    | none =>
      apply get_champions_none.mpr
      intro a member
      exact get_champions_none.mp held a (perm.mem_iff.mp member)
    | some a =>
      obtain ⟨own, top⟩ := get_champions_some held
      cases other : (champions key rank ys).get k with
      | none => exact absurd own (get_champions_none.mp other a (perm.mem_iff.mpr top.mem))
      | some b =>
        obtain ⟨again, best⟩ := get_champions_some other
        rw [unique a b top (best.perm perm) (own.trans again.symm)]

/-- The values of a key are the one that is held of it. -/
theorem values_champions (key : α → κ) (rank : α → β) (xs : List α) (k : κ) :
    (champions key rank xs).values.filter (fun a => key a = k) = ((champions key rank xs).get k).toList := by
  have kept : (champions key rank xs).values.filter (fun a => key a = k) =
      ((champions key rank xs).keep fun a => key a = k).values := by
    rw [Dict.values, List.filter_map]
    rfl
  have only : ∀ j a, ((champions key rank xs).keep fun a => key a = k).get j = some a → j = k := by
    intro j a found
    rw [Dict.get_keep, Option.filter_eq_some_iff] at found
    rw [← (get_champions_some found.1).1]
    exact of_decide_eq_true found.2
  have same : ((champions key rank xs).get k).filter (fun a => key a = k) = (champions key rank xs).get k := by
    cases held : (champions key rank xs).get k with
    | none => rfl
    | some a => exact Option.filter_some_pos (decide_eq_true (get_champions_some held).1)
  rw [kept, Dict.values, Dict.entries_single only, Dict.get_keep, same]
  cases (champions key rank xs).get k <;> rfl

end TradeX.Lib.Champions
