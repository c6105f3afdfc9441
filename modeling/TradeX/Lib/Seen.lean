import TradeX.Lib.Dict

/-! A table of what was seen: the marks of a thing, each with the time at which the last thing with it was seen. The
things that were seen are a history, the latest first. -/

namespace TradeX.Lib.Seen

variable {α : Type u} {κ : Type v} {T : Type w} [DecidableEq κ]

/-- The marks are written with the time. -/
def record (seen : Dict κ T) (marks : List κ) (t : T) : Dict κ T := marks.foldl (fun seen k => seen.set k t) seen

/-- The last thing with a mark. -/
def latest (marks : α → T → List κ) (history : List (α × T)) (k : κ) : Option (α × T) :=
  history.find? fun past => decide (k ∈ marks past.1 past.2)

/-- The times in the table are those of the last things with the marks. -/
def Faithful (marks : α → T → List κ) (history : List (α × T)) (seen : Dict κ T) : Prop :=
  ∀ k t, seen.get k = some t → ∃ a, latest marks history k = some (a, t)

variable {marks : α → T → List κ} {history : List (α × T)} {seen : Dict κ T} {ks : List κ} {k : κ} {t : T}
  {past other : α × T}

theorem get_record : (record seen ks t).get k = if k ∈ ks then some t else seen.get k := by
  induction ks generalizing seen with
  | nil => rfl
  | cons j ks ih =>
    have step : record seen (j :: ks) t = record (seen.set j t) ks t := rfl
    rw [step, ih, Dict.get_set]
    by_cases later : k ∈ ks
    · rw [if_pos later, if_pos (List.mem_cons_of_mem j later)]
    · simp only [later, List.mem_cons, or_false, if_false]

/-- Each new mark takes one more place. -/
theorem size_record (nodup : ks.Nodup) (absent : ∀ k ∈ ks, seen.get k = none) :
    (record seen ks t).size = seen.size + ks.length := by
  induction ks generalizing seen with
  | nil => rfl
  | cons j ks ih =>
    obtain ⟨apart, distinct⟩ := List.nodup_cons.mp nodup
    have step : record seen (j :: ks) t = record (seen.set j t) ks t := rfl
    have others : ∀ k ∈ ks, (seen.set j t).get k = none := by
      intro k member
      rw [Dict.get_set_other]
      · exact absent k (List.mem_cons_of_mem j member)
      · rintro rfl
        exact apart member
    rw [step, ih distinct others, Dict.size_set (absent j List.mem_cons_self), List.length_cons]
    omega

theorem latest_mem (found : latest marks history k = some past) : past ∈ history ∧ k ∈ marks past.1 past.2 := by
  constructor
  · exact List.mem_of_find?_eq_some found
  · simpa only [decide_eq_true_iff] using List.find?_some found

/-- Nothing with the mark came after the last thing with it. -/
theorem latest_newest [Preorder T] (ordered : history.Pairwise fun later earlier => earlier.2 ≤ later.2)
    (found : latest marks history k = some past) (member : other ∈ history) (marked : k ∈ marks other.1 other.2) :
    other.2 ≤ past.2 := by
  induction history with
  | nil => cases member
  | cons first rest ih =>
    obtain ⟨before, later⟩ := List.pairwise_cons.mp ordered
    rw [latest, List.find?_cons] at found
    by_cases here : k ∈ marks first.1 first.2
    · simp only [here, decide_true, Option.some.injEq] at found
      subst found
      rcases List.mem_cons.mp member with rfl | behind
      · exact le_refl _
      · exact before other behind
    · simp only [here, decide_false] at found
      rcases List.mem_cons.mp member with rfl | behind
      · exact absurd marked here
      · exact ih later found behind

theorem Faithful.empty : Faithful marks history ∅ := fun _ _ found => nomatch found

/-- A thing that is seen enters the history, and its marks the table. -/
theorem Faithful.record (faithful : Faithful marks history seen) (a : α) (t : T) :
    Faithful marks ((a, t) :: history) (Seen.record seen (marks a t) t) := by
  intro k u found
  rw [get_record] at found
  rw [latest, List.find?_cons]
  by_cases marked : k ∈ marks a t
  · rw [if_pos marked] at found
    obtain rfl := Option.some.inj found
    simp only [marked, decide_true]
    exact ⟨a, rfl⟩
  · rw [if_neg marked] at found
    simp only [marked, decide_false]
    exact faithful k u found

/-- What is forgotten does not matter. -/
theorem Faithful.keep (faithful : Faithful marks history seen) (test : T → Bool) :
    Faithful marks history (seen.keep test) := by
  intro k t found
  rw [Dict.get_keep, Option.filter_eq_some_iff] at found
  exact faithful k t found.1

end TradeX.Lib.Seen
