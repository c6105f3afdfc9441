import Mathlib

/-! Run-length grouping: the runs of equal keys in a list, with the indices they span. Every index of the
list is in exactly one run, and this run has its key. -/

namespace TradeX.Lib

/-- A run of one key, both of its ends included. -/
structure IndexRun (κ : Type u) where
  first : ℕ
  last : ℕ
  key : κ
  deriving DecidableEq, Repr

namespace IndexRun

variable {α : Type u} {κ : Type v}

def Covers (run : IndexRun κ) (index : ℕ) : Prop := run.first ≤ index ∧ index ≤ run.last

instance (run : IndexRun κ) (index : ℕ) : Decidable (run.Covers index) := inferInstanceAs (Decidable (_ ∧ _))

variable {key : α → κ} {current : κ} {start index i : ℕ} {xs : List α} {a : α}

theorem covers_open (opened : start < index) :
    (IndexRun.mk start (index - 1) current).Covers i ↔ start ≤ i ∧ i < index := by
  simp only [Covers]
  omega

variable [DecidableEq κ]

/-- The loop over the elements from an index on, with the run that is open. -/
def groupFrom (key : α → κ) (current : κ) (start index : ℕ) : List α → List (IndexRun κ)
  | [] => [⟨start, index - 1, current⟩]
  | a :: rest =>
    if key a ≠ current then ⟨start, index - 1, current⟩ :: groupFrom key (key a) index (index + 1) rest
    else groupFrom key current start (index + 1) rest

def group (key : α → κ) : List α → List (IndexRun κ)
  | [] => []
  | a :: rest => groupFrom key (key a) 0 1 rest

/-- No run starts in front of the open one. -/
theorem groupFrom_before (before : i < start) (opened : start < index) :
    (groupFrom key current start index xs).filter (·.Covers i) = [] := by
  induction xs generalizing current start index with
  | nil =>
    have apart : ¬(IndexRun.mk start (index - 1) current).Covers i := fun covers =>
      absurd ((covers_open opened).mp covers).1 (by omega)
    simp [groupFrom, apart]
  | cons b rest ih =>
    simp only [groupFrom]
    split
    · have apart : ¬(IndexRun.mk start (index - 1) current).Covers i := fun covers =>
        absurd ((covers_open opened).mp covers).1 (by omega)
      rw [List.filter_cons_of_neg (by simpa using apart)]
      exact ih (by omega) (by omega)
    · exact ih before (by omega)

/-- An index of the open run is in that run alone. -/
theorem groupFrom_open (begins : start ≤ i) (inside : i < index) :
    ∃ run, (groupFrom key current start index xs).filter (·.Covers i) = [run] ∧ run.key = current := by
  induction xs generalizing current start index with
  | nil =>
    have covers : (IndexRun.mk start (index - 1) current).Covers i := (covers_open (by omega)).mpr ⟨begins, inside⟩
    exact ⟨⟨start, index - 1, current⟩, by simp [groupFrom, covers], rfl⟩
  | cons b rest ih =>
    simp only [groupFrom]
    split
    · have covers : (IndexRun.mk start (index - 1) current).Covers i := (covers_open (by omega)).mpr ⟨begins, inside⟩
      refine ⟨⟨start, index - 1, current⟩, ?_, rfl⟩
      rw [List.filter_cons_of_pos (by simpa using covers), groupFrom_before inside (by omega)]
    · exact ih begins (by omega)

/-- An index behind the open run is in one run, of its own key. -/
theorem groupFrom_behind (opened : start < index) (found : xs[i]? = some a) :
    ∃ run, (groupFrom key current start index xs).filter (·.Covers (index + i)) = [run] ∧ run.key = key a := by
  induction xs generalizing current start index i with
  | nil => cases found
  | cons b rest ih =>
    simp only [groupFrom]
    cases i with
    | zero =>
      have same : b = a := by simpa using found
      subst same
      split
      · have apart : ¬(IndexRun.mk start (index - 1) current).Covers (index + 0) := fun covers =>
          absurd ((covers_open opened).mp covers).2 (by omega)
        rw [List.filter_cons_of_neg (by simpa using apart)]
        exact groupFrom_open (by omega) (by omega)
      · next equal =>
        rw [not_not] at equal
        rw [equal]
        exact groupFrom_open (by omega) (by omega)
    | succ i =>
      have later : rest[i]? = some a := by simpa using found
      have shifted : index + (i + 1) = index + 1 + i := by omega
      split
      · have apart : ¬(IndexRun.mk start (index - 1) current).Covers (index + (i + 1)) := fun covers =>
          absurd ((covers_open opened).mp covers).2 (by omega)
        rw [List.filter_cons_of_neg (by simpa using apart), shifted]
        exact ih (by omega) later
      · rw [shifted]
        exact ih (by omega) later

/-- Every index is in exactly one run, and that run has its key. -/
theorem group_covers (found : xs[i]? = some a) :
    ∃ run, (group key xs).filter (·.Covers i) = [run] ∧ run.key = key a := by
  cases xs with
  | nil => cases found
  | cons b rest =>
    cases i with
    | zero =>
      have same : b = a := by simpa using found
      subst same
      exact groupFrom_open (le_refl 0) Nat.zero_lt_one
    | succ i =>
      have later : rest[i]? = some a := by simpa using found
      rw [Nat.add_comm i 1]
      exact groupFrom_behind Nat.zero_lt_one later

end IndexRun

end TradeX.Lib
