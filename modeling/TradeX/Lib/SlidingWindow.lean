import Mathlib

/-! Logs of stamps over a sliding window. A look at the log drops the stamps at its front that are older
than the window, and adds a stamp where there is room. However the windows are placed, no more looks than
the log has room for are granted in one. -/

namespace TradeX.Lib.SlidingWindow

/-- A look that was granted: the instant of the look, and the instant that is stamped for it. -/
structure Grant (K : Type u) where
  looked : K
  stamped : K
  deriving DecidableEq, Repr

section

variable {K : Type u} [LinearOrder K]

/-- The log without the stamps at its front that are before the cutoff. -/
def prune (cutoff : K) (stamps : List K) : List K := stamps.dropWhile fun stamp => stamp < cutoff

/-- The log has every stamp of the grants that is not before the cutoff. -/
def Logged (cutoff : K) (grants : List (Grant K)) (stamps : List K) : Prop :=
  ∀ c, cutoff ≤ c → stamps.filter (fun stamp => c ≤ stamp) = (grants.map Grant.stamped).filter fun stamp => c ≤ stamp

variable {cutoff later c stamp : K} {stamps rest : List K} {grant : Grant K} {grants : List (Grant K)}

theorem prune_suffix : prune cutoff stamps <:+ stamps := List.dropWhile_suffix _

theorem prune_old (old : stamp < cutoff) : prune cutoff (stamp :: stamps) = prune cutoff stamps :=
  List.dropWhile_cons_of_pos (decide_eq_true old)

theorem prune_recent (recent : cutoff ≤ stamp) : prune cutoff (stamp :: stamps) = stamp :: stamps :=
  List.dropWhile_cons_of_neg (by simpa using recent)

/-- What is left after two cutoffs is what the later one leaves. -/
theorem prune_prune (after : cutoff ≤ later) : prune later (prune cutoff stamps) = prune later stamps := by
  induction stamps with
  | nil => rfl
  | cons stamp stamps ih =>
    rcases lt_or_ge stamp cutoff with old | recent
    · rw [prune_old old, prune_old (old.trans_le after), ih]
    · rw [prune_recent recent]

/-- The stamps from an instant on are not touched by an earlier cutoff. -/
theorem filter_prune (after : cutoff ≤ c) :
    (prune cutoff stamps).filter (fun stamp => c ≤ stamp) = stamps.filter fun stamp => c ≤ stamp := by
  induction stamps with
  | nil => rfl
  | cons stamp stamps ih =>
    rcases lt_or_ge stamp cutoff with old | recent
    · have before : stamp < c := old.trans_le after
      rw [prune_old old, ih, List.filter_cons_of_neg (by simpa using before)]
    · rw [prune_recent recent]

/-- What is kept starts with a stamp that is not too old. -/
theorem cutoff_le_head (kept : prune cutoff stamps = stamp :: rest) : cutoff ≤ stamp := by
  induction stamps with
  | nil => cases kept
  | cons first stamps ih =>
    rcases lt_or_ge first cutoff with old | recent
    · rw [prune_old old] at kept
      exact ih kept
    · rw [prune_recent recent] at kept
      exact (List.cons.inj kept).1 ▸ recent

/-- What is dropped is too old. -/
theorem lt_of_dropped {front : List K} (split : front ++ prune cutoff stamps = stamps) : ∀ x ∈ front, x < cutoff := by
  induction stamps generalizing front with
  | nil =>
    intro x member
    rw [(List.append_eq_nil_iff.mp split).1] at member
    cases member
  | cons first stamps ih =>
    rcases lt_or_ge first cutoff with old | recent
    · rw [prune_old old] at split
      cases front with
      | nil =>
        intro x member
        cases member
      | cons x front =>
        obtain ⟨rfl, onward⟩ := List.cons.inj split
        intro y member
        rcases List.mem_cons.mp member with rfl | inside
        · exact old
        · exact ih onward y inside
    · rw [prune_recent recent] at split
      intro x member
      rw [List.append_left_eq_self.mp split] at member
      cases member

/-- A log to which a stamp was added is not one from which some were dropped. -/
theorem not_suffix_of_stamped (fresh : cutoff ≤ stamp) : ¬ prune cutoff stamps ++ [stamp] <:+ stamps := by
  rintro ⟨dropped, cut⟩
  obtain ⟨front, split⟩ := @prune_suffix _ _ cutoff stamps
  have lengths : front.length = dropped.length + 1 := by
    have same := congrArg List.length (cut.trans split.symm)
    simp only [List.length_append, List.length_singleton] at same
    omega
  rcases List.eq_nil_or_concat front with rfl | ⟨before, x, rfl⟩
  · cases lengths
  · -- The last stamp that was dropped would stand first among those kept.
    rw [List.concat_eq_append] at split lengths
    have old : x < cutoff := lt_of_dropped split x (List.mem_append_right _ (List.mem_singleton.mpr rfl))
    have whole : dropped ++ (prune cutoff stamps ++ [stamp]) = before ++ ([x] ++ prune cutoff stamps) := by
      rw [cut, ← List.append_assoc, split]
    rw [List.length_append, List.length_singleton] at lengths
    have tail := (List.append_inj whole (by omega)).2
    cases kept : prune cutoff stamps with
    | nil =>
      rw [kept] at tail
      have same : stamp = x := List.singleton_inj.mp tail
      exact absurd (same ▸ fresh) (not_le.mpr old)
    | cons first rest =>
      rw [kept] at tail
      have same : first = x := (List.cons.inj tail).1
      exact absurd (same ▸ cutoff_le_head kept) (not_le.mpr old)

theorem Logged.pruned (logged : Logged cutoff grants stamps) (after : cutoff ≤ later) :
    Logged later grants (prune later stamps) := by
  intro c behind
  rw [filter_prune behind]
  exact logged c (after.trans behind)

theorem Logged.stamped (logged : Logged cutoff grants stamps) (grant : Grant K) :
    Logged cutoff (grants ++ [grant]) (stamps ++ [grant.stamped]) := by
  intro c behind
  rw [List.filter_append, List.map_append, List.filter_append, logged c behind]
  rfl

end

section

variable {K : Type u} [AddCommGroup K] [LinearOrder K]

/-- Each grant finds fewer than `most` stamps of its window before it. -/
inductive Spaced (most : Nat) (window : K) : List (Grant K) → Prop where
  | nil : Spaced most window []
  | snoc {grants grant} : Spaced most window grants →
      (grants.filter fun earlier => grant.looked - window ≤ earlier.stamped).length < most →
      Spaced most window (grants ++ [grant])

variable {window : K} {most : Nat} {stamps : List K} {grant : Grant K} {grants : List (Grant K)}

/-- A grant where the log has room keeps the grants spaced. -/
theorem Spaced.granted (spaced : Spaced most window grants) (logged : Logged (grant.looked - window) grants stamps)
    (room : stamps.length < most) : Spaced most window (grants ++ [grant]) := by
  apply Spaced.snoc spaced
  have counted : (grants.filter fun earlier => grant.looked - window ≤ earlier.stamped).length =
      (stamps.filter fun stamp => grant.looked - window ≤ stamp).length := by
    rw [logged _ le_rfl, List.filter_map, List.length_map]
    rfl
  rw [counted]
  exact (List.length_filter_le _ _).trans_lt room

/-- No interval of the window's length has more grants than there is room for, whatever instants between
their looks and their stamps the grants are put at. -/
theorem Spaced.length_le [IsOrderedAddMonoid K] (spaced : Spaced most window grants) {instant : Grant K → K}
    (between : ∀ grant ∈ grants, grant.looked ≤ instant grant ∧ instant grant ≤ grant.stamped) (a : K) :
    (grants.filter fun grant => a ≤ instant grant ∧ instant grant ≤ a + window).length ≤ most := by
  induction spaced with
  | nil => exact Nat.zero_le _
  | @snoc grants grant spaced room ih =>
    have earlier : ∀ other ∈ grants, other.looked ≤ instant other ∧ instant other ≤ other.stamped :=
      fun other member => between other (List.mem_append_left _ member)
    rw [List.filter_append]
    by_cases inside : a ≤ instant grant ∧ instant grant ≤ a + window
    · -- The others of the interval are stamped after the cutoff of this look.
      have here := between grant (List.mem_append_right _ (List.mem_singleton.mpr rfl))
      have cutoff : grant.looked - window ≤ a := sub_le_iff_le_add.mpr (here.1.trans inside.2)
      have recent : (grants.filter fun other => a ≤ instant other ∧ instant other ≤ a + window).length ≤
          (grants.filter fun other => grant.looked - window ≤ other.stamped).length := by
        rw [← List.countP_eq_length_filter, ← List.countP_eq_length_filter]
        apply List.countP_mono_left
        intro other member within
        simp only [decide_eq_true_eq] at within ⊢
        exact (cutoff.trans within.1).trans (earlier other member).2
      rw [List.filter_cons_of_pos (by simpa using inside), List.filter_nil, List.length_append, List.length_singleton]
      omega
    · rw [List.filter_cons_of_neg (by simpa using inside), List.filter_nil, List.append_nil]
      exact ih earlier

end

end TradeX.Lib.SlidingWindow
