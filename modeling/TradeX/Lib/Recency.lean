import Mathlib

/-! Logs, the newest entry first, and the last distinct keys of their entries: what is recorded in a
bounded queue of keys, and that no key is marked twice while it is among them. -/

namespace TradeX.Lib.Recency

section Apart

variable {α : Type v} {n : Nat} {xs older newer : List α} {x : α}

/-- Each of the keys differs from the `n` that come after it in the list. -/
def Apart (n : Nat) : List α → Prop
  | [] => True
  | x :: xs => x ∉ xs.take n ∧ Apart n xs

theorem Apart.of_append (apart : Apart n (newer ++ older)) : Apart n older := by
  induction newer with
  | nil => exact apart
  | cons x newer ih => exact ih apart.2

theorem Apart.nodup (apart : Apart n (newer ++ older)) (short : newer.length ≤ n + 1) : newer.Nodup := by
  induction newer with
  | nil => exact List.nodup_nil
  | cons x newer ih =>
    rw [List.length_cons] at short
    rw [List.nodup_cons]
    constructor
    · intro again
      have later : x ∉ (newer ++ older).take n := apart.1
      apply later
      rw [List.take_append]
      exact List.mem_append_left _ (by rwa [List.take_of_length_le (by omega)])
    · exact ih apart.2 (by omega)

theorem Apart.nodup_take (apart : Apart n xs) : (xs.take n).Nodup := by
  apply @Apart.nodup α n (xs.drop n)
  · rwa [List.take_append_drop]
  · rw [List.length_take]
    omega

/-- A key that has left the last `n` has `n` others after it that differ from it and from each other. -/
theorem Apart.overtaken (apart : Apart n (newer ++ x :: older)) (left : n ≤ newer.length) :
    ∃ others, others.length = n ∧ others ⊆ newer ∧ (others ++ [x]).Nodup := by
  refine ⟨newer.drop (newer.length - n), ?_, List.drop_subset _ _, ?_⟩
  · rw [List.length_drop]
    omega
  · apply @Apart.nodup α n older
    · have cut : newer.take (newer.length - n) ++ (newer.drop (newer.length - n) ++ [x] ++ older) =
          newer ++ x :: older := by
        rw [List.append_assoc (newer.drop _), ← List.append_assoc, List.take_append_drop]
        rfl
      exact Apart.of_append (cut ▸ apart)
    · rw [List.length_append, List.length_drop, List.length_singleton]
      omega

end Apart

/-- A queue of at most `n` keys, the oldest first, that drops its oldest key when it is full. -/
def push (n : Nat) (queue : List α) (x : α) : List α :=
  (if queue.length = n then queue.tail else queue) ++ [x]

/-- The queue holds the last `n` of the keys pushed. -/
theorem push_reverse {queue pushed : List α} {x : α} (positive : 0 < n)
    (holds : queue.reverse = pushed.take n) : (push n queue x).reverse = (x :: pushed).take n := by
  obtain ⟨n, rfl⟩ := Nat.exists_eq_succ_of_ne_zero positive.ne'
  rw [push, List.reverse_append, List.reverse_singleton, List.singleton_append, List.take_succ_cons]
  congr 1
  have length := congrArg List.length holds
  rw [List.length_reverse, List.length_take] at length
  split
  · next full =>
    rw [← List.dropLast_reverse, holds, List.dropLast_eq_take, List.take_take, List.length_take, ← length, full,
      Nat.succ_sub_one, Nat.min_eq_left n.le_succ]
  · next room =>
    have short : pushed.length ≤ n := by omega
    rw [holds, List.take_of_length_le short, List.take_of_length_le (Nat.le_succ_of_le short)]

section Logs

variable {ε : Type u} {α : Type v} [DecidableEq α] (n : Nat) (key : ε → α) (marked : ε → Bool)

/-- The stretch has at most `n` distinct keys. -/
def Few (stretch : List ε) : Prop := (stretch.map key).dedup.length ≤ n

/-- In every stretch with at most `n` distinct keys each key is marked at most once. -/
def Once (log : List ε) : Prop :=
  ∀ stretch, stretch <:+: log → Few n key stretch → ((stretch.filter marked).map key).Nodup

/-- The key is marked among the last `n` distinct keys. -/
def Recent (log : List ε) (x : α) : Prop :=
  ∃ stretch ∈ log.inits, Few n key stretch ∧ ∃ entry ∈ stretch, marked entry = true ∧ key entry = x

instance (stretch : List ε) : Decidable (Few n key stretch) := inferInstanceAs (Decidable (_ ≤ _))

instance (log : List ε) (x : α) : Decidable (Recent n key marked log x) :=
  inferInstanceAs (Decidable (∃ stretch ∈ log.inits, _ ∧ _))

variable {n key marked} {log : List ε} {entry : ε} {x : α}

theorem Few.of_cons {stretch : List ε} (few : Few n key (entry :: stretch)) : Few n key stretch := by
  apply le_trans _ few
  rw [List.map_cons, ← List.card_toFinset, ← List.card_toFinset]
  exact Finset.card_le_card (by simp)

theorem few_cons {stretch : List ε} (known : key entry ∈ stretch.map key) :
    Few n key (entry :: stretch) ↔ Few n key stretch := by
  rw [Few, Few, List.map_cons, List.dedup_cons_of_mem known]

theorem once_nil : Once n key marked [] := by
  intro stretch within _
  rw [List.infix_nil.mp within]
  exact List.nodup_nil

/-- A new entry keeps the law exactly when it is unmarked, or its key was not marked recently. -/
theorem once_cons : Once n key marked (entry :: log) ↔
    Once n key marked log ∧ (marked entry = true → ¬ Recent n key marked log (key entry)) := by
  constructor
  · intro once
    constructor
    · intro stretch within few
      exact once stretch (List.infix_cons within) few
    · rintro marks ⟨stretch, within, few, earlier, member, earlierMarks, same⟩
      have keys : key entry ∈ stretch.map key := same ▸ List.mem_map_of_mem member
      have twice := once (entry :: stretch)
        (List.cons_prefix_cons.mpr ⟨rfl, (List.mem_inits _ _).mp within⟩).isInfix ((few_cons keys).mpr few)
      rw [List.filter_cons_of_pos marks, List.map_cons, List.nodup_cons] at twice
      exact twice.1 (same ▸ List.mem_map_of_mem (List.mem_filter.mpr ⟨member, earlierMarks⟩))
  · rintro ⟨once, new⟩ stretch within few
    rcases List.infix_cons_iff.mp within with start | within
    · cases stretch with
      | nil => exact List.nodup_nil
      | cons first stretch =>
        obtain ⟨rfl, begins⟩ := List.cons_prefix_cons.mp start
        have rest := once stretch begins.isInfix few.of_cons
        by_cases marks : marked first = true
        · rw [List.filter_cons_of_pos marks, List.map_cons, List.nodup_cons]
          refine ⟨fun again => ?_, rest⟩
          obtain ⟨earlier, member, same⟩ := List.mem_map.mp again
          obtain ⟨member, earlierMarks⟩ := List.mem_filter.mp member
          exact new marks ⟨stretch, (List.mem_inits _ _).mpr begins, few.of_cons, earlier, member, earlierMarks, same⟩
        · rw [List.filter_cons_of_neg marks]
          exact rest
    · exact once stretch within few

theorem Recent.or {first second : ε → Bool} (recent : Recent n key marked log x)
    (either : ∀ entry, marked entry = true → first entry = true ∨ second entry = true) :
    Recent n key first log x ∨ Recent n key second log x := by
  obtain ⟨stretch, within, few, entry, member, marks, same⟩ := recent
  apply Or.imp _ _ (either entry marks)
  · exact fun firstMarks => ⟨stretch, within, few, entry, member, firstMarks, same⟩
  · exact fun secondMarks => ⟨stretch, within, few, entry, member, secondMarks, same⟩

theorem Recent.mono {weaker : ε → Bool} (recent : Recent n key marked log x)
    (weaken : ∀ entry, marked entry = true → weaker entry = true) : Recent n key weaker log x :=
  (recent.or fun entry marks => .inl (weaken entry marks)).elim id id

/-- Where marked entries keep apart, a key that is marked recently is one of the last `n` marked. -/
theorem Recent.mem_take (recent : Recent n key marked log x)
    (apart : Apart n ((log.filter marked).map key)) : x ∈ ((log.filter marked).map key).take n := by
  obtain ⟨stretch, within, few, entry, member, marks, rfl⟩ := recent
  obtain ⟨rest, rfl⟩ := (List.mem_inits _ _).mp within
  obtain ⟨newer, older, rfl⟩ := List.append_of_mem member
  have keys : (((newer ++ entry :: older) ++ rest).filter marked).map key =
      (newer.filter marked).map key ++ key entry :: ((older ++ rest).filter marked).map key := by
    simp only [List.append_assoc, List.cons_append, List.filter_append, List.filter_cons_of_pos marks,
      List.map_append, List.map_cons]
  rw [keys] at apart ⊢
  by_cases left : n ≤ ((newer.filter marked).map key).length
  · -- more than `n` distinct keys have come since
    obtain ⟨others, count, within, distinct⟩ := apart.overtaken left
    have known : others ++ [key entry] ⊆ (newer ++ entry :: older).map key := by
      intro y member
      rcases List.mem_append.mp member with other | same
      · obtain ⟨earlier, found, rfl⟩ := List.mem_map.mp (within other)
        exact List.mem_map_of_mem (List.mem_append_left _ (List.mem_of_mem_filter found))
      · rw [List.mem_singleton.mp same]
        exact List.mem_map_of_mem (List.mem_append_right _ List.mem_cons_self)
    have more := (distinct.subperm fun y member => List.mem_dedup.mpr (known member)).length_le
    rw [List.length_append, count, List.length_singleton] at more
    exact absurd few (by unfold Few; omega)
  · rw [List.take_append, List.take_of_length_le (by omega)]
    apply List.mem_append_right
    obtain ⟨room, spare⟩ := Nat.exists_eq_add_of_lt (not_le.mp left)
    rw [show n - ((newer.filter marked).map key).length = room + 1 by omega]
    exact List.mem_cons_self

end Logs

end TradeX.Lib.Recency
