import Mathlib

/-! Batches of adjacent elements with equal keys, put together by an associative operation: the batches of a
list, the one-pass loop that keeps one batch open, and batches of batches. -/

namespace TradeX.Lib

/-- How two elements are put together; the result has the key of the first. -/
structure Batching (σ : Type u) (β : Type v) where
  key : σ → β
  combine : σ → σ → σ
  key_combine : ∀ a b, key (combine a b) = key a
  combine_assoc : ∀ a b c, combine (combine a b) c = combine a (combine b c)

namespace Batching

section

variable {σ : Type u} {β : Type v} [DecidableEq β] (batching : Batching σ β)

/-- An element in front of batches joins the first of them, or opens one. -/
def prepend (a : σ) : List σ → List σ
  | [] => [a]
  | b :: rest => if batching.key a = batching.key b then batching.combine a b :: rest else a :: b :: rest

def batches : List σ → List σ
  | [] => []
  | a :: rest => batching.prepend a (batches rest)

variable {batching} {a b c : σ} {xs rest : List σ}

variable (batching) in
theorem prepend_key (a : σ) (xs : List σ) : ∃ b rest, batching.prepend a xs = b :: rest ∧ batching.key b = batching.key a := by
  cases xs with
  | nil => exact ⟨a, [], rfl, rfl⟩
  | cons b rest =>
    by_cases same : batching.key a = batching.key b
    · exact ⟨_, rest, if_pos same, batching.key_combine a b⟩
    · exact ⟨a, b :: rest, if_neg same, rfl⟩

/-- An element and its neighbour with the same key go in front together. -/
theorem prepend_combine (same : batching.key a = batching.key b) (xs : List σ) :
    batching.prepend (batching.combine a b) xs = batching.prepend a (batching.prepend b xs) := by
  have joined : batching.key (batching.combine a b) = batching.key a := batching.key_combine a b
  cases xs with
  | nil => simp only [prepend, if_pos same]
  | cons c rest =>
    by_cases next : batching.key b = batching.key c
    · have first : batching.key a = batching.key (batching.combine b c) := by rw [batching.key_combine, same]
      simp only [prepend, joined, same, next, if_true]
      rw [if_pos (next.symm.trans (batching.key_combine b c).symm), batching.combine_assoc]
    · simp only [prepend, joined, same, if_neg next, if_true]

/-- Batches of batches are batches, where a coarser key does not part what a finer one holds together. -/
theorem batches_batches {lift : σ → σ} (coarser : ∀ a b, batching.key a = batching.key b →
      batching.key (lift a) = batching.key (lift b))
    (lifts : ∀ a b, lift (batching.combine a b) = batching.combine (lift a) (lift b)) (xs : List σ) :
    batching.batches ((batching.batches xs).map lift) = batching.batches (xs.map lift) := by
  induction xs with
  | nil => rfl
  | cons a xs ih =>
    rw [List.map_cons, batches, batches]
    cases found : batching.batches xs with
    | nil =>
      rw [found] at ih
      rw [← ih]
      rfl
    | cons b rest =>
      rw [found, List.map_cons, batches] at ih
      by_cases same : batching.key a = batching.key b
      · rw [prepend, if_pos same, List.map_cons, batches, lifts, prepend_combine (coarser a b same), ih]
      · rw [prepend, if_neg same, List.map_cons, batches, List.map_cons, batches, ih]

end

section

variable {σ : Type u} {β : Type v} [LinearOrder β] (batching : Batching σ β)

/-- One step of the loop that keeps a batch open: an element behind the open batch closes it, one in front
of it is dropped. -/
def feed (state : Option σ × List σ) (a : σ) : Option σ × List σ :=
  match state.1 with
  | none => (some a, state.2)
  | some held =>
    if batching.key held < batching.key a then (some a, state.2 ++ [held])
    else if batching.key a < batching.key held then state
    else (some (batching.combine held a), state.2)

/-- All batches of the loop, the open one closed. -/
def closed (state : Option σ × List σ) : List σ := state.2 ++ state.1.toList

variable {batching} {a held : σ} {xs done : List σ}

theorem feed_foldl_some (ordered : (held :: xs).Pairwise fun a b => batching.key a ≤ batching.key b) :
    closed (xs.foldl batching.feed (some held, done)) = done ++ batching.batches (held :: xs) := by
  induction xs generalizing held done with
  | nil => rfl
  | cons a xs ih =>
    obtain ⟨first, tail⟩ := List.pairwise_cons.mp ordered
    have before := first a List.mem_cons_self
    rw [List.foldl_cons]
    by_cases later : batching.key held < batching.key a
    · have fed : batching.feed (some held, done) a = (some a, done ++ [held]) := if_pos later
      obtain ⟨b, rest, batched, named⟩ := prepend_key batching a (batching.batches xs)
      have apart : ¬batching.key held = batching.key b := fun same => (named ▸ same ▸ later).ne rfl
      rw [fed, ih tail, batches, batches, batches, batched, prepend, if_neg apart, List.append_assoc,
        List.singleton_append]
    · have same : batching.key held = batching.key a := le_antisymm before (not_lt.mp later)
      have fed : batching.feed (some held, done) a = (some (batching.combine held a), done) := by
        simp only [feed, if_neg later, if_neg (not_lt.mpr before)]
      have joined : (batching.combine held a :: xs).Pairwise fun a b => batching.key a ≤ batching.key b := by
        refine List.pairwise_cons.mpr ⟨?_, (List.pairwise_cons.mp tail).2⟩
        intro b member
        rw [batching.key_combine]
        exact first b (List.mem_cons_of_mem _ member)
      rw [fed, ih joined, batches, prepend_combine same, batches, batches]

/-- Over elements in the order of their keys the loop yields their batches. -/
theorem feed_foldl (ordered : xs.Pairwise fun a b => batching.key a ≤ batching.key b) :
    closed (xs.foldl batching.feed (none, [])) = batching.batches xs := by
  cases xs with
  | nil => rfl
  | cons a xs => exact feed_foldl_some ordered

omit [LinearOrder β] in
theorem foldl_combine (a b : σ) (xs : List σ) :
    xs.foldl batching.combine (batching.combine a b) = batching.combine a (xs.foldl batching.combine b) := by
  induction xs generalizing b with
  | nil => rfl
  | cons c xs ih => rw [List.foldl_cons, batching.combine_assoc, ih, List.foldl_cons]

/-- What the batches of a list are: their keys increase, every element has one, and each is what the elements
of its key are together. -/
structure Batched (batching : Batching σ β) (xs bs : List σ) : Prop where
  increasing : bs.Pairwise fun a b => batching.key a < batching.key b
  holds : ∀ a ∈ xs, ∃ b ∈ bs, batching.key b = batching.key a
  built : ∀ b ∈ bs, ∃ first rest, (xs.filter fun a => batching.key a = batching.key b) = first :: rest ∧
    rest.foldl batching.combine first = b

variable {bs : List σ} {b : σ}

/-- A batch has the key of one of the elements. -/
theorem Batched.key_mem (batched : Batched batching xs bs) (member : b ∈ bs) :
    ∃ x ∈ xs, batching.key x = batching.key b := by
  obtain ⟨first, rest, own, -⟩ := batched.built b member
  have listed : first ∈ xs.filter fun a => batching.key a = batching.key b := own ▸ List.mem_cons_self
  obtain ⟨inside, same⟩ := List.mem_filter.mp listed
  exact ⟨first, inside, of_decide_eq_true same⟩

/-- The batches behind a key are built of the elements behind it. -/
theorem Batched.built_behind (batched : Batched batching xs bs) (member : b ∈ bs)
    (later : batching.key a ≠ batching.key b) : ∃ first rest,
      ((a :: xs).filter fun x => batching.key x = batching.key b) = first :: rest ∧
      rest.foldl batching.combine first = b := by
  rw [List.filter_cons_of_neg (by simpa using later)]
  exact batched.built b member

theorem Batched.prepend (batched : Batched batching xs bs)
    (ordered : (a :: xs).Pairwise fun a b => batching.key a ≤ batching.key b) :
    Batched batching (a :: xs) (batching.prepend a bs) := by
  have own : ((a :: xs).filter fun x => batching.key x = batching.key a) =
      a :: xs.filter fun x => batching.key x = batching.key a := List.filter_cons_of_pos (by simp)
  cases bs with
  | nil =>
    have empty : xs = [] := by
      apply List.eq_nil_iff_forall_not_mem.mpr
      intro x member
      obtain ⟨_, ⟨⟩, _⟩ := batched.holds x member
    subst empty
    refine ⟨List.pairwise_singleton _ _, ?_, ?_⟩
    · intro x member
      rw [List.mem_singleton.mp member]
      exact ⟨a, List.mem_cons_self, rfl⟩
    · intro b member
      rw [List.mem_singleton.mp member]
      exact ⟨a, [], own, rfl⟩
  | cons b rest =>
    obtain ⟨behind, others⟩ := List.pairwise_cons.mp batched.increasing
    by_cases same : batching.key a = batching.key b
    · have joined : batching.key (batching.combine a b) = batching.key b := (batching.key_combine a b).trans same
      rw [Batching.prepend, if_pos same]
      refine ⟨List.pairwise_cons.mpr ⟨fun c member => joined ▸ behind c member, others⟩, ?_, ?_⟩
      · intro x member
        rcases List.mem_cons.mp member with rfl | inside
        · exact ⟨_, List.mem_cons_self, batching.key_combine x b⟩
        · obtain ⟨c, listed, named⟩ := batched.holds x inside
          rcases List.mem_cons.mp listed with rfl | later
          · exact ⟨_, List.mem_cons_self, joined.trans named⟩
          · exact ⟨c, List.mem_cons_of_mem _ later, named⟩
      · intro c member
        rcases List.mem_cons.mp member with rfl | later
        · obtain ⟨first, more, listed, built⟩ := batched.built b List.mem_cons_self
          rw [joined, ← same, own, same, listed]
          exact ⟨a, _, rfl, by rw [List.foldl_cons, foldl_combine, built]⟩
        · apply batched.built_behind (List.mem_cons_of_mem _ later)
          exact fun equal => (behind c later).ne (same.symm.trans equal)
    · have front : batching.key a < batching.key b := by
        obtain ⟨x, inside, named⟩ := batched.key_mem List.mem_cons_self
        have before := List.rel_of_pairwise_cons ordered inside
        exact lt_of_le_of_ne (named ▸ before) same
      have all : ∀ c ∈ b :: rest, batching.key a < batching.key c := by
        intro c member
        rcases List.mem_cons.mp member with rfl | later
        · exact front
        · exact front.trans (behind c later)
      rw [Batching.prepend, if_neg same]
      refine ⟨List.pairwise_cons.mpr ⟨all, batched.increasing⟩, ?_, ?_⟩
      · intro x member
        rcases List.mem_cons.mp member with rfl | inside
        · exact ⟨x, List.mem_cons_self, rfl⟩
        · obtain ⟨c, listed, named⟩ := batched.holds x inside
          exact ⟨c, List.mem_cons_of_mem _ listed, named⟩
      · intro c member
        rcases List.mem_cons.mp member with rfl | later
        · have alone : (xs.filter fun x => batching.key x = batching.key c) = [] := by
            apply List.filter_eq_nil_iff.mpr
            intro x inside equal
            obtain ⟨d, listed, named⟩ := batched.holds x inside
            exact (all d listed).ne (named.trans (of_decide_eq_true equal)).symm
          exact ⟨c, [], by rw [own, alone], rfl⟩
        · exact batched.built_behind later (all c later).ne

/-- The batches of a list in the order of its keys. -/
theorem batches_batched (ordered : xs.Pairwise fun a b => batching.key a ≤ batching.key b) :
    Batched batching xs (batching.batches xs) := by
  induction xs with
  | nil =>
    refine ⟨.nil, ?_, ?_⟩
    · intro a member
      cases member
    · intro b member
      cases member
  | cons a xs ih => exact (ih (List.pairwise_cons.mp ordered).2).prepend ordered

end

end Batching

end TradeX.Lib
