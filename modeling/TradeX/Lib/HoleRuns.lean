import Mathlib

/-! Holes in a row of places: the maximal runs of holes, the scan of a sorted list that finds them, and what a list of
ranges has to fulfil to be all of them. -/

namespace TradeX.Lib

section

variable {α : Type u} [LinearOrder α]

/-- From a hole to a hole, with no place between them that is none. -/
structure HoleRun (places : Set α) (hole : α → Prop) (range : α × α) : Prop where
  ordered : range.1 ≤ range.2
  first : range.1 ∈ places ∧ hole range.1
  last : range.2 ∈ places ∧ hole range.2
  holes : ∀ a ∈ places, range.1 ≤ a → a ≤ range.2 → hole a

/-- A run that no longer run contains. -/
def MaximalRun (places : Set α) (hole : α → Prop) (range : α × α) : Prop :=
  HoleRun places hole range ∧
    ∀ longer, HoleRun places hole longer → longer.1 ≤ range.1 → range.2 ≤ longer.2 → longer = range

/-- Ranges of holes in their order, which cover all holes and have a place that is none between each two. -/
structure HoleRanges (places : Set α) (hole : α → Prop) (ranges : List (α × α)) : Prop where
  runs : ∀ range ∈ ranges, HoleRun places hole range
  covers : ∀ a ∈ places, hole a → ∃ range ∈ ranges, range.1 ≤ a ∧ a ≤ range.2
  parted : ranges.Pairwise fun before behind =>
    ∃ c ∈ places, ¬hole c ∧ before.2 < c ∧ c < behind.1

namespace HoleRanges

variable {places : Set α} {hole : α → Prop} {ranges : List (α × α)} {range other : α × α} {a b : α}

/-- Two ranges have a place between them that is no hole. -/
theorem between (found : HoleRanges places hole ranges) (member : range ∈ ranges) (member' : other ∈ ranges)
    (different : range ≠ other) : (∃ c ∈ places, ¬hole c ∧ range.2 < c ∧ c < other.1) ∨
      ∃ c ∈ places, ¬hole c ∧ other.2 < c ∧ c < range.1 := by
  let Parted (before behind : α × α) : Prop := ∃ c ∈ places, ¬hole c ∧ before.2 < c ∧ c < behind.1
  have symm : Std.Symm fun before behind => Parted before behind ∨ Parted behind before := ⟨fun _ _ => Or.symm⟩
  have either : ranges.Pairwise fun before behind => Parted before behind ∨ Parted behind before :=
    found.parted.imp Or.inl
  exact either.forall member member' different

/-- Two ranges that meet one run are one range. -/
theorem same_of_run (found : HoleRanges places hole ranges) (member : range ∈ ranges) (member' : other ∈ ranges)
    (run : HoleRun places hole (a, b)) (inside : range.1 ≤ b ∧ a ≤ range.2) (inside' : other.1 ≤ b ∧ a ≤ other.2) :
    range = other := by
  by_contra different
  rcases found.between member member' different with ⟨c, placed, filled, behind, before⟩ |
    ⟨c, placed, filled, behind, before⟩
  · exact filled (run.holes c placed (inside.2.trans behind.le) (before.le.trans inside'.1))
  · exact filled (run.holes c placed (inside'.2.trans behind.le) (before.le.trans inside.1))

/-- The ranges are the maximal runs. -/
theorem mem_iff (found : HoleRanges places hole ranges) : range ∈ ranges ↔ MaximalRun places hole range := by
  constructor
  · intro member
    have mine := found.runs range member
    refine ⟨mine, fun longer run begins ends => ?_⟩
    obtain ⟨first, firstMember, opens⟩ := found.covers longer.1 run.first.1 run.first.2
    obtain ⟨last, lastMember, closes⟩ := found.covers longer.2 run.last.1 run.last.2
    have touches : range.1 ≤ longer.2 ∧ longer.1 ≤ range.2 :=
      ⟨mine.ordered.trans ends, begins.trans mine.ordered⟩
    obtain rfl := found.same_of_run firstMember member run ⟨opens.1.trans run.ordered, opens.2⟩ touches
    obtain rfl := found.same_of_run lastMember member run ⟨closes.1, run.ordered.trans closes.2⟩ touches
    exact Prod.ext (le_antisymm begins opens.1) (le_antisymm closes.2 ends)
  · rintro ⟨run, maximal⟩
    obtain ⟨first, firstMember, opens⟩ := found.covers range.1 run.first.1 run.first.2
    obtain ⟨last, lastMember, closes⟩ := found.covers range.2 run.last.1 run.last.2
    obtain rfl := found.same_of_run firstMember lastMember run ⟨opens.1.trans run.ordered, opens.2⟩
      ⟨closes.1, run.ordered.trans closes.2⟩
    rw [← maximal first (found.runs first firstMember) opens.1 closes.2]
    exact firstMember

/-- Every hole is in one range. -/
theorem existsUnique (found : HoleRanges places hole ranges) (placed : a ∈ places) (here : hole a) :
    ∃! range, range ∈ ranges ∧ range.1 ≤ a ∧ a ≤ range.2 := by
  obtain ⟨range, member, inside⟩ := found.covers a placed here
  refine ⟨range, ⟨member, inside⟩, ?_⟩
  rintro other ⟨member', inside'⟩
  have alone : HoleRun places hole (a, a) := by
    refine ⟨le_refl _, ⟨placed, here⟩, ⟨placed, here⟩, fun b _ begins ends => ?_⟩
    rw [le_antisymm ends begins]
    exact here
  exact found.same_of_run member' member alone inside' inside

theorem increasing (found : HoleRanges places hole ranges) :
    ranges.Pairwise fun before behind => before.2 < behind.1 := by
  refine found.parted.imp ?_
  rintro before behind ⟨c, -, -, past, front⟩
  exact past.trans front

end HoleRanges

/-- The ranges that a scan of the places finds: a place that is no hole is passed, and a block of holes ends in front
of such a place or at the end. -/
inductive Scanned (hole : α → Prop) : List α → List (α × α) → Prop where
  | done : Scanned hole [] []
  | filled {a rest ranges} (filled : ¬hole a) (scanned : Scanned hole rest ranges) : Scanned hole (a :: rest) ranges
  | block {a holes rest ranges} (empty : ∀ b ∈ a :: holes, hole b) (ends : ∀ b ∈ rest.head?, ¬hole b)
    (scanned : Scanned hole rest ranges) :
    Scanned hole ((a :: holes) ++ rest) ((a, (a :: holes).getLast (List.cons_ne_nil _ _)) :: ranges)

variable {hole : α → Prop} {xs : List α} {ranges : List (α × α)}

/-- The scan of a sorted list finds all runs. -/
theorem Scanned.holeRanges (scanned : Scanned hole xs ranges) (sorted : xs.Pairwise (· < ·)) :
    HoleRanges {a | a ∈ xs} hole ranges := by
  induction scanned with
  | done => exact ⟨nofun, nofun, List.Pairwise.nil⟩
  | @filled a rest ranges filled _ ih =>
    obtain ⟨before, tail⟩ := List.pairwise_cons.mp sorted
    have found := ih tail
    refine ⟨fun range member => ?_, fun b placed here => ?_, found.parted.imp ?_⟩
    · have run := found.runs range member
      refine ⟨run.ordered, ⟨List.mem_cons_of_mem _ run.first.1, run.first.2⟩,
        ⟨List.mem_cons_of_mem _ run.last.1, run.last.2⟩, fun b placed begins ends => ?_⟩
      rcases List.mem_cons.mp placed with rfl | later
      · exact absurd begins (not_le.mpr (before _ run.first.1))
      · exact run.holes b later begins ends
    · rcases List.mem_cons.mp placed with rfl | later
      · exact absurd here filled
      · exact found.covers b later here
    · rintro first second ⟨c, placed, between⟩
      exact ⟨c, List.mem_cons_of_mem _ placed, between⟩
  | @block a holes rest ranges empty ends _ ih =>
    obtain ⟨blockSorted, tail, across⟩ := List.pairwise_append.mp sorted
    have found := ih tail
    have last := List.getLast_mem (List.cons_ne_nil a holes)
    have most : ∀ b ∈ a :: holes, b ≤ (a :: holes).getLast (List.cons_ne_nil a holes) := by
      intro b member
      exact (blockSorted.imp le_of_lt).rel_getLast_of_rel_getLast_getLast member (le_refl _)
    generalize (a :: holes).getLast (List.cons_ne_nil a holes) = z at last most ⊢
    have least : ∀ b ∈ a :: holes, a ≤ b := by
      intro b member
      rcases List.mem_cons.mp member with rfl | later
      · exact le_refl _
      · exact ((List.pairwise_cons.mp blockSorted).1 b later).le
    refine ⟨fun range member => ?_, fun b placed here => ?_, List.pairwise_cons.mpr ⟨fun range member => ?_, ?_⟩⟩
    · rcases List.mem_cons.mp member with rfl | later
      · refine ⟨most a List.mem_cons_self, ⟨List.mem_append_left _ List.mem_cons_self, empty a List.mem_cons_self⟩,
          ⟨List.mem_append_left _ last, empty z last⟩, fun b placed begins ends' => ?_⟩
        rcases List.mem_append.mp placed with inside | behind
        · exact empty b inside
        · exact absurd ends' (not_le.mpr (across z last b behind))
      · have run := found.runs range later
        refine ⟨run.ordered, ⟨List.mem_append_right _ run.first.1, run.first.2⟩,
          ⟨List.mem_append_right _ run.last.1, run.last.2⟩, fun b placed begins ends' => ?_⟩
        rcases List.mem_append.mp placed with inside | behind
        · exact empty b inside
        · exact run.holes b behind begins ends'
    · rcases List.mem_append.mp placed with inside | behind
      · exact ⟨_, List.mem_cons_self, least b inside, most b inside⟩
      · obtain ⟨range, member, between⟩ := found.covers b behind here
        exact ⟨range, List.mem_cons_of_mem _ member, between⟩
    · -- the place behind the block parts it from every later run
      have run := found.runs range member
      obtain ⟨c, more, rfl⟩ := List.exists_cons_of_ne_nil (List.ne_nil_of_mem run.first.1)
      have filled := ends c rfl
      refine ⟨c, List.mem_append_right _ List.mem_cons_self, filled, across z last c List.mem_cons_self, ?_⟩
      rcases List.mem_cons.mp run.first.1 with same | later
      · exact absurd (same ▸ run.first.2) filled
      · exact (List.pairwise_cons.mp tail).1 _ later
    · refine found.parted.imp ?_
      rintro first second ⟨c, placed, between⟩
      exact ⟨c, List.mem_append_right _ placed, between⟩

end

end TradeX.Lib
