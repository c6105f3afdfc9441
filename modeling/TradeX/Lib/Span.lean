import Mathlib

/-! Closed spans of integers, and the loop that cuts a span into spans of bounded size. -/

namespace TradeX.Lib

structure Span where
  first : ℤ
  last : ℤ
  deriving DecidableEq, Repr

namespace Span

instance : Membership ℤ Span := ⟨fun span day => span.first ≤ day ∧ day ≤ span.last⟩

theorem mem_iff {span : Span} {day : ℤ} : day ∈ span ↔ span.first ≤ day ∧ day ≤ span.last := Iff.rfl

@[simp] theorem mem_mk {first last day : ℤ} : day ∈ Span.mk first last ↔ first ≤ day ∧ day ≤ last := Iff.rfl

instance (span : Span) (day : ℤ) : Decidable (day ∈ span) := inferInstanceAs (Decidable (_ ∧ _))

/-- No integer is in both. -/
def Apart (span other : Span) : Prop := span.last < other.first ∨ other.last < span.first

def length (span : Span) : ℤ := span.last - span.first + 1

/-- The pieces of a span from a position on: each starts where the one before it ends. -/
inductive Tiles (size last : ℤ) : ℤ → List Span → Prop where
  | done {current} : last < current → Tiles size last current []
  | more {current stop rest} : current ≤ stop → stop ≤ last → stop - current + 1 ≤ size →
      Tiles size last (stop + 1) rest → Tiles size last current (⟨current, stop⟩ :: rest)

/-- The loop over the pieces, for as many rounds as there are integers left. It has no result where a
piece makes no progress. -/
def cutFrom (size last : ℤ) : ℕ → ℤ → Option (List Span)
  | 0, current => if current ≤ last then none else some []
  | rounds + 1, current =>
    if current ≤ last then
      (cutFrom size last rounds (min (current + (size - 1)) last + 1)).map
        (⟨current, min (current + (size - 1)) last⟩ :: ·)
    else some []

def cut (size : ℤ) (span : Span) : Option (List Span) :=
  cutFrom size span.last (span.last + 1 - span.first).toNat span.first

variable {size last current : ℤ} {spans : List Span} {span piece : Span}

theorem cutFrom_tiles (positive : 0 < size) (rounds : ℕ) (enough : last + 1 - current ≤ rounds) :
    ∃ spans, cutFrom size last rounds current = some spans ∧ Tiles size last current spans := by
  induction rounds generalizing current with
  | zero =>
    have past : ¬current ≤ last := by omega
    refine ⟨[], if_neg past, .done ?_⟩
    omega
  | succ rounds ih =>
    by_cases left : current ≤ last
    · have stop := min_le_left (current + (size - 1)) last
      have stop' := min_le_right (current + (size - 1)) last
      have progress : current ≤ min (current + (size - 1)) last := le_min (by omega) left
      obtain ⟨rest, cutRest, tiles⟩ := @ih (min (current + (size - 1)) last + 1) (by omega)
      refine ⟨⟨current, min (current + (size - 1)) last⟩ :: rest, ?_, ?_⟩
      · simp only [cutFrom, if_pos left, cutRest, Option.map_some]
      · exact .more progress stop' (by omega) tiles
    · refine ⟨[], if_neg left, .done ?_⟩
      omega

theorem cut_tiles (positive : 0 < size) (span : Span) :
    ∃ spans, span.cut size = some spans ∧ Tiles size span.last span.first spans := by
  apply cutFrom_tiles positive
  omega

/-- A cut covers its span and no more. -/
theorem Tiles.covers (tiles : Tiles size last current spans) (day : ℤ) :
    (∃ piece ∈ spans, day ∈ piece) ↔ current ≤ day ∧ day ≤ last := by
  induction tiles with
  | done past =>
    constructor
    · rintro ⟨_, ⟨⟩, _⟩
    · intro between
      omega
  | @more current stop rest begins ends _ _ ih =>
    rw [List.exists_mem_cons_iff, ih, mem_mk]
    constructor
    · intro either
      omega
    · intro between
      omega

theorem Tiles.within (tiles : Tiles size last current spans) (member : piece ∈ spans) :
    current ≤ piece.first ∧ piece.first ≤ piece.last ∧ piece.last ≤ last ∧ piece.length ≤ size := by
  induction tiles with
  | done => cases member
  | more begins ends sized _ ih =>
    rcases List.mem_cons.mp member with rfl | later
    · exact ⟨le_refl _, begins, ends, sized⟩
    · have bounds := ih later
      omega

theorem Tiles.apart (tiles : Tiles size last current spans) : spans.Pairwise Apart := by
  induction tiles with
  | done => exact .nil
  | more _ _ _ tail ih =>
    refine .cons ?_ ih
    intro piece member
    exact .inl (Int.lt_iff_add_one_le.mpr (tail.within member).1)

/-- Pieces of spans that are apart are apart. -/
theorem Apart.pieces {left right : Span} (apart : span.Apart piece) (first : span.first ≤ left.first)
    (last : left.last ≤ span.last) (first' : piece.first ≤ right.first) (last' : right.last ≤ piece.last) :
    left.Apart right := by
  simp only [Apart] at apart ⊢
  omega

end Span

end TradeX.Lib
