import Mathlib

/-! Rising edges: the elements of a log that are bad right behind one that is not. -/

namespace TradeX.Lib

variable {α : Type u} {bad : α → Prop} [DecidablePred bad] {before : Bool} {xs : List α} {a : α}

/-- The rising edges behind an element that is bad or not. -/
def risesFrom (bad : α → Prop) [DecidablePred bad] : Bool → List α → List α
  | _, [] => []
  | before, a :: xs =>
    if bad a ∧ before = false then a :: risesFrom bad (decide (bad a)) xs else risesFrom bad (decide (bad a)) xs

/-- The rising edges of a log, of which the first element is one where it is bad. -/
def rises (bad : α → Prop) [DecidablePred bad] (xs : List α) : List α := risesFrom bad false xs

/-- The last element is bad; of an empty log, the one before it. -/
def lastFrom (bad : α → Prop) [DecidablePred bad] (before : Bool) (xs : List α) : Bool :=
  xs.foldl (fun _ a => decide (bad a)) before

theorem lastFrom_concat : lastFrom bad before (xs ++ [a]) = decide (bad a) := by
  simp [lastFrom]

theorem risesFrom_concat : risesFrom bad before (xs ++ [a]) =
    risesFrom bad before xs ++ if bad a ∧ lastFrom bad before xs = false then [a] else [] := by
  induction xs generalizing before with
  | nil =>
    simp only [List.nil_append, risesFrom, lastFrom, List.foldl_nil]
    congr
  | cons b xs ih =>
    have step : lastFrom bad before (b :: xs) = lastFrom bad (decide (bad b)) xs := rfl
    rw [List.cons_append, risesFrom, ih, risesFrom, step]
    by_cases edge : bad b ∧ before = false
    · rw [if_pos edge, if_pos edge, List.cons_append]
    · rw [if_neg edge, if_neg edge]

end TradeX.Lib
