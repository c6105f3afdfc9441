import TradeX.Lib.Drawdown
import TradeX.V1.Simulation

/-! The maximum drawdown of a path of equities: as the statistics compute it from the running peaks, with a
duration from a search of its own, and as the sessions compute it in one pass over their curves. -/

namespace TradeX.V1

open Lib Lib.Drawdown

/-- `np.maximum.accumulate`, behind the peak so far. -/
def accumulateFrom (peak : ℚ) : List ℚ → List ℚ
  | [] => []
  | equity :: equities => max peak equity :: accumulateFrom (max peak equity) equities

/-- `np.maximum.accumulate` -/
def accumulate : List ℚ → List ℚ
  | [] => []
  | equity :: equities => equity :: accumulateFrom equity equities

/-- The drawdowns from the peaks, those that are finite numbers. -/
def drawdowns (peaks equities : List ℚ) : List ℚ :=
  ((peaks.zip equities).filter fun pair => pair.1 ≠ 0).map fun pair => (pair.1 - pair.2) / pair.1

/-- `np.argmax` -/
def npArgmax (values : List ℚ) : Nat := values.idxOf (values.max?.getD 0)

/-- `np.argmin` -/
def npArgmin (values : List ℚ) : Nat := values.idxOf (values.min?.getD 0)

/-- `StatisticsEngine.max_drawdown` -/
def maxDrawdown (equities : List ℚ) : ℚ × ℤ :=
  if equities.length < 2 then (0, 0)
  else
    let dd := (drawdowns (accumulate equities) equities).max?.getD 0
    let peakIdx := npArgmax equities
    let troughIdx :=
      if peakIdx < equities.length then npArgmin (equities.drop peakIdx) + peakIdx else equities.length - 1
    (dd, (troughIdx : ℤ) - peakIdx)

/-- One point of a curve in the loop of a session, over the peak and the maximum so far. -/
def drawdownStep (state : ℚ × ℚ) (equity : ℚ) : ℚ × ℚ :=
  let peak := if state.1 < equity then equity else state.1
  let dd := if 0 < peak then (peak - equity) / peak else 0
  (peak, max state.2 dd)

/-- `PaperSession.max_drawdown` and `ReplaySession.max_drawdown` -/
def SimulationSession.maxDrawdown (session : SimulationSession) : ℚ :=
  if session.equityCurve = [] then 0 else ((session.equityCurve.map Prod.snd).foldl drawdownStep (0, 0)).2

variable {equities : List ℚ} {peak worst equity : ℚ}

/-- A point of a curve after a peak that is positive. -/
theorem drawdownStep_eq (positive : 0 < peak) :
    drawdownStep (peak, worst) equity = (max peak equity, max worst (loss (max peak equity) equity)) := by
  have top : (if peak < equity then equity else peak) = max peak equity := by
    rcases lt_or_ge peak equity with up | down
    · rw [if_pos up, max_eq_right up.le]
    · rw [if_neg down.not_gt, max_eq_left down]
  simp only [drawdownStep, top, lt_max_of_lt_left positive, if_true, loss]

/-- The first point of a curve is its peak, without a loss. -/
theorem drawdownStep_start (positive : 0 < equity) : drawdownStep (0, 0) equity = (equity, 0) := by
  simp only [drawdownStep, positive, if_true, sub_self, zero_div, max_self]

theorem reads_foldl {path : List ℚ} (reads : Reads path peak worst) (positive : ∀ v ∈ path ++ equities, 0 < v) :
    Reads (path ++ equities) (equities.foldl drawdownStep (peak, worst)).1
      (equities.foldl drawdownStep (peak, worst)).2 := by
  induction equities generalizing path peak worst with
  | nil => rwa [List.append_nil]
  | cons equity equities ih =>
    have inside : ∀ v ∈ path ++ [equity], 0 < v := by
      intro v member
      apply positive v
      rw [List.append_cons]
      exact List.mem_append_left _ member
    rw [List.append_cons] at positive ⊢
    rw [List.foldl_cons, drawdownStep_eq (inside peak (List.mem_append_left _ reads.peak.1))]
    exact ih (reads.concat inside) positive

/-- The greatest of the drawdowns is what the loop of a session has behind the same points. -/
theorem foldl_drawdowns (positive : 0 < peak) :
    (equities.foldl drawdownStep (peak, worst)).2 =
      (drawdowns (accumulateFrom peak equities) equities).foldl max worst := by
  induction equities generalizing peak worst with
  | nil => rfl
  | cons equity equities ih =>
    have up : 0 < max peak equity := lt_max_of_lt_left positive
    rw [List.foldl_cons, drawdownStep_eq positive, ih up]
    simp only [drawdowns, accumulateFrom, List.zip_cons_cons]
    rw [List.filter_cons_of_pos (by simpa using up.ne'), List.map_cons, List.foldl_cons, loss]

/-- Where there are equities, the fraction is what the loop of a session has behind all of them. -/
theorem maxDrawdown_fst (positive : ∀ v ∈ equities, 0 < v) :
    (maxDrawdown equities).1 = if equities = [] then 0 else (equities.foldl drawdownStep (0, 0)).2 := by
  match equities with
  | [] => rfl
  | [equity] =>
    have first : 0 < equity := positive equity List.mem_cons_self
    rw [if_neg (List.cons_ne_nil _ _), List.foldl_cons, drawdownStep_start first]
    rfl
  | equity :: next :: rest =>
    have first : 0 < equity := positive equity List.mem_cons_self
    have long : ¬ (equity :: next :: rest).length < 2 := by simp
    rw [if_neg (List.cons_ne_nil _ _), List.foldl_cons, drawdownStep_start first, foldl_drawdowns first, maxDrawdown,
      if_neg long, accumulate]
    -- The first drawdown is none.
    have zero : drawdowns (equity :: accumulateFrom equity (next :: rest)) (equity :: next :: rest) =
        0 :: drawdowns (accumulateFrom equity (next :: rest)) (next :: rest) := by
      simp only [drawdowns, List.zip_cons_cons]
      rw [List.filter_cons_of_pos (by simpa using first.ne'), List.map_cons, sub_self, zero_div]
    simp only [zero, List.max?_cons', Option.getD_some]

theorem npArgmax_first (some_ : equities ≠ []) : FirstHighest equities (npArgmax equities) := by
  obtain ⟨top, found⟩ := Option.isSome_iff_exists.mp (List.isSome_max?_iff.mpr some_)
  obtain ⟨member, above⟩ := List.max?_eq_some_iff.mp found
  rw [npArgmax, found, Option.getD_some]
  exact ⟨top, List.getElem?_idxOf member, above, (List.mem_take_iff_idxOf_lt member).not.mpr (lt_irrefl _)⟩

theorem npArgmin_first {k : Nat} (inside : k < equities.length) :
    FirstLowest equities k (npArgmin (equities.drop k) + k) := by
  have some_ : equities.drop k ≠ [] := by
    intro none_
    exact absurd (List.drop_eq_nil_iff.mp none_) (not_le.mpr inside)
  obtain ⟨bottom, found⟩ := Option.isSome_iff_exists.mp (List.isSome_min?_iff.mpr some_)
  obtain ⟨member, below⟩ := List.min?_eq_some_iff.mp found
  rw [npArgmin, found, Option.getD_some]
  refine ⟨Nat.le_add_left _ _, bottom, ?_, below, ?_⟩
  · rw [Nat.add_comm, ← List.getElem?_drop, List.getElem?_idxOf member]
  · rw [Nat.add_sub_cancel]
    exact (List.mem_take_iff_idxOf_lt member).not.mpr (lt_irrefl _)

/-- The duration is the distance from the first highest equity to the first lowest one from there on. -/
theorem maxDrawdown_snd (some_ : equities ≠ []) : ∃ k l, FirstHighest equities k ∧ FirstLowest equities k l ∧
    (maxDrawdown equities).2 = (l : ℤ) - k := by
  have first := npArgmax_first some_
  have inside : npArgmax equities < equities.length := by
    obtain ⟨top, found, -⟩ := first
    exact (List.getElem?_eq_some_iff.mp found).1
  refine ⟨_, _, first, npArgmin_first inside, ?_⟩
  rw [maxDrawdown]
  split
  · next short =>
    obtain ⟨equity, rfl⟩ : ∃ equity, equities = [equity] := by
      apply List.length_eq_one_iff.mp
      have := List.length_pos_of_ne_nil some_
      omega
    simp [npArgmax, npArgmin]
  · simp only [if_pos inside]

theorem reads_equities (positive : ∀ v ∈ equities, 0 < v) (some_ : equities ≠ []) :
    IsGreatest (losses equities) (maxDrawdown equities).1 := by
  rw [maxDrawdown_fst positive, if_neg some_]
  cases equities with
  | nil => exact absurd rfl some_
  | cons equity rest =>
    rw [List.foldl_cons, drawdownStep_start (positive equity List.mem_cons_self)]
    have whole : Reads ([equity] ++ rest) _ _ := reads_foldl reads_singleton positive
    exact whole.worst

/-- The fraction is the greatest loss of the path and what a session computes over a curve of the same equities,
and the duration is the distance of two places between which so much is lost. -/
structure DrawdownHolds (equities : List ℚ) (session : SimulationSession) : Prop where
  fraction : equities ≠ [] → IsGreatest (losses equities) (maxDrawdown equities).1
  session : session.maxDrawdown = (maxDrawdown equities).1
  duration : equities ≠ [] → ∃ i j, Loses equities i j (maxDrawdown equities).1 ∧ (maxDrawdown equities).2 = (j : ℤ) - i

/-- Some greatest loss starts from the highest equity, or is as long as the way from the first highest equity to the
first lowest one from there on. -/
def DeepestFromHighest (equities : List ℚ) : Prop :=
  ∃ i j, Deepest equities i j ∧ ((∀ v ∈ equities, ∀ top, equities[i]? = some top → v ≤ top) ∨
    ∃ k l, FirstHighest equities k ∧ FirstLowest equities k l ∧ (j : ℤ) - i = l - k)

theorem maxDrawdown_holds_iff (positive : ∀ v ∈ equities, 0 < v) {session : SimulationSession}
    (curve : session.equityCurve.map Prod.snd = equities) :
    DrawdownHolds equities session ↔ (equities ≠ [] → DeepestFromHighest equities) := by
  have greatest := reads_equities positive
  have unique {i j : Nat} (some_ : equities ≠ []) :
      Deepest equities i j ↔ Loses equities i j (maxDrawdown equities).1 := by
    constructor
    · rintro ⟨part, loses, most⟩
      rwa [most.unique (greatest some_)] at loses
    · exact fun loses => ⟨_, loses, greatest some_⟩
  constructor
  · intro holds some_
    obtain ⟨i, j, loses, long⟩ := holds.duration some_
    obtain ⟨k, l, first, lowest, same⟩ := maxDrawdown_snd some_
    exact ⟨i, j, (unique some_).mpr loses, .inr ⟨k, l, first, lowest, long.symm.trans same⟩⟩
  · intro from_
    refine ⟨greatest, ?_, ?_⟩
    · have ends : session.equityCurve = [] ↔ equities = [] := by rw [← curve, List.map_eq_nil_iff]
      rw [SimulationSession.maxDrawdown, maxDrawdown_fst positive, curve]
      simp only [ends]
    · intro some_
      obtain ⟨i, j, deepest, highest | ⟨k, l, first, lowest, long⟩⟩ := from_ some_
      · obtain ⟨k, l, first, lowest, same⟩ := maxDrawdown_snd some_
        exact ⟨k, l, (unique some_).mp (deepest_of_highest positive deepest highest first lowest), same⟩
      · obtain ⟨m, n, again, last, same⟩ := maxDrawdown_snd some_
        obtain rfl := first.unique again
        obtain rfl := lowest.unique last
        exact ⟨i, j, (unique some_).mp deepest, same.trans long.symm⟩

/-- A session with these points. -/
def curveSession (equities : List ℚ) : SimulationSession where
  capital := 100
  equityCurve := equities.map fun equity => (0, equity)

theorem deepest_last_holds_iff : (∀ v ∈ [100, 110, 90, (80 : ℚ)], 0 < v) ∧
    (curveSession [100, 110, 90, 80]).equityCurve.map Prod.snd = [100, 110, 90, 80] ∧
    (DrawdownHolds [100, 110, 90, 80] (curveSession [100, 110, 90, 80]) ↔
      ([100, 110, 90, (80 : ℚ)] ≠ [] → DeepestFromHighest [100, 110, 90, 80])) :=
  ⟨by decide +kernel, rfl, maxDrawdown_holds_iff (by decide +kernel) rfl⟩

example : maxDrawdown [100, 110, 90, 80] = (3 / 11, 2) := by decide +kernel

/-- Half is lost in one step before the highest equity, and the duration is that of the smaller loss behind it. -/
theorem duration_of_another_loss :
    ¬ DrawdownHolds [100, 50, 200, 190, 180] (curveSession [100, 50, 200, 190, 180]) := by
  intro holds
  have result : maxDrawdown [100, 50, 200, 190, 180] = (1 / 2, 2) := by decide +kernel
  obtain ⟨i, j, ⟨-, a, b, first, second, half⟩, long⟩ := holds.duration (List.cons_ne_nil _ _)
  rw [result] at half long
  have inside := (List.getElem?_eq_some_iff.mp second).1
  obtain rfl : j = i + 2 := by omega
  have few : i < 3 := by
    simp only [List.length_cons, List.length_nil] at inside
    omega
  have apart : ∀ i < 3, ([100, 50, 200, 190, (180 : ℚ)][i]?.bind fun a =>
      [100, 50, 200, 190, (180 : ℚ)][i + 2]?.map fun b => loss a b) ≠ some (1 / 2) := by decide +kernel
  apply apart i few
  rw [first, second, Option.bind_some, Option.map_some, half]

end TradeX.V1
