import TradeX.Lib.Runs

/-! Interleaving of threads that act on one shared state. Each event names the
thread that takes the step. The rule separates what a step does to the acting
thread from what it does to the others. -/

namespace TradeX.Lib

/-- A shared state with the local state of every thread. -/
structure Pool (ι : Type u) (σ : Type v) (τ : Type w) where
  shared : σ
  thread : ι → τ

namespace TwoThreads

/-- One instance behind the numerals of every pool of two threads. -/
scoped instance two_threads : NeZero 2 := ⟨two_ne_zero⟩

end TwoThreads

namespace Pool

variable {ι : Type u} {σ : Type v} {τ : Type w} {ε : Type x} [DecidableEq ι]

/-- Thread `event.1` takes one step; the step is not enabled where `act` is not. -/
def step (act : σ → τ → ε → Option (σ × τ)) (p : Pool ι σ τ) (event : ι × ε) : Option (Pool ι σ τ) :=
  (act p.shared (p.thread event.1) event.2).map fun after =>
    ⟨after.1, Function.update p.thread event.1 after.2⟩

/-- A shared invariant, one for each thread against the shared state, and one
for each pair of different threads. -/
structure Holds (common : σ → Prop) (each : σ → τ → Prop) (pair : τ → τ → Prop)
    (p : Pool ι σ τ) : Prop where
  common : common p.shared
  each : ∀ i, each p.shared (p.thread i)
  pair : ∀ i j, i ≠ j → pair (p.thread i) (p.thread j)

/-- What a step owes: the acting thread's own part, and the part of a thread
that does not act. -/
structure Preserves (act : σ → τ → ε → Option (σ × τ)) (ok : σ → τ → ε → Prop)
    (common : σ → Prop) (each : σ → τ → Prop) (pair : τ → τ → Prop) : Prop where
  own : ∀ {s l e s' l'}, common s → each s l → ok s l e → act s l e = some (s', l') →
    common s' ∧ each s' l'
  other : ∀ {s l e s' l' m}, common s → each s l → each s m → pair l m → pair m l → ok s l e →
    act s l e = some (s', l') → each s' m ∧ pair l' m ∧ pair m l'

variable {act : σ → τ → ε → Option (σ × τ)} {ok : σ → τ → ε → Prop}
  {common : σ → Prop} {each : σ → τ → Prop} {pair : τ → τ → Prop} {p q : Pool ι σ τ}

theorem step_some {event : ι × ε} (taken : step act p event = some q) :
    ∃ s l, act p.shared (p.thread event.1) event.2 = some (s, l) ∧
      q = ⟨s, Function.update p.thread event.1 l⟩ := by
  obtain ⟨⟨s, l⟩, acted, same⟩ := Option.map_eq_some_iff.mp taken
  exact ⟨s, l, acted, same.symm⟩

theorem Preserves.step (owed : Preserves act ok common each pair) {event : ι × ε}
    (held : Holds common each pair p) (allowed : ok p.shared (p.thread event.1) event.2)
    (taken : Pool.step act p event = some q) : Holds common each pair q := by
  obtain ⟨s, l, acted, rfl⟩ := step_some taken
  obtain ⟨commonAfter, eachAfter⟩ := owed.own held.common (held.each event.1) allowed acted
  have others : ∀ i, i ≠ event.1 →
      each s (p.thread i) ∧ pair l (p.thread i) ∧ pair (p.thread i) l := fun i ne =>
    owed.other held.common (held.each event.1) (held.each i) (held.pair _ _ ne.symm)
      (held.pair _ _ ne) allowed acted
  refine ⟨commonAfter, fun i => ?_, fun i j ne => ?_⟩
  · by_cases same : i = event.1
    · subst same
      simpa only [Function.update_self] using eachAfter
    · simpa only [Function.update_of_ne same] using (others i same).1
  · by_cases first : i = event.1
    · have second : j ≠ event.1 := fun h => ne (first.trans h.symm)
      subst first
      simpa only [Function.update_self, Function.update_of_ne second] using (others j second).2.1
    · by_cases second : j = event.1
      · subst second
        simpa only [Function.update_self, Function.update_of_ne first] using (others i first).2.2
      · simpa only [Function.update_of_ne first, Function.update_of_ne second] using held.pair i j ne

/-- The rule for whole runs of the pool. -/
theorem Preserves.exec (owed : Preserves act ok common each pair) {es : List (ι × ε)}
    (initial : Holds common each pair p)
    (met : Meets (Pool.step act) (fun p event => ok p.shared (p.thread event.1) event.2) p es)
    (run : exec (Pool.step act) p es = some q) : Holds common each pair q :=
  exec_invariant (fun _ _ _ held allowed taken => owed.step held allowed taken) initial met run

end Pool

end TradeX.Lib
