import Mathlib

/-! Runs of a partial step function over a list of events, and the invariant
rules for them. A rule may restrict the steps by a condition on the state
before the step and on its event. -/

namespace TradeX.Lib

variable {σ : Type u} {ε : Type v}

/-- The state after the events, when every one of them is enabled in turn. -/
def exec (step : σ → ε → Option σ) : σ → List ε → Option σ
  | s, [] => some s
  | s, e :: es => (step s e).bind fun t => exec step t es

/-- `ok` holds at every step the run takes. -/
def Meets (step : σ → ε → Option σ) (ok : σ → ε → Prop) : σ → List ε → Prop
  | _, [] => True
  | s, e :: es => ok s e ∧ match step s e with
    | some t => Meets step ok t es
    | none => True

section

variable {step : σ → ε → Option σ} {ok : σ → ε → Prop} {s t u : σ} {e : ε} {es fs : List ε}

theorem exec_cons (taken : step s e = some t) : exec step s (e :: es) = exec step t es := by
  simp only [exec, taken, Option.bind_some]

theorem exec_cons_inv (run : exec step s (e :: es) = some u) :
    ∃ t, step s e = some t ∧ exec step t es = some u :=
  Option.bind_eq_some_iff.mp run

theorem exec_append_inv (run : exec step s (es ++ fs) = some u) :
    ∃ t, exec step s es = some t ∧ exec step t fs = some u := by
  induction es generalizing s with
  | nil => exact ⟨s, rfl, run⟩
  | cons e es ih =>
    obtain ⟨middle, taken, rest⟩ := exec_cons_inv run
    obtain ⟨t, first, second⟩ := ih rest
    exact ⟨t, by rw [exec_cons taken, first], second⟩

theorem meets_cons (taken : step s e = some t) :
    Meets step ok s (e :: es) ↔ ok s e ∧ Meets step ok t es := by
  simp only [Meets, taken]

theorem Meets.mono {weaker : σ → ε → Prop} (weaken : ∀ s e, ok s e → weaker s e)
    (met : Meets step ok s es) : Meets step weaker s es := by
  induction es generalizing s with
  | nil => trivial
  | cons e es ih =>
    refine ⟨weaken _ _ met.1, ?_⟩
    have rest := met.2
    cases taken : step s e with
    | none => trivial
    | some t =>
      simp only [taken] at rest
      exact ih rest

theorem Meets.and {other : σ → ε → Prop} (first : Meets step ok s es)
    (second : Meets step other s es) : Meets step (fun s e => ok s e ∧ other s e) s es := by
  induction es generalizing s with
  | nil => trivial
  | cons e es ih =>
    refine ⟨⟨first.1, second.1⟩, ?_⟩
    have firstRest := first.2
    have secondRest := second.2
    cases taken : step s e with
    | none => trivial
    | some t =>
      simp only [taken] at firstRest secondRest
      exact ih firstRest secondRest

theorem meets_of_forall {allowed : ε → Prop} (all : ∀ e ∈ es, allowed e) :
    Meets step (fun _ e => allowed e) s es := by
  induction es generalizing s with
  | nil => trivial
  | cons e es ih =>
    refine ⟨all e List.mem_cons_self, ?_⟩
    cases step s e with
    | none => trivial
    | some t => exact ih fun e member => all e (List.mem_cons_of_mem _ member)

/-- What one step preserves where `ok` holds, a run that meets `ok` preserves. -/
theorem exec_invariant {inv : σ → Prop}
    (preserved : ∀ s e t, inv s → ok s e → step s e = some t → inv t)
    (initial : inv s) (met : Meets step ok s es) (run : exec step s es = some t) : inv t := by
  induction es generalizing s with
  | nil =>
    cases run
    exact initial
  | cons e es ih =>
    obtain ⟨middle, taken, rest⟩ := exec_cons_inv run
    obtain ⟨here, later⟩ := (meets_cons taken).mp met
    exact ih (preserved s e middle initial here taken) later rest

/-- The invariant holds before every step of such a run. -/
theorem meets_invariant {inv : σ → Prop}
    (preserved : ∀ s e t, inv s → ok s e → step s e = some t → inv t)
    (initial : inv s) (met : Meets step ok s es) : Meets step (fun s e => inv s ∧ ok s e) s es := by
  induction es generalizing s with
  | nil => trivial
  | cons e es ih =>
    refine ⟨⟨initial, met.1⟩, ?_⟩
    have rest := met.2
    cases taken : step s e with
    | none => trivial
    | some t =>
      simp only [taken] at rest
      exact ih (preserved s e t initial met.1 taken) rest

/-- Two conditions that agree where the invariant holds, and of which one preserves it,
are met by the same runs. -/
theorem meets_iff {inv : σ → Prop} {other : σ → ε → Prop}
    (agree : ∀ s e, inv s → (ok s e ↔ other s e))
    (preserved : ∀ s e t, inv s → ok s e → step s e = some t → inv t) (initial : inv s) :
    Meets step ok s es ↔ Meets step other s es := by
  induction es generalizing s with
  | nil => exact Iff.rfl
  | cons e es ih =>
    refine (and_congr_right fun here => ?_).trans (and_congr_left' (agree s e initial))
    cases taken : step s e with
    | none => exact Iff.rfl
    | some t => exact ih (preserved s e t initial here taken)

end

instance decidableMeets {step : σ → ε → Option σ} {ok : σ → ε → Prop}
    [decide : ∀ s e, Decidable (ok s e)] :
    (s : σ) → (es : List ε) → Decidable (Meets step ok s es)
  | _, [] => isTrue trivial
  | s, e :: es =>
    match decide s e with
    | isFalse fails => isFalse fun met => fails met.1
    | isTrue here =>
      match taken : step s e with
      | none => isTrue ⟨here, by simp only [taken]⟩
      | some t =>
        match decidableMeets t es with
        | isTrue later => isTrue ((meets_cons taken).mpr ⟨here, later⟩)
        | isFalse fails => isFalse fun met => fails ((meets_cons taken).mp met).2

end TradeX.Lib
