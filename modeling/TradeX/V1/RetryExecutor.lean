import TradeX.Lib.Interleaving
import TradeX.V1.CircuitBreaker

/-! Calls of the retry executor that share one circuit breaker. Each goes through its attempts in steps of its own
(the check of the breaker, the rate limiter, the function, the record of its outcome), and the steps of all calls
come in any order. -/

namespace TradeX.V1.Resilience

open Lib

/-- The exceptions as `execute` tells them apart, in the order of its branches. -/
inductive Raised where
  | circuitBreakerOpen
  | nonRetryable
  | retryable
  /-- An instance of the configured retryable exceptions. -/
  | listed
  | unlisted
  /-- Not an `Exception`. -/
  | escapes
  deriving DecidableEq, Repr

inductive Outcome where
  | returned
  | raised (raised : Raised)
  deriving DecidableEq, Repr

namespace Outcome

def retried : Outcome → Bool
  | raised .retryable | raised .listed => true
  | _ => false

/-- The branch of the outcome records it in the breaker. -/
def recorded : Outcome → Bool
  | raised .circuitBreakerOpen | raised .escapes => false
  | _ => true

def succeeded : Outcome → Bool
  | returned => true
  | raised _ => false

end Outcome

/-- What an execute has done: checks that were passed, refusals of the rate limiter, calls of the function and
records in the breaker. -/
inductive Mark where
  | admitted (now : ℕ)
  | limited (raised : Raised)
  | called (outcome : Outcome)
  | recorded (succeeded : Bool)
  deriving DecidableEq, Repr

def Mark.isCall : Mark → Bool
  | called _ => true
  | _ => false

/-- Where an execute stands in its attempt. -/
inductive Phase where
  | checking (attempt : ℕ)
  | admitted (attempt : ℕ)
  | ready (attempt : ℕ)
  | ended (attempt : ℕ) (outcome : Outcome)
  | finished
  deriving DecidableEq, Repr

/-- An execute under way, with the half-open episode in which its attempt was admitted. -/
structure Execute where
  phase : Phase := .checking 0
  admittedIn : Option ℕ := none
  trace : List Mark := []
  deriving DecidableEq, Repr

inductive Step where
  | check (now : ℕ)
  | acquire (raised : Option Raised)
  | call (outcome : Outcome)
  /-- The record, and behind it the wait before the next attempt, which may be interrupted by an exception. -/
  | complete (now : ℕ) (interrupted : Bool)
  deriving DecidableEq, Repr

@[ext]
structure RetryConfig where
  maxAttempts : ℕ
  maxAttempts_pos : 0 < maxAttempts
  deriving Repr

instance : DecidableEq RetryConfig := fun _ _ => decidable_of_iff _ RetryConfig.ext_iff.symm

section

variable (maxAttempts : ℕ)

/-- `allow_request`; a refused execute raises. -/
def checkBreaker (watched : Watched) (execute : Execute) (attempt now : ℕ) : Watched × Execute :=
  let (checked, allowed) := watched.admitCall now
  (checked,
    if allowed then {
      phase := .admitted attempt
      admittedIn := checked.episode
      trace := execute.trace ++ [.admitted now] }
    else { execute with phase := .finished })

def complete (watched : Watched) (execute : Execute) (attempt : ℕ) (outcome : Outcome) (now : ℕ) (interrupted : Bool) :
    Watched × Execute :=
  match outcome with
  | .returned => (watched.recordSuccess execute.admittedIn, { execute with
      phase := .finished
      trace := execute.trace ++ [.recorded true] })
  | .raised _ =>
    if outcome.recorded then (watched.recordFailure execute.admittedIn now, { execute with
        phase :=
          if outcome.retried ∧ attempt + 1 < maxAttempts ∧ ¬interrupted then .checking (attempt + 1) else .finished
        trace := execute.trace ++ [.recorded false] })
    else (watched, { execute with phase := .finished })

/-- One step of `execute`; readings of the clock do not go back. -/
def act (watched : Watched) (execute : Execute) : Step → Option (Watched × Execute)
  | .check now =>
    match execute.phase with
    | .checking attempt =>
      if watched.clock ≤ now then
        if attempt < maxAttempts then some (checkBreaker watched execute attempt now)
        else some (watched, { execute with phase := .finished })
      else none
    | _ => none
  | .acquire raised =>
    match execute.phase with
    | .admitted attempt =>
      match raised with
      | none => some (watched, { execute with phase := .ready attempt })
      | some raised => some (watched, { execute with
          phase := .ended attempt (.raised raised)
          trace := execute.trace ++ [.limited raised] })
    | _ => none
  | .call outcome =>
    match execute.phase with
    | .ready attempt => some (watched, { execute with
        phase := .ended attempt outcome
        trace := execute.trace ++ [.called outcome] })
    | _ => none
  | .complete now interrupted =>
    match execute.phase with
    | .ended attempt outcome =>
      if watched.clock ≤ now then some (complete maxAttempts watched execute attempt outcome now interrupted) else none
    | _ => none

end

/-- A record at once, and no second one before the next attempt. -/
def FollowedBy (outcome : Outcome) (later : List Mark) : Prop :=
  ∃ rest, later = .recorded outcome.succeeded :: rest ∧ ∀ succeeded, rest.head? ≠ some (.recorded succeeded)

/-- The laws of one execute: its calls are within the attempts, none comes after a success or an error that is not
retried, and each is followed at once by its one record, or is about to be. -/
structure Regular (maxAttempts : ℕ) (execute : Execute) : Prop where
  calls : execute.trace.countP Mark.isCall ≤ maxAttempts
  last : ∀ before outcome later, execute.trace = before ++ .called outcome :: later → outcome.retried = false →
    ∀ other, .called other ∉ later
  recorded : ∀ before outcome later, execute.trace = before ++ .called outcome :: later → outcome.recorded = true →
    (later = [] ∧ ∃ attempt, execute.phase = .ended attempt outcome) ∨ FollowedBy outcome later

/-- A split of a joined list lies in the first part or in the second. -/
theorem split_append {first second before later : List Mark} {mark : Mark}
    (split : first ++ second = before ++ mark :: later) :
    (∃ rest, first = before ++ mark :: rest ∧ later = rest ++ second) ∨
    ∃ front, second = front ++ mark :: later ∧ before = first ++ front := by
  rcases List.append_eq_append_iff.mp split with ⟨front, whole, second⟩ | ⟨rest, whole, tail⟩
  · exact .inr ⟨front, second, whole⟩
  · cases rest with
    | nil => exact .inr ⟨[], tail.symm, by rw [whole, List.append_nil, List.append_nil]⟩
    | cons head rest =>
      obtain ⟨rfl, rfl⟩ := List.cons.inj tail
      exact .inl ⟨rest, whole, rfl⟩

/-- The marks of the last attempt of a trace; a call without its record is pending, or is not recorded. -/
inductive LastAttempt (pending : Outcome → Prop) : List Mark → Prop where
  | refused : LastAttempt pending []
  | admitted (now : ℕ) : LastAttempt pending [.admitted now]
  | limited (now : ℕ) (raised : Raised) : LastAttempt pending [.admitted now, .limited raised]
  | limitRecorded (now : ℕ) (raised : Raised) : LastAttempt pending [.admitted now, .limited raised, .recorded false]
  | called (now : ℕ) {outcome : Outcome} : (outcome.recorded = true → pending outcome) →
      LastAttempt pending [.admitted now, .called outcome]
  | callRecorded (now : ℕ) (outcome : Outcome) :
      LastAttempt pending [.admitted now, .called outcome, .recorded outcome.succeeded]

theorem LastAttempt.mono {pending waiting : Outcome → Prop} {marks : List Mark} (attempt : LastAttempt pending marks)
    (weaker : ∀ outcome, pending outcome → waiting outcome) : LastAttempt waiting marks := by
  cases attempt with
  | refused => exact .refused
  | admitted now => exact .admitted now
  | limited now raised => exact .limited now raised
  | limitRecorded now raised => exact .limitRecorded now raised
  | called now awaited => exact .called now fun recorded => weaker _ (awaited recorded)
  | callRecorded now outcome => exact .callRecorded now outcome

/-- The one call of an attempt. -/
theorem called_split {now : ℕ} {outcome other : Outcome} {tail before later : List Mark}
    (single : ∀ another, .called another ∉ tail)
    (split : .admitted now :: .called outcome :: tail = before ++ .called other :: later) :
      other = outcome ∧ later = tail := by
  cases before with
  | nil => cases split
  | cons first before =>
    have rest := (List.cons.inj split).2
    cases before with
    | nil =>
      obtain ⟨same, tails⟩ := List.cons.inj rest
      exact ⟨(Mark.called.inj same).symm, tails.symm⟩
    | cons second before =>
      have inside := (List.cons.inj rest).2
      exact absurd (inside ▸ List.mem_append_right _ List.mem_cons_self) (single other)

theorem LastAttempt.spec {pending : Outcome → Prop} {marks : List Mark} (attempt : LastAttempt pending marks) :
    marks.countP Mark.isCall ≤ 1 ∧ (∀ succeeded, marks.head? ≠ some (.recorded succeeded)) ∧
    ∀ before outcome later, marks = before ++ .called outcome :: later → (∀ other, .called other ∉ later) ∧
      (outcome.recorded = true → later = [] ∧ pending outcome ∨ later = [.recorded outcome.succeeded]) := by
  have uncalled : ∀ marks : List Mark, (∀ outcome, .called outcome ∉ marks) → ∀ before outcome later,
      marks ≠ before ++ .called outcome :: later := by
    rintro _ none before outcome later rfl
    exact none outcome (List.mem_append_right _ List.mem_cons_self)
  cases attempt with
  | refused => exact ⟨Nat.zero_le _, nofun, fun before outcome later split => absurd split (uncalled _ (by simp) _ _ _)⟩
  | admitted now =>
    refine ⟨Nat.zero_le _, nofun, fun before outcome later split => absurd split (uncalled _ ?_ _ _ _)⟩
    simp
  | limited now raised =>
    refine ⟨Nat.zero_le _, nofun, fun before outcome later split => absurd split (uncalled _ ?_ _ _ _)⟩
    simp
  | limitRecorded now raised =>
    refine ⟨Nat.zero_le _, nofun, fun before outcome later split => absurd split (uncalled _ ?_ _ _ _)⟩
    simp
  | called now awaited =>
    refine ⟨le_refl _, nofun, ?_⟩
    intro before outcome later split
    obtain ⟨rfl, rfl⟩ := called_split (by simp) split
    exact ⟨by simp, fun recorded => .inl ⟨rfl, awaited recorded⟩⟩
  | callRecorded now outcome =>
    refine ⟨le_refl _, nofun, ?_⟩
    intro before other later split
    obtain ⟨rfl, rfl⟩ := called_split (by simp) split
    exact ⟨by simp, fun _ => .inr rfl⟩

/-- Attempts that were all retried, with their marks. -/
inductive Attempts : ℕ → List Mark → Prop where
  | none : Attempts 0 []
  | next {n trace marks} : Attempts n trace → LastAttempt (fun _ => False) marks →
      (∀ outcome, .called outcome ∈ marks → outcome.retried = true) → Attempts (n + 1) (trace ++ marks)

theorem recorded_of_retried {outcome : Outcome} (retried : outcome.retried = true) :
    outcome.recorded = true ∧ outcome.succeeded = false := by
  rcases outcome with _ | raised
  · cases retried
  · cases raised <;> first | exact ⟨rfl, rfl⟩ | cases retried

theorem Attempts.calls_le {n : ℕ} {trace : List Mark} (attempts : Attempts n trace) : trace.countP Mark.isCall ≤ n := by
  induction attempts with
  | none => exact le_refl _
  | next _ last _ ih =>
    rw [List.countP_append]
    exact Nat.add_le_add ih last.spec.1

theorem Attempts.retried {n : ℕ} {trace : List Mark} (attempts : Attempts n trace) :
    ∀ outcome, .called outcome ∈ trace → outcome.retried = true := by
  induction attempts with
  | none => exact fun _ member => absurd member List.not_mem_nil
  | next _ _ retried ih =>
    intro outcome member
    rcases List.mem_append.mp member with before | last
    · exact ih outcome before
    · exact retried outcome last

theorem FollowedBy.append {outcome : Outcome} {later marks : List Mark} (followed : FollowedBy outcome later)
    (starts : ∀ succeeded, marks.head? ≠ some (.recorded succeeded)) : FollowedBy outcome (later ++ marks) := by
  obtain ⟨rest, rfl, single⟩ := followed
  refine ⟨rest ++ marks, rfl, ?_⟩
  cases rest with
  | nil => exact starts
  | cons first rest => exact single

theorem Attempts.followed {n : ℕ} {trace : List Mark} (attempts : Attempts n trace) :
    ∀ before outcome later, trace = before ++ .called outcome :: later → FollowedBy outcome later := by
  induction attempts with
  | none =>
    intro before outcome later split
    simp at split
  | next _ last retried ih =>
    obtain ⟨-, starts, recorded⟩ := last.spec
    intro before outcome later split
    rcases split_append split with ⟨rest, earlier, rfl⟩ | ⟨front, inside, -⟩
    · exact (ih before outcome rest earlier).append starts
    · have called : Mark.called outcome ∈ _ := inside ▸ List.mem_append_right front List.mem_cons_self
      have again := (recorded_of_retried (retried outcome called)).1
      rcases (recorded front outcome later inside).2 again with ⟨-, never⟩ | rfl
      · exact never.elim
      · exact ⟨[], rfl, nofun⟩

/-- Attempts with one more, whose call may be pending. -/
theorem regular_of_last {maxAttempts n : ℕ} {execute : Execute} {before last : List Mark} (attempts : Attempts n before)
    (within : n < maxAttempts) (whole : execute.trace = before ++ last)
    (attempt : LastAttempt (fun outcome => ∃ attempt, execute.phase = .ended attempt outcome) last) :
    Regular maxAttempts execute := by
  obtain ⟨calls, starts, recorded⟩ := attempt.spec
  refine ⟨?_, ?_, ?_⟩
  · rw [whole, List.countP_append]
    exact (Nat.add_le_add attempts.calls_le calls).trans within
  · intro front outcome later split final
    rw [whole] at split
    rcases split_append split with ⟨rest, earlier, -⟩ | ⟨middle, inside, -⟩
    · have called : Mark.called outcome ∈ before := earlier ▸ List.mem_append_right front List.mem_cons_self
      rw [attempts.retried outcome called] at final
      cases final
    · exact (recorded middle outcome later inside).1
  · intro front outcome later split counted
    rw [whole] at split
    rcases split_append split with ⟨rest, earlier, rfl⟩ | ⟨middle, inside, -⟩
    · exact .inr ((attempts.followed front outcome rest earlier).append starts)
    · rcases (recorded middle outcome later inside).2 counted with pending | rfl
      · exact .inl pending
      · exact .inr ⟨[], rfl, nofun⟩

/-- An execute after its retried attempts, in the marks of the attempt that it is in. -/
def Execute.Sound (maxAttempts : ℕ) (execute : Execute) : Prop :=
  ∃ n before last, Attempts n before ∧ n < maxAttempts ∧ execute.trace = before ++ last ∧
    match execute.phase with
    | .checking attempt => attempt = n ∧ last = []
    | .admitted attempt | .ready attempt => attempt = n ∧ ∃ now, last = [.admitted now]
    | .ended attempt outcome => attempt = n ∧ ∃ now, last = [.admitted now, .called outcome] ∨
        ∃ raised, outcome = .raised raised ∧ last = [.admitted now, .limited raised]
    | .finished => LastAttempt (fun _ => False) last

theorem Execute.Sound.regular {maxAttempts : ℕ} {execute : Execute} (sound : execute.Sound maxAttempts) :
    Regular maxAttempts execute := by
  obtain ⟨n, before, last, attempts, within, whole, stage⟩ := sound
  refine regular_of_last attempts within whole ?_
  cases phase : execute.phase with
  | checking attempt =>
    rw [phase] at stage
    exact stage.2 ▸ .refused
  | admitted attempt =>
    rw [phase] at stage
    obtain ⟨-, now, rfl⟩ := stage
    exact .admitted now
  | ready attempt =>
    rw [phase] at stage
    obtain ⟨-, now, rfl⟩ := stage
    exact .admitted now
  | ended attempt outcome =>
    rw [phase] at stage
    obtain ⟨-, now, rfl | ⟨raised, rfl, rfl⟩⟩ := stage
    · exact .called now fun _ => ⟨attempt, rfl⟩
    · exact .limited now raised
  | finished =>
    rw [phase] at stage
    exact stage.mono fun _ never => never.elim

/-- What a step owes: the accounts of breaker and execute, the open duration at an admission, and the successes of
the episode where it closes the breaker. -/
structure StepLaw (maxAttempts : ℕ) (watched : Watched) (execute : Execute) (after : Watched)
    (moved : Execute) : Prop where
  breaker : after.Sound
  stage : moved.Sound maxAttempts
  admits : ∀ now, moved.trace = execute.trace ++ [.admitted now] →
    ∀ trip ∈ watched.trips, trip + watched.breaker.config.openDurationNs ≤ now
  closes : Watched.Closes watched after → after.HeardSuccesses

theorem not_admitted_of_same {trace : List Mark} {P : ℕ → Prop} : ∀ now, trace = trace ++ [.admitted now] → P now :=
  fun _ same => absurd (List.self_eq_append_right.mp same) (List.cons_ne_nil _ _)

theorem not_admitted_of_mark {trace : List Mark} {P : ℕ → Prop} {mark : Mark} (other : ∀ now, mark ≠ .admitted now) :
    ∀ now, trace ++ [mark] = trace ++ [.admitted now] → P now :=
  fun now same => absurd (List.cons.inj (List.append_cancel_left same)).1 (other now)

theorem not_closes_self (watched : Watched) : ¬Watched.Closes watched watched := by
  rintro ⟨halfOpen, closed⟩
  rw [halfOpen] at closed
  cases closed

section

variable {maxAttempts attempt now n : ℕ} {watched after : Watched} {execute moved : Execute} {before last : List Mark}

theorem checkBreaker_law (sound : watched.Sound) (own : execute.Sound maxAttempts)
    (phase : execute.phase = .checking attempt)
    (later : watched.clock ≤ now) : StepLaw maxAttempts watched execute (checkBreaker watched execute attempt now).1
      (checkBreaker watched execute attempt now).2 := by
  obtain ⟨n, before, last, attempts, within, whole, stage⟩ := own
  rw [phase] at stage
  obtain ⟨rfl, rfl⟩ := stage
  obtain ⟨checked, ended⟩ := sound.admitCall later
  have open_ : ¬Watched.Closes watched (watched.admitCall now).1 := by
    rintro ⟨halfOpen, closed⟩
    rcases Watched.admitCall_cases watched now with same | ⟨opened, -⟩
    · rw [same, halfOpen] at closed
      cases closed
    · rw [halfOpen] at opened
      cases opened
  rw [checkBreaker]
  generalize watched.admitCall now = result at checked ended open_
  obtain ⟨after, allowed⟩ := result
  cases allowed with
  | true =>
    refine ⟨checked, ⟨attempt, before, [.admitted now], attempts, within, ?_, rfl, now, rfl⟩, ?_,
      fun closes => absurd closes open_⟩
    · simp only [if_true, whole, List.append_nil]
    · intro reading same
      rw [← Mark.admitted.inj (List.cons.inj (List.append_cancel_left same)).1]
      exact ended rfl
  | false =>
    exact ⟨checked, ⟨attempt, before, [], attempts, within, whole, .refused⟩, not_admitted_of_same,
      fun closes => absurd closes open_⟩

theorem complete_law {outcome : Outcome} {interrupted : Bool} (sound : watched.Sound) (own : execute.Sound maxAttempts)
    (phase : execute.phase = .ended attempt outcome) (later : watched.clock ≤ now) :
    StepLaw maxAttempts watched execute (complete maxAttempts watched execute attempt outcome now interrupted).1
      (complete maxAttempts watched execute attempt outcome now interrupted).2 := by
  obtain ⟨n, before, last, attempts, within, whole, stage⟩ := own
  rw [phase] at stage
  obtain ⟨rfl, reading, shape⟩ := stage
  -- the marks of the attempt with its record
  have recorded : outcome.recorded = true → LastAttempt (fun _ => False) (last ++ [.recorded outcome.succeeded]) := by
    intro counted
    rcases shape with rfl | ⟨raised, rfl, rfl⟩
    · exact .callRecorded reading outcome
    · exact .limitRecorded reading raised
  cases outcome with
  | returned =>
    obtain ⟨heard, closes⟩ := sound.recordSuccess execute.admittedIn
    refine ⟨heard, ⟨attempt, before, _, attempts, within, ?_, recorded rfl⟩, not_admitted_of_mark nofun, closes⟩
    simp only [complete, whole, List.append_assoc]
    rfl
  | raised raised =>
    rw [complete]
    by_cases counted : (Outcome.raised raised).recorded = true
    · rw [if_pos counted]
      obtain ⟨heard, open_⟩ := sound.recordFailure execute.admittedIn later
      refine ⟨heard, ?_, not_admitted_of_mark nofun, fun closes => absurd closes open_⟩
      by_cases again : (Outcome.raised raised).retried ∧ attempt + 1 < maxAttempts ∧ ¬interrupted
      · refine ⟨attempt + 1, before ++ (last ++ [.recorded false]), [], ?_, again.2.1, ?_, ?_⟩
        · refine attempts.next (recorded counted) ?_
          intro called member
          rcases shape with rfl | ⟨other, -, rfl⟩
          · have same : called = .raised raised := by simpa using member
            exact same ▸ again.1
          · simp at member
        · simp only [whole, List.append_assoc, List.append_nil]
        · simp only [if_pos again, and_self]
      · refine ⟨attempt, before, last ++ [.recorded false], attempts, within, ?_, ?_⟩
        · simp only [whole, List.append_assoc]
        · simp only [if_neg again]
          exact recorded counted
    · rw [if_neg counted]
      refine ⟨sound, ⟨attempt, before, last, attempts, within, whole, ?_⟩, not_admitted_of_same, fun closes =>
        absurd closes (not_closes_self watched)⟩
      rcases shape with rfl | ⟨other, -, rfl⟩
      · exact .called reading fun recorded => counted recorded
      · exact .limited reading other

/-- Every step keeps the law. -/
theorem act_law {step : Step} (sound : watched.Sound) (own : execute.Sound maxAttempts)
    (taken : act maxAttempts watched execute step = some (after, moved)) :
      StepLaw maxAttempts watched execute after moved := by
  cases step with
  | check now =>
    cases phase : execute.phase with
    | checking attempt =>
      simp only [act, phase] at taken
      split at taken
      · next later =>
        split at taken
        · obtain ⟨rfl, rfl⟩ := Prod.mk.inj (Option.some.inj taken)
          exact checkBreaker_law sound own phase later
        · next spent =>
          obtain ⟨n, before, last, -, within, -, stage⟩ := own
          rw [phase] at stage
          exact absurd (stage.1 ▸ within) spent
      · cases taken
    | _ => simp only [act, phase] at taken; cases taken
  | acquire raised =>
    cases phase : execute.phase with
    | admitted attempt =>
      simp only [act, phase] at taken
      obtain ⟨n, before, last, attempts, within, whole, stage⟩ := own
      rw [phase] at stage
      obtain ⟨rfl, now, rfl⟩ := stage
      cases raised with
      | none =>
        obtain ⟨rfl, rfl⟩ := Prod.mk.inj (Option.some.inj taken)
        exact ⟨sound, ⟨attempt, before, _, attempts, within, whole, rfl, now, rfl⟩, not_admitted_of_same,
          fun closes => absurd closes (not_closes_self watched)⟩
      | some raised =>
        obtain ⟨rfl, rfl⟩ := Prod.mk.inj (Option.some.inj taken)
        refine ⟨sound, ⟨attempt, before, [.admitted now, .limited raised], attempts, within, ?_, rfl, now,
          .inr ⟨raised, rfl, rfl⟩⟩,
          not_admitted_of_mark nofun, fun closes => absurd closes (not_closes_self watched)⟩
        simp only [whole, List.append_assoc, List.singleton_append]
    | _ => simp only [act, phase] at taken; cases taken
  | call outcome =>
    cases phase : execute.phase with
    | ready attempt =>
      simp only [act, phase] at taken
      obtain ⟨n, before, last, attempts, within, whole, stage⟩ := own
      rw [phase] at stage
      obtain ⟨rfl, now, rfl⟩ := stage
      obtain ⟨rfl, rfl⟩ := Prod.mk.inj (Option.some.inj taken)
      refine ⟨sound, ⟨attempt, before, [.admitted now, .called outcome], attempts, within, ?_, rfl, now, .inl rfl⟩,
        not_admitted_of_mark nofun, fun closes => absurd closes (not_closes_self watched)⟩
      simp only [whole, List.append_assoc, List.singleton_append]
    | _ => simp only [act, phase] at taken; cases taken
  | complete now interrupted =>
    cases phase : execute.phase with
    | ended attempt outcome =>
      simp only [act, phase] at taken
      split at taken
      · next later =>
        obtain ⟨rfl, rfl⟩ := Prod.mk.inj (Option.some.inj taken)
        exact complete_law sound own phase later
      · cases taken
    | _ => simp only [act, phase] at taken; cases taken

end

section

variable {ι : Type u} [DecidableEq ι] (config : RetryConfig) (breakerConfig : CircuitBreakerConfig)

/-- Executes that all begin at the check of a closed breaker. -/
def start : Pool ι Watched Execute := ⟨{ breaker := { config := breakerConfig } }, fun _ => {}⟩

/-- The laws of a step: every execute is regular, an admission comes no sooner than an open duration after every
trip, and a half-open breaker closes on the successes heard in its episode. -/
def Lawful (pool : Pool ι Watched Execute) (event : ι × Step) : Prop :=
  ∀ after, Pool.step (act config.maxAttempts) pool event = some after →
    (∀ i, Regular config.maxAttempts (after.thread i)) ∧
    (∀ now, (after.thread event.1).trace = (pool.thread event.1).trace ++ [.admitted now] →
      ∀ trip ∈ pool.shared.trips, trip + pool.shared.breaker.config.openDurationNs ≤ now) ∧
    (Watched.Closes pool.shared after.shared → after.shared.HeardSuccesses)

theorem act_preserves : Pool.Preserves (act config.maxAttempts) (fun _ _ _ => True) Watched.Sound
    (fun _ execute => execute.Sound config.maxAttempts) fun _ _ => True where
  own common each _ taken := ⟨(act_law common each taken).breaker, (act_law common each taken).stage⟩
  other _ _ own _ _ _ _ := ⟨own, trivial, trivial⟩

theorem lawful_of_holds {pool : Pool ι Watched Execute}
    (held : pool.Holds Watched.Sound (fun _ execute => execute.Sound config.maxAttempts) fun _ _ => True)
    (event : ι × Step) : Lawful config pool event := by
  intro after taken
  have kept := (act_preserves config).step held trivial taken
  obtain ⟨watched, moved, acted, rfl⟩ := Pool.step_some taken
  have law := act_law held.common (held.each event.1) acted
  refine ⟨fun i => (kept.each i).regular, ?_, law.closes⟩
  intro now same
  simp only [Function.update_self] at same
  exact law.admits now same

/-- In every interleaving of executes that share a breaker, each calls its function within its attempts and not
after a success or an error that is not retried, each call that is recorded at all is followed by exactly one
record, no execute is admitted between a trip and the end of the open duration, and the breaker closes only on as
many successes as are asked for, heard in the half-open episode without a failure. -/
theorem executes_lawful (events : List (ι × Step)) :
    Meets (Pool.step (act config.maxAttempts)) (Lawful config) (start breakerConfig) events := by
  have initial : (start breakerConfig : Pool ι Watched Execute).Holds Watched.Sound
      (fun _ execute => execute.Sound config.maxAttempts) fun _ _ => True := by
    refine ⟨Watched.sound_start breakerConfig, ?_, fun _ _ _ => trivial⟩
    intro _
    exact ⟨0, [], [], .none, config.maxAttempts_pos, rfl, rfl, rfl⟩
  have any : Meets (Pool.step (act config.maxAttempts)) (fun _ _ => True)
      (start breakerConfig : Pool ι Watched Execute) events := meets_of_forall fun _ _ => trivial
  have along := meets_invariant (fun _ _ _ held allowed taken =>
    (act_preserves config).step held allowed taken) initial any
  exact along.mono fun pool event held => lawful_of_holds config held.1 event

end

/-- One failure trips the breaker and one success closes it. -/
def oneOfEach : CircuitBreakerConfig where
  failureThreshold := 1
  successThreshold := 1
  openDurationMs := 1
  failureThreshold_pos := by decide
  successThreshold_pos := by decide
  openDurationMs_pos := by decide

/-- A call that was admitted before the trip ends with a success in the next half-open episode, and closes it. -/
theorem closes_on_earlier_admission : ∃ pool after : Pool ℕ Watched Execute,
    exec (Pool.step (act 1)) (start oneOfEach) [(1, .check 0), (2, .check 0), (2, .acquire none),
      (2, .call (.raised .retryable)), (2, .complete 0 false), (3, .check 1000000), (1, .acquire none),
      (1, .call .returned)] = some pool ∧
    Pool.step (act 1) pool (1, .complete 1000000 false) = some after ∧ Watched.Closes pool.shared after.shared ∧
    ∀ heard ∈ after.shared.heard, heard.admitted ≠ some after.shared.episodes := by
  refine ⟨_, _, rfl, rfl, ⟨rfl, rfl⟩, ?_⟩
  decide

end TradeX.V1.Resilience
