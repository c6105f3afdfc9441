import TradeX.Lib.Runs

/-! The loss circuit breaker of the v1 risk manager. A transition happens in the call that finds its
condition: a PnL sample, a query, a snapshot or a manual reset. Every reading of the clock is an
argument, in the order in which the call takes them. -/

namespace TradeX.V1

open Lib

inductive LossCircuitState where
  | CLOSED
  | OPEN
  | COOLDOWN
  deriving DecidableEq, Repr

/-- The text of the enumeration's member. -/
def LossCircuitState.value : LossCircuitState → String
  | CLOSED => "CLOSED"
  | OPEN => "OPEN"
  | COOLDOWN => "COOLDOWN"

structure LossCircuitBreakerConfig where
  lossThresholdPct : ℚ := 2
  cooldownSeconds : ℚ := 1800
  windowSeconds : ℚ := 86400
  lossThresholdPct_pos : 0 < lossThresholdPct := by norm_num
  cooldownSeconds_pos : 0 < cooldownSeconds := by norm_num
  windowSeconds_pos : 0 < windowSeconds := by norm_num

structure LossCircuitSample where
  timestamp : ℚ
  loss : ℚ
  capital : ℚ
  deriving DecidableEq, Repr

/-- What `loss_circuit_state_change` reports, and the time of it. -/
structure LossCircuitChange where
  previous : LossCircuitState
  new : LossCircuitState
  time : ℚ
  deriving DecidableEq, Repr

structure LossCircuitBreaker where
  state : LossCircuitState := .CLOSED
  samples : List LossCircuitSample := []
  openedAt : ℚ := 0
  cooldownStartedAt : ℚ := 0
  tripCount : Nat := 0
  /-- The reported changes, the latest last. -/
  changes : List LossCircuitChange := []
  deriving DecidableEq, Repr

/-- Why trading is not allowed. -/
inductive LossCircuitReason where
  | opened
  | cooldown (remaining : ℚ)
  deriving DecidableEq, Repr

namespace LossCircuitBreaker

variable (config : LossCircuitBreakerConfig) (breaker : LossCircuitBreaker)

/-- `_transition_to`. -/
def transitionTo (newState : LossCircuitState) (now : ℚ) : LossCircuitBreaker :=
  if breaker.state = newState then breaker
  else
    { breaker with
      state := newState
      openedAt := if newState = .OPEN then now else breaker.openedAt
      tripCount := if newState = .OPEN then breaker.tripCount + 1 else breaker.tripCount
      cooldownStartedAt := if newState = .COOLDOWN then now else breaker.cooldownStartedAt
      changes := breaker.changes ++ [⟨breaker.state, newState, now⟩] }

theorem transitionTo_of_state {breaker : LossCircuitBreaker} {state newState : LossCircuitState} {now : ℚ}
    (reached : breaker.state = state) (differs : state ≠ newState) : breaker.transitionTo newState now =
      { breaker with
        state := newState
        openedAt := if newState = .OPEN then now else breaker.openedAt
        tripCount := if newState = .OPEN then breaker.tripCount + 1 else breaker.tripCount
        cooldownStartedAt := if newState = .COOLDOWN then now else breaker.cooldownStartedAt
        changes := breaker.changes ++ [⟨breaker.state, newState, now⟩] } := by
  subst reached
  exact if_neg differs

/-- `_purge_old_samples`. -/
def purgeOldSamples (now : ℚ) : LossCircuitBreaker :=
  { breaker with
    samples := breaker.samples.filter fun sample => now - config.windowSeconds ≤ sample.timestamp }

/-- `_cumulative_loss`. -/
def cumulativeLoss : ℚ := (breaker.samples.map LossCircuitSample.loss).sum

/-- The losses of the window have reached the threshold. -/
def exceeds (capital : ℚ) : Prop :=
  0 < capital ∧ breaker.cumulativeLoss < 0 ∧
    config.lossThresholdPct ≤ |breaker.cumulativeLoss| / capital * 100

instance (capital : ℚ) : Decidable (breaker.exceeds config capital) := inferInstanceAs (Decidable (_ ∧ _))

/-- The losses of the window are below the threshold again. -/
def recovered (capital : ℚ) : Prop :=
  0 < capital ∧ (0 ≤ breaker.cumulativeLoss ∨
    |breaker.cumulativeLoss| / capital * 100 < config.lossThresholdPct)

instance (capital : ℚ) : Decidable (breaker.recovered config capital) := inferInstanceAs (Decidable (_ ∧ _))

/-- `record_loss`, which samples the time and reads the clock again when it changes the state. -/
def recordLoss (loss capital sampled moved : ℚ) : LossCircuitBreaker :=
  let recorded : LossCircuitBreaker := { breaker with samples := breaker.samples ++ [⟨sampled, loss, capital⟩] }
  let purged := recorded.purgeOldSamples config sampled
  match purged.state with
  | .CLOSED => if purged.exceeds config capital then purged.transitionTo .OPEN moved else purged
  | .OPEN => if purged.recovered config capital then purged.transitionTo .COOLDOWN moved else purged
  | .COOLDOWN => purged

/-- `_maybe_transition_cooldown`. -/
def maybeTransitionCooldown (asked moved : ℚ) : LossCircuitBreaker :=
  if breaker.state = .COOLDOWN ∧ config.cooldownSeconds ≤ asked - breaker.cooldownStartedAt then
    breaker.transitionTo .CLOSED moved
  else breaker

/-- `_maybe_transition_open_recovery`. -/
def maybeTransitionOpenRecovery (moved : ℚ) : LossCircuitBreaker :=
  match breaker.samples.getLast? with
  | none => breaker
  | some latest =>
    if breaker.state = .OPEN ∧ breaker.recovered config latest.capital then
      breaker.transitionTo .COOLDOWN moved
    else breaker

/-- `_cooldown_remaining`. -/
def cooldownRemaining (now : ℚ) : ℚ :=
  if breaker.state ≠ .COOLDOWN then 0
  else max 0 (config.cooldownSeconds - (now - breaker.cooldownStartedAt))

/-- `allow_trading`; without a reason trading is allowed. -/
def allowTrading (asked moved remaining : ℚ) : LossCircuitBreaker × Option LossCircuitReason :=
  let cooled := breaker.maybeTransitionCooldown config asked moved
  let checked := cooled.maybeTransitionOpenRecovery config moved
  (checked, match checked.state with
    | .CLOSED => none
    | .OPEN => some .opened
    | .COOLDOWN => some (.cooldown (checked.cooldownRemaining config remaining)))

/-- `reset`. -/
def reset (now : ℚ) : LossCircuitBreaker :=
  match breaker.state with
  | .OPEN => breaker.transitionTo .COOLDOWN now
  | .COOLDOWN => breaker.transitionTo .CLOSED now
  | .CLOSED => breaker

/-- What `snapshot` tells of the breaker. -/
structure Snapshot where
  state : LossCircuitState
  lossThresholdPct : ℚ
  cumulativeLoss : ℚ
  windowSamples : Nat
  windowSeconds : ℚ
  tripCount : Nat
  openedAt : Option ℚ
  secondsSinceOpen : Option ℚ
  cooldownStartedAt : Option ℚ
  cooldownRemainingSeconds : Option ℚ
  deriving DecidableEq, Repr

/-- `snapshot`. -/
def snapshot (asked moved now remaining : ℚ) : LossCircuitBreaker × Snapshot :=
  let cooled := breaker.maybeTransitionCooldown config asked moved
  (cooled, {
    state := cooled.state
    lossThresholdPct := config.lossThresholdPct
    cumulativeLoss := cooled.cumulativeLoss
    windowSamples := cooled.samples.length
    windowSeconds := config.windowSeconds
    tripCount := cooled.tripCount
    openedAt := if cooled.state = .OPEN then some cooled.openedAt else none
    secondsSinceOpen :=
      if cooled.state = .OPEN ∧ 0 < cooled.openedAt then some (now - cooled.openedAt) else none
    cooldownStartedAt := if cooled.state = .COOLDOWN then some cooled.cooldownStartedAt else none
    cooldownRemainingSeconds :=
      if cooled.state = .COOLDOWN then some (cooled.cooldownRemaining config remaining) else none })

end LossCircuitBreaker

/-- A breaker and the latest reading of the clock. -/
structure LossCircuitRun where
  breaker : LossCircuitBreaker := {}
  clock : ℚ := 0
  deriving DecidableEq, Repr

/-- The calls, with the readings that each takes. -/
inductive LossCircuitEvent where
  | recordLoss (loss capital sampled moved : ℚ)
  | allowTrading (asked moved remaining : ℚ)
  | snapshot (asked moved now remaining : ℚ)
  | reset (now : ℚ)
  deriving DecidableEq, Repr

namespace LossCircuitEvent

def readings : LossCircuitEvent → List ℚ
  | recordLoss _ _ sampled moved => [sampled, moved]
  | allowTrading asked moved remaining => [asked, moved, remaining]
  | snapshot asked moved now remaining => [asked, moved, now, remaining]
  | reset now => [now]

def isReset : LossCircuitEvent → Bool
  | reset _ => true
  | _ => false

end LossCircuitEvent

namespace LossCircuitRun

variable (config : LossCircuitBreakerConfig) (run : LossCircuitRun)

/-- The breaker behind the call. -/
def apply : LossCircuitEvent → LossCircuitBreaker
  | .recordLoss loss capital sampled moved => run.breaker.recordLoss config loss capital sampled moved
  | .allowTrading asked moved remaining => (run.breaker.allowTrading config asked moved remaining).1
  | .snapshot asked moved now remaining => (run.breaker.snapshot config asked moved now remaining).1
  | .reset now => run.breaker.reset now

/-- One call. No reading is behind an earlier one. -/
def step (event : LossCircuitEvent) : Option LossCircuitRun :=
  if (run.clock :: event.readings).Pairwise (· ≤ ·) then
    some ⟨run.apply config event, event.readings.getLastD run.clock⟩
  else none

/-- What one call makes of the breaker: it changes its state at most once, a cooldown ends when its
time is over, and only a reset ends it earlier. -/
inductive Moves (event : LossCircuitEvent) (after : LossCircuitRun) : Prop where
  | stays (samples : List LossCircuitSample) :
      after.breaker = { run.breaker with samples := samples } → Moves event after
  | trips (samples : List LossCircuitSample) (now : ℚ) : run.breaker.state = .CLOSED → now ≤ after.clock →
      after.breaker = { run.breaker with samples := samples }.transitionTo .OPEN now → Moves event after
  | cools (samples : List LossCircuitSample) (now : ℚ) : run.breaker.state = .OPEN → run.clock ≤ now →
      after.breaker = { run.breaker with samples := samples }.transitionTo .COOLDOWN now →
      Moves event after
  | expires (asked now : ℚ) : run.breaker.state = .COOLDOWN → asked ≤ after.clock →
      config.cooldownSeconds ≤ asked - run.breaker.cooldownStartedAt →
      after.breaker = run.breaker.transitionTo .CLOSED now → Moves event after
  | clears (now : ℚ) : event.isReset = true → run.breaker.state = .COOLDOWN →
      after.breaker = run.breaker.transitionTo .CLOSED now → Moves event after

variable {config run} {event : LossCircuitEvent} {after : LossCircuitRun}

theorem maybeTransitionCooldown_cases (breaker : LossCircuitBreaker) (asked moved : ℚ) :
    breaker.maybeTransitionCooldown config asked moved = breaker ∨
      breaker.state = .COOLDOWN ∧ config.cooldownSeconds ≤ asked - breaker.cooldownStartedAt ∧
        breaker.maybeTransitionCooldown config asked moved = breaker.transitionTo .CLOSED moved := by
  unfold LossCircuitBreaker.maybeTransitionCooldown
  split
  · next elapsed => exact .inr ⟨elapsed.1, elapsed.2, rfl⟩
  · exact .inl rfl

theorem maybeTransitionOpenRecovery_cases (breaker : LossCircuitBreaker) (moved : ℚ) :
    breaker.maybeTransitionOpenRecovery config moved = breaker ∨
      breaker.state = .OPEN ∧
        breaker.maybeTransitionOpenRecovery config moved = breaker.transitionTo .COOLDOWN moved := by
  unfold LossCircuitBreaker.maybeTransitionOpenRecovery
  split
  · exact .inl rfl
  · split
    · next recovers => exact .inr ⟨recovers.1, rfl⟩
    · exact .inl rfl

theorem step_moves (stepped : run.step config event = some after) :
    run.clock ≤ after.clock ∧ Moves config run event after := by
  unfold step at stepped
  split at stepped
  · next ordered =>
    cases stepped
    cases event with
    | recordLoss loss capital sampled moved =>
      obtain ⟨clock, later⟩ := List.pairwise_cons.mp ordered
      have sampledLate : sampled ≤ moved := (List.pairwise_cons.mp later).1 moved List.mem_cons_self
      have movedLate : run.clock ≤ moved := clock moved (List.mem_cons_of_mem _ List.mem_cons_self)
      refine ⟨movedLate, ?_⟩
      dsimp only [apply, LossCircuitBreaker.recordLoss]
      split
      · next closed =>
        split
        · exact .trips _ moved closed le_rfl rfl
        · exact .stays _ rfl
      · next opened =>
        split
        · exact .cools _ moved opened movedLate rfl
        · exact .stays _ rfl
      · exact .stays _ rfl
    | allowTrading asked moved remaining =>
      obtain ⟨clock, later⟩ := List.pairwise_cons.mp ordered
      obtain ⟨first, last⟩ := List.pairwise_cons.mp later
      have movedLate : run.clock ≤ moved := clock moved (List.mem_cons_of_mem _ List.mem_cons_self)
      have askedLate : asked ≤ remaining := first remaining (List.mem_cons_of_mem _ List.mem_cons_self)
      refine ⟨clock remaining (by simp only [LossCircuitEvent.readings, List.mem_cons, true_or, or_true]), ?_⟩
      dsimp only [apply, LossCircuitBreaker.allowTrading]
      obtain same | ⟨cooling, elapsed, closes⟩ := @maybeTransitionCooldown_cases config run.breaker asked moved
      · rw [same]
        obtain same | ⟨opened, cools⟩ := @maybeTransitionOpenRecovery_cases config run.breaker moved
        · exact .stays run.breaker.samples same
        · exact .cools run.breaker.samples moved opened movedLate cools
      · have closed : (run.breaker.maybeTransitionCooldown config asked moved).state = .CLOSED := by
          rw [closes, LossCircuitBreaker.transitionTo_of_state cooling (by decide)]
        obtain same | ⟨opened, -⟩ := @maybeTransitionOpenRecovery_cases config
            (run.breaker.maybeTransitionCooldown config asked moved) moved
        · exact .expires asked moved cooling askedLate elapsed (same.trans closes)
        · rw [closed] at opened
          cases opened
    | snapshot asked moved now remaining =>
      obtain ⟨clock, later⟩ := List.pairwise_cons.mp ordered
      obtain ⟨first, -⟩ := List.pairwise_cons.mp later
      have askedLate : asked ≤ remaining :=
        first remaining (List.mem_cons_of_mem _ (List.mem_cons_of_mem _ List.mem_cons_self))
      refine ⟨clock remaining (by simp only [LossCircuitEvent.readings, List.mem_cons, true_or, or_true]), ?_⟩
      dsimp only [apply, LossCircuitBreaker.snapshot]
      obtain same | ⟨cooling, elapsed, closes⟩ := @maybeTransitionCooldown_cases config run.breaker asked moved
      · exact .stays run.breaker.samples same
      · exact .expires asked moved cooling askedLate elapsed closes
    | reset now =>
      obtain ⟨clock, -⟩ := List.pairwise_cons.mp ordered
      have late : run.clock ≤ now := clock now List.mem_cons_self
      refine ⟨late, ?_⟩
      dsimp only [apply, LossCircuitBreaker.reset]
      split
      · next opened => exact .cools run.breaker.samples now opened late rfl
      · next cooling => exact .clears now rfl cooling rfl
      · exact .stays run.breaker.samples rfl
  · cases stepped

/-- The changes lead from one state to another, each from where the one before it led. -/
def Follows : LossCircuitState → List LossCircuitChange → LossCircuitState → Prop
  | first, [], last => first = last
  | first, change :: rest, last => change.previous = first ∧ change.new ≠ first ∧ Follows change.new rest last

theorem Follows.append {first middle last : LossCircuitState} {changes : List LossCircuitChange} {time : ℚ}
    (follows : Follows first changes middle) (moves : last ≠ middle) :
    Follows first (changes ++ [⟨middle, last, time⟩]) last := by
  induction changes generalizing first with
  | nil =>
    obtain rfl : first = middle := follows
    exact ⟨rfl, moves, rfl⟩
  | cons change rest ih =>
    obtain ⟨linked, differs, later⟩ := follows
    exact ⟨linked, differs, ih later⟩

/-- The changes into `OPEN`. -/
def trips (changes : List LossCircuitChange) : List LossCircuitChange :=
  changes.filter fun change => change.new = .OPEN

theorem trips_append {changes : List LossCircuitChange} {change : LossCircuitChange} :
    trips (changes ++ [change]) =
      if change.new = .OPEN then trips changes ++ [change] else trips changes := by
  unfold trips
  rw [List.filter_append]
  by_cases opens : change.new = .OPEN
  · simp only [List.filter_cons, List.filter_nil, opens, decide_true, if_true]
  · simp only [List.filter_cons, List.filter_nil, opens, decide_false, Bool.false_eq_true, if_false, List.append_nil]

/-- A path that ends in `OPEN` has a change into it. -/
theorem Follows.trips_ne_nil {first : LossCircuitState} {changes : List LossCircuitChange}
    (follows : Follows first changes .OPEN) (closed : first ≠ .OPEN) : trips changes ≠ [] := by
  induction changes generalizing first with
  | nil => exact absurd follows closed
  | cons change rest ih =>
    obtain ⟨-, -, later⟩ := follows
    unfold trips
    by_cases opens : change.new = .OPEN
    · rw [List.filter_cons_of_pos (by simpa using opens)]
      exact List.cons_ne_nil _ _
    · rw [List.filter_cons_of_neg (by simpa using opens)]
      exact ih later opens

/-- What holds of the breaker whatever was called: its changes are a path from `CLOSED` to its state
that leaves `OPEN` for `COOLDOWN` alone, and the trips are counted, the latest with its time. -/
structure Recorded (run : LossCircuitRun) : Prop where
  follows : Follows .CLOSED run.breaker.changes run.breaker.state
  leaves : ∀ change ∈ run.breaker.changes, change.previous = .OPEN → change.new = .COOLDOWN
  counted : run.breaker.tripCount = (trips run.breaker.changes).length
  latest : ∀ trip ∈ (trips run.breaker.changes).getLast?, trip.time = run.breaker.openedAt
  opened : run.breaker.state = .OPEN → run.breaker.openedAt ≤ run.clock

theorem Recorded.sampled (recorded : run.Recorded) (samples : List LossCircuitSample) :
    Recorded ⟨{ run.breaker with samples := samples }, run.clock⟩ :=
  ⟨recorded.follows, recorded.leaves, recorded.counted, recorded.latest, recorded.opened⟩

theorem Recorded.later (recorded : run.Recorded) {clock : ℚ} (passes : run.clock ≤ clock) :
    Recorded ⟨run.breaker, clock⟩ :=
  ⟨recorded.follows, recorded.leaves, recorded.counted, recorded.latest,
    fun opens => (recorded.opened opens).trans passes⟩

/-- A change to another state is recorded as one. -/
theorem Recorded.transition {state new : LossCircuitState} {now later : ℚ} (recorded : run.Recorded)
    (reached : run.breaker.state = state) (differs : state ≠ new)
    (leads : state = .OPEN → new = .COOLDOWN) (late : new = .OPEN → now ≤ later) :
    Recorded ⟨run.breaker.transitionTo new now, later⟩ := by
  rw [LossCircuitBreaker.transitionTo_of_state reached differs]
  subst reached
  constructor
  · exact recorded.follows.append differs.symm
  · intro change member leaving
    rcases List.mem_append.mp member with earlier | last
    · exact recorded.leaves change earlier leaving
    · obtain rfl := List.mem_singleton.mp last
      exact leads leaving
  · dsimp only
    rw [trips_append]
    split
    · rw [List.length_append, List.length_singleton, recorded.counted]
    · exact recorded.counted
  · intro trip last
    dsimp only at last ⊢
    rw [trips_append] at last
    split at last
    · next opens =>
      rw [List.getLast?_concat, Option.mem_some_iff] at last
      rw [if_pos opens, ← last]
    · next stays =>
      rw [if_neg stays]
      exact recorded.latest trip last
  · intro opens
    dsimp only at opens ⊢
    rw [if_pos opens]
    exact late opens

theorem step_recorded (recorded : run.Recorded) (stepped : run.step config event = some after) :
    after.Recorded := by
  obtain ⟨passes, moves⟩ := step_moves stepped
  obtain ⟨breaker, later⟩ := after
  cases moves with
  | stays samples same =>
    cases same
    exact (recorded.sampled samples).later passes
  | trips samples now closed late same =>
    cases same
    exact (recorded.sampled samples).transition closed (by decide) (by decide) fun _ => late
  | cools samples now opens late same =>
    cases same
    exact (recorded.sampled samples).transition opens (by decide) (by decide) fun impossible => by cases impossible
  | expires asked now cooling late elapsed same =>
    cases same
    exact recorded.transition cooling (by decide) (by decide) fun impossible => by cases impossible
  | clears now manual cooling same =>
    cases same
    exact recorded.transition cooling (by decide) (by decide) fun impossible => by cases impossible

/-- Behind a trip: the cooldown starts no earlier than the trip, and the breaker is closed only when
the time is over. -/
structure Waits (config : LossCircuitBreakerConfig) (run : LossCircuitRun) : Prop where
  tripped : trips run.breaker.changes ≠ []
  cooling : run.breaker.state = .COOLDOWN → run.breaker.openedAt ≤ run.breaker.cooldownStartedAt
  closed : run.breaker.state = .CLOSED → run.breaker.openedAt + config.cooldownSeconds ≤ run.clock

theorem Waits.sampled (waits : Waits config run) (samples : List LossCircuitSample) :
    Waits config ⟨{ run.breaker with samples := samples }, run.clock⟩ :=
  ⟨waits.tripped, waits.cooling, waits.closed⟩

theorem Waits.later (waits : Waits config run) {clock : ℚ} (passes : run.clock ≤ clock) :
    Waits config ⟨run.breaker, clock⟩ :=
  ⟨waits.tripped, waits.cooling, fun closed => (waits.closed closed).trans passes⟩

/-- A change starts the cooldown no earlier than the trip, and closes the breaker when its time is over. -/
theorem Waits.transition {state new : LossCircuitState} {now later : ℚ} (waits : Waits config run)
    (reached : run.breaker.state = state) (differs : state ≠ new)
    (cooling : new = .COOLDOWN → run.breaker.openedAt ≤ now)
    (closed : new = .CLOSED → run.breaker.openedAt + config.cooldownSeconds ≤ later) :
    Waits config ⟨run.breaker.transitionTo new now, later⟩ := by
  rw [LossCircuitBreaker.transitionTo_of_state reached differs]
  constructor
  · dsimp only
    rw [trips_append]
    split
    · exact List.append_ne_nil_of_right_ne_nil _ (List.cons_ne_nil _ _)
    · exact waits.tripped
  · rintro rfl
    exact cooling rfl
  · rintro rfl
    exact closed rfl

theorem step_waits (recorded : run.Recorded) (waits : Waits config run) (kept : event.isReset = false)
    (stepped : run.step config event = some after) : Waits config after := by
  obtain ⟨passes, moves⟩ := step_moves stepped
  obtain ⟨breaker, later⟩ := after
  cases moves with
  | stays samples same =>
    obtain rfl : breaker = _ := same
    exact (waits.sampled samples).later passes
  | trips samples now closed late same =>
    obtain rfl : breaker = _ := same
    exact (waits.sampled samples).transition closed (by decide) (fun impossible => by cases impossible)
      fun impossible => by cases impossible
  | cools samples now opens late same =>
    obtain rfl : breaker = _ := same
    exact (waits.sampled samples).transition opens (by decide)
      (fun _ => (recorded.opened opens).trans late) fun impossible => by cases impossible
  | expires asked now cooling late elapsed same =>
    obtain rfl : breaker = _ := same
    refine waits.transition cooling (by decide) (fun impossible => by cases impossible) fun _ => ?_
    calc run.breaker.openedAt + config.cooldownSeconds
        ≤ run.breaker.cooldownStartedAt + (asked - run.breaker.cooldownStartedAt) :=
          add_le_add (waits.cooling cooling) elapsed
      _ = asked := by ring
      _ ≤ later := late
  | clears now manual cooling same =>
    rw [manual] at kept
    cases kept

/-- A query allows trading only when the breaker was closed or its cooldown is over. -/
theorem allowTrading_waits {asked moved remaining : ℚ} (waits : Waits config run)
    (clock : run.clock ≤ asked) (allowed : (run.breaker.allowTrading config asked moved remaining).2 = none) :
    run.breaker.openedAt + config.cooldownSeconds ≤ asked := by
  obtain same | ⟨cooling, elapsed, -⟩ := @maybeTransitionCooldown_cases config run.breaker asked moved
  · unfold LossCircuitBreaker.allowTrading at allowed
    dsimp only at allowed
    rw [same] at allowed
    obtain kept | ⟨opens, cools⟩ := @maybeTransitionOpenRecovery_cases config run.breaker moved
    · rw [kept] at allowed
      split at allowed
      · next closed => exact (waits.closed closed).trans clock
      · cases allowed
      · cases allowed
    · rw [cools, LossCircuitBreaker.transitionTo_of_state opens (by decide)] at allowed
      cases allowed
  · have started := waits.cooling cooling
    linarith

/-- A fresh breaker under whatever calls, on a clock that does not run backwards. Its changes are a path
that leaves `OPEN` for `COOLDOWN` alone, and the trip count is the number of changes into `OPEN`. Once
it was open and nobody has reset it since, a query allows trading only when the cooldown is over since
the latest trip. -/
theorem loss_breaker_sound {config : LossCircuitBreakerConfig} {clock : ℚ} {events : List LossCircuitEvent}
    {after : LossCircuitRun} (ran : exec (step config) ⟨{}, clock⟩ events = some after) :
    Follows .CLOSED after.breaker.changes after.breaker.state ∧
    (∀ change ∈ after.breaker.changes, change.previous = .OPEN → change.new = .COOLDOWN) ∧
    after.breaker.tripCount = (trips after.breaker.changes).length ∧
    ∀ earlier later opened, events = earlier ++ later →
      exec (step config) ⟨{}, clock⟩ earlier = some opened → opened.breaker.state = .OPEN →
      (∀ event ∈ later, event.isReset = false) →
      ∀ asked moved remaining, after.clock ≤ asked →
        (after.breaker.allowTrading config asked moved remaining).2 = none →
        ∃ trip, (trips after.breaker.changes).getLast? = some trip ∧
          trip.time + config.cooldownSeconds ≤ asked := by
  have start : Recorded ⟨{}, clock⟩ := by
    refine ⟨rfl, ?_, rfl, ?_, fun impossible => by cases impossible⟩
    · intro change member
      cases member
    · intro trip last
      cases last
  have recorded : after.Recorded := exec_invariant (fun _ _ _ before _ stepped => step_recorded before stepped)
    start (meets_of_forall fun _ _ => trivial) ran
  refine ⟨recorded.follows, recorded.leaves, recorded.counted, ?_⟩
  rintro earlier later opened rfl reached isOpen kept asked moved remaining passes allowed
  obtain ⟨middle, first, second⟩ := exec_append_inv ran
  obtain rfl : middle = opened := Option.some.inj (first.symm.trans reached)
  have openRecorded : middle.Recorded :=
    exec_invariant (fun _ _ _ before _ stepped => step_recorded before stepped)
      start (meets_of_forall fun _ _ => trivial) first
  have closedStart : LossCircuitState.CLOSED ≠ .OPEN := by decide
  have waits : Waits config middle := by
    refine ⟨?_, fun cooling => ?_, fun closed => ?_⟩
    · exact Follows.trips_ne_nil (isOpen ▸ openRecorded.follows) closedStart
    · rw [isOpen] at cooling
      cases cooling
    · rw [isOpen] at closed
      cases closed
  have keeps : ∀ run event next, Recorded run ∧ Waits config run → event.isReset = false →
      step config run event = some next → Recorded next ∧ Waits config next :=
    fun _ _ _ before unreset stepped =>
      ⟨step_recorded before.1 stepped, step_waits before.1 before.2 unreset stepped⟩
  obtain ⟨tripped, waited⟩ := exec_invariant keeps ⟨openRecorded, waits⟩ (meets_of_forall kept) second
  cases last : (trips after.breaker.changes).getLast? with
  | none => exact absurd (List.getLast?_eq_none_iff.mp last) waited.tripped
  | some trip =>
    refine ⟨trip, rfl, ?_⟩
    rw [tripped.latest trip last]
    exact allowTrading_waits waited passes allowed

/-- A loss of 2.5 percent trips the breaker at 1000; gains bring it into its cooldown at 1600, and a
query at 3400 closes it. -/
def trippedAndRecovered : List LossCircuitEvent :=
  [.recordLoss (-2500) 100000 1000 1000, .allowTrading 1200 1200 1200, .recordLoss 2000 100000 1600 1600,
    .allowTrading 2800 2800 2800, .allowTrading 3400 3400 3400]

theorem loss_breaker_sound_recovered : ∃ after, exec (step {}) ⟨{}, 900⟩ trippedAndRecovered = some after ∧
    after.breaker.state = .CLOSED ∧ after.breaker.tripCount = (trips after.breaker.changes).length := by
  have closes : (exec (step {}) ⟨{}, 900⟩ trippedAndRecovered).map (fun after => after.breaker.state) =
      some .CLOSED := by decide +kernel
  obtain ⟨after, ran, closed⟩ := Option.map_eq_some_iff.mp closes
  exact ⟨after, ran, closed, (loss_breaker_sound ran).2.2.1⟩

/-- The breaker goes from `OPEN` to `CLOSED` through `COOLDOWN`; it has no state called half open. -/
theorem half_open_not_passed :
    ((exec (step {}) ⟨{}, 900⟩ trippedAndRecovered).map fun after =>
      after.breaker.changes.map fun change => (change.previous.value, change.new.value)) =
        some [("CLOSED", "OPEN"), ("OPEN", "COOLDOWN"), ("COOLDOWN", "CLOSED")] ∧
      ∀ state : LossCircuitState, state.value ≠ "HALF_OPEN" := by
  refine ⟨by decide +kernel, fun state => ?_⟩
  cases state <;> decide

end LossCircuitRun

end TradeX.V1
