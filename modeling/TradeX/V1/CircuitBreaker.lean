import TradeX.Lib.Runs

/-! The circuit breaker of the retry executor, with an account of its trips and of what it hears while half open.
Clock readings are nanoseconds of a clock that does not go back. -/

namespace TradeX.V1.Resilience

inductive CircuitState where
  | CLOSED
  | OPEN
  | HALF_OPEN
  deriving DecidableEq, Repr

structure CircuitBreakerConfig where
  failureThreshold : ℕ
  successThreshold : ℕ
  openDurationMs : ℕ
  failureThreshold_pos : 0 < failureThreshold
  successThreshold_pos : 0 < successThreshold
  openDurationMs_pos : 0 < openDurationMs
  deriving DecidableEq, Repr

structure CircuitBreaker where
  config : CircuitBreakerConfig
  state : CircuitState := .CLOSED
  failureCount : ℕ := 0
  successCount : ℕ := 0
  openedAtNs : ℕ := 0
  stateChangeCount : ℕ := 0
  totalCalls : ℕ := 0
  deriving DecidableEq, Repr

def CircuitBreakerConfig.openDurationNs (config : CircuitBreakerConfig) : ℕ := config.openDurationMs * 1000000

namespace CircuitBreaker

variable (breaker : CircuitBreaker)

/-- `_transition_to`. The reading of the clock counts for `OPEN` only. -/
def transitionTo (newState : CircuitState) (now : ℕ) : CircuitBreaker :=
  if breaker.state = newState then breaker
  else
    let changed := { breaker with state := newState, stateChangeCount := breaker.stateChangeCount + 1 }
    match newState with
    | .OPEN => { changed with openedAtNs := now }
    | .HALF_OPEN => { changed with successCount := 0 }
    | .CLOSED => { changed with failureCount := 0, successCount := 0 }

/-- The property `state`, which ends the open duration. -/
def observe (now : ℕ) : CircuitBreaker :=
  if breaker.state = .OPEN ∧ breaker.openedAtNs + breaker.config.openDurationNs ≤ now then
    breaker.transitionTo .HALF_OPEN now
  else breaker

def allowRequest (now : ℕ) : CircuitBreaker × Bool :=
  let observed := breaker.observe now
  (observed, observed.state ≠ .OPEN)

def onSuccess : CircuitBreaker :=
  let counted := { breaker with totalCalls := breaker.totalCalls + 1 }
  match breaker.state with
  | .HALF_OPEN =>
    let succeeded := { counted with successCount := breaker.successCount + 1 }
    if breaker.config.successThreshold ≤ succeeded.successCount then succeeded.transitionTo .CLOSED 0 else succeeded
  | .CLOSED => { counted with successCount := breaker.successCount + 1, failureCount := 0 }
  | .OPEN => counted

def onFailure (now : ℕ) : CircuitBreaker :=
  let failed := { breaker with
    totalCalls := breaker.totalCalls + 1
    failureCount := breaker.failureCount + 1 }
  match breaker.state with
  | .HALF_OPEN => failed.transitionTo .OPEN now
  | .CLOSED => if breaker.config.failureThreshold ≤ failed.failureCount then failed.transitionTo .OPEN now else failed
  | .OPEN => failed

end CircuitBreaker

/-- A record heard while half open: the episode in which its call was admitted, if it was in one. -/
structure Heard where
  admitted : Option ℕ
  succeeded : Bool
  deriving DecidableEq, Repr

/-- The breaker, and what it does not keep: the last reading of its clock, the readings at its trips, the number
of half-open episodes, and what was heard in the last one. -/
structure Watched where
  breaker : CircuitBreaker
  clock : ℕ := 0
  trips : List ℕ := []
  episodes : ℕ := 0
  heard : List Heard := []
  deriving DecidableEq, Repr

namespace Watched

variable (watched : Watched)

/-- `allow_request`; with it an episode may begin. -/
def admitCall (now : ℕ) : Watched × Bool :=
  let (breaker, allowed) := watched.breaker.allowRequest now
  if breaker.state = watched.breaker.state then ({ watched with breaker := breaker, clock := now }, allowed)
  else ({ watched with breaker := breaker, clock := now, episodes := watched.episodes + 1, heard := [] }, allowed)

/-- The episode under way. -/
def episode : Option ℕ := if watched.breaker.state = .HALF_OPEN then some watched.episodes else none

def hear (admitted : Option ℕ) (succeeded : Bool) : List Heard :=
  if watched.breaker.state = .HALF_OPEN then watched.heard ++ [⟨admitted, succeeded⟩] else watched.heard

def recordSuccess (admitted : Option ℕ) : Watched := { watched with
  breaker := watched.breaker.onSuccess
  heard := watched.hear admitted true }

def recordFailure (admitted : Option ℕ) (now : ℕ) : Watched :=
  let breaker := watched.breaker.onFailure now
  { watched with
    breaker := breaker
    clock := now
    trips := if breaker.state = watched.breaker.state then watched.trips else watched.trips ++ [now]
    heard := watched.hear admitted false }

/-- Trips lie behind the opening of an open breaker, and an open duration behind the clock of another. Half open,
the successes that count are those that were heard. -/
structure Sound : Prop where
  opened : watched.breaker.state = .OPEN → ∀ trip ∈ watched.trips, trip ≤ watched.breaker.openedAtNs
  past : watched.breaker.state ≠ .OPEN → ∀ trip ∈ watched.trips,
    trip + watched.breaker.config.openDurationNs ≤ watched.clock
  behind : ∀ trip ∈ watched.trips, trip ≤ watched.clock
  counted : watched.breaker.state = .HALF_OPEN → watched.breaker.successCount = watched.heard.length ∧
    (∀ heard ∈ watched.heard, heard.succeeded = true) ∧
    watched.breaker.successCount < watched.breaker.config.successThreshold

variable {watched} {now : ℕ} {admitted : Option ℕ}

theorem sound_start (config : CircuitBreakerConfig) : Sound { breaker := { config := config } } where
  opened := nofun
  past _ _ member := absurd member List.not_mem_nil
  behind _ member := absurd member List.not_mem_nil
  counted := nofun

/-- What a check does: it ends the open duration of a breaker, or leaves it as it was. -/
theorem admitCall_cases (watched : Watched) (now : ℕ) :
    (watched.admitCall now = ({ watched with clock := now }, decide (watched.breaker.state ≠ .OPEN))) ∨
    watched.breaker.state = .OPEN ∧ watched.breaker.openedAtNs + watched.breaker.config.openDurationNs ≤ now ∧
      watched.admitCall now = ({
        breaker := watched.breaker.transitionTo .HALF_OPEN now
        clock := now
        trips := watched.trips
        episodes := watched.episodes + 1
        heard := [] }, true) := by
  simp only [admitCall, CircuitBreaker.allowRequest, CircuitBreaker.observe]
  by_cases ended : watched.breaker.state = .OPEN ∧
      watched.breaker.openedAtNs + watched.breaker.config.openDurationNs ≤ now
  · refine .inr ⟨ended.1, ended.2, ?_⟩
    simp [ended, CircuitBreaker.transitionTo]
  · left
    simp [ended]

theorem Sound.admitCall (sound : watched.Sound) (later : watched.clock ≤ now) : (watched.admitCall now).1.Sound ∧
    ((watched.admitCall now).2 = true → ∀ trip ∈ watched.trips,
      trip + watched.breaker.config.openDurationNs ≤ now) := by
  rcases admitCall_cases watched now with same | ⟨wasOpen, elapsed, begun⟩
  · rw [same]
    refine ⟨⟨sound.opened, ?_, ?_, sound.counted⟩, ?_⟩
    · intro passing trip member
      exact (sound.past passing trip member).trans later
    · intro trip member
      exact (sound.behind trip member).trans later
    · intro allowed trip member
      exact (sound.past (of_decide_eq_true allowed) trip member).trans later
  · have ended : ∀ trip ∈ watched.trips, trip + watched.breaker.config.openDurationNs ≤ now := by
      intro trip member
      have before := sound.opened wasOpen trip member
      omega
    rw [begun, CircuitBreaker.transitionTo, if_neg (by rw [wasOpen]; exact CircuitState.noConfusion)]
    refine ⟨⟨nofun, fun _ => ended, ?_, ?_⟩, fun _ => ended⟩
    · intro trip member
      exact (sound.behind trip member).trans later
    · intro _
      exact ⟨rfl, nofun, watched.breaker.config.successThreshold_pos⟩

/-- The step closes a half-open breaker. -/
def Closes (watched after : Watched) : Prop := watched.breaker.state = .HALF_OPEN ∧ after.breaker.state = .CLOSED

/-- As many successes as the threshold asks for were heard in the episode, and no failure. -/
def HeardSuccesses (after : Watched) : Prop :=
  after.heard.length = after.breaker.config.successThreshold ∧ ∀ heard ∈ after.heard, heard.succeeded = true

/-- What a success does: half open it counts, and the last one that is asked for closes the breaker. -/
theorem onSuccess_cases (breaker : CircuitBreaker) : breaker.onSuccess.config = breaker.config ∧
    breaker.onSuccess.openedAtNs = breaker.openedAtNs ∧
    (breaker.state ≠ .HALF_OPEN ∧ breaker.onSuccess.state = breaker.state ∨
    breaker.state = .HALF_OPEN ∧ breaker.onSuccess.state = .HALF_OPEN ∧
      breaker.onSuccess.successCount = breaker.successCount + 1 ∧
      breaker.successCount + 1 < breaker.config.successThreshold ∨
    breaker.state = .HALF_OPEN ∧ breaker.onSuccess.state = .CLOSED ∧
      breaker.config.successThreshold ≤ breaker.successCount + 1) := by
  rw [CircuitBreaker.onSuccess]
  cases state : breaker.state with
  | CLOSED => exact ⟨rfl, rfl, .inl ⟨nofun, rfl⟩⟩
  | OPEN => exact ⟨rfl, rfl, .inl ⟨nofun, rfl⟩⟩
  | HALF_OPEN =>
    dsimp only
    split
    · next enough =>
      rw [CircuitBreaker.transitionTo, if_neg CircuitState.noConfusion]
      exact ⟨rfl, rfl, .inr (.inr ⟨rfl, rfl, enough⟩)⟩
    · next short => exact ⟨rfl, rfl, .inr (.inl ⟨rfl, rfl, rfl, not_le.mp short⟩)⟩

/-- What a failure does: it trips a breaker that is not open, or leaves a closed or open one as it is. -/
theorem onFailure_cases (breaker : CircuitBreaker) (now : ℕ) : (breaker.onFailure now).config = breaker.config ∧
    (breaker.state ≠ .HALF_OPEN ∧ (breaker.onFailure now).state = breaker.state ∧
      (breaker.onFailure now).openedAtNs = breaker.openedAtNs ∨
    breaker.state ≠ .OPEN ∧ (breaker.onFailure now).state = .OPEN ∧ (breaker.onFailure now).openedAtNs = now) := by
  rw [CircuitBreaker.onFailure]
  cases state : breaker.state with
  | OPEN => exact ⟨rfl, .inl ⟨nofun, rfl, rfl⟩⟩
  | HALF_OPEN =>
    dsimp only
    rw [CircuitBreaker.transitionTo, if_neg CircuitState.noConfusion]
    exact ⟨rfl, .inr ⟨nofun, rfl, rfl⟩⟩
  | CLOSED =>
    dsimp only
    split
    · rw [CircuitBreaker.transitionTo, if_neg CircuitState.noConfusion]
      exact ⟨rfl, .inr ⟨nofun, rfl, rfl⟩⟩
    · exact ⟨rfl, .inl ⟨nofun, rfl, rfl⟩⟩

theorem hear_of_halfOpen (halfOpen : watched.breaker.state = .HALF_OPEN) (succeeded : Bool) :
    watched.hear admitted succeeded = watched.heard ++ [⟨admitted, succeeded⟩] := if_pos halfOpen

theorem hear_succeeded (all : ∀ heard ∈ watched.heard, heard.succeeded = true) :
    ∀ heard ∈ watched.heard ++ [⟨admitted, true⟩], heard.succeeded = true := by
  intro heard member
  rcases List.mem_append.mp member with before | last
  · exact all heard before
  · rw [List.mem_singleton.mp last]

theorem Sound.recordSuccess (sound : watched.Sound) (admitted : Option ℕ) :
    (watched.recordSuccess admitted).Sound ∧
    (Closes watched (watched.recordSuccess admitted) → (watched.recordSuccess admitted).HeardSuccesses) := by
  obtain ⟨config, opening, moved⟩ := onSuccess_cases watched.breaker
  rcases moved with ⟨notHalf, same⟩ | ⟨halfOpen, still, counts, short⟩ | ⟨halfOpen, closed, enough⟩
  · refine ⟨⟨?_, ?_, sound.behind, ?_⟩, fun closes => absurd closes.1 notHalf⟩
    · intro opened
      simp only [Watched.recordSuccess, opening]
      exact sound.opened (same ▸ opened)
    · intro passing
      simp only [Watched.recordSuccess, config]
      exact sound.past (same ▸ passing)
    · intro halfOpen
      exact absurd (same ▸ halfOpen) notHalf
  · obtain ⟨counted, succeeded, -⟩ := sound.counted halfOpen
    refine ⟨⟨?_, ?_, sound.behind, ?_⟩, ?_⟩
    · intro opened
      rw [Watched.recordSuccess, still] at opened
      cases opened
    · intro _
      simp only [Watched.recordSuccess, config]
      exact sound.past (halfOpen ▸ CircuitState.noConfusion)
    · intro _
      simp only [Watched.recordSuccess, hear_of_halfOpen halfOpen, counts, config, counted, List.length_append]
      exact ⟨rfl, hear_succeeded succeeded, counted ▸ short⟩
    · intro closes
      have state := closes.2
      rw [Watched.recordSuccess, still] at state
      cases state
  · obtain ⟨counted, succeeded, below⟩ := sound.counted halfOpen
    refine ⟨⟨?_, ?_, sound.behind, ?_⟩, ?_⟩
    · intro opened
      rw [Watched.recordSuccess, closed] at opened
      cases opened
    · intro _
      simp only [Watched.recordSuccess, config]
      exact sound.past (halfOpen ▸ CircuitState.noConfusion)
    · intro state
      rw [Watched.recordSuccess, closed] at state
      cases state
    · intro _
      simp only [HeardSuccesses, Watched.recordSuccess, hear_of_halfOpen halfOpen, config, List.length_append,
        List.length_singleton]
      exact ⟨by omega, hear_succeeded succeeded⟩

theorem Sound.recordFailure (sound : watched.Sound) (admitted : Option ℕ) (later : watched.clock ≤ now) :
    (watched.recordFailure admitted now).Sound ∧ ¬Closes watched (watched.recordFailure admitted now) := by
  obtain ⟨config, moved⟩ := onFailure_cases watched.breaker now
  rcases moved with ⟨notHalf, same, opening⟩ | ⟨passing, tripped, opening⟩
  · refine ⟨⟨?_, ?_, ?_, ?_⟩, fun closes => notHalf closes.1⟩
    · intro opened
      simp only [Watched.recordFailure, same, if_true, opening]
      exact sound.opened (same ▸ opened)
    · intro passing trip member
      simp only [Watched.recordFailure, same, if_true, config] at member ⊢
      exact (sound.past (same ▸ passing) trip member).trans later
    · intro trip member
      simp only [Watched.recordFailure, same, if_true] at member ⊢
      exact (sound.behind trip member).trans later
    · intro halfOpen
      exact absurd (same ▸ halfOpen) notHalf
  · have differs : (watched.breaker.onFailure now).state ≠ watched.breaker.state := by
      rw [tripped]
      exact passing.symm
    have listed : ∀ trip ∈ (watched.recordFailure admitted now).trips, trip ≤ now := by
      intro trip member
      simp only [Watched.recordFailure, if_neg differs] at member
      rcases List.mem_append.mp member with before | last
      · exact (sound.behind trip before).trans later
      · exact (List.mem_singleton.mp last).le
    refine ⟨⟨?_, ?_, listed, ?_⟩, ?_⟩
    · intro _ trip member
      simp only [Watched.recordFailure, opening]
      exact listed trip member
    · intro state
      exact absurd tripped state
    · intro state
      rw [Watched.recordFailure, tripped] at state
      cases state
    · intro closes
      have state := closes.2
      rw [Watched.recordFailure, tripped] at state
      cases state

end Watched

end TradeX.V1.Resilience
