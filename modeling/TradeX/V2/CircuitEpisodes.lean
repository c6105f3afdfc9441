import TradeX.Lib.Runs
import TradeX.V2.CircuitBreaker

/-! Requests through the circuit breaker, which begin and end in any order. The breaker counts the successes
that it hears while it is half open, and does not look at when their requests began. -/

namespace TradeX.V2

open Lib

/-- How the wrapped client ends a request. -/
inductive RequestEnd where
  | succeeded
  | failed
  /-- A `CircuitBreakerOpenError` of the wrapped client, which is not counted. -/
  | refused
  deriving DecidableEq, Repr

inductive RequestEvent where
  | begins (now : ℚ)
  /-- The request at this place among those that are under way ends. -/
  | ends (place : Nat) (how : RequestEnd) (now : ℚ)
  deriving DecidableEq, Repr

/-- A completion heard while half open: the episode in which its request began, if it began in one. -/
structure Heard where
  began : Option Nat
  succeeded : Bool
  deriving DecidableEq, Repr

/-- The breaker, and what it does not keep: where each request under way began, the number of episodes that
have begun, and what was heard in the last one. -/
structure CircuitRun where
  breaker : CircuitBreaker
  underWay : List (Option Nat) := []
  episodes : Nat := 0
  heard : List Heard := []
  deriving DecidableEq, Repr

namespace CircuitRun

/-- The check of `request`; a refused request changes nothing. -/
def requestBegins (s : CircuitRun) (now : ℚ) : CircuitRun :=
  match s.breaker.beforeRequest now with
  | none => s
  | some breaker =>
    if s.breaker.state = .OPEN then {
      breaker := breaker
      underWay := s.underWay ++ [some (s.episodes + 1)]
      episodes := s.episodes + 1
      heard := [] }
    else { s with
      breaker := breaker
      underWay := s.underWay ++ [if breaker.state = .HALF_OPEN then some s.episodes else none] }

/-- The rest of `request`. -/
def requestEnds (s : CircuitRun) (began : Option Nat) (how : RequestEnd) (now : ℚ) : CircuitRun :=
  match how with
  | .refused => s
  | .succeeded => { s with
      breaker := s.breaker.onSuccess
      heard := if s.breaker.state = .HALF_OPEN then s.heard ++ [⟨began, true⟩] else s.heard }
  | .failed => { s with
      breaker := s.breaker.onFailure now
      heard := if s.breaker.state = .HALF_OPEN then s.heard ++ [⟨began, false⟩] else s.heard }

def step (s : CircuitRun) : RequestEvent → Option CircuitRun
  | .begins now => some (s.requestBegins now)
  | .ends place how now =>
    (s.underWay[place]?).map fun began =>
      requestEnds { s with underWay := s.underWay.eraseIdx place } began how now

def start (config : CircuitBreakerConfig) : CircuitRun where
  breaker := { config := config }

/-- The step closes a half-open breaker. -/
def Closes (s t : CircuitRun) : Prop := s.breaker.state = .HALF_OPEN ∧ t.breaker.state = .CLOSED

/-- The successes heard of requests that began in the episode. -/
def own (t : CircuitRun) : Nat := t.heard.countP fun heard => heard.began = some t.episodes ∧ heard.succeeded

/-- The successes of the episode's own requests reach the threshold, and none of its requests has failed. -/
def OwnSuccesses (t : CircuitRun) : Prop :=
  t.breaker.config.successThreshold ≤ t.own ∧
    ∀ heard ∈ t.heard, heard.began = some t.episodes → heard.succeeded = true

instance (s t : CircuitRun) : Decidable (Closes s t) := inferInstanceAs (Decidable (_ ∧ _))

instance (t : CircuitRun) : Decidable t.OwnSuccesses := inferInstanceAs (Decidable (_ ∧ _))

instance (s : CircuitRun) (event : RequestEvent) :
    Decidable (∀ t, step s event = some t → Closes s t → t.OwnSuccesses) :=
  inferInstanceAs (Decidable (∀ t ∈ step s event, Closes s t → t.OwnSuccesses))

/-- The successes heard in the episode reach the threshold, and no failure was heard; they are those of the
episode's own requests exactly where no success of an earlier one was among them. -/
structure HeardSuccesses (t : CircuitRun) : Prop where
  enough : t.breaker.config.successThreshold ≤ t.heard.length
  succeeded : ∀ heard ∈ t.heard, heard.succeeded = true
  own_iff : t.OwnSuccesses ↔ t.breaker.config.successThreshold = 0 ∨ ∀ heard ∈ t.heard, heard.began = some t.episodes

/-- While half open, what is counted is what was heard. -/
structure Counting (s : CircuitRun) : Prop where
  idle : s.breaker.state ≠ .HALF_OPEN → s.breaker.successCount = 0
  counted : s.breaker.state = .HALF_OPEN → s.breaker.successCount = s.heard.length
  succeeded : s.breaker.state = .HALF_OPEN → ∀ heard ∈ s.heard, heard.succeeded = true
  short : s.breaker.successCount ≤ s.breaker.config.successThreshold - 1

variable {s t : CircuitRun} {now : ℚ} {began : Option Nat} {how : RequestEnd} {events : List RequestEvent}

theorem requestBegins_counting (counting : s.Counting) : (s.requestBegins now).Counting := by
  simp only [requestBegins]
  cases passed : s.breaker.beforeRequest now with
  | none => exact counting
  | some breaker =>
    simp only [CircuitBreaker.beforeRequest] at passed
    dsimp only
    split at passed
    · next opened =>
      rw [if_pos opened]
      have zero : s.breaker.successCount = 0 := counting.idle (by rw [opened]; exact CircuitState.noConfusion)
      split at passed
      · rw [← Option.some.inj passed]
        exact ⟨fun _ => zero, fun _ => zero, fun _ => nofun, counting.short⟩
      · cases passed
    · next passing =>
      rw [if_neg passing, ← Option.some.inj passed]
      exact ⟨counting.idle, counting.counted, counting.succeeded, counting.short⟩

/-- A request never closes the breaker by beginning. -/
theorem requestBegins_not_closes : ¬ Closes s (s.requestBegins now) := by
  rintro ⟨half, closed⟩
  have passing : s.breaker.state ≠ .OPEN := by
    rw [half]
    exact CircuitState.noConfusion
  simp only [requestBegins, CircuitBreaker.beforeRequest_of_passing passing] at closed
  rw [if_neg passing] at closed
  exact absurd (half.symm.trans closed) CircuitState.noConfusion

theorem requestEnds_counting (counting : s.Counting) : (s.requestEnds began how now).Counting := by
  cases how with
  | refused => exact counting
  | succeeded =>
    simp only [requestEnds, CircuitBreaker.onSuccess]
    split
    · next half =>
      have counted := counting.counted half
      split
      · exact ⟨fun _ => rfl, nofun, nofun, Nat.zero_le _⟩
      · next below =>
        refine ⟨fun idle => absurd half idle, fun _ => ?_, fun _ => ?_, ?_⟩
        · rw [counted, List.length_append, List.length_singleton]
        · intro heard member
          rcases List.mem_append.mp member with before | here
          · exact counting.succeeded half heard before
          · rw [List.mem_singleton.mp here]
        · exact Nat.le_sub_one_of_lt (not_le.mp below)
    · next idle => exact ⟨fun _ => rfl, fun half => absurd half idle, fun half => absurd half idle, Nat.zero_le _⟩
  | failed =>
    simp only [requestEnds, CircuitBreaker.onFailure]
    split
    · exact ⟨fun _ => rfl, nofun, nofun, Nat.zero_le _⟩
    · next idle =>
      have zero := counting.idle idle
      split
      · exact ⟨fun _ => zero, nofun, nofun, counting.short⟩
      · exact ⟨fun _ => zero, fun half => absurd half idle, fun half => absurd half idle, counting.short⟩

/-- What is heard at a closing: as many successes as the threshold asks for, or the one that came. -/
theorem requestEnds_closes (counting : s.Counting) (closes : Closes s (s.requestEnds began how now)) :
    (∀ heard ∈ (s.requestEnds began how now).heard, heard.succeeded = true) ∧
      s.breaker.config.successThreshold ≤ (s.requestEnds began how now).heard.length ∧
      ((s.requestEnds began how now).heard.length ≤ s.breaker.config.successThreshold ∨
        s.breaker.config.successThreshold = 0) ∧
      (s.requestEnds began how now).breaker.config = s.breaker.config := by
  obtain ⟨half, closed⟩ := closes
  have counted := counting.counted half
  have short := counting.short
  cases how with
  | refused => exact absurd (half.symm.trans closed) CircuitState.noConfusion
  | failed =>
    simp only [requestEnds, CircuitBreaker.onFailure] at closed
    rw [if_pos half] at closed
    cases closed
  | succeeded =>
    simp only [requestEnds, CircuitBreaker.onSuccess] at closed ⊢
    rw [if_pos half] at closed ⊢
    rw [if_pos half]
    split at closed
    · next reached =>
      rw [if_pos reached, List.length_append, List.length_singleton, ← counted]
      refine ⟨fun heard member => ?_, reached, ?_, rfl⟩
      · rcases List.mem_append.mp member with before | here
        · exact counting.succeeded half heard before
        · rw [List.mem_singleton.mp here]
      · omega
    · exact absurd (half.symm.trans closed) CircuitState.noConfusion

/-- Where the successes are just as many as the threshold, the own ones reach it where they are all. -/
theorem heardSuccesses_of (succeeded : ∀ heard ∈ t.heard, heard.succeeded = true)
    (enough : t.breaker.config.successThreshold ≤ t.heard.length)
    (most : t.heard.length ≤ t.breaker.config.successThreshold ∨ t.breaker.config.successThreshold = 0) :
    t.HeardSuccesses := by
  refine ⟨enough, succeeded, ?_⟩
  constructor
  · intro own
    rcases most with most | zero
    · have whole : t.own = t.heard.length :=
        le_antisymm List.countP_le_length (most.trans own.1)
      refine .inr fun heard member => ?_
      have counted := List.countP_eq_length.mp whole heard member
      exact (decide_eq_true_iff.mp counted).1
    · exact .inl zero
  · intro condition
    refine ⟨?_, fun heard member _ => succeeded heard member⟩
    rcases condition with zero | all
    · rw [zero]
      exact Nat.zero_le _
    · have whole : t.own = t.heard.length := List.countP_eq_length.mpr fun heard member =>
        decide_eq_true ⟨all heard member, succeeded heard member⟩
      exact whole ▸ enough

theorem step_counting {event : RequestEvent} (counting : s.Counting) (taken : step s event = some t) : t.Counting := by
  cases event with
  | begins now =>
    rw [← Option.some.inj taken]
    exact requestBegins_counting counting
  | ends place how now =>
    obtain ⟨began, -, rfl⟩ := Option.map_eq_some_iff.mp taken
    exact requestEnds_counting ⟨counting.idle, counting.counted, counting.succeeded, counting.short⟩

theorem step_closes {event : RequestEvent} (counting : s.Counting) (taken : step s event = some t)
    (closes : Closes s t) : t.HeardSuccesses := by
  cases event with
  | begins now =>
    rw [← Option.some.inj taken] at closes
    exact absurd closes requestBegins_not_closes
  | ends place how now =>
    obtain ⟨began, -, rfl⟩ := Option.map_eq_some_iff.mp taken
    have here : Counting { s with underWay := s.underWay.eraseIdx place } :=
      ⟨counting.idle, counting.counted, counting.succeeded, counting.short⟩
    obtain ⟨succeeded, enough, most, config⟩ := requestEnds_closes here closes
    rw [← config] at enough most
    exact heardSuccesses_of succeeded enough most

/-- In every interleaving the breaker closes from half open only where the successes heard since the episode
began reach the threshold with no failure heard; they are of the episode's own requests exactly where no
request that began before the episode is among them. -/
theorem closes_on_heard_successes (config : CircuitBreakerConfig) (events : List RequestEvent) :
    Meets step (fun s event => ∀ t, step s event = some t → Closes s t → t.HeardSuccesses) (start config) events := by
  have initial : (start config).Counting := ⟨fun _ => rfl, nofun, nofun, Nat.zero_le _⟩
  have any : Meets step (fun _ _ => True) (start config) events := meets_of_forall fun _ _ => trivial
  have preserved : ∀ s event t, Counting s → True → step s event = some t → Counting t :=
    fun s event t counting _ taken => step_counting counting taken
  refine (meets_invariant preserved initial any).mono fun s event held t taken closes => ?_
  exact step_closes held.1 taken closes

/-- Two requests begin; one fails and opens the breaker. A third one begins as the probe, and the success of
the first comes back before it. -/
def staleSuccess : List RequestEvent :=
  [.begins 0, .begins 0, .ends 1 .failed 1, .begins 31, .ends 0 .succeeded 32]

/-- The breaker closes on the success of a request that began before it was opened. -/
theorem closes_on_stale_success : ¬ ∀ (config : CircuitBreakerConfig) (events : List RequestEvent),
    Meets step (fun s event => ∀ t, step s event = some t → Closes s t → t.OwnSuccesses) (start config) events := by
  intro claim
  exact absurd (claim { failureThreshold := 1, successThreshold := 1 } staleSuccess) (by decide +kernel)

/-- Three requests of one episode close the breaker. -/
example : ((exec step (start { failureThreshold := 1, successThreshold := 3 })
    [.begins 0, .ends 0 .failed 1, .begins 31, .begins 32, .begins 33, .ends 2 .succeeded 34, .ends 0 .succeeded 35,
      .ends 0 .succeeded 36]).map fun t => (t.breaker.state, t.own)) = some (.CLOSED, 3) := by
  decide +kernel

end CircuitRun

end TradeX.V2
