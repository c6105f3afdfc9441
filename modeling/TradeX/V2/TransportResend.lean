import TradeX.V2.Transport

/-! When an order placement is sent a second time. The requests client turns a
lost response into status 500, which the retry executor repeats whatever the
endpoint; the urllib client raises, and the executor repeats what the endpoint
list does not name. -/

namespace TradeX.V2

open Lib CircuitBreaker

def WireOutcome.ambiguous : WireOutcome → Prop
  | .response _ _ => False
  | .timeout | .connectionError => True

instance : (outcome : WireOutcome) → Decidable outcome.ambiguous
  | .response _ _ => isFalse id
  | .timeout | .connectionError => isTrue trivial

namespace RetryConfig

/-- The broker answered with a status that is configured as retryable. -/
def retries (config : RetryConfig) : WireOutcome → Prop
  | .response status _ => status ∈ config.retryableStatus
  | .timeout | .connectionError => False

instance (config : RetryConfig) : (outcome : WireOutcome) → Decidable (config.retries outcome)
  | .response _ _ => inferInstanceAs (Decidable (_ ∈ _))
  | .timeout | .connectionError => isFalse id

/-- The broker rejected the request for good: with a retryable status, or with the
rejected token that the refresh answers. -/
def definitive (config : RetryConfig) : WireOutcome → Prop
  | .response status _ => status ∈ config.retryableStatus ∨ status = 401 ∨ status = 403
  | .timeout | .connectionError => False

/-- The client repeats a request whose outcome it does not know. -/
def Repeats (config : RetryConfig) (client : HttpClient) (isWrite : Bool) (breaker : CircuitBreaker)
    (exchange : Exchange) (next : ℚ) : Prop :=
  match client with
  | .requests => 500 ∈ config.retryableStatus
  | .urllib => (isWrite && !config.safeRetryOnAmbiguousWrite) = false ∧
      ((breaker.onFailure exchange.failedAt).beforeRequest next).isSome = true

/-- Of the requests from number `start` on, the one at offset `i` is the first that
is not answered with a retryable status, its outcome is unknown, and the client
repeats it. -/
structure Hazard (config : RetryConfig) (client : HttpClient) (isWrite : Bool) (trace : Nat → Exchange)
    (start : Nat) (breaker : CircuitBreaker) (i : Nat) : Prop where
  before : ∀ j < i, config.retries (trace (start + j)).outcome
  unknown : (trace (start + i)).outcome.ambiguous
  repeats : config.Repeats client isWrite (onSuccess^[i] breaker) (trace (start + i))
    (trace (start + i + 1)).askedAt

/-- Of the requests from number `start` on, the one at offset `i` is answered with
the status, after nothing but retryable statuses. -/
structure Answered (config : RetryConfig) (trace : Nat → Exchange) (start i status : Nat) : Prop where
  before : ∀ j < i, config.retries (trace (start + j)).outcome
  status : ∃ readable, (trace (start + i)).outcome = .response status readable

end RetryConfig

/-- Every request that is followed by another one was rejected for good. -/
def OnlyAfterRejection (config : RetryConfig) (trace : Nat → Exchange) (start sent : Nat) : Prop :=
  ∀ i, start ≤ i → i + 1 < sent → config.definitive (trace i).outcome

section

variable {config : RetryConfig} {client : HttpClient} {isWrite : Bool} {trace : Nat → Exchange}
  {breaker : CircuitBreaker} {start left i status : Nat}

theorem RetryConfig.retries.definitive {outcome : WireOutcome} (retries : config.retries outcome) :
    config.definitive outcome := by
  cases outcome with
  | response status readable => exact .inl retries
  | timeout => exact retries
  | connectionError => exact retries

theorem WireOutcome.ambiguous.not_definitive {outcome : WireOutcome} (unknown : outcome.ambiguous) :
    ¬ config.definitive outcome := by
  cases outcome with
  | response status readable => exact absurd unknown id
  | timeout => exact id
  | connectionError => exact id

theorem WireOutcome.ambiguous.not_retries {outcome : WireOutcome} (unknown : outcome.ambiguous) :
    ¬ config.retries outcome := fun retries => unknown.not_definitive retries.definitive

theorem OnlyAfterRejection.of_single : OnlyAfterRejection config trace start (start + 1) := by
  intro i low high
  omega

theorem OnlyAfterRejection.split {middle sent : Nat} (first : start < middle) (rest : middle < sent) :
    OnlyAfterRejection config trace start sent ↔
      OnlyAfterRejection config trace start middle ∧ config.definitive (trace (middle - 1)).outcome ∧
        OnlyAfterRejection config trace middle sent := by
  constructor
  · intro only
    exact ⟨fun i low high => only i low (by omega), only (middle - 1) (by omega) (by omega),
      fun i low high => only i (by omega) high⟩
  · rintro ⟨before, last, after⟩ i low high
    by_cases early : i + 1 < middle
    · exact before i low early
    · by_cases boundary : i = middle - 1
      · exact boundary ▸ last
      · exact after i (by omega) high

/-- Shifting a hazard past a request that was answered with a retryable status. -/
theorem RetryConfig.hazard_succ :
    config.Hazard client isWrite trace start breaker (i + 1) ↔
      config.retries (trace start).outcome ∧
        config.Hazard client isWrite trace (start + 1) breaker.onSuccess i := by
  have shift : ∀ j, start + (j + 1) = start + 1 + j := by
    intro j
    omega
  constructor
  · rintro ⟨before, unknown, repeats⟩
    refine ⟨before 0 (by omega), fun j low => ?_, ?_, ?_⟩
    · have earlier := before (j + 1) (by omega)
      rwa [shift] at earlier
    · rwa [shift] at unknown
    · rwa [shift, Function.iterate_succ_apply] at repeats
  · rintro ⟨first, before, unknown, repeats⟩
    refine ⟨fun j low => ?_, ?_, ?_⟩
    · cases j with
      | zero => exact first
      | succ j =>
        rw [shift]
        exact before j (by omega)
    · rwa [shift]
    · rwa [shift, Function.iterate_succ_apply]

theorem RetryConfig.answered_succ :
    config.Answered trace start (i + 1) status ↔
      config.retries (trace start).outcome ∧ config.Answered trace (start + 1) i status := by
  have shift : ∀ j, start + (j + 1) = start + 1 + j := by
    intro j
    omega
  constructor
  · rintro ⟨before, answered⟩
    refine ⟨before 0 (by omega), fun j low => ?_, ?_⟩
    · have earlier := before (j + 1) (by omega)
      rwa [shift] at earlier
    · rwa [shift] at answered
  · rintro ⟨first, before, answered⟩
    refine ⟨fun j low => ?_, ?_⟩
    · cases j with
      | zero => exact first
      | succ j =>
        rw [shift]
        exact before j (by omega)
    · rwa [shift]

/-- A request without a response: the attempt ends unless the client repeats it. -/
private theorem attempt_unknown (config : RetryConfig) (client : HttpClient) (isWrite : Bool) (passing : breaker.state ≠ .OPEN) {exchange : Exchange}
    (unknown : exchange.outcome.ambiguous) :
    (∃ after result, attempt config client isWrite exchange breaker = .ended after result ∧
      ∀ next, ¬ config.Repeats client isWrite breaker exchange next) ∨
    (∃ after, attempt config client isWrite exchange breaker = .again after ∧
      ∀ next, config.Repeats client isWrite breaker exchange next ↔ (after.beforeRequest next).isSome = true) := by
  have raises : client.request exchange.outcome =
      match client with | .requests => .returned 500 | .urllib => .networkError := by
    cases outcome : exchange.outcome with
    | response status readable =>
      rw [outcome] at unknown
      exact absurd unknown id
    | timeout => cases client <;> rfl
    | connectionError => cases client <;> rfl
  unfold attempt
  rw [beforeRequest_of_passing passing]
  simp only [raises]
  cases client with
  | requests =>
    by_cases listed : 500 ∈ config.retryableStatus
    · refine .inr ⟨_, if_pos listed, fun next => ?_⟩
      rw [beforeRequest_of_passing (onSuccess_passing passing)]
      simpa [RetryConfig.Repeats] using listed
    · exact .inl ⟨_, _, if_neg listed, fun next => listed⟩
  | urllib =>
    cases stops : (isWrite && !config.safeRetryOnAmbiguousWrite) with
    | true => exact .inl ⟨_, _, rfl, fun next => by simp [RetryConfig.Repeats, stops]⟩
    | false => exact .inr ⟨_, rfl, fun next => by simp [RetryConfig.Repeats, stops]⟩

/-- What one attempt does when the breaker lets it pass. -/
theorem attempt_cases (client : HttpClient) (isWrite : Bool)
    (errors : ∀ status ∈ config.retryableStatus, 300 ≤ status)
    (passing : breaker.state ≠ .OPEN) (exchange : Exchange) :
    (config.retries exchange.outcome ∧
      attempt config client isWrite exchange breaker = .again breaker.onSuccess) ∨
    (¬ config.retries exchange.outcome ∧ ¬ exchange.outcome.ambiguous ∧
      ∃ after result, attempt config client isWrite exchange breaker = .ended after result) ∨
    (exchange.outcome.ambiguous ∧
      ∃ after result, attempt config client isWrite exchange breaker = .ended after result ∧
        ∀ next, ¬ config.Repeats client isWrite breaker exchange next) ∨
    (exchange.outcome.ambiguous ∧ ∃ after, attempt config client isWrite exchange breaker = .again after ∧
      ∀ next, config.Repeats client isWrite breaker exchange next ↔ (after.beforeRequest next).isSome = true) := by
  by_cases unknown : exchange.outcome.ambiguous
  · rcases attempt_unknown config client isWrite passing unknown with ended | again
    · exact .inr (.inr (.inl ⟨unknown, ended⟩))
    · exact .inr (.inr (.inr ⟨unknown, again⟩))
  · unfold attempt
    rw [beforeRequest_of_passing passing]
    cases outcome : exchange.outcome with
    | timeout => exact absurd (by rw [outcome]; trivial) unknown
    | connectionError => exact absurd (by rw [outcome]; trivial) unknown
    | response status readable =>
      by_cases listed : status ∈ config.retryableStatus
      · have decodes : ¬ (200 ≤ status ∧ status < 300 ∧ readable = false) := by
          rintro ⟨-, low, -⟩
          exact absurd (errors status listed) (by omega)
        refine .inl ⟨listed, ?_⟩
        cases client with
        | requests => simp only [HttpClient.request, if_pos listed]
        | urllib => simp only [HttpClient.request, if_neg decodes, if_pos listed]
      · refine .inr (.inl ⟨listed, id, ?_⟩)
        cases client with
        | requests => exact ⟨_, _, by simp only [HttpClient.request, if_neg listed]; rfl⟩
        | urllib =>
          by_cases garbled : 200 ≤ status ∧ status < 300 ∧ readable = false
          · exact ⟨_, _, by simp only [HttpClient.request, if_pos garbled]; rfl⟩
          · exact ⟨_, _, by simp only [HttpClient.request, if_neg garbled, if_neg listed]; rfl⟩

/-- The retry loop stops before its first request when the breaker refuses it. -/
theorem retry_refused (refused : breaker.beforeRequest (trace start).askedAt = none) :
    (retry config client isWrite trace left start breaker).2.1 = start := by
  have stops : attempt config client isWrite (trace start) breaker = .refused := by
    simp only [attempt, refused]
  cases left with
  | zero => simp only [retry, stops]
  | succ left => simp only [retry, stops]

theorem retry_start_le (left start : Nat) (breaker : CircuitBreaker) :
    start ≤ (retry config client isWrite trace left start breaker).2.1 := by
  induction left generalizing start breaker with
  | zero =>
    unfold retry
    split <;> simp
  | succ left ih =>
    unfold retry
    split
    · exact le_rfl
    · exact Nat.le_succ start
    · exact (Nat.le_succ start).trans (ih _ _)

theorem retry_sends (admitted : (breaker.beforeRequest (trace start).askedAt).isSome = true) :
    start < (retry config client isWrite trace left start breaker).2.1 := by
  have asked : attempt config client isWrite (trace start) breaker ≠ .refused := by
    obtain ⟨passed, admits⟩ := Option.isSome_iff_exists.mp admitted
    simp only [attempt, admits]
    split
    · split <;> exact Attempt.noConfusion
    · split <;> exact Attempt.noConfusion
    · exact Attempt.noConfusion
  cases left with
  | zero =>
    unfold retry
    split
    · next refused => exact absurd refused asked
    · exact Nat.lt_succ_self start
    · exact Nat.lt_succ_self start
  | succ left =>
    unfold retry
    split
    · next refused => exact absurd refused asked
    · exact Nat.lt_succ_self start
    · exact Nat.lt_of_succ_le (retry_start_le _ _ _)

/-- One round of the retry loop repeats only rejected requests exactly when none
of its requests but the last it may send is a hazard. -/
theorem retry_only_after_rejection (client : HttpClient) (isWrite : Bool) (trace : Nat → Exchange)
    (start left : Nat) (errors : ∀ status ∈ config.retryableStatus, 300 ≤ status)
    (passing : breaker.state ≠ .OPEN) :
    OnlyAfterRejection config trace start (retry config client isWrite trace left start breaker).2.1 ↔
      ∀ i < left, ¬ config.Hazard client isWrite trace start breaker i := by
  induction left generalizing start breaker with
  | zero =>
    have single : (retry config client isWrite trace 0 start breaker).2.1 ≤ start + 1 := by
      unfold retry
      split <;> simp
    constructor
    · intro _ i low
      omega
    · intro _ i low high
      omega
  | succ left ih =>
    rcases attempt_cases client isWrite errors passing (trace start) with
      ⟨retries, again⟩ | ⟨final, known, after, result, ended⟩ |
      ⟨unknown, after, result, ended, never⟩ | ⟨unknown, after, again, repeats⟩
    · have onward := onSuccess_passing passing
      have more : start + 1 < (retry config client isWrite trace left (start + 1) breaker.onSuccess).2.1 :=
        retry_sends (by rw [beforeRequest_of_passing onward]; rfl)
      simp only [retry, again]
      rw [OnlyAfterRejection.split (Nat.lt_succ_self start) more, ih (start + 1) onward]
      have first : config.definitive (trace (start + 1 - 1)).outcome := by
        rw [Nat.add_sub_cancel]
        exact retries.definitive
      constructor
      · rintro ⟨-, -, safe⟩ i low hazard
        cases i with
        | zero => exact hazard.unknown.not_retries retries
        | succ i => exact safe i (by omega) (RetryConfig.hazard_succ.mp hazard).2
      · intro safe
        refine ⟨OnlyAfterRejection.of_single, first, fun i low hazard => ?_⟩
        exact safe (i + 1) (by omega) (RetryConfig.hazard_succ.mpr ⟨retries, hazard⟩)
    · simp only [retry, ended]
      refine iff_of_true OnlyAfterRejection.of_single fun i low hazard => ?_
      cases i with
      | zero => exact known hazard.unknown
      | succ i => exact final (RetryConfig.hazard_succ.mp hazard).1
    · simp only [retry, ended]
      refine iff_of_true OnlyAfterRejection.of_single fun i low hazard => ?_
      cases i with
      | zero => exact never _ hazard.repeats
      | succ i => exact unknown.not_retries (RetryConfig.hazard_succ.mp hazard).1
    · simp only [retry, again]
      cases admits : after.beforeRequest (trace (start + 1)).askedAt with
      | none =>
        rw [retry_refused admits]
        refine iff_of_true OnlyAfterRejection.of_single fun i low hazard => ?_
        cases i with
        | zero =>
          have repeated := (repeats _).mp hazard.repeats
          rw [Nat.add_zero, admits] at repeated
          cases repeated
        | succ i => exact unknown.not_retries (RetryConfig.hazard_succ.mp hazard).1
      | some passed =>
        have admitted : (after.beforeRequest (trace (start + 1)).askedAt).isSome = true := by rw [admits]; rfl
        have more : start + 1 < (retry config client isWrite trace left (start + 1) after).2.1 :=
          retry_sends admitted
        refine iff_of_false (fun only => ?_) fun safe => ?_
        · exact unknown.not_definitive (only start le_rfl more)
        · refine safe 0 (Nat.succ_pos left) ⟨fun j low => absurd low (Nat.not_lt_zero j), unknown, ?_⟩
          exact (repeats _).mpr admitted

/-- The round returns a status for which the executor does not retry, after
retryable statuses only. -/
theorem retry_answered (errors : ∀ status ∈ config.retryableStatus, 300 ≤ status)
    (passing : breaker.state ≠ .OPEN) (low : i ≤ left)
    (answered : config.Answered trace start i status) (high : 300 ≤ status)
    (final : status ∉ config.retryableStatus) :
    retry config client isWrite trace left start breaker =
      (onSuccess^[i + 1] breaker, start + i + 1, .returned status) := by
  induction i generalizing left start breaker with
  | zero =>
    obtain ⟨readable, outcome⟩ := answered.status
    have ended : attempt config client isWrite (trace start) breaker =
        .ended breaker.onSuccess (.returned status) := by
      have decodes : ¬ (200 ≤ status ∧ status < 300 ∧ readable = false) := by
        rintro ⟨-, below, -⟩
        omega
      unfold attempt
      rw [beforeRequest_of_passing passing, ← Nat.add_zero start, outcome]
      cases client with
      | requests => simp only [HttpClient.request, if_neg final]
      | urllib => simp only [HttpClient.request, if_neg decodes, if_neg final]
    cases left with
    | zero => simp only [retry, ended, Function.iterate_succ_apply, Function.iterate_zero_apply]
    | succ left => simp only [retry, ended, Function.iterate_succ_apply, Function.iterate_zero_apply]
  | succ i ih =>
    obtain ⟨retries, later⟩ := RetryConfig.answered_succ.mp answered
    cases left with
    | zero => omega
    | succ left =>
      rcases attempt_cases client isWrite errors passing (trace start) with
        ⟨-, again⟩ | ⟨final, -⟩ | ⟨unknown, -⟩ | ⟨unknown, -⟩
      · have shorter : i ≤ left := by omega
        have counted : start + 1 + i + 1 = start + (i + 1) + 1 := by omega
        simp only [retry, again]
        rw [ih (onSuccess_passing passing) shorter later, counted]
        rfl
      · exact absurd retries final
      · exact absurd retries unknown.not_retries
      · exact absurd retries unknown.not_retries

theorem attempt_returned {after : CircuitBreaker} {exchange : Exchange} (genuine : status ≠ 500)
    (returned : attempt config client isWrite exchange breaker = .ended after (.returned status)) :
    ∃ readable, exchange.outcome = .response status readable := by
  unfold attempt at returned
  cases admits : breaker.beforeRequest exchange.askedAt with
  | none => simp only [admits, reduceCtorEq] at returned
  | some admitted =>
    simp only [admits] at returned
    cases outcome : exchange.outcome with
    | response answered readable =>
      refine ⟨readable, ?_⟩
      simp only [outcome, HttpClient.request] at returned
      cases client with
      | requests =>
        simp only at returned
        split at returned
        · cases returned
        · cases returned
          rfl
      | urllib =>
        simp only at returned
        by_cases garbled : 200 ≤ answered ∧ answered < 300 ∧ readable = false
        · simp only [if_pos garbled, Attempt.ended.injEq, reduceCtorEq, and_false] at returned
        · simp only [if_neg garbled] at returned
          split at returned
          · cases returned
          · cases returned
            rfl
    | timeout | connectionError =>
      simp only [outcome, HttpClient.request] at returned
      cases client with
      | requests =>
        simp only at returned
        split at returned
        · cases returned
        · cases returned
          exact absurd rfl genuine
      | urllib =>
        simp only at returned
        split at returned
        · cases returned
        · cases returned

/-- A status other than 500 that a round without hazards returns is the broker's own. -/
theorem answered_of_retry (errors : ∀ status ∈ config.retryableStatus, 300 ≤ status)
    (passing : breaker.state ≠ .OPEN) (genuine : status ≠ 500)
    (safe : ∀ i < left, ¬ config.Hazard client isWrite trace start breaker i)
    (returned : (retry config client isWrite trace left start breaker).2.2 = .returned status) :
    ∃ i ≤ left, config.Answered trace start i status := by
  have here : ∀ {after}, attempt config client isWrite (trace start) breaker =
      .ended after (.returned status) → config.Answered trace start 0 status := fun ended =>
    ⟨fun j low => absurd low (Nat.not_lt_zero j), attempt_returned genuine ended⟩
  induction left generalizing start breaker with
  | zero =>
    simp only [retry] at returned
    split at returned
    · cases returned
    · next ended =>
      dsimp only at returned
      exact ⟨0, le_rfl, here (returned ▸ ended)⟩
    · cases returned
  | succ left ih =>
    simp only [retry] at returned
    split at returned
    · cases returned
    · next ended =>
      dsimp only at returned
      exact ⟨0, Nat.zero_le _, here (returned ▸ ended)⟩
    · next after again =>
      rcases attempt_cases client isWrite errors passing (trace start) with
        ⟨retries, again'⟩ | ⟨-, -, after', result, ended⟩ | ⟨-, after', result, ended, -⟩ |
        ⟨unknown, after', again', repeats⟩
      · cases again.symm.trans again'
        have later : ∀ i < left, ¬ config.Hazard client isWrite trace (start + 1) breaker.onSuccess i :=
          fun i low hazard => safe (i + 1) (by omega) (RetryConfig.hazard_succ.mpr ⟨retries, hazard⟩)
        obtain ⟨i, low, answered⟩ := ih (onSuccess_passing passing) later returned
          fun ended => ⟨fun j low => absurd low (Nat.not_lt_zero j), attempt_returned genuine ended⟩
        exact ⟨i + 1, by omega, RetryConfig.answered_succ.mpr ⟨retries, answered⟩⟩
      · cases again.symm.trans ended
      · cases again.symm.trans ended
      · cases again.symm.trans again'
        have stopped : after.beforeRequest (trace (start + 1)).askedAt = none := by
          have quiet := safe 0 (Nat.succ_pos left)
          cases admits : after.beforeRequest (trace (start + 1)).askedAt with
          | none => rfl
          | some passed =>
            refine absurd ⟨fun j low => absurd low (Nat.not_lt_zero j), unknown, ?_⟩ quiet
            exact (repeats _).mpr (by rw [Nat.add_zero, admits]; rfl)
        have refused : attempt config client isWrite (trace (start + 1)) after = .refused := by
          simp only [attempt, stopped]
        cases left with
        | zero => simp only [retry, refused, reduceCtorEq] at returned
        | succ left => simp only [retry, refused, reduceCtorEq] at returned

/-- The breaker is asked once before the first request. -/
theorem retry_admitted {admitted : CircuitBreaker}
    (admits : breaker.beforeRequest (trace start).askedAt = some admitted) :
    retry config client isWrite trace left start breaker =
      retry config client isWrite trace left start admitted := by
  have same : attempt config client isWrite (trace start) breaker =
      attempt config client isWrite (trace start) admitted := by
    simp only [attempt, admits, beforeRequest_of_passing (beforeRequest_passing admits)]
  have asked : attempt config client isWrite (trace start) admitted ≠ .refused := by
    simp only [attempt, beforeRequest_of_passing (beforeRequest_passing admits)]
    split
    · split <;> exact Attempt.noConfusion
    · split <;> exact Attempt.noConfusion
    · exact Attempt.noConfusion
  cases left with
  | zero =>
    simp only [retry, same]
    split
    · next refused => exact absurd refused asked
    · rfl
    · rfl
  | succ left =>
    simp only [retry, same]
    split
    · next refused => exact absurd refused asked
    · rfl
    · rfl

end

namespace HttpTransport

/-- The transport both connections build: default retries, the given client, and
the breaker as earlier requests left it. -/
def connection (client : HttpClient) (breaker : CircuitBreaker) : HttpTransport where
  client := client
  breaker := breaker

/-- Neither the first round of requests nor the round after a token refresh meets
a hazard before its last retry. -/
def Clear (transport : HttpTransport) (isWrite : Bool) (input : RequestInput) : Prop :=
  input.acquired = true → input.token = true →
    ∀ admitted, transport.breaker.beforeRequest (input.trace 0).askedAt = some admitted →
      (∀ i < transport.retryConfig.maxRetries,
        ¬ transport.retryConfig.Hazard transport.client isWrite input.trace 0 admitted i) ∧
      (input.refreshed = true → input.newToken = true →
        ∀ i ≤ transport.retryConfig.maxRetries, ∀ status ∈ [401, 403],
          transport.retryConfig.Answered input.trace 0 i status →
            ∀ j < transport.retryConfig.maxRetries,
              ¬ transport.retryConfig.Hazard transport.client isWrite input.trace (i + 1)
                (onSuccess^[i + 1] admitted) j)

variable {transport : HttpTransport} {method path : String} {input : RequestInput}

/-- One round of requests, from a request number and a breaker. -/
def round (transport : HttpTransport) (isWrite : Bool) (trace : Nat → Exchange) (start : Nat)
    (breaker : CircuitBreaker) : CircuitBreaker × Nat × RetryResult :=
  retry transport.retryConfig transport.client isWrite trace transport.retryConfig.maxRetries start breaker

/-- The requests are those of the first round, unless it ends with a rejected token
that a refresh answers. -/
theorem request_once (acquired : input.acquired = true) (token : input.token = true)
    {first : CircuitBreaker × Nat × RetryResult}
    (ran : transport.round (isWriteEndpoint path method) input.trace 0 transport.breaker = first)
    (final : (∀ status ∈ [401, 403], first.2.2 ≠ .returned status) ∨ input.refreshed = false ∨
      input.newToken = false) :
    (transport.request method path input).1 = first.2.1 := by
  obtain ⟨breaker, sent, result⟩ := first
  unfold round at ran
  simp only [request, acquired, token, Bool.true_eq_false, if_false, ran]
  cases result with
  | returned status =>
    by_cases throttled : status = 429
    · simp only [if_pos throttled]
    · by_cases rejected : status = 401 ∨ status = 403
      · simp only [if_neg throttled, if_pos rejected]
        rcases final with never | unrefreshed | untokened
        · rcases rejected with rfl | rfl
          · exact absurd rfl (never 401 (by simp))
          · exact absurd rfl (never 403 (by simp))
        · simp only [unrefreshed, if_true]
        · simp only [untokened, if_true]
          split <;> rfl
      · simp only [if_neg throttled, if_neg rejected]
  | exhausted | breakerOpen | networkError | otherError => rfl

theorem request_twice (acquired : input.acquired = true) (token : input.token = true)
    (refreshed : input.refreshed = true) (newToken : input.newToken = true)
    {breaker : CircuitBreaker} {sent status : Nat} (rejected : status ∈ [401, 403])
    (ran : transport.round (isWriteEndpoint path method) input.trace 0 transport.breaker =
      (breaker, sent, .returned status)) :
    (transport.request method path input).1 =
      (transport.round (isWriteEndpoint path method) input.trace sent breaker).2.1 := by
  unfold round at ran ⊢
  have plain : status ≠ 429 ∧ (status = 401 ∨ status = 403) := by
    simp only [List.mem_cons, List.not_mem_nil, or_false] at rejected
    omega
  simp only [request, acquired, token, refreshed, newToken, Bool.true_eq_false, if_false, ran, if_neg plain.1,
    if_pos plain.2]
  split <;> rfl

/-- An open breaker sends nothing. -/
theorem request_refused (method : String) (acquired : input.acquired = true) (token : input.token = true)
    (admits : transport.breaker.beforeRequest (input.trace 0).askedAt = none) :
    (transport.request method path input).1 = 0 := by
  have silent : (transport.round (isWriteEndpoint path method) input.trace 0 transport.breaker).2.1 = 0 :=
    retry_refused admits
  have refused : attempt transport.retryConfig transport.client (isWriteEndpoint path method)
      (input.trace 0) transport.breaker = .refused := by
    simp only [attempt, admits]
  have ended : (transport.round (isWriteEndpoint path method) input.trace 0
      transport.breaker).2.2 = .breakerOpen := by
    unfold round
    cases transport.retryConfig.maxRetries with
    | zero => simp only [retry, refused]
    | succ left => simp only [retry, refused]
  rw [request_once acquired token rfl (.inl fun status _ => by rw [ended]; exact RetryResult.noConfusion), silent]

section

variable {isWrite : Bool} {admitted : CircuitBreaker} {i status : Nat}

/-- A round that meets a rejected token behind retryable statuses ends with it. -/
theorem round_rejected (errors : ∀ status ∈ transport.retryConfig.retryableStatus, 300 ≤ status)
    (rejections : ∀ status ∈ [401, 403], status ∉ transport.retryConfig.retryableStatus)
    (passing : admitted.state ≠ .OPEN) (low : i ≤ transport.retryConfig.maxRetries) (listed : status ∈ [401, 403])
    (answered : transport.retryConfig.Answered input.trace 0 i status) :
    transport.round isWrite input.trace 0 admitted = (onSuccess^[i + 1] admitted, i + 1, .returned status) := by
  have high : 300 ≤ status := by
    simp only [List.mem_cons, List.not_mem_nil, or_false] at listed
    omega
  have ended : transport.round isWrite input.trace 0 admitted =
      (onSuccess^[i + 1] admitted, 0 + i + 1, .returned status) :=
    retry_answered errors passing low answered high (rejections status listed)
  rwa [Nat.zero_add] at ended

/-- A first round without hazards that returns a rejected token met it behind retryable
statuses. -/
theorem rejection_met (errors : ∀ status ∈ transport.retryConfig.retryableStatus, 300 ≤ status)
    (passing : admitted.state ≠ .OPEN) (listed : status ∈ [401, 403])
    (returned : (transport.round isWrite input.trace 0 admitted).2.2 = .returned status)
    (safe : ∀ i < transport.retryConfig.maxRetries,
      ¬ transport.retryConfig.Hazard transport.client isWrite input.trace 0 admitted i) :
    ∃ i ≤ transport.retryConfig.maxRetries, transport.retryConfig.Answered input.trace 0 i status := by
  have genuine : status ≠ 500 := by
    simp only [List.mem_cons, List.not_mem_nil, or_false] at listed
    omega
  exact answered_of_retry errors passing genuine safe returned

/-- Two rounds with the rejected token between them repeat a request only after a
definitive rejection, when both do. -/
theorem onlyAfterRejection_joined {total : Nat} (listed : status ∈ [401, 403])
    (answered : transport.retryConfig.Answered input.trace 0 i status)
    (before : OnlyAfterRejection transport.retryConfig input.trace 0 (i + 1))
    (after : OnlyAfterRejection transport.retryConfig input.trace (i + 1) total) :
    OnlyAfterRejection transport.retryConfig input.trace 0 total := by
  intro j _ high
  rcases Nat.lt_trichotomy j i with early | rfl | late
  · exact before j (Nat.zero_le j) (by omega)
  · obtain ⟨readable, outcome⟩ := answered.status
    rw [Nat.zero_add] at outcome
    rw [outcome]
    simp only [List.mem_cons, List.not_mem_nil, or_false] at listed
    exact .inr listed
  · exact after j late high

end

/-- The request of a passing breaker whose first round ends with a rejected token that a
refresh answers. -/
theorem request_refreshed {admitted : CircuitBreaker} {status : Nat}
    (errors : ∀ status ∈ transport.retryConfig.retryableStatus, 300 ≤ status)
    (rejections : ∀ status ∈ [401, 403], status ∉ transport.retryConfig.retryableStatus)
    (acquired : input.acquired = true) (token : input.token = true) (refreshed : input.refreshed = true)
    (newToken : input.newToken = true) (passing : admitted.state ≠ .OPEN)
    (ran : transport.round (isWriteEndpoint path method) input.trace 0 transport.breaker =
      transport.round (isWriteEndpoint path method) input.trace 0 admitted)
    (listed : status ∈ [401, 403])
    (returned : (transport.round (isWriteEndpoint path method) input.trace 0 admitted).2.2 = .returned status) :
    OnlyAfterRejection transport.retryConfig input.trace 0 (transport.request method path input).1 ↔
      (∀ i < transport.retryConfig.maxRetries, ¬ transport.retryConfig.Hazard transport.client
        (isWriteEndpoint path method) input.trace 0 admitted i) ∧
      ∀ i ≤ transport.retryConfig.maxRetries, ∀ status ∈ [401, 403],
        transport.retryConfig.Answered input.trace 0 i status →
          ∀ j < transport.retryConfig.maxRetries, ¬ transport.retryConfig.Hazard transport.client
            (isWriteEndpoint path method) input.trace (i + 1) (onSuccess^[i + 1] admitted) j := by
  have first := retry_only_after_rejection transport.client (isWriteEndpoint path method)
    input.trace 0 transport.retryConfig.maxRetries errors passing
  have second : ∀ i, OnlyAfterRejection transport.retryConfig input.trace (i + 1)
      (transport.round (isWriteEndpoint path method) input.trace (i + 1) (onSuccess^[i + 1] admitted)).2.1 ↔ _ :=
    fun i => retry_only_after_rejection _ _ _ _ _ errors (iterate_onSuccess_passing passing (i + 1))
  have ends : ∀ i ≤ transport.retryConfig.maxRetries, ∀ status ∈ [401, 403],
      transport.retryConfig.Answered input.trace 0 i status →
      transport.round (isWriteEndpoint path method) input.trace 0 admitted =
        (onSuccess^[i + 1] admitted, i + 1, .returned status) := fun i low status listed answered =>
    round_rejected errors rejections passing low listed answered
  have total : ∀ i ≤ transport.retryConfig.maxRetries, ∀ status ∈ [401, 403],
      transport.retryConfig.Answered input.trace 0 i status →
      (transport.request method path input).1 =
        (transport.round (isWriteEndpoint path method) input.trace (i + 1) (onSuccess^[i + 1] admitted)).2.1 :=
    fun i low status listed answered =>
      request_twice acquired token refreshed newToken listed (ran.trans (ends i low status listed answered))
  have grows : (transport.round (isWriteEndpoint path method) input.trace 0 admitted).2.1 ≤
      (transport.request method path input).1 := by
    rw [request_twice acquired token refreshed newToken listed
      (ran.trans (Prod.ext rfl (Prod.ext rfl returned)))]
    exact retry_start_le _ _ _
  constructor
  · intro only
    refine ⟨first.mp fun i low high => only i low (high.trans_le grows), ?_⟩
    intro i low status listed answered
    rw [total i low status listed answered] at only
    exact (second i).mp fun j low high => only j (Nat.zero_le j) high
  · rintro ⟨safe, clear⟩
    obtain ⟨i, low, answered⟩ := rejection_met errors passing listed returned safe
    have before := first.mpr safe
    have inFirst : (retry transport.retryConfig transport.client (isWriteEndpoint path method)
        input.trace transport.retryConfig.maxRetries 0 admitted).2.1 = i + 1 :=
      congrArg (fun ending => ending.2.1) (ends i low status listed answered)
    rw [inFirst] at before
    rw [total i low status listed answered]
    exact onlyAfterRejection_joined listed answered before
      ((second i).mpr (clear i low status listed answered))

theorem request_only_after_rejection (transport : HttpTransport) (method path : String) (input : RequestInput)
    (errors : ∀ status ∈ transport.retryConfig.retryableStatus, 300 ≤ status)
    (rejections : ∀ status ∈ [401, 403], status ∉ transport.retryConfig.retryableStatus) :
    OnlyAfterRejection transport.retryConfig input.trace 0 (transport.request method path input).1 ↔
      transport.Clear (isWriteEndpoint path method) input := by
  have nothing : OnlyAfterRejection transport.retryConfig input.trace 0 0 := by
    intro i _ high
    omega
  unfold Clear
  cases acquired : input.acquired with
  | false =>
    refine iff_of_true ?_ (by rintro ⟨⟩)
    simpa only [request, acquired, if_true] using nothing
  | true =>
    cases token : input.token with
    | false =>
      refine iff_of_true ?_ (by rintro _ ⟨⟩)
      simpa only [request, acquired, token, Bool.true_eq_false, if_false, if_true] using nothing
    | true =>
      cases admits : transport.breaker.beforeRequest (input.trace 0).askedAt with
      | none =>
        refine iff_of_true ?_ (by rintro _ _ _ ⟨⟩)
        rw [request_refused method acquired token admits]
        exact nothing
      | some admitted =>
        have passing := beforeRequest_passing admits
        have ran : transport.round (isWriteEndpoint path method) input.trace 0 transport.breaker =
            transport.round (isWriteEndpoint path method) input.trace 0 admitted := retry_admitted admits
        simp only [true_imp_iff, Option.some.injEq, forall_eq']
        by_cases again : (∃ status ∈ [401, 403], (transport.round (isWriteEndpoint path method)
            input.trace 0 admitted).2.2 = .returned status) ∧ input.refreshed = true ∧ input.newToken = true
        · obtain ⟨⟨status, listed, returned⟩, refreshed, newToken⟩ := again
          refine (request_refreshed errors rejections acquired token refreshed newToken passing ran listed
            returned).trans ?_
          simp only [refreshed, newToken, true_imp_iff]
        · have final : (∀ status ∈ [401, 403], (transport.round (isWriteEndpoint path method)
              input.trace 0 transport.breaker).2.2 ≠ .returned status) ∨ input.refreshed = false ∨
                input.newToken = false := by
            rw [ran]
            by_contra open_
            rw [not_or, not_or] at open_
            obtain ⟨some_, refreshed, newToken⟩ := open_
            push Not at some_
            exact again ⟨some_, by simpa using refreshed, by simpa using newToken⟩
          rw [request_once acquired token rfl final, ran]
          have first := retry_only_after_rejection transport.client (isWriteEndpoint path method)
            input.trace 0 transport.retryConfig.maxRetries errors passing
          refine first.trans ⟨fun safe => ⟨safe, ?_⟩, fun clear => clear.1⟩
          intro refreshed newToken i low status listed answered
          have ended : transport.round (isWriteEndpoint path method) input.trace 0 admitted =
              (onSuccess^[i + 1] admitted, i + 1, .returned status) :=
            round_rejected errors rejections passing low listed answered
          exact absurd ⟨⟨status, listed, by rw [ended]⟩, refreshed, newToken⟩ again

/-- An order placement over either connection is sent again only after a definitive
rejection exactly when no request in either round is a hazard. -/
theorem place_order_resent_iff (broker : OrderBroker) (client : HttpClient) (breaker : CircuitBreaker)
    (input : RequestInput) :
    OnlyAfterRejection {} input.trace 0
        ((connection client breaker).request "POST" broker.placeOrderPath input).1 ↔
      (connection client breaker).Clear (decide (broker = .DHAN)) input := by
  rw [← broker.isWriteEndpoint_placeOrder]
  have errors : ∀ status ∈ ({} : RetryConfig).retryableStatus, 300 ≤ status := by decide
  have rejections : ∀ status ∈ [401, 403], status ∉ ({} : RetryConfig).retryableStatus := by decide
  exact request_only_after_rejection (connection client breaker) _ _ input errors rejections

/-- The urllib client never repeats a Dhan placement whose outcome it does not know. -/
theorem dhan_urllib_clear (breaker : CircuitBreaker) (input : RequestInput) :
    (connection .urllib breaker).Clear true input := by
  have raises : ∀ {trace start before i},
      ¬ RetryConfig.Hazard {} .urllib true trace start before i := fun hazard =>
    Bool.noConfusion hazard.repeats.1
  exact fun _ _ _ _ => ⟨fun _ _ => raises, fun _ _ _ _ _ _ _ _ _ => raises⟩

/-- The first request times out; whatever follows is answered. -/
def timedOut : RequestInput where
  acquired := true
  token := true
  trace n := {
    askedAt := n
    outcome := if n = 0 then .timeout else .response 200 true
    failedAt := n }
  refreshed := true
  newToken := true

/-- With the requests client both brokers get the placement twice. -/
theorem place_order_resent_after_timeout :
    (∀ broker : OrderBroker,
      (connection .requests {}).request "POST" broker.placeOrderPath timedOut = (2, .body 200)) ∧
    ¬ ∀ (broker : OrderBroker) (client : HttpClient) (breaker : CircuitBreaker) (input : RequestInput),
      OnlyAfterRejection {} input.trace 0
        ((connection client breaker).request "POST" broker.placeOrderPath input).1 := by
  have twice : ∀ broker : OrderBroker,
      (connection .requests {}).request "POST" broker.placeOrderPath timedOut = (2, .body 200) := by
    intro broker
    cases broker <;> decide +kernel
  refine ⟨twice, fun claim => ?_⟩
  have only := claim .DHAN .requests {} timedOut
  rw [twice .DHAN] at only
  exact only 0 le_rfl (by decide)

end HttpTransport

end TradeX.V2
