import Mathlib

/-! The circuit breaker of the v2 HTTP client. Clock readings are arguments. -/

namespace TradeX.V2

inductive CircuitState where
  | CLOSED
  | OPEN
  | HALF_OPEN
  deriving DecidableEq, Repr

structure CircuitBreakerConfig where
  failureThreshold : Nat := 5
  recoveryTimeout : ℚ := 30
  successThreshold : Nat := 2
  deriving DecidableEq, Repr

structure CircuitBreaker where
  config : CircuitBreakerConfig := {}
  state : CircuitState := .CLOSED
  failureCount : Nat := 0
  lastFailureTime : ℚ := 0
  successCount : Nat := 0
  deriving DecidableEq, Repr

namespace CircuitBreaker

/-- The check before a request: `none` when the breaker refuses it. -/
def beforeRequest (breaker : CircuitBreaker) (now : ℚ) : Option CircuitBreaker :=
  if breaker.state = .OPEN then
    if now - breaker.lastFailureTime ≥ breaker.config.recoveryTimeout then
      some { breaker with state := .HALF_OPEN }
    else none
  else some breaker

/-- `_on_success`. -/
def onSuccess (breaker : CircuitBreaker) : CircuitBreaker :=
  if breaker.state = .HALF_OPEN then
    if breaker.successCount + 1 ≥ breaker.config.successThreshold then
      { breaker with state := .CLOSED, failureCount := 0, successCount := 0 }
    else { breaker with successCount := breaker.successCount + 1 }
  else { breaker with failureCount := 0, successCount := 0 }

/-- `_on_failure`. -/
def onFailure (breaker : CircuitBreaker) (now : ℚ) : CircuitBreaker :=
  if breaker.state = .HALF_OPEN then
    { breaker with state := .OPEN, successCount := 0, lastFailureTime := now }
  else
    let failed := { breaker with failureCount := breaker.failureCount + 1, lastFailureTime := now }
    if failed.failureCount ≥ breaker.config.failureThreshold then { failed with state := .OPEN } else failed

variable {breaker admitted : CircuitBreaker} {now : ℚ}

theorem beforeRequest_passing (passed : breaker.beforeRequest now = some admitted) : admitted.state ≠ .OPEN := by
  unfold beforeRequest at passed
  split at passed
  · split at passed
    · cases passed
      exact CircuitState.noConfusion
    · cases passed
  · next closed =>
    cases passed
    exact closed

theorem beforeRequest_of_passing (passing : breaker.state ≠ .OPEN) : breaker.beforeRequest now = some breaker :=
  if_neg passing

/-- A success never opens the breaker. -/
theorem onSuccess_passing (passing : breaker.state ≠ .OPEN) : breaker.onSuccess.state ≠ .OPEN := by
  unfold onSuccess
  split
  · split
    · exact CircuitState.noConfusion
    · exact passing
  · exact passing

theorem iterate_onSuccess_passing (passing : breaker.state ≠ .OPEN) (n : Nat) :
    (onSuccess^[n] breaker).state ≠ .OPEN := by
  induction n generalizing breaker with
  | zero => exact passing
  | succ n ih => exact ih (onSuccess_passing passing)

end CircuitBreaker

end TradeX.V2
