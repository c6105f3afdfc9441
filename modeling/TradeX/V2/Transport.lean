import TradeX.Lib.Text
import TradeX.V2.CircuitBreaker

/-! The HTTP transport of the v2 brokers: client, circuit breaker, retry executor
and the single repeat after a token refresh. The outcome of every request on the
wire and every clock reading is an input; the model counts the requests sent. -/

namespace TradeX.V2

open Lib

/-- What happens to one request: a response of the broker, with a body that
decodes or not, or no response. -/
inductive WireOutcome where
  | response (status : Nat) (readable : Bool)
  | timeout
  | connectionError
  deriving DecidableEq, Repr

/-- `RequestsClient` with its pooled session, or its `UrllibClient` fallback. -/
inductive HttpClient where
  | requests
  | urllib
  deriving DecidableEq, Repr

/-- What the client gives its caller. -/
inductive ClientResult where
  | returned (status : Nat)
  /-- `URLError`, `ConnectionError` or `TimeoutError`. -/
  | networkError
  | otherError
  deriving DecidableEq, Repr

def HttpClient.request : HttpClient → WireOutcome → ClientResult
  | .requests, .response status _ => .returned status
  | .requests, .timeout => .returned 500
  | .requests, .connectionError => .returned 500
  | .urllib, .response status readable =>
    if 200 ≤ status ∧ status < 300 ∧ readable = false then .otherError else .returned status
  | .urllib, .timeout => .networkError
  | .urllib, .connectionError => .networkError

/-- `RetryConfig`, without the delays. -/
structure RetryConfig where
  maxRetries : Nat := 3
  retryableStatus : List Nat := [429, 500, 502, 503, 504]
  safeRetryOnAmbiguousWrite : Bool := false
  deriving DecidableEq, Repr

/-- One attempt: when the breaker is asked, what happens on the wire, and when a
failure is recorded. -/
structure Exchange where
  askedAt : ℚ
  outcome : WireOutcome
  failedAt : ℚ
  deriving DecidableEq, Repr

inductive RetryResult where
  | returned (status : Nat)
  | exhausted
  | breakerOpen
  | networkError
  | otherError
  deriving DecidableEq, Repr

/-- How one attempt of the retry loop goes on. -/
inductive Attempt where
  | refused
  | ended (breaker : CircuitBreaker) (result : RetryResult)
  | again (breaker : CircuitBreaker)
  deriving DecidableEq, Repr

/-- The body of the retry loop, as far as it does not depend on the attempts left. -/
def attempt (config : RetryConfig) (client : HttpClient) (isWrite : Bool) (exchange : Exchange)
    (breaker : CircuitBreaker) : Attempt :=
  match breaker.beforeRequest exchange.askedAt with
  | none => .refused
  | some admitted =>
    match client.request exchange.outcome with
    | .returned status =>
      if status ∈ config.retryableStatus then .again admitted.onSuccess
      else .ended admitted.onSuccess (.returned status)
    | .networkError =>
      let failed := admitted.onFailure exchange.failedAt
      if isWrite && !config.safeRetryOnAmbiguousWrite then .ended failed .networkError else .again failed
    | .otherError => .ended (admitted.onFailure exchange.failedAt) .otherError

/-- `RetryableHttpClient.request` with the given retries left, after `sent`
requests: the breaker, the requests sent, and the result. -/
def retry (config : RetryConfig) (client : HttpClient) (isWrite : Bool) (trace : Nat → Exchange) :
    Nat → Nat → CircuitBreaker → CircuitBreaker × Nat × RetryResult
  | 0, sent, breaker =>
    match attempt config client isWrite (trace sent) breaker with
    | .refused => (breaker, sent, .breakerOpen)
    | .ended after result => (after, sent + 1, result)
    | .again after => (after, sent + 1, .exhausted)
  | left + 1, sent, breaker =>
    match attempt config client isWrite (trace sent) breaker with
    | .refused => (breaker, sent, .breakerOpen)
    | .ended after result => (after, sent + 1, result)
    | .again after => retry config client isWrite trace left (sent + 1) after

/-- `_WRITE_ENDPOINTS`. -/
def writeEndpoints : List String := ["/orders", "/sliceorder", "/killswitch", "/modify", "/cancel"]

def isWriteEndpoint (path method : String) : Bool :=
  if Text.upper method ∈ ["POST".toList, "PUT".toList, "DELETE".toList] then
    writeEndpoints.any (Text.contains (Text.lower path))
  else false

inductive TransportResult where
  | body (status : Nat)
  | rateLimited
  | authentication
  | network
  | broker
  | tokenFailed
  | clientRaised (result : RetryResult)
  deriving DecidableEq, Repr

/-- A transport as the connections build it: with breaker, retries and the
refresh on an authentication failure. -/
structure HttpTransport where
  client : HttpClient
  breaker : CircuitBreaker := {}
  retryConfig : RetryConfig := {}

/-- What one request meets: the local bucket, the token provider, the attempts,
and after a rejected token the refresh and the token provider once more. -/
structure RequestInput where
  acquired : Bool
  token : Bool
  trace : Nat → Exchange
  refreshed : Bool
  newToken : Bool

namespace HttpTransport

/-- The result for a status no branch before took. -/
def answer (status : Nat) : TransportResult :=
  if status = 401 ∨ status = 403 then .authentication
  else if status ≥ 500 then .network
  else if status ≥ 400 then .broker
  else .body status

/-- `HttpTransport._request`: the requests sent, and how the call ends. -/
def request (transport : HttpTransport) (method path : String) (input : RequestInput) :
    Nat × TransportResult :=
  if input.acquired = false then (0, .rateLimited)
  else if input.token = false then (0, .tokenFailed)
  else
    let isWrite := isWriteEndpoint path method
    let run := retry transport.retryConfig transport.client isWrite input.trace
      transport.retryConfig.maxRetries
    let (breaker, sent, result) := run 0 transport.breaker
    match result with
    | .returned status =>
      if status = 429 then (sent, .rateLimited)
      else if status = 401 ∨ status = 403 then
        if input.refreshed = false then (sent, .authentication)
        else if input.newToken = false then (sent, .tokenFailed)
        else
          let (_, sent, result) := run sent breaker
          match result with
          | .returned status => (sent, answer status)
          | other => (sent, .clientRaised other)
      else (sent, answer status)
    | other => (sent, .clientRaised other)

end HttpTransport

inductive OrderBroker where
  | DHAN
  | UPSTOX
  deriving DecidableEq, Repr

/-- The path `place_order` posts to. -/
def OrderBroker.placeOrderPath : OrderBroker → String
  | DHAN => "/orders"
  | UPSTOX => "/order/place"

/-- The order endpoint of Dhan counts as a write; the one of Upstox does not, for no
listed name occurs in it. -/
theorem OrderBroker.isWriteEndpoint_placeOrder (broker : OrderBroker) :
    isWriteEndpoint broker.placeOrderPath "POST" = decide (broker = DHAN) := by
  cases broker <;> decide

end TradeX.V2
