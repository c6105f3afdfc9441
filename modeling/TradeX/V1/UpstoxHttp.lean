import TradeX.V1.DhanHttp

/-! `UpstoxHttpClient._execute_request`, and when the order writes of the two v1
clients are sent again. An Upstox order write gets one attempt; a Dhan order write
gets two whenever a token refresh function is configured, and the second one is
open to every transient outcome of the first. -/

namespace TradeX.V1

open Lib

/-- The body of a response with a status below 400. -/
inductive UpstoxBody where
  | undecodable (exc : String)
  /-- `status` is failure or error. -/
  | failure (message : String)
  /-- The JSON `null`, which the loop reads as no body. -/
  | null
  | data
  deriving DecidableEq, Repr

inductive UpstoxOutcome where
  /-- `requests.exceptions.RequestException`. -/
  | networkError (exc : String)
  | otherError (exc : String)
  | response (status : Nat) (text : String) (body : UpstoxBody)
  deriving DecidableEq, Repr

inductive UpstoxError where
  | api (message : String) (statusCode : Option Nat)
  | auth (message : String) (statusCode : Option Nat)
  | fundsMaintenance (message : String) (statusCode : Nat)
  | circuitBreakerOpen
  /-- The rate limiter did not grant the bucket of the URL in time. -/
  | rateLimitTimeout (url : String)
  | other (message : String)
  deriving DecidableEq, Repr

namespace UpstoxHttpClient

/-- `_categorize_upstox_url` answers "write". -/
def isAmbiguousWrite (method url : String) : Bool :=
  decide (Text.upper method ∈ ["POST".toList, "PUT".toList, "PATCH".toList, "DELETE".toList]) &&
    Text.contains (Text.lower url) "/order"

/-- `_resolve_total_attempts`. -/
def totalAttempts (maxRetries : Nat) (method url : String) : Nat :=
  if isAmbiguousWrite method url then 1 else maxRetries + 2

/-- How one pass of the loop goes on. -/
inductive Pass where
  | retry (error : UpstoxError)
  | refreshed
  /-- No body: the next pass, if there is one. -/
  | empty
  | ended (result : Except UpstoxError Unit)
  deriving Repr

/-- One pass of the loop: transport failure, HTTP error or success body. A refresh
is tried while none has succeeded; `last` says that no attempt is left. -/
def pass (method url : String) (last authRefreshed refreshes : Bool) : UpstoxOutcome → Pass
  | .networkError exc =>
    let error := .api ("Upstox API " ++ method ++ " " ++ url ++ " request failed: " ++ exc) none
    if last then .ended (.error error) else .retry error
  | .otherError exc => .ended (.error (.other exc))
  | .response status _ body =>
    let message := "Upstox API " ++ method ++ " " ++ url ++ " failed: HTTP " ++ toString status
    if status ≥ 400 then
      if status = 401 ∨ status = 403 then
        if !authRefreshed && refreshes then .refreshed
        else .ended (.error (.auth message (some status)))
      else if status = 423 then
        .ended (.error (.fundsMaintenance
          "Upstox funds service is down for maintenance (12:00 AM–5:30 AM IST)" status))
      else if (status = 429 ∨ status ≥ 500) ∧ last = false then .retry (.api message (some status))
      else .ended (.error (.api message (some status)))
    else match body with
      | .undecodable exc => .ended (.error (.other exc))
      | .failure message => .ended (.error (.api message (some status)))
      | .null => .empty
      | .data => .ended (.ok ())

/-- The attempts left, after `sent` requests, with the error to raise when they run
out; the rate limiter is asked before every request. -/
def loop (method url : String) (refreshes : Bool) (acquired : Nat → Bool) (trace : Nat → UpstoxOutcome) :
    Nat → Nat → Bool → UpstoxError → Nat × Except UpstoxError Unit
  | 0, sent, _, final => (sent, .error final)
  | left + 1, sent, authRefreshed, final =>
    if acquired sent = false then
      (sent, .error (.rateLimitTimeout url))
    else match pass method url (decide (left = 0)) authRefreshed refreshes (trace sent) with
      | .ended result => (sent + 1, result)
      | .refreshed =>
        loop method url refreshes acquired trace left (sent + 1) true
          (.auth ("Upstox API " ++ method ++ " " ++ url ++ " failed after transient retries") none)
      | .empty => loop method url refreshes acquired trace left (sent + 1) authRefreshed final
      | .retry error => loop method url refreshes acquired trace left (sent + 1) authRefreshed error

end UpstoxHttpClient

/-- What one call of `_request` meets. -/
structure UpstoxRequest where
  admitted : Bool
  acquired : Nat → Bool
  trace : Nat → UpstoxOutcome
  /-- A token refresh is configured and succeeds. -/
  refreshes : Bool

namespace UpstoxHttpClient

/-- `_request`: the requests sent, and how the call ends. -/
def request (maxRetries : Nat) (method url : String) (input : UpstoxRequest) :
    Nat × Except UpstoxError Unit :=
  if input.admitted = false then (0, .error .circuitBreakerOpen)
  else
    loop method url input.refreshes input.acquired input.trace (totalAttempts maxRetries method url) 0 false
      (.auth ("Upstox API " ++ method ++ " " ++ url ++ " failed after transient retries") none)

variable {method url : String} {refreshes authRefreshed : Bool} {acquired : Nat → Bool}
  {trace : Nat → UpstoxOutcome} {final : UpstoxError}

theorem loop_le (left sent : Nat) (authRefreshed : Bool) (final : UpstoxError) :
    (loop method url refreshes acquired trace left sent authRefreshed final).1 ≤ sent + left := by
  induction left generalizing sent authRefreshed final with
  | zero => exact le_rfl
  | succ left ih =>
    unfold loop
    split
    · exact Nat.le_add_right sent _
    · split
      · dsimp only
        omega
      · exact (ih _ _ _).trans (by omega)
      · exact (ih _ _ _).trans (by omega)
      · exact (ih _ _ _).trans (by omega)

/-- No call sends more requests than its attempts. -/
theorem request_le (maxRetries : Nat) (method url : String) (input : UpstoxRequest) :
    (request maxRetries method url input).1 ≤ totalAttempts maxRetries method url := by
  unfold request
  split
  · exact Nat.zero_le _
  · refine (loop_le _ 0 _ _).trans ?_
    rw [Nat.zero_add]

end UpstoxHttpClient

/-- Every call of either client, for every outcome of its requests. A Dhan request is
repeated only after a refreshed token exactly when it is refused before the first
attempt, or its outcomes are clear for the attempts it has; an Upstox order write is
never repeated. -/
theorem order_write_resent_iff (config : DhanHttpConfig) (baseUrl method endpoint : String) (input : DhanRequest)
    (maxRetries : Nat) (upstoxMethod url : String) (upstoxInput : UpstoxRequest) :
    (OnlyAfterRefresh (fun i => (input.trace i).tokenRejected) (DhanHttpClient.refreshed config input)
        (DhanHttpClient.request config baseUrl method endpoint input).1 ↔
      (input.admitted = true → input.acquired = true →
        DhanHttpClient.Clear
          (DhanHttpClient.maxAttempts config input.refreshFn.isSome method endpoint)
          (DhanHttpClient.refreshed config input) input.trace)) ∧
    (UpstoxHttpClient.isAmbiguousWrite upstoxMethod url = true →
      (UpstoxHttpClient.request maxRetries upstoxMethod url upstoxInput).1 ≤ 1) := by
  refine ⟨DhanHttpClient.request_only_after_refresh config baseUrl method endpoint input, fun write => ?_⟩
  have bound := UpstoxHttpClient.request_le maxRetries upstoxMethod url upstoxInput
  simpa only [UpstoxHttpClient.totalAttempts, write, if_true] using bound

/-- A Dhan call whose first request ends as given and whose second one succeeds, with
the token refresh function given. -/
def thenAccepted (first : DhanOutcome) (refreshFn : Option RefreshAnswer) : DhanRequest where
  admitted := true
  acquired := true
  trace n := if n = 0 then first else .response 200 "" .data
  refresh := {}
  refreshedAt := 1000
  refreshFn := refreshFn

def upstoxRejected : UpstoxRequest where
  admitted := true
  acquired _ := true
  trace _ := .response 401 "" .data
  refreshes := true

/-- The token is rejected once and refreshed. -/
def dhanRejected : DhanRequest := thenAccepted (.response 401 "" .data) (some (.token "t"))

theorem order_write_resent_after_401 :
    OnlyAfterRefresh (fun i => (dhanRejected.trace i).tokenRejected)
      (DhanHttpClient.refreshed {} dhanRejected)
      (DhanHttpClient.request {} "https://api.dhan.co/v2" "POST" "/orders" dhanRejected).1 ∧
    (UpstoxHttpClient.request 3 "POST" "https://api-hft.upstox.com/v3/order/place" upstoxRejected).1 ≤ 1 := by
  obtain ⟨dhan, upstox⟩ := order_write_resent_iff {} "https://api.dhan.co/v2" "POST" "/orders" dhanRejected
    3 "POST" "https://api-hft.upstox.com/v3/order/place" upstoxRejected
  exact ⟨dhan.mpr fun _ _ => by decide +kernel, upstox (by decide +kernel)⟩

/-- A Dhan order write is sent twice after a network error, a 429 or a 500 when a
refresh function is configured, and a conditional order even without one. -/
theorem order_write_resent_after_transient :
    (∀ first ∈ [DhanOutcome.networkError "timed out", .response 429 "" .data, .response 500 "" .data],
      (DhanHttpClient.request {} "https://api.dhan.co/v2" "POST" "/orders"
        (thenAccepted first (some (.token "t")))).1 = 2 ∧
      (DhanHttpClient.request {} "https://api.dhan.co/v2" "POST" "/alerts/orders"
        (thenAccepted first none)).1 = 2) ∧
    ¬ ∀ (config : DhanHttpConfig) (baseUrl method endpoint : String) (input : DhanRequest),
      DhanHttpClient.isAmbiguousWrite method endpoint = true →
        OnlyAfterRefresh (fun i => (input.trace i).tokenRejected) (DhanHttpClient.refreshed config input)
          (DhanHttpClient.request config baseUrl method endpoint input).1 := by
  have twice : ∀ first ∈ [DhanOutcome.networkError "timed out", .response 429 "" .data, .response 500 "" .data],
      (DhanHttpClient.request {} "https://api.dhan.co/v2" "POST" "/orders"
        (thenAccepted first (some (.token "t")))).1 = 2 ∧
      (DhanHttpClient.request {} "https://api.dhan.co/v2" "POST" "/alerts/orders"
        (thenAccepted first none)).1 = 2 := by decide +kernel
  refine ⟨twice, fun claim => ?_⟩
  have only := claim {} "https://api.dhan.co/v2" "POST" "/orders"
    (thenAccepted (.networkError "timed out") (some (.token "t"))) (by decide)
  rw [(twice _ List.mem_cons_self).1] at only
  exact absurd (only 0 (by decide)).1 (by decide)

end TradeX.V1
