import TradeX.Lib.Text

/-! `DhanHttpClient._request`: the number of attempts is fixed before the first
one, and five kinds of outcome may go on to the next. The circuit breaker and the
rate limiter are asked once, before the loop. -/

namespace TradeX.V1

open Lib

/-- The body of a response with a status below 400. -/
inductive DhanBody where
  | undecodable
  | failure (remarks : String)
  | data
  deriving DecidableEq, Repr

/-- What one request of the session ends with. -/
inductive DhanOutcome where
  /-- `requests.RequestException`. -/
  | networkError (exc : String)
  | otherError (exc : String)
  | response (status : Nat) (text : String) (body : DhanBody)
  deriving DecidableEq, Repr

inductive DhanError where
  | dhan (message : String)
  | authentication (message : String)
  | rateLimit (message : String)
  | other (message : String)
  deriving DecidableEq, Repr

/-- How the token refresh function ends. -/
inductive RefreshAnswer where
  | token (token : String)
  | nothing
  | raises (message : String)
  deriving DecidableEq, Repr

/-- The settings of `_request` and of the token refresh. -/
structure DhanHttpConfig where
  maxRetries : Nat := 3
  enableRetry : Bool := true
  refreshCooldownSeconds : ℚ := 60
  rateLimitBackoffSeconds : ℚ := 130
  deriving DecidableEq, Repr

structure TokenRefresh where
  lastRefreshTime : ℚ := 0
  refreshBackoffUntil : Option ℚ := none
  deriving DecidableEq, Repr

namespace DhanHttpClient

/-- `_WRITE_PREFIXES`. -/
def writePrefixes : List String :=
  ["/orders", "/super", "/forever", "/slice", "/killswitch", "/exitall", "/conditional", "/triggers"]

/-- `_is_ambiguous_write`. -/
def isAmbiguousWrite (method endpoint : String) : Bool :=
  if Text.upper method ∈ ["POST".toList, "PUT".toList, "PATCH".toList, "DELETE".toList] then
    writePrefixes.any (Text.startsWith (Text.before '?' (Text.lower endpoint)))
  else false

/-- The attempts `_request` allows, where `refreshes` says that there is a token
refresh function. -/
def maxAttempts (config : DhanHttpConfig) (refreshes : Bool) (method endpoint : String) : Nat :=
  if isAmbiguousWrite method endpoint then
    -- one repeat after a 401 refresh
    if refreshes then 2 else 1
  else if config.enableRetry then config.maxRetries else 1

/-- A 400 whose text carries a token error code. -/
def tokenErrorText (text : String) : Bool :=
  let body := text.toList.take 300
  Text.contains body "DH-906" || Text.contains body "DH-808" || Text.contains body "Invalid Token"

def rateLimitText (message : String) : Bool :=
  Text.contains message.toList "once every 2 minutes" || Text.contains (Text.lower message) "rate limit"

/-- `_try_refresh_token` at a clock reading; the function is `none` when there is none. -/
def tryRefreshToken (config : DhanHttpConfig) (state : TokenRefresh) (now : ℚ)
    (refreshFn : Option RefreshAnswer) : TokenRefresh × Bool :=
  if (match state.refreshBackoffUntil with | some limit => decide (now < limit) | none => false) then
    (state, false)
  else if now - state.lastRefreshTime < config.refreshCooldownSeconds then (state, false)
  else match refreshFn with
    | none => (state, false)
    | some (.token token) =>
      if token = "" then
        ({ state with refreshBackoffUntil := some (now + config.rateLimitBackoffSeconds) }, false)
      else ({ lastRefreshTime := now, refreshBackoffUntil := none }, true)
    | some .nothing =>
      ({ state with refreshBackoffUntil := some (now + config.rateLimitBackoffSeconds) }, false)
    | some (.raises message) =>
      if rateLimitText message then
        ({ state with refreshBackoffUntil := some (now + config.rateLimitBackoffSeconds) }, false)
      else (state, false)

/-- How one pass of the loop goes on: to the next attempt when one is left, to the
next pass whether one is left or not, or out of the loop. -/
inductive Pass where
  | retry (otherwise : DhanError)
  | refreshed
  | ended (result : Except DhanError Unit)
  deriving Repr

/-- One pass of the loop; the refresh is tried in the first pass only. -/
def pass (method endpoint url : String) (first refreshed : Bool) : DhanOutcome → Pass
  | .networkError exc => .retry (.dhan ("HTTP " ++ method ++ " " ++ url ++ " failed: " ++ exc))
  | .otherError exc => .ended (.error (.other exc))
  | .response status text body =>
    if status = 401 then
      if first && refreshed then .refreshed
      else .ended (.error (.authentication ("Token rejected: HTTP 401 on " ++ method ++ " " ++ endpoint)))
    else if status = 429 then
      .retry (.rateLimit ("Rate limited: HTTP 429 on " ++ method ++ " " ++ endpoint))
    else if status ≥ 500 then
      .retry (.dhan ("Dhan API " ++ method ++ " " ++ url ++ " failed: HTTP " ++ toString status ++ " — " ++
        String.ofList (text.toList.take 200)))
    else if status ≥ 400 then
      if status = 400 && tokenErrorText text then
        if first && refreshed then .refreshed
        else .ended (.error (.authentication ("Token rejected: DH-906 on " ++ method ++ " " ++ endpoint)))
      else .ended (.error (.dhan ("Dhan API " ++ method ++ " " ++ url ++ " failed: HTTP " ++
        toString status ++ " — " ++ String.ofList (text.toList.take 300))))
    else match body with
      | .undecodable => .ended (.error (.dhan ("Invalid JSON from " ++ method ++ " " ++ url)))
      | .failure remarks => .ended (.error (.dhan ("API failure: " ++ remarks)))
      | .data => .ended (.ok ())

/-- The attempts left, after `sent` requests; `passOf` is the pass for a request
number and its outcome. -/
def loop (passOf : Nat → DhanOutcome → Pass) (trace : Nat → DhanOutcome) (exhausted : DhanError) :
    Nat → Nat → Nat × Except DhanError Unit
  | 0, sent => (sent, .error exhausted)
  | left + 1, sent =>
    match passOf sent (trace sent) with
    | .ended result => (sent + 1, result)
    | .refreshed => loop passOf trace exhausted left (sent + 1)
    | .retry otherwise =>
      if left = 0 then (sent + 1, .error otherwise) else loop passOf trace exhausted left (sent + 1)

end DhanHttpClient

/-- What one call of `_request` meets: whether the breaker admits it, whether the
rate limiter grants it, the outcomes of its requests, and the token refresh. -/
structure DhanRequest where
  admitted : Bool
  acquired : Bool
  trace : Nat → DhanOutcome
  refresh : TokenRefresh
  refreshedAt : ℚ
  refreshFn : Option RefreshAnswer

namespace DhanHttpClient

/-- The token refresh of this call succeeds. -/
def refreshed (config : DhanHttpConfig) (input : DhanRequest) : Bool :=
  (tryRefreshToken config input.refresh input.refreshedAt input.refreshFn).2

/-- `_request`: the requests sent, and how the call ends. -/
def request (config : DhanHttpConfig) (baseUrl method endpoint : String) (input : DhanRequest) :
    Nat × Except DhanError Unit :=
  if input.admitted = false then (0, .error (.dhan ("Circuit breaker open: " ++ method ++ " " ++ endpoint)))
  else if input.acquired = false then
    (0, .error (.dhan ("Rate limit timeout: " ++ method ++ " " ++ endpoint)))
  else
    let url := if Text.startsWith endpoint.toList "/" then baseUrl ++ endpoint else endpoint
    let attempts := maxAttempts config input.refreshFn.isSome method endpoint
    loop (fun sent => pass method endpoint url (decide (sent = 0)) (refreshed config input)) input.trace
      (.dhan ("Request failed after " ++ toString attempts ++ " attempts: " ++ method ++ " " ++ url))
      attempts 0

end DhanHttpClient

namespace DhanOutcome

/-- A network error, a 429 or a 5xx. -/
def transient : DhanOutcome → Bool
  | networkError _ => true
  | otherError _ => false
  | response status _ _ => decide (status = 429 ∨ status ≥ 500)

/-- A 401, or a 400 with a token error code. -/
def tokenRejected : DhanOutcome → Bool
  | response status text _ =>
    decide (status = 401) || (decide (status = 400) && DhanHttpClient.tokenErrorText text)
  | _ => false

theorem transient_not_rejected {outcome : DhanOutcome} (transient : outcome.transient = true) :
    outcome.tokenRejected = false := by
  cases outcome with
  | networkError exc => rfl
  | otherError exc => rfl
  | response status text body =>
    simp only [DhanOutcome.transient, decide_eq_true_eq] at transient
    have plain : status ≠ 401 ∧ status ≠ 400 := by omega
    simp only [tokenRejected, plain.1, plain.2, decide_false, Bool.false_and, Bool.or_self]

end DhanOutcome

namespace DhanHttpClient

variable {config : DhanHttpConfig} {baseUrl method endpoint url : String} {input : DhanRequest}
  {outcome : DhanOutcome} {first refreshes : Bool}

/-- What one pass does: a transient outcome goes on while an attempt is left, a
rejected token in the first pass after a successful refresh, nothing else. -/
theorem pass_cases (method endpoint url : String) (first refreshes : Bool) (outcome : DhanOutcome) :
    (outcome.transient = true ∧ ∃ otherwise, pass method endpoint url first refreshes outcome =
      .retry otherwise) ∨
    (outcome.transient = false ∧ outcome.tokenRejected = true ∧ first = true ∧ refreshes = true ∧
      pass method endpoint url first refreshes outcome = .refreshed) ∨
    (outcome.transient = false ∧ (outcome.tokenRejected && first && refreshes) = false ∧
      ∃ result, pass method endpoint url first refreshes outcome = .ended result) := by
  cases outcome with
  | networkError exc => exact .inl ⟨rfl, _, rfl⟩
  | otherError exc => exact .inr (.inr ⟨rfl, rfl, _, rfl⟩)
  | response status text body =>
    simp only [DhanOutcome.transient, DhanOutcome.tokenRejected, pass, decide_eq_true_eq,
      decide_eq_false_iff_not]
    by_cases rejected : status = 401
    · subst rejected
      cases repeats : first && refreshes with
      | true =>
        have both : first = true ∧ refreshes = true := by simpa using repeats
        exact .inr (.inl ⟨by omega, by simp, both.1, both.2, by simp⟩)
      | false => exact .inr (.inr ⟨by omega, by simp [repeats], _, by simp; rfl⟩)
    · by_cases throttled : status = 429
      · exact .inl ⟨.inl throttled, _, by rw [if_neg rejected, if_pos throttled]⟩
      · by_cases server : status ≥ 500
        · exact .inl ⟨.inr server, _, by rw [if_neg rejected, if_neg throttled, if_pos server]⟩
        · have settled : ¬ (status = 429 ∨ status ≥ 500) := by omega
          rw [if_neg rejected, if_neg throttled, if_neg server]
          by_cases client : status ≥ 400
          · rw [if_pos client]
            cases token : (status = 400 && tokenErrorText text : Bool) with
            | true =>
              cases repeats : first && refreshes with
              | true =>
                have both : first = true ∧ refreshes = true := by simpa using repeats
                exact .inr (.inl ⟨settled, by simp [rejected], both.1, both.2, rfl⟩)
              | false =>
                refine .inr (.inr ⟨settled, ?_, _, rfl⟩)
                rw [Bool.and_assoc, repeats, Bool.and_false]
            | false => exact .inr (.inr ⟨settled, by simp [rejected], _, rfl⟩)
          · have plain : status ≠ 400 := by omega
            rw [if_neg client]
            refine .inr (.inr ⟨settled, by simp [rejected, plain], ?_⟩)
            cases body with
            | undecodable => exact ⟨_, rfl⟩
            | failure remarks => exact ⟨_, rfl⟩
            | data => exact ⟨_, rfl⟩

variable {passOf : Nat → DhanOutcome → Pass} {trace : Nat → DhanOutcome} {exhausted : DhanError}

theorem loop_le (left sent : Nat) : sent ≤ (loop passOf trace exhausted left sent).1 := by
  induction left generalizing sent with
  | zero => exact le_rfl
  | succ left ih =>
    unfold loop
    split
    · exact Nat.le_succ sent
    · exact (Nat.le_succ sent).trans (ih _)
    · split
      · exact Nat.le_succ sent
      · exact (Nat.le_succ sent).trans (ih _)

theorem loop_lt (left sent : Nat) : sent < (loop passOf trace exhausted (left + 1) sent).1 := by
  unfold loop
  split
  · exact Nat.lt_succ_self sent
  · exact loop_le left (sent + 1)
  · split
    · exact Nat.lt_succ_self sent
    · exact loop_le left (sent + 1)

theorem loop_retry {left sent : Nat} {otherwise : DhanError}
    (passes : passOf sent (trace sent) = .retry otherwise) :
    loop passOf trace exhausted (left + 2) sent = loop passOf trace exhausted (left + 1) (sent + 1) := by
  rw [loop]
  simp only [passes, Nat.succ_ne_zero, if_false]

theorem loop_refreshed {left sent : Nat} (passes : passOf sent (trace sent) = .refreshed) :
    loop passOf trace exhausted (left + 1) sent = loop passOf trace exhausted left (sent + 1) := by
  rw [loop]
  simp only [passes]

theorem loop_ended {left sent : Nat} {result : Except DhanError Unit}
    (passes : passOf sent (trace sent) = .ended result) :
    loop passOf trace exhausted (left + 1) sent = (sent + 1, result) := by
  rw [loop]
  simp only [passes]

/-- The last attempt that is left sends one request. -/
theorem loop_one (sent : Nat) : (loop passOf trace exhausted 1 sent).1 = sent + 1 := by
  simp only [loop, if_true]
  split <;> rfl

end DhanHttpClient

/-- Every request that is followed by another one was answered with a rejected
token, and the refresh that followed succeeded. -/
def OnlyAfterRefresh (tokenRejected : Nat → Bool) (refreshed : Bool) (sent : Nat) : Prop :=
  ∀ i, i + 1 < sent → tokenRejected i = true ∧ refreshed = true

namespace DhanHttpClient

/-- Only one attempt is allowed; or the first outcome is not transient and, where it
leads to a repeat, the repeat is the last attempt or its outcome is not transient. -/
def Clear (attempts : Nat) (refreshed : Bool) (trace : Nat → DhanOutcome) : Prop :=
  attempts ≤ 1 ∨ ((trace 0).transient = false ∧
    ((trace 0).tokenRejected = true → refreshed = true → attempts ≤ 2 ∨ (trace 1).transient = false))

instance (attempts : Nat) (refreshed : Bool) (trace : Nat → DhanOutcome) :
    Decidable (Clear attempts refreshed trace) :=
  inferInstanceAs (Decidable (_ ∨ _))

theorem loop_only_after_refresh (method endpoint url : String) (refreshed : Bool)
    (trace : Nat → DhanOutcome) (exhausted : DhanError) (attempts : Nat) :
    OnlyAfterRefresh (fun i => (trace i).tokenRejected) refreshed
        (loop (fun sent => pass method endpoint url (decide (sent = 0)) refreshed) trace exhausted
          attempts 0).1 ↔ Clear attempts refreshed trace := by
  have single : ∀ {sent}, sent ≤ 1 →
      OnlyAfterRefresh (fun i => (trace i).tokenRejected) refreshed sent := by
    intro sent low i high
    omega
  -- a transient outcome that is followed by another request
  have broken : ∀ {i sent}, (trace i).transient = true → i + 1 < sent →
      ¬ OnlyAfterRefresh (fun i => (trace i).tokenRejected) refreshed sent := by
    intro i sent transient more only
    have rejected : (trace i).tokenRejected = true := (only i more).1
    rw [DhanOutcome.transient_not_rejected transient] at rejected
    cases rejected
  match attempts with
  | 0 => exact iff_of_true (single (Nat.zero_le 1)) (.inl (Nat.zero_le 1))
  | 1 =>
    rw [loop_one]
    exact iff_of_true (single le_rfl) (.inl le_rfl)
  | left + 2 =>
    have several : ¬ left + 2 ≤ 1 := by omega
    simp only [Clear, several, false_or]
    rcases pass_cases method endpoint url true refreshed (trace 0) with
      ⟨transient, otherwise, passes⟩ | ⟨steady, rejected, -, fresh, passes⟩ |
      ⟨steady, final, result, passes⟩
    · rw [loop_retry passes]
      refine iff_of_false (broken transient (loop_lt left 1)) fun clear => ?_
      rw [transient] at clear
      exact Bool.noConfusion clear.1
    · subst fresh
      rw [loop_refreshed passes]
      simp only [steady, rejected, true_imp_iff, true_and]
      have twice : OnlyAfterRefresh (fun i => (trace i).tokenRejected) true 2 := by
        intro i high
        have zero : i = 0 := by omega
        exact ⟨zero ▸ rejected, rfl⟩
      cases left with
      | zero =>
        rw [loop_one]
        exact iff_of_true twice (.inl le_rfl)
      | succ left =>
        have several : ¬ left + 1 + 2 ≤ 2 := by omega
        simp only [several, false_or]
        rcases pass_cases method endpoint url false true (trace 1) with
          ⟨transient, otherwise, passes⟩ | ⟨-, -, first, -⟩ | ⟨steady, -, result, passes⟩
        · rw [loop_retry passes]
          refine iff_of_false (broken transient (loop_lt left 2)) fun steady => ?_
          rw [transient] at steady
          cases steady
        · cases first
        · rw [loop_ended passes]
          exact iff_of_true twice steady
    · rw [loop_ended passes]
      refine iff_of_true (single le_rfl) ⟨steady, fun rejected fresh => ?_⟩
      rw [rejected, fresh] at final
      cases final

/-- The requests of one call are repeated only after a refreshed token exactly when
the call is refused before its first request or the outcomes are clear. -/
theorem request_only_after_refresh (config : DhanHttpConfig) (baseUrl method endpoint : String)
    (input : DhanRequest) :
    OnlyAfterRefresh (fun i => (input.trace i).tokenRejected) (refreshed config input)
        (request config baseUrl method endpoint input).1 ↔
      (input.admitted = true → input.acquired = true →
        Clear (maxAttempts config input.refreshFn.isSome method endpoint) (refreshed config input)
          input.trace) := by
  have silent : OnlyAfterRefresh (fun i => (input.trace i).tokenRejected) (refreshed config input) 0 := by
    intro i high
    omega
  unfold request
  cases admitted : input.admitted with
  | false => exact iff_of_true silent (by rintro ⟨⟩)
  | true =>
    cases acquired : input.acquired with
    | false => exact iff_of_true silent (by rintro _ ⟨⟩)
    | true =>
      simp only [Bool.true_eq_false, if_false, true_imp_iff]
      exact loop_only_after_refresh ..

end DhanHttpClient

end TradeX.V1
