import TradeX.Lib.Clocked
import TradeX.Lib.Dict
import TradeX.Lib.SlidingWindow
import TradeX.Lib.TokenMeter

/-! The rate limiter of the v2 broker clients: token buckets by category, and rolling windows ahead of
them. A call consumes the clock readings that it takes; a sleep only lets the next one be later. -/

namespace TradeX.V2

open Lib

/-- `_BucketConfig`. -/
structure BucketConfig where
  ratePerSecond : ℚ := 10
  capacity : ℤ := 10
  deriving DecidableEq, Repr

/-- `_BucketConfig.__post_init__`. -/
def BucketConfig.postInit (config : BucketConfig) : Except String BucketConfig :=
  if config.ratePerSecond ≤ 0 then .error "rate_per_second must be positive"
  else if config.capacity ≤ 0 then .error "capacity must be positive"
  else .ok config

/-- The instant until which a call waits. -/
def deadlineOf : Option ℚ → Clocked ℚ (Option ℚ)
  | none => pure none
  | some timeout => do
    let now ← Clocked.reading
    return some (now + timeout)

/-- What a bucket grants, at the reading of the refill that it is drawn from. -/
structure Draw where
  now : ℚ
  tokens : ℤ
  deriving DecidableEq, Repr

structure TokenBucketRateLimiter extends TokenMeter ℚ where
  config : BucketConfig
  originalRate : Option ℚ := none
  reducedAt : Option ℚ := none
  restoreCooldown : ℚ := 60
  minInterval : ℚ := 0
  lastRequestTime : ℚ := 0
  cooldownUntil : ℚ := 0
  cooldownOn429 : ℚ := 60
  deriving DecidableEq, Repr

namespace TokenBucketRateLimiter

/-- `__init__`: a full bucket, at the reading that is taken. -/
def new (config : BucketConfig) (restoreCooldown minInterval cooldownOn429 : ℚ) :
    Clocked ℚ TokenBucketRateLimiter := do
  let now ← Clocked.reading
  return {
    capacity := config.capacity
    tokens := config.capacity
    lastRefill := now
    config := config
    restoreCooldown := restoreCooldown
    minInterval := minInterval
    cooldownOn429 := cooldownOn429 }

variable (bucket : TokenBucketRateLimiter)

def rate : ℚ := bucket.config.ratePerSecond

/-- The setter of `rate`. -/
def setRate (value : ℚ) : Clocked ℚ TokenBucketRateLimiter := do
  let now ← Clocked.reading
  return { bucket with
    originalRate := some (bucket.originalRate.getD bucket.rate)
    config := { bucket.config with ratePerSecond := value }
    reducedAt := some now }

/-- `_maybe_restore_rate`, at a reading. -/
def restoreAt (reducedAt originalRate now : ℚ) : TokenBucketRateLimiter :=
  if now - reducedAt ≥ bucket.restoreCooldown then
    { bucket with
      config := { bucket.config with ratePerSecond := originalRate }
      reducedAt := none
      originalRate := none }
  else bucket

/-- `_maybe_restore_rate`. -/
def maybeRestoreRate : Clocked ℚ TokenBucketRateLimiter :=
  match bucket.reducedAt, bucket.originalRate with
  | some reducedAt, some originalRate => do
    let now ← Clocked.reading
    return bucket.restoreAt reducedAt originalRate now
  | _, _ => return bucket

/-- `_check_cooldown`. -/
def checkCooldown : Clocked ℚ PUnit := do
  let now ← Clocked.reading
  if now < bucket.cooldownUntil then Clocked.sleep (bucket.cooldownUntil - now) else return

/-- `_check_min_interval`. -/
def checkMinInterval : Clocked ℚ PUnit :=
  if bucket.minInterval ≤ 0 then return else do
    let now ← Clocked.reading
    let elapsed := now - bucket.lastRequestTime
    if elapsed < bucket.minInterval then Clocked.sleep (bucket.minInterval - elapsed) else return

/-- `_refill`. -/
def refill (now : ℚ) : TokenBucketRateLimiter :=
  { bucket with toTokenMeter := bucket.toTokenMeter.refill bucket.rate now }

/-- The loop of `acquire`; `True` comes with what is granted. -/
def await (tokens : ℤ) (deadline : Option ℚ) (bucket : TokenBucketRateLimiter) :
    Clocked ℚ (TokenBucketRateLimiter × Option Draw)
  | [] => none
  | now :: readings =>
    let refilled := bucket.refill now
    if (tokens : ℚ) ≤ refilled.tokens then
      match readings with
      | [] => none
      | stamped :: readings =>
        let drawn := { refilled with tokens := refilled.tokens - tokens, lastRequestTime := stamped }
        some ((drawn, some ⟨now, tokens⟩), readings)
    else
      match deadline with
      | none => await tokens none refilled readings
      | some instant =>
        match readings with
        | [] => none
        | checked :: readings =>
          if checked ≥ instant then some ((refilled, none), readings)
          else await tokens (some instant) refilled readings

def acquire (tokens : ℤ) (timeout : Option ℚ) : Clocked ℚ (TokenBucketRateLimiter × Option Draw) := do
  let restored ← bucket.maybeRestoreRate
  restored.checkCooldown
  restored.checkMinInterval
  if (tokens : ℚ) > restored.capacity then return (restored, none)
  else do
    let deadline ← deadlineOf timeout
    restored.await tokens deadline

def reduceRate (factor : ℚ) : Clocked ℚ TokenBucketRateLimiter := bucket.setRate (bucket.rate * factor)

def triggerCooldown : Clocked ℚ TokenBucketRateLimiter := do
  let now ← Clocked.reading
  reduceRate { bucket with cooldownUntil := now + bucket.cooldownOn429 } (1 / 2)

end TokenBucketRateLimiter

structure RollingWindowCounter where
  max : Nat
  window : ℚ
  timestamps : List ℚ := []
  deriving DecidableEq, Repr

namespace RollingWindowCounter

/-- `_prune`. -/
def prune (counter : RollingWindowCounter) (now : ℚ) : RollingWindowCounter :=
  { counter with timestamps := SlidingWindow.prune (now - counter.window) counter.timestamps }

/-- The loop of `acquire`; `True` comes with the readings of the grant. -/
def await (deadline : Option ℚ) (counter : RollingWindowCounter) :
    Clocked ℚ (RollingWindowCounter × Option (SlidingWindow.Grant ℚ))
  | [] => none
  | looked :: readings =>
    let pruned := counter.prune looked
    if pruned.timestamps.length < pruned.max then
      match readings with
      | [] => none
      | stamped :: readings =>
        some (({ pruned with timestamps := pruned.timestamps ++ [stamped] }, some ⟨looked, stamped⟩), readings)
    else
      match deadline with
      | none => await none pruned readings
      | some instant =>
        match readings with
        | [] => none
        | checked :: readings =>
          if checked ≥ instant then some ((pruned, none), readings)
          else await (some instant) pruned readings

def acquire (counter : RollingWindowCounter) (timeout : Option ℚ) :
    Clocked ℚ (RollingWindowCounter × Option (SlidingWindow.Grant ℚ)) := do
  let deadline ← deadlineOf timeout
  counter.await deadline

end RollingWindowCounter

structure MultiBucketRateLimiter where
  buckets : Dict String TokenBucketRateLimiter := ∅
  rolling : Dict String (List RollingWindowCounter) := ∅
  deriving DecidableEq

namespace MultiBucketRateLimiter

/-- `_resolve`, with the key of the bucket. -/
def resolve (limiter : MultiBucketRateLimiter) (category : String) :
    Except String (String × TokenBucketRateLimiter) :=
  match limiter.buckets.get category with
  | some bucket => .ok (category, bucket)
  | none =>
    match limiter.buckets.get "admin" with
    | some fallback => .ok ("admin", fallback)
    | none =>
      match limiter.buckets.entries with
      | first :: _ => .ok first
      | [] => .error s!"Unknown category: {category}"

/-- The rolling windows of a category in turn, up to the first that refuses. -/
def acquireWindows (timeout : Option ℚ) : List RollingWindowCounter → Clocked ℚ (List RollingWindowCounter × Bool)
  | [] => return ([], true)
  | counter :: counters => do
    let (counter, granted) ← counter.acquire timeout
    if granted.isSome then
      let (counters, all) ← acquireWindows timeout counters
      return (counter :: counters, all)
    else return (counter :: counters, false)

/-- The bucket of a category, after its windows. -/
def acquireBucket (limiter : MultiBucketRateLimiter) (category : String) (tokens : ℤ) (timeout : Option ℚ) :
    Clocked ℚ (MultiBucketRateLimiter × Except String Bool) :=
  match limiter.resolve category with
  | .error failure => return (limiter, .error failure)
  | .ok (name, bucket) => do
    let (bucket, granted) ← bucket.acquire tokens timeout
    return ({ limiter with buckets := limiter.buckets.set name bucket }, .ok granted.isSome)

def acquire (limiter : MultiBucketRateLimiter) (category : String) (tokens : ℤ) (timeout : Option ℚ) :
    Clocked ℚ (MultiBucketRateLimiter × Except String Bool) :=
  match limiter.rolling.get category with
  | none => limiter.acquireBucket category tokens timeout
  | some counters => do
    let (counters, passed) ← acquireWindows timeout counters
    let looked := { limiter with rolling := limiter.rolling.set category counters }
    if passed then looked.acquireBucket category tokens timeout else return (looked, .ok false)

def reduceRate (limiter : MultiBucketRateLimiter) (category : String) (factor : ℚ) :
    Clocked ℚ (MultiBucketRateLimiter × Except String Unit) :=
  match limiter.resolve category with
  | .error failure => return (limiter, .error failure)
  | .ok (name, bucket) => do
    let bucket ← bucket.reduceRate factor
    return ({ limiter with buckets := limiter.buckets.set name bucket }, .ok ())

def triggerCooldown (limiter : MultiBucketRateLimiter) (category : String) :
    Clocked ℚ (MultiBucketRateLimiter × Except String Unit) :=
  match limiter.resolve category with
  | .error failure => return (limiter, .error failure)
  | .ok (name, bucket) => do
    let bucket ← bucket.triggerCooldown
    return ({ limiter with buckets := limiter.buckets.set name bucket }, .ok ())

end MultiBucketRateLimiter

end TradeX.V2
