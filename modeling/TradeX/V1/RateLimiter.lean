import TradeX.Lib.Clocked
import TradeX.Lib.Dict
import TradeX.Lib.Runs
import TradeX.Lib.TokenMeter

/-! The rate limiter of the v1 brokers: token buckets by category, built from a broker's profiles. A bucket
holds a reference to its configuration, and the aliases of an endpoint class share one configuration. -/

namespace TradeX.V1.RateLimiter

open Lib

structure RateLimitConfig where
  ratePerSecond : ℚ := 10
  capacity : ℤ := 10
  deriving DecidableEq, Repr

/-- The errors, with the value that is got or the category that is asked for. -/
inductive ValueError where
  | ratePerSecond (got : ℚ)
  | capacity (got : ℤ)
  | unknownCategory (category : String)
  deriving DecidableEq, Repr

/-- `RateLimitConfig.__post_init__`. -/
def RateLimitConfig.postInit (config : RateLimitConfig) : Except ValueError RateLimitConfig :=
  if config.ratePerSecond ≤ 0 then .error (.ratePerSecond config.ratePerSecond)
  else if config.capacity ≤ 0 then .error (.capacity config.capacity)
  else .ok config

/-- A bucket; its configuration is a reference. -/
structure TokenBucketRateLimiter extends TokenMeter ℚ where
  config : Nat
  originalRate : Option ℚ := none
  reducedAt : Option ℚ := none
  deriving DecidableEq, Repr

namespace TokenBucketRateLimiter

/-- `_refill`, at the rate of the configuration. -/
def refill (bucket : TokenBucketRateLimiter) (rate now : ℚ) : TokenBucketRateLimiter :=
  { bucket with toTokenMeter := bucket.toTokenMeter.refill rate now }

/-- The loop of `acquire`. -/
def await (rate : ℚ) (tokens : ℤ) (deadline : Option ℚ) (bucket : TokenBucketRateLimiter) :
    Clocked ℚ (TokenBucketRateLimiter × Bool)
  | [] => none
  | now :: readings =>
    let refilled := bucket.refill rate now
    if (tokens : ℚ) ≤ refilled.tokens then
      some (({ refilled with tokens := refilled.tokens - tokens }, true), readings)
    else
      match deadline with
      | none => await rate tokens none refilled readings
      | some instant =>
        match readings with
        | [] => none
        | checked :: readings =>
          if checked ≥ instant then some ((refilled, false), readings)
          else await rate tokens (some instant) refilled readings

def acquire (bucket : TokenBucketRateLimiter) (rate : ℚ) (tokens : ℤ) (timeout : Option ℚ) :
    Clocked ℚ (TokenBucketRateLimiter × Bool) :=
  if (tokens : ℚ) > bucket.capacity then return (bucket, false)
  else
    match timeout with
    | none => bucket.await rate tokens none
    | some timeout => do
      let now ← Clocked.reading
      bucket.await rate tokens (some (now + timeout))

/-- The rate that a recovery brings the bucket back to, if it is due. -/
def due (bucket : TokenBucketRateLimiter) (recoverySeconds now : ℚ) : Option ℚ :=
  match bucket.reducedAt, bucket.originalRate with
  | some reducedAt, some originalRate => if now - reducedAt > recoverySeconds then some originalRate else none
  | _, _ => none

end TokenBucketRateLimiter

/-- `MultiBucketRateLimiter`, with the configurations that its buckets refer to. -/
structure MultiBucketRateLimiter where
  configs : Nat → RateLimitConfig
  buckets : Dict String TokenBucketRateLimiter := ∅

namespace MultiBucketRateLimiter

variable (limiter : MultiBucketRateLimiter)

/-- The property `rate` of a bucket. -/
def rate (bucket : TokenBucketRateLimiter) : ℚ := (limiter.configs bucket.config).ratePerSecond

/-- The setter of `rate`, for the bucket of a category. -/
def setRate (category : String) (bucket : TokenBucketRateLimiter) (value : ℚ) :
    MultiBucketRateLimiter × TokenBucketRateLimiter :=
  let remembered := { bucket with originalRate := some (bucket.originalRate.getD (limiter.rate bucket)) }
  ({ configs := Function.update limiter.configs bucket.config
        { limiter.configs bucket.config with ratePerSecond := value }
     buckets := limiter.buckets.set category remembered },
    remembered)

/-- `_resolve_bucket`, with the key of the bucket. -/
def resolveBucket (category : String) : Except ValueError (String × TokenBucketRateLimiter) :=
  match limiter.buckets.get category with
  | some bucket => .ok (category, bucket)
  | none =>
    match limiter.buckets.get "admin" with
    | some fallback => .ok ("admin", fallback)
    | none =>
      match limiter.buckets.entries with
      | first :: _ => .ok first
      | [] => .error (.unknownCategory category)

def acquire (category : String) (tokens : ℤ) (timeout : Option ℚ) :
    Clocked ℚ (MultiBucketRateLimiter × Except ValueError Bool) :=
  match limiter.resolveBucket category with
  | .error failure => return (limiter, .error failure)
  | .ok (name, bucket) => do
    let (bucket, acquired) ← bucket.acquire (limiter.rate bucket) tokens timeout
    return ({ limiter with buckets := limiter.buckets.set name bucket }, .ok acquired)

def getBucket (category : String) : Except ValueError TokenBucketRateLimiter :=
  match limiter.buckets.get category with
  | some bucket => .ok bucket
  | none => .error (.unknownCategory category)

/-- `reduce_rate`, at the reading that it takes. -/
def reduceRate (category : String) (factor now : ℚ) : MultiBucketRateLimiter :=
  match limiter.getBucket category with
  | .error _ => limiter
  | .ok bucket =>
    let (reduced, bucket) := limiter.setRate category bucket (limiter.rate bucket * factor)
    { reduced with buckets := reduced.buckets.set category { bucket with reducedAt := some now } }

/-- `maybe_recover_rate`, at the reading that it takes. -/
def maybeRecoverRate (category : String) (recoverySeconds now : ℚ) : MultiBucketRateLimiter :=
  match limiter.getBucket category with
  | .error _ => limiter
  | .ok bucket =>
    match bucket.due recoverySeconds now with
    | none => limiter
    | some original =>
      let (recovered, bucket) := limiter.setRate category bucket original
      { recovered with
        buckets := recovered.buckets.set category { bucket with reducedAt := none, originalRate := none } }

end MultiBucketRateLimiter

/-- `RateLimitProfile`. -/
structure RateLimitProfile where
  endpointClass : String
  sustainedRps : ℚ
  burstRps : Option ℚ := none
  deriving DecidableEq, Repr

/-- The configurations in the order of their creation, and the keys that refer to them. -/
structure Configs where
  objects : List RateLimitConfig := []
  keys : Dict String Nat := ∅

namespace Configs

def add (configs : Configs) (key : String) (config : RateLimitConfig) : Configs where
  objects := configs.objects ++ [config]
  keys := configs.keys.set key configs.objects.length

/-- A key that is not there yet refers to the configuration of another one. -/
def share (configs : Configs) (newKey key : String) : Configs :=
  match configs.keys.get newKey, configs.keys.get key with
  | none, some config => { configs with keys := configs.keys.set newKey config }
  | _, _ => configs

end Configs

/-- `int` of a number: its fraction is dropped. -/
def int (x : ℚ) : ℤ := if 0 ≤ x then ⌊x⌋ else ⌈x⌉

def RateLimitProfile.capacity (profile : RateLimitProfile) : ℤ :=
  match profile.burstRps with
  | some burst => if burst = 0 then int (profile.sustainedRps * 2) else int burst
  | none => int (profile.sustainedRps * 2)

def defaultBucketCapacity : ℤ := 30

def adminConfig : RateLimitConfig where
  ratePerSecond := 10
  capacity := defaultBucketCapacity

/-- The loop of `create_rate_limiter` over the profiles. -/
def profileConfigs (configs : Configs) : List RateLimitProfile → Except ValueError Configs
  | [] => .ok configs
  | profile :: profiles => do
    let config ← RateLimitConfig.postInit {
      ratePerSecond := profile.sustainedRps
      capacity := max profile.capacity 1 }
    profileConfigs (configs.add profile.endpointClass config) profiles

/-- The configurations of `create_rate_limiter`. -/
def rateLimitConfigs (profiles : List RateLimitProfile) : Except ValueError Configs :=
  match profiles with
  | [] => .ok (Configs.add {} "admin" adminConfig)
  | profiles => do
    let configs ← profileConfigs {} profiles
    let configs := if configs.keys.contains "admin" then configs else configs.add "admin" adminConfig
    return (configs.share "market_data" "quotes").share "data" "historical"

/-- The buckets of `MultiBucketRateLimiter.__init__`, each full at a reading of its own. -/
def newBuckets (config : Nat → RateLimitConfig) (buckets : Dict String TokenBucketRateLimiter) :
    List (String × Nat) → Clocked ℚ (Dict String TokenBucketRateLimiter)
  | [] => return buckets
  | (category, ref) :: entries => do
    let now ← Clocked.reading
    let bucket := {
      capacity := (config ref).capacity
      tokens := (config ref).capacity
      lastRefill := now
      config := ref }
    newBuckets config (buckets.set category bucket) entries

/-- `create_rate_limiter`, with the profiles of the capabilities, none if there are no capabilities. -/
def createRateLimiter (profiles : List RateLimitProfile) : Clocked ℚ (Except ValueError MultiBucketRateLimiter) :=
  match rateLimitConfigs profiles with
  | .error failure => return .error failure
  | .ok configs => do
    let config := fun ref => configs.objects.getD ref {}
    let buckets ← newBuckets config ∅ configs.keys.entries
    return .ok { configs := config, buckets := buckets }

end TradeX.V1.RateLimiter
