import TradeX.V1.RateLimiter

/-! Reductions and recoveries of the rates, over whole runs. A bucket remembers the rate that its first
reduction finds; where two aliases of one configuration are reduced, the second one finds the rate that the
first one left. -/

namespace TradeX.V1.RateLimiter

open Lib

/-- A factor by which a rate-limit notification reduces. -/
abbrev Factor := Set.Icc (0 : ℚ) 1

inductive Event where
  | acquire (category : String) (tokens : ℤ) (timeout : Option ℚ) (readings : List ℚ)
  | reduceRate (category : String) (factor : Factor) (now : ℚ)
  | maybeRecoverRate (category : String) (recoverySeconds now : ℚ)

namespace MultiBucketRateLimiter

/-- A call that has not come back takes no step. -/
def step (limiter : MultiBucketRateLimiter) : Event → Option MultiBucketRateLimiter
  | .acquire category tokens timeout readings =>
    (limiter.acquire category tokens timeout readings).map fun ended => ended.1.1
  | .reduceRate category factor now => some (limiter.reduceRate category factor now)
  | .maybeRecoverRate category recoverySeconds now => some (limiter.maybeRecoverRate category recoverySeconds now)

/-- No other bucket of the same configuration is reduced. -/
def Alone (limiter : MultiBucketRateLimiter) (category : String) (bucket : TokenBucketRateLimiter) : Prop :=
  ∀ other shared, limiter.buckets.get other = some shared → shared.config = bucket.config → other ≠ category →
    shared.reducedAt = none

/-- No bucket of the configuration is reduced. -/
def AllRecovered (limiter : MultiBucketRateLimiter) (config : Nat) : Prop :=
  ∀ category bucket, limiter.buckets.get category = some bucket → bucket.config = config → bucket.reducedAt = none

/-- Every bucket is at its configured rate once all reductions of its configuration have recovered. -/
def Recovered (start limiter : MultiBucketRateLimiter) : Prop :=
  ∀ category first bucket, start.buckets.get category = some first → limiter.buckets.get category = some bucket →
    limiter.AllRecovered bucket.config → limiter.rate bucket = start.rate first

/-- No bucket's rate is above its configured rate. -/
def Below (start limiter : MultiBucketRateLimiter) : Prop :=
  ∀ category first bucket, start.buckets.get category = some first → limiter.buckets.get category = some bucket →
    limiter.rate bucket ≤ start.rate first

/-- The last reduced bucket of a configuration that recovers is one that remembers the configured rate. -/
def LastRemembers (start limiter : MultiBucketRateLimiter) : Event → Prop
  | .maybeRecoverRate category recoverySeconds now =>
    ∀ bucket original, limiter.buckets.get category = some bucket → bucket.due recoverySeconds now = some original →
      limiter.Alone category bucket → original = (start.configs bucket.config).ratePerSecond
  | _ => True

/-- What a step leaves of the rates: all of them, or it sets that of one bucket. -/
structure SameRates (s t : MultiBucketRateLimiter) : Prop where
  configs : t.configs = s.configs
  buckets : ∀ category,
    (t.buckets.get category).map (fun bucket => (bucket.config, bucket.originalRate, bucket.reducedAt)) =
    (s.buckets.get category).map fun bucket => (bucket.config, bucket.originalRate, bucket.reducedAt)

/-- The bucket of a category is given a rate, and what it remembers of its reductions. -/
structure Rerated (s t : MultiBucketRateLimiter) (category : String) (bucket : TokenBucketRateLimiter) (value : ℚ)
    (originalRate reducedAt : Option ℚ) : Prop where
  found : s.buckets.get category = some bucket
  rates : ∀ config, (t.configs config).ratePerSecond =
    if config = bucket.config then value else (s.configs config).ratePerSecond
  buckets : ∀ other, t.buckets.get other = if other = category then
    some { bucket with originalRate := originalRate, reducedAt := reducedAt } else s.buckets.get other

variable {start s t limiter : MultiBucketRateLimiter} {category : String} {bucket : TokenBucketRateLimiter}
  {value factor now recoverySeconds : ℚ} {originalRate reducedAt : Option ℚ}

theorem getBucket_ok : limiter.getBucket category = .ok bucket ↔ limiter.buckets.get category = some bucket := by
  simp only [getBucket]
  cases limiter.buckets.get category with
  | none => exact iff_of_false nofun nofun
  | some found =>
    exact ⟨fun same => congrArg some (Except.ok.inj same), fun same => congrArg Except.ok (Option.some.inj same)⟩

/-- A reduction of a bucket that is there. -/
theorem reduceRate_rerated (found : limiter.buckets.get category = some bucket) :
    Rerated limiter (limiter.reduceRate category factor now) category bucket (limiter.rate bucket * factor)
      (some (bucket.originalRate.getD (limiter.rate bucket))) (some now) := by
  simp only [reduceRate, getBucket_ok.mpr found]
  refine ⟨found, fun config => ?_, fun other => ?_⟩
  · simp only [setRate, Function.update_apply]
    split <;> rfl
  · simp only [setRate, Dict.get_set]
    split <;> rfl

theorem reduceRate_unknown (missing : limiter.buckets.get category = none) :
    limiter.reduceRate category factor now = limiter := by
  simp only [reduceRate, getBucket, missing]

/-- A recovery that is due. -/
theorem maybeRecoverRate_rerated {original : ℚ} (found : limiter.buckets.get category = some bucket)
    (due : bucket.due recoverySeconds now = some original) :
    Rerated limiter (limiter.maybeRecoverRate category recoverySeconds now) category bucket original none none := by
  simp only [maybeRecoverRate, getBucket_ok.mpr found, due]
  refine ⟨found, fun config => ?_, fun other => ?_⟩
  · simp only [setRate, Function.update_apply]
    split <;> rfl
  · simp only [setRate, Dict.get_set]
    split <;> rfl

theorem maybeRecoverRate_idle (idle : ¬ ∃ bucket original, limiter.buckets.get category = some bucket ∧
    bucket.due recoverySeconds now = some original) :
    limiter.maybeRecoverRate category recoverySeconds now = limiter := by
  simp only [maybeRecoverRate, getBucket]
  cases found : limiter.buckets.get category with
  | none => rfl
  | some bucket =>
    cases due : bucket.due recoverySeconds now with
    | none => simp only [due]
    | some original => exact absurd ⟨bucket, original, found, due⟩ idle

theorem SameRates.find (same : SameRates s t) (found : t.buckets.get category = some bucket) :
    ∃ before, s.buckets.get category = some before ∧ before.config = bucket.config ∧
      before.originalRate = bucket.originalRate ∧ before.reducedAt = bucket.reducedAt := by
  have here := same.buckets category
  rw [found] at here
  obtain ⟨before, there, parts⟩ := Option.map_eq_some_iff.mp here.symm
  obtain ⟨config, rest⟩ := Prod.mk.inj parts
  obtain ⟨original, reduced⟩ := Prod.mk.inj rest
  exact ⟨before, there, config, original, reduced⟩

theorem SameRates.symm (same : SameRates s t) : SameRates t s :=
  ⟨same.configs.symm, fun category => (same.buckets category).symm⟩

theorem SameRates.refl : SameRates s s := ⟨rfl, fun _ => rfl⟩

theorem SameRates.allRecovered (same : SameRates s t) {config : Nat} (recovered : t.AllRecovered config) :
    s.AllRecovered config := by
  intro category bucket found sharing
  obtain ⟨after, there, sameConfig, -, sameReduced⟩ := same.symm.find found
  rw [← sameReduced]
  exact recovered category after there (sameConfig.trans sharing)

theorem resolveBucket_get {name : String} (resolved : limiter.resolveBucket category = .ok (name, bucket)) :
    limiter.buckets.get name = some bucket := by
  simp only [resolveBucket] at resolved
  split at resolved
  · next bucket found =>
    obtain ⟨rfl, rfl⟩ := Prod.mk.inj (Except.ok.inj resolved)
    exact found
  · split at resolved
    · next fallback found =>
      obtain ⟨rfl, rfl⟩ := Prod.mk.inj (Except.ok.inj resolved)
      exact found
    · split at resolved
      · next first others entries =>
        obtain rfl := Except.ok.inj resolved
        apply Dict.get_eq_some.mpr
        rw [entries]
        exact List.mem_cons_self
      · cases resolved

end MultiBucketRateLimiter

/-- Drawing tokens from a bucket touches its meter only. -/
theorem TokenBucketRateLimiter.await_rates {bucket after : TokenBucketRateLimiter} {rate : ℚ} {tokens : ℤ}
    {deadline : Option ℚ} {readings rest : List ℚ} {acquired : Bool}
    (run : bucket.await rate tokens deadline readings = some ((after, acquired), rest)) :
    (after.config, after.originalRate, after.reducedAt) = (bucket.config, bucket.originalRate, bucket.reducedAt) := by
  fun_induction await rate tokens deadline bucket readings with
  | case1 | case4 => cases run
  | case2 deadline bucket now readings refilled there =>
    obtain ⟨ended, -⟩ := Prod.mk.inj (Option.some.inj run)
    obtain ⟨rfl, -⟩ := Prod.mk.inj ended
    rfl
  | case3 bucket now readings refilled short ih => exact ih run
  | case5 bucket now refilled short instant checked readings passed =>
    obtain ⟨ended, -⟩ := Prod.mk.inj (Option.some.inj run)
    obtain ⟨rfl, -⟩ := Prod.mk.inj ended
    rfl
  | case6 bucket now refilled short instant checked readings waiting ih => exact ih run

theorem TokenBucketRateLimiter.acquire_rates {bucket after : TokenBucketRateLimiter} {rate : ℚ} {tokens : ℤ}
    {timeout : Option ℚ} {readings rest : List ℚ} {acquired : Bool}
    (run : bucket.acquire rate tokens timeout readings = some ((after, acquired), rest)) :
    (after.config, after.originalRate, after.reducedAt) = (bucket.config, bucket.originalRate, bucket.reducedAt) := by
  simp only [acquire] at run
  split at run
  · obtain ⟨ended, -⟩ := Clocked.pure_inv run
    obtain ⟨rfl, -⟩ := Prod.mk.inj ended
    rfl
  · cases timeout with
    | none => exact await_rates run
    | some timeout =>
      obtain ⟨now, middle, -, run⟩ := Clocked.bind_inv run
      exact await_rates run

theorem TokenBucketRateLimiter.due_inv {bucket : TokenBucketRateLimiter} {recoverySeconds now original : ℚ}
    (due : bucket.due recoverySeconds now = some original) :
    bucket.originalRate = some original ∧ bucket.reducedAt ≠ none := by
  simp only [TokenBucketRateLimiter.due] at due
  split at due
  · next reducedAt originalRate reduced original =>
    split at due
    · rw [original, ← Option.some.inj due, reduced]
      exact ⟨rfl, Option.some_ne_none _⟩
    · cases due
  · cases due

namespace MultiBucketRateLimiter

variable {start s t limiter : MultiBucketRateLimiter} {category : String} {bucket : TokenBucketRateLimiter}
  {value factor now recoverySeconds : ℚ} {originalRate reducedAt : Option ℚ}

theorem acquire_sameRates {tokens : ℤ} {timeout : Option ℚ} {readings rest : List ℚ} {answer : Except ValueError Bool}
    (run : limiter.acquire category tokens timeout readings = some ((t, answer), rest)) : SameRates limiter t := by
  simp only [acquire] at run
  cases resolved : limiter.resolveBucket category with
  | error failure =>
    rw [resolved] at run
    obtain ⟨ended, -⟩ := Clocked.pure_inv run
    obtain ⟨rfl, -⟩ := Prod.mk.inj ended
    exact .refl
  | ok found =>
    obtain ⟨name, bucket⟩ := found
    rw [resolved] at run
    obtain ⟨⟨drawn, acquired⟩, middle, asked, run⟩ := Clocked.bind_inv run
    obtain ⟨ended, -⟩ := Clocked.pure_inv run
    obtain ⟨rfl, -⟩ := Prod.mk.inj ended
    refine ⟨rfl, fun other => ?_⟩
    rw [Dict.get_set]
    split
    · next here =>
      rw [here, resolveBucket_get resolved]
      exact congrArg some (TokenBucketRateLimiter.acquire_rates asked)
    · rfl

/-- What every run keeps. -/
structure Kept (start s : MultiBucketRateLimiter) : Prop where
  configs : ∀ category, (s.buckets.get category).map TokenBucketRateLimiter.config =
    (start.buckets.get category).map TokenBucketRateLimiter.config
  reduced : ∀ category bucket, s.buckets.get category = some bucket →
    (bucket.originalRate = none ↔ bucket.reducedAt = none)
  nonneg : ∀ config, 0 ≤ (s.configs config).ratePerSecond
  below : ∀ config, (s.configs config).ratePerSecond ≤ (start.configs config).ratePerSecond
  originals : ∀ category bucket original, s.buckets.get category = some bucket → bucket.originalRate = some original →
    0 ≤ original ∧ original ≤ (start.configs bucket.config).ratePerSecond

theorem Kept.config_eq (kept : Kept start s) {first : TokenBucketRateLimiter}
    (first_found : start.buckets.get category = some first) (found : s.buckets.get category = some bucket) :
    bucket.config = first.config := by
  have same := kept.configs category
  rw [first_found, found] at same
  exact Option.some.inj same

theorem Kept.below_configured (kept : Kept start s) : Below start s := by
  intro category first bucket first_found found
  rw [rate, rate, ← kept.config_eq first_found found]
  exact kept.below bucket.config

theorem SameRates.kept (same : SameRates s t) (kept : Kept start s) : Kept start t where
  configs category := by
    rw [← kept.configs category]
    have here := congrArg (Option.map Prod.fst) (same.buckets category)
    rw [Option.map_map, Option.map_map] at here
    exact here
  reduced category bucket found := by
    obtain ⟨before, there, -, original, reduced⟩ := same.find found
    rw [← original, ← reduced]
    exact kept.reduced category before there
  nonneg config := by
    rw [same.configs]
    exact kept.nonneg config
  below config := by
    rw [same.configs]
    exact kept.below config
  originals category bucket original found remembered := by
    obtain ⟨before, there, config, same_original, -⟩ := same.find found
    rw [← config]
    exact kept.originals category before original there (same_original.trans remembered)

theorem SameRates.recovered (same : SameRates s t) (recovered : Recovered start s) : Recovered start t := by
  intro category first bucket first_found found all
  obtain ⟨before, there, config, -, -⟩ := same.find found
  rw [rate, same.configs, ← config]
  exact recovered category first before first_found there (same.allRecovered (config ▸ all))

theorem Rerated.kept (rerated : Rerated s t category bucket value originalRate reducedAt) (kept : Kept start s)
    (reduced : originalRate = none ↔ reducedAt = none)
    (within : 0 ≤ value ∧ value ≤ (start.configs bucket.config).ratePerSecond)
    (remembered : ∀ original, originalRate = some original →
      0 ≤ original ∧ original ≤ (start.configs bucket.config).ratePerSecond) : Kept start t where
  configs other := by
    rw [rerated.buckets, ← kept.configs other]
    split
    · next here =>
      rw [here, rerated.found]
      rfl
    · rfl
  reduced other after found := by
    rw [rerated.buckets] at found
    split at found
    · rw [← Option.some.inj found]
      exact reduced
    · exact kept.reduced other after found
  nonneg config := by
    rw [rerated.rates]
    split
    · exact within.1
    · exact kept.nonneg config
  below config := by
    rw [rerated.rates]
    split
    · next here => exact here ▸ within.2
    · exact kept.below config
  originals other after original found remembers := by
    rw [rerated.buckets] at found
    split at found
    · rw [← Option.some.inj found] at remembers ⊢
      exact remembered original remembers
    · exact kept.originals other after original found remembers

/-- The buckets of other configurations are as recovered as before. -/
theorem Rerated.apart (rerated : Rerated s t category bucket value originalRate reducedAt)
    (recovered : Recovered start s)
    {other : String} {first after : TokenBucketRateLimiter} (first_found : start.buckets.get other = some first)
    (found : t.buckets.get other = some after) (differs : after.config ≠ bucket.config)
    (all : t.AllRecovered after.config) : t.rate after = start.rate first := by
  have untouched : ∀ name shared, s.buckets.get name = some shared → shared.config = after.config →
      t.buckets.get name = some shared := by
    intro name shared there sharing
    rw [rerated.buckets, if_neg, there]
    rintro rfl
    rw [rerated.found] at there
    exact differs (sharing.symm.trans (congrArg _ (Option.some.inj there).symm))
  have before : s.buckets.get other = some after := by
    rw [rerated.buckets] at found
    split at found
    · rw [← Option.some.inj found] at differs
      exact absurd rfl differs
    · exact found
  rw [rate, rerated.rates, if_neg differs]
  exact recovered other first after first_found before fun name shared there sharing =>
    all name shared (untouched name shared there sharing) sharing

theorem reduceRate_kept (kept : Kept start limiter) (reduces : factor ∈ Set.Icc (0 : ℚ) 1) :
    Kept start (limiter.reduceRate category factor now) := by
  cases found : limiter.buckets.get category with
  | none =>
    rw [reduceRate_unknown found]
    exact kept
  | some bucket =>
    have nonneg := kept.nonneg bucket.config
    have below := kept.below bucket.config
    refine (reduceRate_rerated found).kept kept (iff_of_false (Option.some_ne_none _) (Option.some_ne_none _)) ?_ ?_
    · exact ⟨mul_nonneg nonneg reduces.1, (mul_le_of_le_one_right nonneg reduces.2).trans below⟩
    · intro original remembers
      cases before : bucket.originalRate with
      | none =>
        rw [before] at remembers
        rw [← Option.some.inj remembers]
        exact ⟨nonneg, below⟩
      | some rate =>
        rw [before] at remembers
        rw [← Option.some.inj remembers]
        exact kept.originals category bucket rate found before

/-- A reduction leaves the other configurations as they are, and its own one reduced. -/
theorem reduceRate_recovered (recovered : Recovered start limiter) :
    Recovered start (limiter.reduceRate category factor now) := by
  cases found : limiter.buckets.get category with
  | none =>
    rw [reduceRate_unknown found]
    exact recovered
  | some bucket =>
    have rerated := @reduceRate_rerated limiter category bucket factor now found
    intro other first after first_found after_found all
    by_cases sharing : after.config = bucket.config
    · have itself := rerated.buckets category
      rw [if_pos rfl] at itself
      exact absurd (all category _ itself sharing.symm) (Option.some_ne_none now)
    · exact rerated.apart recovered first_found after_found sharing all

theorem maybeRecoverRate_kept (kept : Kept start limiter) :
    Kept start (limiter.maybeRecoverRate category recoverySeconds now) := by
  by_cases due : ∃ bucket original, limiter.buckets.get category = some bucket ∧
      bucket.due recoverySeconds now = some original
  · obtain ⟨bucket, original, found, due⟩ := due
    have within := kept.originals category bucket original found (TokenBucketRateLimiter.due_inv due).1
    exact (maybeRecoverRate_rerated found due).kept kept (iff_of_true rfl rfl) within nofun
  · rw [maybeRecoverRate_idle due]
    exact kept

/-- A recovery keeps the configured rates exactly where the last bucket to recover remembers its own. -/
theorem maybeRecoverRate_recovered_iff (kept : Kept start limiter) (recovered : Recovered start limiter) :
    Recovered start (limiter.maybeRecoverRate category recoverySeconds now) ↔
      LastRemembers start limiter (.maybeRecoverRate category recoverySeconds now) := by
  by_cases due : ∃ bucket original, limiter.buckets.get category = some bucket ∧
      bucket.due recoverySeconds now = some original
  · obtain ⟨bucket, original, found, due⟩ := due
    have rerated := maybeRecoverRate_rerated found due
    have itself := rerated.buckets category
    rw [if_pos rfl] at itself
    -- After the step the configuration has recovered exactly where the bucket was the last one.
    have alone_iff : (limiter.maybeRecoverRate category recoverySeconds now).AllRecovered bucket.config ↔
        limiter.Alone category bucket := by
      constructor
      · intro all other shared there sharing differs
        refine all other shared ?_ sharing
        rw [rerated.buckets, if_neg differs, there]
      · intro alone other shared there sharing
        rw [rerated.buckets] at there
        split at there
        · rw [← Option.some.inj there]
        · next differs => exact alone other shared there sharing differs
    obtain ⟨first, first_found, same⟩ :
        ∃ first, start.buckets.get category = some first ∧ first.config = bucket.config := by
      have refs := kept.configs category
      rw [found] at refs
      exact Option.map_eq_some_iff.mp refs.symm
    constructor
    · intro after other_bucket other_original other_found other_due alone
      obtain rfl := Option.some.inj (found.symm.trans other_found)
      obtain rfl := Option.some.inj (due.symm.trans other_due)
      have rate_eq := after category first _ first_found itself (alone_iff.mpr alone)
      rw [rate, rerated.rates, if_pos rfl, rate, same] at rate_eq
      exact rate_eq
    · intro remembers other other_first after other_found after_found all
      by_cases sharing : after.config = bucket.config
      · have alone := alone_iff.mp (sharing ▸ all)
        have config : after.config = other_first.config :=
          (maybeRecoverRate_kept kept).config_eq other_found after_found
        rw [rate, rerated.rates, if_pos sharing, rate, ← config, sharing]
        exact remembers bucket original found due alone
      · exact rerated.apart recovered other_found after_found sharing all
  · rw [maybeRecoverRate_idle due]
    refine iff_of_true recovered ?_
    intro bucket original found some_due
    exact absurd ⟨bucket, original, found, some_due⟩ due

theorem step_kept {event : Event} (kept : Kept start s) (taken : step s event = some t) : Kept start t := by
  cases event with
  | acquire category tokens timeout readings =>
    obtain ⟨⟨⟨after, answer⟩, rest⟩, run, rfl⟩ := Option.map_eq_some_iff.mp taken
    exact (acquire_sameRates run).kept kept
  | reduceRate category factor now =>
    rw [← Option.some.inj taken]
    exact reduceRate_kept kept factor.2
  | maybeRecoverRate category recoverySeconds now =>
    rw [← Option.some.inj taken]
    exact maybeRecoverRate_kept kept

theorem step_recovered_iff {event : Event} (kept : Kept start s) (recovered : Recovered start s)
    (taken : step s event = some t) : Recovered start t ↔ LastRemembers start s event := by
  cases event with
  | acquire category tokens timeout readings =>
    obtain ⟨⟨⟨after, answer⟩, rest⟩, run, rfl⟩ := Option.map_eq_some_iff.mp taken
    exact iff_of_true ((acquire_sameRates run).recovered recovered) trivial
  | reduceRate category factor now =>
    rw [← Option.some.inj taken]
    exact iff_of_true (reduceRate_recovered recovered) trivial
  | maybeRecoverRate category recoverySeconds now =>
    rw [← Option.some.inj taken]
    exact maybeRecoverRate_recovered_iff kept recovered

end MultiBucketRateLimiter

/-! A limiter as it is created: no bucket is reduced, and every rate is positive. -/

theorem RateLimitConfig.postInit_pos {config valid : RateLimitConfig} (ok : config.postInit = .ok valid) :
    0 < valid.ratePerSecond := by
  simp only [postInit] at ok
  split at ok
  · cases ok
  · next rate =>
    split at ok
    · cases ok
    · rw [← Except.ok.inj ok]
      exact not_le.mp rate

/-- Every configuration has a positive rate. -/
def Configs.Positive (configs : Configs) : Prop := ∀ config ∈ configs.objects, 0 < config.ratePerSecond

theorem Configs.Positive.add {configs : Configs} {config : RateLimitConfig} (positive : configs.Positive)
    (rate : 0 < config.ratePerSecond) (key : String) : (configs.add key config).Positive := by
  intro other member
  rcases List.mem_append.mp member with before | here
  · exact positive other before
  · rw [List.mem_singleton.mp here]
    exact rate

theorem Configs.share_objects (configs : Configs) (newKey key : String) :
    (configs.share newKey key).objects = configs.objects := by
  simp only [share]
  split <;> rfl

theorem profileConfigs_positive {profiles : List RateLimitProfile} {configs built : Configs}
    (positive : configs.Positive) (ok : profileConfigs configs profiles = .ok built) : built.Positive := by
  induction profiles generalizing configs with
  | nil => exact Except.ok.inj ok ▸ positive
  | cons profile profiles ih =>
    simp only [profileConfigs] at ok
    cases valid : RateLimitConfig.postInit {
        ratePerSecond := profile.sustainedRps
        capacity := max profile.capacity 1 } with
    | error failure =>
      rw [valid] at ok
      cases ok
    | ok config =>
      rw [valid] at ok
      exact ih (positive.add (RateLimitConfig.postInit_pos valid) profile.endpointClass) ok

theorem adminConfig_pos : 0 < adminConfig.ratePerSecond := by decide +kernel

theorem rateLimitConfigs_positive {profiles : List RateLimitProfile} {configs : Configs}
    (ok : rateLimitConfigs profiles = .ok configs) : configs.Positive := by
  have initial : Configs.Positive {} := nofun
  cases profiles with
  | nil => exact Except.ok.inj ok ▸ initial.add adminConfig_pos "admin"
  | cons profile profiles =>
    simp only [rateLimitConfigs] at ok
    cases built : profileConfigs {} (profile :: profiles) with
    | error failure =>
      rw [built] at ok
      cases ok
    | ok configs =>
      rw [built] at ok
      have positive := profileConfigs_positive initial built
      rw [← Except.ok.inj ok, Configs.Positive, Configs.share_objects, Configs.share_objects]
      split
      · exact positive
      · exact positive.add adminConfig_pos "admin"

theorem newBuckets_unreduced {config : Nat → RateLimitConfig} {entries : List (String × Nat)}
    {buckets built : Dict String TokenBucketRateLimiter} {readings rest : List ℚ}
    (unreduced : ∀ category bucket, buckets.get category = some bucket →
      bucket.originalRate = none ∧ bucket.reducedAt = none)
    (run : newBuckets config buckets entries readings = some (built, rest)) :
    ∀ category bucket, built.get category = some bucket → bucket.originalRate = none ∧ bucket.reducedAt = none := by
  induction entries generalizing buckets readings with
  | nil =>
    obtain ⟨rfl, -⟩ := Clocked.pure_inv run
    exact unreduced
  | cons entry entries ih =>
    obtain ⟨now, middle, -, run⟩ := Clocked.bind_inv run
    refine ih ?_ run
    intro category bucket found
    rw [Dict.get_set] at found
    split at found
    · rw [← Option.some.inj found]
      exact ⟨rfl, rfl⟩
    · exact unreduced category bucket found

namespace MultiBucketRateLimiter

variable {limiter : MultiBucketRateLimiter} {profiles : List RateLimitProfile} {readings rest : List ℚ}
  {events : List Event}

theorem created_inv (created : createRateLimiter profiles readings = some (.ok limiter, rest)) :
    ∃ configs, rateLimitConfigs profiles = .ok configs ∧ limiter.configs = (fun ref => configs.objects.getD ref {}) ∧
      ∃ later, newBuckets limiter.configs ∅ configs.keys.entries readings = some (limiter.buckets, later) := by
  simp only [createRateLimiter] at created
  cases built : rateLimitConfigs profiles with
  | error failure =>
    rw [built] at created
    cases (Clocked.pure_inv created).1
  | ok configs =>
    rw [built] at created
    obtain ⟨buckets, middle, filled, created⟩ := Clocked.bind_inv created
    obtain ⟨same, -⟩ := Clocked.pure_inv created
    rw [Except.ok.inj same]
    exact ⟨configs, rfl, rfl, middle, filled⟩

theorem created_unreduced (created : createRateLimiter profiles readings = some (.ok limiter, rest)) :
    ∀ category bucket, limiter.buckets.get category = some bucket →
      bucket.originalRate = none ∧ bucket.reducedAt = none := by
  obtain ⟨configs, -, -, later, filled⟩ := created_inv created
  refine newBuckets_unreduced (fun category bucket found => ?_) filled
  rw [Dict.get_empty] at found
  cases found

theorem created_kept (created : createRateLimiter profiles readings = some (.ok limiter, rest)) :
    Kept limiter limiter ∧ Recovered limiter limiter := by
  have unreduced := created_unreduced created
  obtain ⟨configs, built, same, -⟩ := created_inv created
  have positive := rateLimitConfigs_positive built
  refine ⟨⟨fun _ => rfl, fun category bucket found => ?_, fun config => ?_, fun _ => le_rfl, ?_⟩, ?_⟩
  · exact iff_of_true (unreduced category bucket found).1 (unreduced category bucket found).2
  · rw [same]
    dsimp only
    rw [List.getD_eq_getElem?_getD]
    cases there : configs.objects[config]? with
    | none => exact (by decide +kernel : (0 : ℚ) ≤ 10)
    | some object => exact (positive object (List.mem_of_getElem? there)).le
  · intro category bucket original found remembered
    rw [(unreduced category bucket found).1] at remembered
    cases remembered
  · intro category first bucket first_found found _
    rw [Option.some.inj (first_found.symm.trans found)]

/-- A step that is taken keeps the configured rates exactly where the condition on it holds. -/
theorem keeps_iff {start s : MultiBucketRateLimiter} (kept : Kept start s) (recovered : Recovered start s)
    (event : Event) :
    (∀ t, step s event = some t → Recovered start t) ↔ LastRemembers start s event := by
  cases taken : step s event with
  | none =>
    refine iff_of_true nofun ?_
    cases event with
    | acquire => trivial
    | reduceRate => trivial
    | maybeRecoverRate => cases taken
  | some t =>
    rw [← step_recovered_iff kept recovered taken]
    exact ⟨fun all => all t rfl, fun here other same => Option.some.inj same ▸ here⟩

/-- In every run no bucket's rate is above its configured rate; and every bucket is at its configured rate
whenever all reductions of its configuration have recovered, exactly where the bucket of a configuration
that recovers last is one that remembers the configured rate. -/
theorem rates_recover_iff (created : createRateLimiter profiles readings = some (.ok limiter, rest)) :
    Meets step (fun s event => ∀ t, step s event = some t → Below limiter t) limiter events ∧
      (Meets step (fun s event => ∀ t, step s event = some t → Recovered limiter t) limiter events ↔
        Meets step (LastRemembers limiter) limiter events) := by
  obtain ⟨kept, recovered⟩ := created_kept created
  constructor
  · have any : Meets step (fun _ _ => True) limiter events := meets_of_forall fun _ _ => trivial
    have preserved : ∀ s event t, Kept limiter s → True → step s event = some t → Kept limiter t :=
      fun s event t kept _ taken => step_kept kept taken
    refine (meets_invariant preserved kept any).mono fun s event held t taken => ?_
    exact (step_kept held.1 taken).below_configured
  · have preserved : ∀ s event t, Kept limiter s ∧ Recovered limiter s →
        (∀ t, step s event = some t → Recovered limiter t) → step s event = some t →
        Kept limiter t ∧ Recovered limiter t :=
      fun s event t held keeps taken => ⟨step_kept held.1 taken, keeps t taken⟩
    exact meets_iff (fun s event held => keeps_iff held.1 held.2 event) preserved ⟨kept, recovered⟩

/-- A bucket is reduced only while no other bucket of its configuration is. -/
def OneAtATime (limiter : MultiBucketRateLimiter) : Event → Prop
  | .reduceRate category _ _ => ∀ bucket, limiter.buckets.get category = some bucket → limiter.Alone category bucket
  | _ => True

/-- Every reduced bucket is the only one of its configuration, and remembers the configured rate. -/
def Remembering (start s : MultiBucketRateLimiter) : Prop :=
  ∀ category bucket, s.buckets.get category = some bucket → bucket.reducedAt ≠ none →
    bucket.originalRate = some (start.configs bucket.config).ratePerSecond ∧ s.Alone category bucket

theorem SameRates.remembering {start s t : MultiBucketRateLimiter} (same : SameRates s t)
    (remembering : Remembering start s) : Remembering start t := by
  intro category bucket found reduced
  obtain ⟨before, there, config, original, same_reduced⟩ := same.find found
  obtain ⟨remembers, alone⟩ := remembering category before there (same_reduced ▸ reduced)
  rw [← original, ← config]
  refine ⟨remembers, fun other shared other_found sharing differs => ?_⟩
  obtain ⟨other_before, other_there, other_config, -, other_reduced⟩ := same.find other_found
  rw [← other_reduced]
  exact alone other other_before other_there (other_config.trans (sharing.trans config.symm)) differs

theorem Rerated.remembering {start s t : MultiBucketRateLimiter} {category : String} {bucket : TokenBucketRateLimiter}
    {value : ℚ} {originalRate reducedAt : Option ℚ}
    (rerated : Rerated s t category bucket value originalRate reducedAt) (remembering : Remembering start s)
    (alone : reducedAt ≠ none →
      s.Alone category bucket ∧ originalRate = some (start.configs bucket.config).ratePerSecond) :
    Remembering start t := by
  intro other after found reduced
  rw [rerated.buckets] at found
  split at found
  · next here =>
    rw [← Option.some.inj found] at reduced ⊢
    obtain ⟨only, remembers⟩ := alone reduced
    refine ⟨remembers, fun name shared name_found sharing differs => ?_⟩
    rw [here] at differs
    rw [rerated.buckets, if_neg differs] at name_found
    exact only name shared name_found sharing differs
  · next apart =>
    obtain ⟨remembers, only⟩ := remembering other after found reduced
    refine ⟨remembers, fun name shared name_found sharing differs => ?_⟩
    rw [rerated.buckets] at name_found
    split at name_found
    · -- The bucket that is given a rate shares the configuration of a reduced one, so it is not reduced.
      rw [← Option.some.inj name_found] at sharing ⊢
      cases left : reducedAt with
      | none => rfl
      | some now =>
        have first := (alone (left ▸ Option.some_ne_none now)).1
        exact absurd (first other after found sharing.symm apart) reduced
    · exact only name shared name_found sharing differs

theorem step_remembering {start s t : MultiBucketRateLimiter} {event : Event} (kept : Kept start s)
    (recovered : Recovered start s) (remembering : Remembering start s) (one : OneAtATime s event)
    (taken : step s event = some t) : Remembering start t := by
  cases event with
  | acquire category tokens timeout readings =>
    obtain ⟨⟨⟨after, answer⟩, rest⟩, run, rfl⟩ := Option.map_eq_some_iff.mp taken
    exact (acquire_sameRates run).remembering remembering
  | maybeRecoverRate category recoverySeconds now =>
    rw [← Option.some.inj taken]
    by_cases due : ∃ bucket original, s.buckets.get category = some bucket ∧
        bucket.due recoverySeconds now = some original
    · obtain ⟨bucket, original, found, due⟩ := due
      exact (maybeRecoverRate_rerated found due).remembering remembering fun left => absurd rfl left
    · rw [maybeRecoverRate_idle due]
      exact remembering
  | reduceRate category factor now =>
    rw [← Option.some.inj taken]
    cases found : s.buckets.get category with
    | none =>
      rw [reduceRate_unknown found]
      exact remembering
    | some bucket =>
      have alone := one bucket found
      refine (reduceRate_rerated found).remembering remembering fun _ => ⟨alone, ?_⟩
      cases before : bucket.originalRate with
      | some rate =>
        have reduced : bucket.reducedAt ≠ none := fun back =>
          Option.some_ne_none rate (before.symm.trans ((kept.reduced category bucket found).mpr back))
        have remembers := (remembering category bucket found reduced).1
        rw [before] at remembers
        exact remembers
      | none =>
        -- No bucket of the configuration is reduced, so its rate is the configured one.
        have back := (kept.reduced category bucket found).mp before
        obtain ⟨first, first_found, same⟩ : ∃ first, start.buckets.get category = some first ∧
            first.config = bucket.config := by
          have refs := kept.configs category
          rw [found] at refs
          exact Option.map_eq_some_iff.mp refs.symm
        have all : s.AllRecovered bucket.config := by
          intro other shared there sharing
          by_cases itself : other = category
          · subst itself
            rw [← Option.some.inj (found.symm.trans there)]
            exact back
          · exact alone other shared there sharing itself
        have rate_eq := recovered category first bucket first_found found all
        rw [rate, rate, same] at rate_eq
        exact congrArg some rate_eq

/-- Where the aliases of a configuration are never reduced together, every rate comes back. -/
theorem rates_recover_of_oneAtATime (created : createRateLimiter profiles readings = some (.ok limiter, rest))
    (one : Meets step OneAtATime limiter events) : Meets step (LastRemembers limiter) limiter events := by
  obtain ⟨kept, recovered⟩ := created_kept created
  have initial : Remembering limiter limiter := by
    intro category bucket found reduced
    exact absurd (created_unreduced created category bucket found).2 reduced
  have remembers : ∀ s event, Remembering limiter s → LastRemembers limiter s event := by
    intro s event remembering
    cases event with
    | acquire => trivial
    | reduceRate => trivial
    | maybeRecoverRate category recoverySeconds now =>
      intro bucket original found due _
      obtain ⟨remembered, reduced⟩ := TokenBucketRateLimiter.due_inv due
      exact Option.some.inj (remembered.symm.trans (remembering category bucket found reduced).1)
  have preserved : ∀ s event t, (Kept limiter s ∧ Recovered limiter s) ∧ Remembering limiter s → OneAtATime s event →
      step s event = some t → (Kept limiter t ∧ Recovered limiter t) ∧ Remembering limiter t := by
    intro s event t held here taken
    obtain ⟨⟨kept, recovered⟩, remembering⟩ := held
    have back := (step_recovered_iff kept recovered taken).mpr (remembers s event remembering)
    exact ⟨⟨step_kept kept taken, back⟩, step_remembering kept recovered remembering here taken⟩
  refine (meets_invariant preserved ⟨⟨kept, recovered⟩, initial⟩ one).mono fun s event held => ?_
  exact remembers s event held.1.2

/-- The profiles of a broker with quotes of ten a second. -/
def quotesProfile : List RateLimitProfile := [{ endpointClass := "quotes", sustainedRps := 10, burstRps := some 20 }]

/-- Both aliases of the quotes are halved, and recover in the order of their reductions. -/
def crossedReductions : List Event :=
  [.reduceRate "quotes" ⟨1 / 2, by norm_num⟩ 1, .reduceRate "market_data" ⟨1 / 2, by norm_num⟩ 2,
    .maybeRecoverRate "quotes" 300 302, .maybeRecoverRate "market_data" 300 303]

/-- The rates of a limiter by category, and whether its buckets are reduced. -/
def figures (limiter : MultiBucketRateLimiter) : List (String × ℚ × Bool) :=
  limiter.buckets.entries.map fun entry => (entry.1, limiter.rate entry.2, entry.2.reducedAt.isSome)

theorem crossed_figures : (createRateLimiter quotesProfile [0, 0, 0]).bind (fun created => match created.1 with
      | .error _ => none
      | .ok limiter => (exec step limiter crossedReductions).map fun after => (figures limiter, figures after)) =
    some ([("quotes", 10, false), ("admin", 10, false), ("market_data", 10, false)],
      [("quotes", 5, false), ("admin", 10, false), ("market_data", 5, false)]) := by
  decide +kernel

/-- The aliases of the quotes end at half their configured rate, with nothing left to recover. -/
theorem crossed_rates_lost : ¬ ∀ (profiles : List RateLimitProfile) (readings rest : List ℚ)
    (limiter t : MultiBucketRateLimiter) (events : List Event),
      createRateLimiter profiles readings = some (.ok limiter, rest) → exec step limiter events = some t →
      (∀ category bucket, t.buckets.get category = some bucket → bucket.reducedAt = none) →
      ∀ category first bucket, limiter.buckets.get category = some first → t.buckets.get category = some bucket →
        t.rate bucket = limiter.rate first := by
  intro claim
  obtain ⟨⟨built, rest⟩, created, ran⟩ := Option.bind_eq_some_iff.mp crossed_figures
  cases built with
  | error failure => cases ran
  | ok limiter =>
    obtain ⟨t, run, seen⟩ := Option.map_eq_some_iff.mp ran
    obtain ⟨before, after⟩ := Prod.mk.inj seen
    have entry : ∀ {s : MultiBucketRateLimiter} {rate : ℚ}, ("quotes", rate, false) ∈ figures s →
        ∃ bucket, s.buckets.get "quotes" = some bucket ∧ s.rate bucket = rate := by
      intro s rate member
      obtain ⟨⟨category, bucket⟩, there, parts⟩ := List.mem_map.mp member
      obtain ⟨rfl, rest⟩ := Prod.mk.inj parts
      exact ⟨bucket, Dict.get_eq_some.mpr there, (Prod.mk.inj rest).1⟩
    have configured : ("quotes", 10, false) ∈ figures limiter := before ▸ List.mem_cons_self
    have left : ("quotes", 5, false) ∈ figures t := after ▸ List.mem_cons_self
    obtain ⟨first, first_found, ten⟩ := entry configured
    obtain ⟨bucket, found, five⟩ := entry left
    have back : ∀ category bucket, t.buckets.get category = some bucket → bucket.reducedAt = none := by
      intro category bucket found
      have member : (category, t.rate bucket, bucket.reducedAt.isSome) ∈ figures t :=
        List.mem_map.mpr ⟨(category, bucket), Dict.get_eq_some.mp found, rfl⟩
      rw [after] at member
      cases reduced : bucket.reducedAt with
      | none => rfl
      | some now => simp [reduced] at member
    have same := claim _ _ _ _ _ _ created run back "quotes" first bucket first_found found
    rw [ten, five] at same
    exact absurd same (by decide +kernel)

theorem crossed_rates_iff : ∃ limiter rest, createRateLimiter quotesProfile [0, 0, 0] = some (.ok limiter, rest) ∧
    Meets step (fun s event => ∀ t, step s event = some t → Below limiter t) limiter crossedReductions ∧
    (Meets step (fun s event => ∀ t, step s event = some t → Recovered limiter t) limiter crossedReductions ↔
      Meets step (LastRemembers limiter) limiter crossedReductions) := by
  obtain ⟨⟨built, rest⟩, created, ran⟩ := Option.bind_eq_some_iff.mp crossed_figures
  cases built with
  | error failure => cases ran
  | ok limiter => exact ⟨limiter, rest, created, rates_recover_iff created⟩

end MultiBucketRateLimiter

end TradeX.V1.RateLimiter
