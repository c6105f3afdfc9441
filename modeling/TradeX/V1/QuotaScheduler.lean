import TradeX.Lib.Dict
import TradeX.Lib.Runs
import TradeX.Lib.TokenBucket

/-! The quota scheduler: for each broker and endpoint class a primary token bucket with a reserved headroom and
window buckets without one. An attempt takes a token from all of them or from none. Every refill reads the
clock; readings do not decrease, and attempts come one after another. -/

namespace TradeX.V1.Quota

open Lib

inductive PriorityClass where
  | EXECUTION_CRITICAL
  | LIVE_STREAM_CONTROL
  | PORTFOLIO_READ
  | HISTORICAL_BACKFILL
  | ENRICHMENT
  deriving DecidableEq, Repr

/-- `RateLimitProfile`: rates and requests are not negative, windows have a length. -/
structure RateLimitProfile where
  endpointClass : String
  sustainedRps : ℚ
  burstRps : Option ℚ
  extraWindows : List (ℕ × ℚ)
  sustained_nonneg : 0 ≤ sustainedRps
  burst_nonneg : ∀ burst, burstRps = some burst → 0 ≤ burst
  windows_positive : ∀ window ∈ extraWindows, 0 < window.2

/-- A bucket with the part of it that is held for critical traffic. -/
structure QuotaBucket extends TokenBucket ℚ where
  reservedHeadroom : ℚ
  deriving DecidableEq, Repr

namespace QuotaBucket

/-- `_TokenBucket(...)`: a full bucket. -/
def fresh (sustainedRate burstCapacity reservedHeadroom now : ℚ) : QuotaBucket where
  rate := sustainedRate
  capacity := burstCapacity
  tokens := burstCapacity
  lastRefill := now
  reservedHeadroom := reservedHeadroom

variable (bucket : QuotaBucket)

def reservedTokens : ℚ := bucket.capacity * bucket.reservedHeadroom

def refill (now : ℚ) : QuotaBucket := { bucket with toTokenBucket := bucket.toTokenBucket.refill now }

def consume : QuotaBucket := { bucket with tokens := bucket.tokens - 1 }

def tryAcquire (priority : PriorityClass) (now : ℚ) : QuotaBucket × Bool :=
  let refilled := bucket.refill now
  if priority = .EXECUTION_CRITICAL then
    if 1 ≤ refilled.tokens then (refilled.consume, true) else (refilled, false)
  else
    let available := max 0 (refilled.tokens - refilled.reservedTokens)
    if 1 ≤ available then (refilled.consume, true) else (refilled, false)

def refund : QuotaBucket := { bucket with tokens := min bucket.capacity (bucket.tokens + 1) }

end QuotaBucket

structure QuotaScheduler where
  reservedHeadroom : ℚ
  buckets : Dict (String × String) QuotaBucket := .empty
  windowBuckets : Dict (String × String) (List QuotaBucket) := .empty

/-- An answer of the scheduler: a granted attempt, with the reading of each of its buckets. -/
structure Grant where
  key : String × String
  priority : PriorityClass
  readings : List ℚ
  deriving DecidableEq, Repr

inductive Event where
  | registerProfile (brokerId : String) (profile : RateLimitProfile) (readings : List ℚ)
  | attempt (brokerId endpointClass : String) (priority : PriorityClass) (readings : List ℚ)
  | headroomFor (brokerId endpointClass : String) (reading : ℚ)

def Event.readings : Event → List ℚ
  | .registerProfile _ _ readings => readings
  | .attempt _ _ _ readings => readings
  | .headroomFor _ _ reading => [reading]

/-- The profile of the event is of the broker and endpoint class. -/
def Event.Registers (key : String × String) : Event → Prop
  | .registerProfile brokerId profile _ => (brokerId, profile.endpointClass) = key
  | _ => False

namespace QuotaScheduler

variable (scheduler : QuotaScheduler)

/-- `profile.burst_rps or profile.sustained_rps * 2`. -/
def burst (profile : RateLimitProfile) : ℚ :=
  match profile.burstRps with
  | some burst => if burst ≠ 0 then burst else profile.sustainedRps * 2
  | none => profile.sustainedRps * 2

/-- The readings are of the primary bucket and of the windows, in their order. -/
def registerProfile (brokerId : String) (profile : RateLimitProfile) : List ℚ → Option QuotaScheduler
  | [] => none
  | now :: readings =>
    if readings.length ≠ profile.extraWindows.length then none
    else
      let key := (brokerId, profile.endpointClass)
      some { scheduler with
        buckets := scheduler.buckets.set key (.fresh profile.sustainedRps (burst profile) scheduler.reservedHeadroom now)
        windowBuckets := scheduler.windowBuckets.set key ((profile.extraWindows.zip readings).map fun window =>
          .fresh (window.1.1 / window.1.2) window.1.1 0 window.2) }

/-- The chain of the buckets of an attempt, in their order: those in front of an exhausted one get their token
back, those behind it are not reached. -/
def acquireChain (priority : PriorityClass) : List QuotaBucket → List ℚ → Option (List QuotaBucket × Bool)
  | [], _ => some ([], true)
  | _ :: _, [] => none
  | bucket :: rest, now :: readings =>
    match bucket.tryAcquire priority now with
    | (refilled, false) => some (refilled :: rest, false)
    | (consumed, true) => (acquireChain priority rest readings).map fun (others, acquired) =>
      ((if acquired then consumed else consumed.refund) :: others, acquired)

/-- A bucket of ten requests a second for an endpoint class without a profile. -/
def defaultBucket (now : ℚ) : QuotaBucket := .fresh 10 20 scheduler.reservedHeadroom now

def windows (key : String × String) : List QuotaBucket := (scheduler.windowBuckets.get key).getD []

/-- The buckets are stored again, windows only where there are any. -/
def putBack (key : String × String) : List QuotaBucket → QuotaScheduler
  | [] => scheduler
  | bucket :: windows => { scheduler with
      buckets := scheduler.buckets.set key bucket
      windowBuckets := match scheduler.windowBuckets.get key with
        | none => scheduler.windowBuckets
        | some _ => scheduler.windowBuckets.set key windows }

/-- `_try_acquire_composite`. The first reading is for the bucket that a missing profile gets. -/
def tryAcquireComposite (key : String × String) (priority : PriorityClass) :
    List ℚ → Option (QuotaScheduler × Bool)
  | [] => none
  | now :: readings =>
    let bucket := (scheduler.buckets.get key).getD (scheduler.defaultBucket now)
    if readings.length ≠ (scheduler.windows key).length + 1 then none
    else (acquireChain priority (bucket :: scheduler.windows key) readings).map fun (chain, acquired) =>
      (scheduler.putBack key chain, acquired)

/-- `headroom_for`; the ratio that it answers is not stored. -/
def headroomFor (key : String × String) (now : ℚ) : QuotaScheduler :=
  match scheduler.buckets.get key with
  | none => scheduler
  | some bucket => { scheduler with buckets := scheduler.buckets.set key (bucket.refill now) }

end QuotaScheduler

/-- The scheduler in a run, with the clock and the grants so far. -/
structure QuotaRun where
  scheduler : QuotaScheduler
  clock : ℚ
  granted : List Grant := []

namespace QuotaRun

/-- The scheduler behind an event, and the grant if it was one. -/
def answer (scheduler : QuotaScheduler) : Event → Option (QuotaScheduler × List Grant)
  | .registerProfile brokerId profile readings => (scheduler.registerProfile brokerId profile readings).map (·, [])
  | .attempt brokerId endpointClass priority readings =>
    (scheduler.tryAcquireComposite (brokerId, endpointClass) priority readings).map fun (after, acquired) =>
      (after, if acquired then [⟨(brokerId, endpointClass), priority, readings.tail⟩] else [])
  | .headroomFor brokerId endpointClass reading => some (scheduler.headroomFor (brokerId, endpointClass) reading, [])

/-- An event is possible at readings that do not decrease. -/
def step (run : QuotaRun) (event : Event) : Option QuotaRun :=
  if (run.clock :: event.readings).Pairwise (· ≤ ·) then
    (answer run.scheduler event).map fun (scheduler, grants) => {
      scheduler := scheduler
      clock := event.readings.getLast?.getD run.clock
      granted := run.granted ++ grants }
  else none

def start (reservedHeadroom clock : ℚ) : QuotaRun := ⟨{ reservedHeadroom := reservedHeadroom }, clock, []⟩

end QuotaRun

namespace QuotaBucket

variable {bucket after : QuotaBucket} {priority : PriorityClass} {now later clock : ℚ} {ok : Bool}

/-- A bucket in a run: its tokens are in range, it was refilled before, and holds back no negative part. -/
structure Sound (clock : ℚ) (bucket : QuotaBucket) : Prop where
  tokens : bucket.toTokenBucket.Sound
  refilled : bucket.lastRefill ≤ clock
  reserved : 0 ≤ bucket.reservedHeadroom

theorem fresh_sound {rate capacity headroom : ℚ} (rateNonneg : 0 ≤ rate) (capacityNonneg : 0 ≤ capacity)
    (headroomNonneg : 0 ≤ headroom) (before : now ≤ clock) : (fresh rate capacity headroom now).Sound clock :=
  ⟨⟨rateNonneg, capacityNonneg, le_refl _⟩, before, headroomNonneg⟩

theorem Sound.mono (sound : bucket.Sound clock) (before : clock ≤ later) : bucket.Sound later :=
  ⟨sound.tokens, sound.refilled.trans before, sound.reserved⟩

theorem Sound.refill (sound : bucket.Sound clock) (before : clock ≤ now) : (bucket.refill now).Sound now :=
  ⟨sound.tokens.refill (sound.refilled.trans before), le_refl _, sound.reserved⟩

/-- Whoever gets a token leaves one that was there; traffic that is not critical leaves what is held back. -/
theorem tryAcquire_cases (bucket : QuotaBucket) (priority : PriorityClass) (now : ℚ) :
    bucket.tryAcquire priority now = (bucket.refill now, false) ∨
    bucket.tryAcquire priority now = ((bucket.refill now).consume, true) ∧
      (priority = .EXECUTION_CRITICAL ∧ 1 ≤ bucket.level now ∨
        priority ≠ .EXECUTION_CRITICAL ∧ bucket.reservedTokens + 1 ≤ bucket.level now) := by
  simp only [tryAcquire]
  by_cases critical : priority = .EXECUTION_CRITICAL
  · rw [if_pos critical]
    by_cases there : 1 ≤ (bucket.refill now).tokens
    · exact .inr ⟨if_pos there, .inl ⟨critical, there⟩⟩
    · exact .inl (if_neg there)
  · rw [if_neg critical]
    by_cases there : 1 ≤ max 0 ((bucket.refill now).tokens - (bucket.refill now).reservedTokens)
    · refine .inr ⟨if_pos there, .inr ⟨critical, ?_⟩⟩
      rcases le_max_iff.mp there with nothing | above
      · linarith
      · exact add_comm bucket.reservedTokens 1 ▸ le_sub_iff_add_le.mp above
    · exact .inl (if_neg there)

theorem Sound.reservedTokens_nonneg (sound : bucket.Sound clock) : 0 ≤ bucket.reservedTokens :=
  mul_nonneg (sound.tokens.tokens_nonneg.trans sound.tokens.tokens_le) sound.reserved

/-- What an attempt does to one of its buckets: it takes a token that is there, or at most a refill is seen. -/
def Moved (acquired : Bool) (now : ℚ) (bucket after : QuotaBucket) : Prop :=
  if acquired then after = (bucket.refill now).consume ∧ 1 ≤ bucket.level now
  else after = bucket ∨ after = bucket.refill now

/-- The token that is given back was taken from the refilled bucket. -/
theorem refund_consume (bucket : QuotaBucket) (now : ℚ) : (bucket.refill now).consume.refund = bucket.refill now := by
  have restored : min bucket.capacity (bucket.level now - 1 + 1) = bucket.level now := by
    rw [sub_add_cancel, min_eq_right TokenBucket.level_le]
  simp only [refund, consume, refill, TokenBucket.refill, restored]

theorem tryAcquire_moved (sound : bucket.Sound clock) (tried : bucket.tryAcquire priority now = (after, ok)) :
    Moved ok now bucket after := by
  rcases tryAcquire_cases bucket priority now with refused | ⟨granted, held⟩
  · rw [tried] at refused
    cases refused
    exact .inr rfl
  · rw [tried] at granted
    cases granted
    refine ⟨rfl, ?_⟩
    rcases held with ⟨-, there⟩ | ⟨-, there⟩
    · exact there
    · exact (le_add_of_nonneg_left sound.reservedTokens_nonneg).trans there

end QuotaBucket

/-- What an attempt does to the buckets of its chain, one reading for each. -/
inductive ChainMoved (acquired : Bool) : List QuotaBucket → List ℚ → List QuotaBucket → Prop where
  | done : ChainMoved acquired [] [] []
  | next {bucket after now buckets readings afters} : QuotaBucket.Moved acquired now bucket after →
      ChainMoved acquired buckets readings afters →
      ChainMoved acquired (bucket :: buckets) (now :: readings) (after :: afters)

section

variable {acquired : Bool} {buckets afters : List QuotaBucket} {readings : List ℚ} {priority : PriorityClass} {clock : ℚ}

theorem chain_unreached : ∀ {buckets : List QuotaBucket} {readings : List ℚ}, readings.length = buckets.length →
    ChainMoved false buckets readings buckets
  | [], [], _ => .done
  | _ :: _, _ :: _, sized => .next (.inl rfl) (chain_unreached (Nat.succ.inj sized))

/-- An attempt takes a token from every bucket of its chain, or leaves every bucket as it was up to a refill. -/
theorem acquireChain_moved (sized : readings.length = buckets.length) (sound : ∀ bucket ∈ buckets, bucket.Sound clock)
    (tried : QuotaScheduler.acquireChain priority buckets readings = some (afters, acquired)) :
    ChainMoved acquired buckets readings afters := by
  induction buckets generalizing readings afters acquired with
  | nil =>
    cases readings with
    | nil =>
      cases tried
      exact .done
    | cons now readings => cases sized
  | cons bucket buckets ih =>
    cases readings with
    | nil => cases sized
    | cons now readings =>
      have here := sound bucket List.mem_cons_self
      simp only [QuotaScheduler.acquireChain] at tried
      cases first : bucket.tryAcquire priority now with
      | mk after ok =>
        have moved := QuotaBucket.tryAcquire_moved here first
        rw [first] at tried
        cases ok with
        | false =>
          cases tried
          exact .next moved (chain_unreached (Nat.succ.inj sized))
        | true =>
          obtain ⟨⟨others, ok⟩, rest, same⟩ := Option.map_eq_some_iff.mp tried
          have onward := ih (Nat.succ.inj sized) (fun other member => sound other (List.mem_cons_of_mem _ member)) rest
          cases ok with
          | true =>
            cases same
            exact .next moved onward
          | false =>
            cases same
            refine .next (.inr ?_) onward
            obtain ⟨consumed, -⟩ := moved
            rw [if_neg Bool.false_ne_true, consumed, QuotaBucket.refund_consume]

end

namespace ChainMoved

variable {acquired : Bool} {buckets afters : List QuotaBucket} {readings : List ℚ} {after : QuotaBucket} {i : ℕ}

theorem get (moved : ChainMoved acquired buckets readings afters) (found : afters[i]? = some after) :
    ∃ bucket now, buckets[i]? = some bucket ∧ readings[i]? = some now ∧ QuotaBucket.Moved acquired now bucket after := by
  induction moved generalizing i with
  | done => cases found
  | @next bucket after' now buckets readings afters here _ ih =>
    cases i with
    | zero =>
      cases found
      exact ⟨bucket, now, rfl, rfl, here⟩
    | succ i => exact ih found

theorem length_eq (moved : ChainMoved acquired buckets readings afters) : afters.length = buckets.length := by
  induction moved with
  | done => rfl
  | next _ _ ih => rw [List.length_cons, List.length_cons, ih]

theorem readings_length (moved : ChainMoved acquired buckets readings afters) : readings.length = afters.length := by
  induction moved with
  | done => rfl
  | next _ _ ih => rw [List.length_cons, List.length_cons, ih]

end ChainMoved

namespace QuotaBucket

variable {bucket after : QuotaBucket} {now later : ℚ} {acquired : Bool}

/-- A moved bucket is the touched one. -/
theorem Moved.touches (moved : Moved acquired now bucket after) : ∃ uses : List (TokenBucket.Touch ℚ),
    after.toTokenBucket = uses.foldl TokenBucket.touch bucket.toTokenBucket ∧
    (bucket.lastRefill ≤ now → bucket.toTokenBucket.Legal uses) ∧
    ((uses.filter TokenBucket.Touch.taken).map TokenBucket.Touch.now = if acquired then [now] else []) ∧
    after.reservedHeadroom = bucket.reservedHeadroom := by
  cases acquired with
  | true =>
    obtain ⟨rfl, there⟩ := moved
    exact ⟨[⟨now, true⟩], rfl, fun before => ⟨before, fun _ => there, trivial⟩, rfl, rfl⟩
  | false =>
    rcases moved with rfl | rfl
    · exact ⟨[], rfl, fun _ => trivial, rfl, rfl⟩
    · exact ⟨[⟨now, false⟩], rfl, fun before => ⟨before, nofun, trivial⟩, rfl, rfl⟩

theorem Moved.sound (moved : Moved acquired now bucket after) (sound : bucket.Sound now) : after.Sound now := by
  obtain ⟨uses, touched, legal, -, held⟩ := moved.touches
  refine ⟨?_, ?_, held ▸ sound.reserved⟩
  · rw [touched]
    exact sound.tokens.touches (legal sound.refilled)
  · cases acquired with
    | true =>
      obtain ⟨rfl, -⟩ := moved
      exact le_refl _
    | false =>
      rcases moved with rfl | rfl
      · exact sound.refilled
      · exact le_refl _

/-- From an instant on nothing but time has passed in the bucket. -/
def OnlyAged (instant : ℚ) (bucket after : QuotaBucket) : Prop :=
  ∀ later, instant ≤ later → after.refill later = bucket.refill later

theorem Moved.onlyAged (moved : Moved false now bucket after) (sound : bucket.Sound now) (behind : now ≤ later) :
    OnlyAged later bucket after := by
  intro reading onward
  have behind := behind.trans onward
  rcases moved with rfl | rfl
  · rfl
  · have same := sound.tokens.refill_refill behind
    exact congrArg (fun tokens => ({ bucket with toTokenBucket := tokens } : QuotaBucket)) same

end QuotaBucket

theorem ChainMoved.onlyAged {buckets afters : List QuotaBucket} {readings : List ℚ} {clock : ℚ}
    (moved : ChainMoved false buckets readings afters)
    (bounds : ∀ reading ∈ readings, reading ≤ clock ∧ ∀ bucket ∈ buckets, bucket.Sound reading) :
    List.Forall₂ (QuotaBucket.OnlyAged clock) buckets afters := by
  induction moved with
  | done => exact .nil
  | next here _ ih =>
    obtain ⟨behind, sound⟩ := bounds _ List.mem_cons_self
    refine .cons (here.onlyAged (sound _ List.mem_cons_self) behind) (ih ?_)
    intro reading member
    obtain ⟨behind, sound⟩ := bounds reading (List.mem_cons_of_mem _ member)
    exact ⟨behind, fun bucket inside => sound bucket (List.mem_cons_of_mem _ inside)⟩

namespace QuotaScheduler

variable {scheduler after : QuotaScheduler} {key other : String × String} {priority : PriorityClass} {now : ℚ}
  {readings : List ℚ} {acquired : Bool} {bucket : QuotaBucket}

theorem burst_nonneg (profile : RateLimitProfile) : 0 ≤ burst profile := by
  have doubled : 0 ≤ profile.sustainedRps * 2 := mul_nonneg profile.sustained_nonneg (by norm_num)
  rw [burst]
  split
  · next value known =>
    split
    · exact profile.burst_nonneg value known
    · exact doubled
  · exact doubled

/-- The buckets of a broker and endpoint class, none before the first use. -/
def chain (scheduler : QuotaScheduler) (key : String × String) : List QuotaBucket :=
  match scheduler.buckets.get key with
  | none => []
  | some bucket => bucket :: scheduler.windows key

theorem chain_congr (bucket : after.buckets.get key = scheduler.buckets.get key)
    (windows : after.windowBuckets.get key = scheduler.windowBuckets.get key) : after.chain key = scheduler.chain key := by
  simp only [chain, QuotaScheduler.windows, bucket, windows]

theorem chain_putBack {moved : List QuotaBucket} (sized : moved.length = (scheduler.windows key).length + 1) :
    (scheduler.putBack key moved).chain key = moved ∧
    ∀ other, other ≠ key → (scheduler.putBack key moved).buckets.get other = scheduler.buckets.get other ∧
      (scheduler.putBack key moved).windowBuckets.get other = scheduler.windowBuckets.get other := by
  cases moved with
  | nil => cases sized
  | cons bucket rest =>
    have sized : rest.length = (scheduler.windows key).length := Nat.succ.inj sized
    constructor
    · simp only [chain, putBack, windows, Dict.get_set, if_true]
      cases stored : scheduler.windowBuckets.get key with
      | none =>
        have empty : rest = [] := by
          apply List.eq_nil_of_length_eq_zero
          rw [sized, windows, stored]
          rfl
        simp only [stored, empty, Option.getD_none]
      | some held => simp only [Dict.get_set, if_true, Option.getD_some]
    · intro other elsewhere
      simp only [putBack, Dict.get_set, if_neg elsewhere, true_and]
      cases scheduler.windowBuckets.get key with
      | none => rfl
      | some held => simp only [Dict.get_set, if_neg elsewhere]

/-- A composite attempt moves the chain of its key, opened by a default bucket where there was none. -/
theorem tryAcquireComposite_moved {clock : ℚ} (unopened : scheduler.buckets.get key = none → scheduler.windowBuckets.get key = none)
    (headroom : 0 ≤ scheduler.reservedHeadroom) (sound : ∀ bucket ∈ scheduler.chain key, bucket.Sound clock)
    (ordered : (clock :: now :: readings).Pairwise (· ≤ ·))
    (tried : scheduler.tryAcquireComposite key priority (now :: readings) = some (after, acquired)) :
    (∃ full, (full = scheduler.chain key ∨ scheduler.chain key = [] ∧ full = [scheduler.defaultBucket now]) ∧
      (∀ bucket ∈ full, bucket.Sound now) ∧ ChainMoved acquired full readings (after.chain key) ∧ after.chain key ≠ []) ∧
    (∀ other, other ≠ key → after.buckets.get other = scheduler.buckets.get other ∧
      after.windowBuckets.get other = scheduler.windowBuckets.get other) ∧
    after.reservedHeadroom = scheduler.reservedHeadroom := by
  have before : clock ≤ now := List.rel_of_pairwise_cons ordered List.mem_cons_self
  simp only [tryAcquireComposite] at tried
  split at tried
  · cases tried
  · next sized =>
    obtain ⟨⟨moved, ok⟩, chained, same⟩ := Option.map_eq_some_iff.mp tried
    cases same
    have opened : ∃ full, (full = scheduler.chain key ∨
        scheduler.chain key = [] ∧ full = [scheduler.defaultBucket now]) ∧ (∀ bucket ∈ full, bucket.Sound now) ∧
        full = (scheduler.buckets.get key).getD (scheduler.defaultBucket now) :: scheduler.windows key := by
      cases held : scheduler.buckets.get key with
      | none =>
        refine ⟨[scheduler.defaultBucket now], .inr ⟨by rw [chain, held], rfl⟩, ?_, ?_⟩
        · intro bucket member
          rw [List.mem_singleton.mp member]
          exact QuotaBucket.fresh_sound (by norm_num) (by norm_num) headroom (le_refl _)
        · rw [windows, unopened held]
          rfl
      | some bucket =>
        have same : scheduler.chain key = bucket :: scheduler.windows key := by rw [chain, held]
        exact ⟨scheduler.chain key, .inl rfl, fun bucket member => (sound bucket member).mono before, same⟩
    obtain ⟨full, origin, sound', full_eq⟩ := opened
    rw [← full_eq] at chained
    have full_length : readings.length = full.length := by
      rw [full_eq, List.length_cons]
      exact not_not.mp sized
    have moves := acquireChain_moved full_length sound' chained
    have restored := scheduler.chain_putBack (moves.length_eq.trans (full_eq ▸ List.length_cons))
    refine ⟨⟨full, origin, sound', restored.1.symm ▸ moves, ?_⟩, restored.2, ?_⟩
    · rw [restored.1]
      intro empty
      have length := moves.length_eq
      rw [empty, full_eq] at length
      cases length
    · cases moved <;> rfl

/-- Traffic that is not critical leaves what the primary bucket holds back. -/
theorem tryAcquireComposite_reserved (plain : priority ≠ .EXECUTION_CRITICAL)
    (tried : scheduler.tryAcquireComposite key priority readings = some (after, true)) :
    ∃ bucket, after.buckets.get key = some bucket ∧ bucket.reservedTokens ≤ bucket.tokens := by
  cases readings with
  | nil => cases tried
  | cons now readings =>
    simp only [tryAcquireComposite] at tried
    split at tried
    · cases tried
    · obtain ⟨⟨moved, acquired⟩, chained, same⟩ := Option.map_eq_some_iff.mp tried
      obtain ⟨rfl, rfl⟩ := Prod.mk.inj same
      cases readings with
      | nil => cases chained
      | cons instant readings =>
        simp only [acquireChain] at chained
        generalize (scheduler.buckets.get key).getD (scheduler.defaultBucket now) = bucket at chained
        rcases QuotaBucket.tryAcquire_cases bucket priority instant with refused | ⟨granted, held⟩
        · rw [refused] at chained
          cases chained
        · rw [granted] at chained
          obtain ⟨⟨others, acquired⟩, -, same⟩ := Option.map_eq_some_iff.mp chained
          obtain ⟨rfl, rfl⟩ := Prod.mk.inj same
          refine ⟨(bucket.refill instant).consume, ?_, ?_⟩
          · simp only [putBack, Dict.get_set, if_true]
          · rcases held with ⟨critical, -⟩ | ⟨-, above⟩
            · exact absurd critical plain
            · exact le_sub_iff_add_le.mpr above

end QuotaScheduler

namespace QuotaRun

variable {run after : QuotaRun} {event : Event} {key : String × String} {i : ℕ} {grants more : List Grant}

/-- The readings of the i-th bucket of a key at its grants. -/
def readingsOf (key : String × String) (i : ℕ) (grants : List Grant) : List ℚ :=
  (grants.filter fun grant => grant.key = key).filterMap fun grant => grant.readings[i]?

/-- The grants of a key that read its i-th bucket in the interval. -/
def grantsIn (key : String × String) (i : ℕ) (s t : ℚ) (grants : List Grant) : ℕ :=
  ((readingsOf key i grants).filter fun reading => s ≤ reading ∧ reading ≤ t).length

theorem readingsOf_append : readingsOf key i (grants ++ more) = readingsOf key i grants ++ readingsOf key i more := by
  rw [readingsOf, List.filter_append, List.filterMap_append]
  rfl

theorem readingsOf_unused (none : ∀ grant ∈ grants, grant.key ≠ key) : readingsOf key i grants = [] := by
  have kept : (grants.filter fun grant => grant.key = key) = [] := by
    apply List.filter_eq_nil_iff.mpr
    intro grant member
    simpa using none grant member
  rw [readingsOf, kept]
  rfl

structure Sound (run : QuotaRun) : Prop where
  headroom : 0 ≤ run.scheduler.reservedHeadroom
  unopened : ∀ key, run.scheduler.buckets.get key = none → run.scheduler.windowBuckets.get key = none
  buckets : ∀ key, ∀ bucket ∈ run.scheduler.chain key, bucket.Sound run.clock

/-- What an event that does not register a key does to its chain: with one reading for each bucket a token is
taken from all of them, which is a grant, or from none. -/
def Evolves (key : String × String) (run after : QuotaRun) (grants : List Grant) : Prop :=
  ∃ full readings acquired, (full = run.scheduler.chain key ∨ run.scheduler.chain key = []) ∧
    (∀ reading ∈ readings, reading ≤ after.clock ∧ ∀ bucket ∈ full, bucket.Sound reading) ∧
    ChainMoved acquired full readings (after.scheduler.chain key) ∧
    (∀ grant ∈ grants, grant.key = key → after.scheduler.chain key ≠ [] ∧
      grant.readings.length = (after.scheduler.chain key).length) ∧
    ∀ i, readingsOf key i grants = if acquired then readings[i]?.toList else []

theorem chainMoved_unused {clock : ℚ} : ∀ buckets : List QuotaBucket,
    ChainMoved false buckets (List.replicate buckets.length clock) buckets
  | [] => .done
  | _ :: rest => .next (.inl rfl) (chainMoved_unused rest)

theorem Evolves.unused (sound : run.Sound) (clock : run.clock ≤ after.clock)
    (same : after.scheduler.chain key = run.scheduler.chain key) (none : ∀ grant ∈ grants, grant.key ≠ key) :
    Evolves key run after grants := by
  refine ⟨run.scheduler.chain key, List.replicate (run.scheduler.chain key).length run.clock, false, .inl rfl, ?_, ?_,
    fun grant member own => absurd own (none grant member), fun _ => readingsOf_unused none⟩
  · intro reading member
    rw [(List.mem_replicate.mp member).2]
    exact ⟨clock, sound.buckets key⟩
  · rw [same]
    exact chainMoved_unused _

/-- The clock behind an event is its last reading. -/
theorem clock_bounds {clock : ℚ} {readings : List ℚ} (ordered : (clock :: readings).Pairwise (· ≤ ·)) :
    clock ≤ readings.getLast?.getD clock ∧ ∀ reading ∈ readings, reading ≤ readings.getLast?.getD clock := by
  rcases List.eq_nil_or_concat readings with rfl | ⟨front, last, rfl⟩
  · exact ⟨le_refl _, nofun⟩
  · rw [List.concat_eq_append] at ordered ⊢
    rw [List.getLast?_concat, Option.getD_some]
    obtain ⟨first, rest⟩ := List.pairwise_cons.mp ordered
    refine ⟨first last (List.mem_append_right _ List.mem_cons_self), ?_⟩
    intro reading member
    rcases List.mem_append.mp member with early | final
    · exact (List.pairwise_append.mp rest).2.2 reading early last List.mem_cons_self
    · exact (List.mem_singleton.mp final).le

theorem step_inv (taken : step run event = some after) : (run.clock :: event.readings).Pairwise (· ≤ ·) ∧
    ∃ grants, answer run.scheduler event = some (after.scheduler, grants) ∧
      after.clock = event.readings.getLast?.getD run.clock ∧ after.granted = run.granted ++ grants := by
  simp only [step] at taken
  split at taken
  · next ordered =>
    obtain ⟨⟨scheduler, grants⟩, answered, rfl⟩ := Option.map_eq_some_iff.mp taken
    exact ⟨ordered, grants, answered, rfl, rfl⟩
  · cases taken

/-- The steps of a run, for a key that the event does not register. -/
theorem step_evolves (sound : run.Sound) (taken : step run event = some after) (plain : ¬event.Registers key) :
    ∃ grants, after.granted = run.granted ++ grants ∧ Evolves key run after grants := by
  obtain ⟨ordered, grants, answered, clock, granted⟩ := step_inv taken
  obtain ⟨clockLe, readingsLe⟩ := clock_bounds ordered
  rw [← clock] at clockLe readingsLe
  refine ⟨grants, granted, ?_⟩
  cases event with
  | registerProfile brokerId profile readings =>
    obtain ⟨scheduler, registered, same⟩ := Option.map_eq_some_iff.mp answered
    cases same
    refine .unused sound clockLe ?_ nofun
    have other : key ≠ (brokerId, profile.endpointClass) := fun same => plain same.symm
    cases readings with
    | nil => cases registered
    | cons now readings =>
      simp only [QuotaScheduler.registerProfile] at registered
      split at registered
      · cases registered
      · rw [← Option.some.inj registered]
        simp only [QuotaScheduler.chain, QuotaScheduler.windows, Dict.get_set, if_neg other]
  | headroomFor brokerId endpointClass reading =>
    obtain ⟨scheduled, rfl⟩ := Prod.mk.inj (Option.some.inj answered)
    have before : run.clock ≤ reading := List.rel_of_pairwise_cons ordered List.mem_cons_self
    by_cases own : key = (brokerId, endpointClass)
    · subst own
      cases held : run.scheduler.buckets.get (brokerId, endpointClass) with
      | none =>
        refine .unused sound clockLe ?_ nofun
        rw [← scheduled]
        simp only [QuotaScheduler.headroomFor, held]
      | some bucket =>
        have opened : run.scheduler.chain (brokerId, endpointClass) =
            bucket :: run.scheduler.windows (brokerId, endpointClass) := by rw [QuotaScheduler.chain, held]
        have refilled : after.scheduler.chain (brokerId, endpointClass) =
            bucket.refill reading :: run.scheduler.windows (brokerId, endpointClass) := by
          rw [← scheduled]
          simp only [QuotaScheduler.headroomFor, held, QuotaScheduler.chain, QuotaScheduler.windows, Dict.get_set, if_true]
        refine ⟨_, reading :: List.replicate (run.scheduler.windows (brokerId, endpointClass)).length reading, false,
          .inl rfl, ?_, ?_, nofun, fun _ => rfl⟩
        · intro instant member
          have same : instant = reading := by
            rcases List.mem_cons.mp member with first | rest
            · exact first
            · exact (List.mem_replicate.mp rest).2
          rw [same]
          exact ⟨readingsLe reading List.mem_cons_self, fun bucket member => (sound.buckets _ bucket member).mono before⟩
        · rw [opened, refilled]
          exact .next (.inr rfl) (chainMoved_unused _)
    · refine .unused sound clockLe ?_ nofun
      rw [← scheduled]
      simp only [QuotaScheduler.headroomFor]
      cases run.scheduler.buckets.get (brokerId, endpointClass) with
      | none => rfl
      | some bucket => simp only [QuotaScheduler.chain, QuotaScheduler.windows, Dict.get_set, if_neg own]
  | attempt brokerId endpointClass priority readings =>
    obtain ⟨⟨scheduler, acquired⟩, tried, same⟩ := Option.map_eq_some_iff.mp answered
    obtain ⟨scheduled, rfl⟩ := Prod.mk.inj same
    cases readings with
    | nil => cases tried
    | cons now readings =>
      have moved := QuotaScheduler.tryAcquireComposite_moved (sound.unopened _) sound.headroom (sound.buckets _) ordered tried
      obtain ⟨⟨full, origin, sound', moves, opened⟩, others, -⟩ := moved
      rw [scheduled] at moves opened others
      by_cases own : key = (brokerId, endpointClass)
      · subst own
        refine ⟨full, readings, acquired, origin.imp_right And.left, ?_, moves, ?_, ?_⟩
        · intro reading member
          refine ⟨readingsLe reading (List.mem_cons_of_mem _ member), fun bucket held => (sound' bucket held).mono ?_⟩
          exact List.rel_of_pairwise_cons (List.pairwise_cons.mp ordered).2 member
        · intro grant member _
          cases acquired with
          | false => cases member
          | true =>
            rw [List.mem_singleton.mp member]
            exact ⟨opened, moves.readings_length⟩
        · intro i
          cases acquired with
          | false => rfl
          | true => cases found : readings[i]? <;> simp [readingsOf, found]
      · refine .unused sound clockLe (QuotaScheduler.chain_congr (others key own).1 (others key own).2) ?_
        intro grant member
        cases acquired with
        | false => cases member
        | true =>
          rw [List.mem_singleton.mp member]
          exact fun same => own same.symm

/-- The buckets of a registered profile are full. -/
theorem registerProfile_sound {scheduler after : QuotaScheduler} {brokerId : String} {profile : RateLimitProfile}
    {readings : List ℚ} {clock : ℚ} (headroom : 0 ≤ scheduler.reservedHeadroom) (bounds : ∀ reading ∈ readings, reading ≤ clock)
    (registered : scheduler.registerProfile brokerId profile readings = some after) :
    (∀ bucket ∈ after.chain (brokerId, profile.endpointClass), bucket.Sound clock) ∧
    after.buckets.get (brokerId, profile.endpointClass) ≠ none ∧
    (∀ other, other ≠ (brokerId, profile.endpointClass) → after.buckets.get other = scheduler.buckets.get other ∧
      after.windowBuckets.get other = scheduler.windowBuckets.get other) ∧
    after.reservedHeadroom = scheduler.reservedHeadroom := by
  cases readings with
  | nil => cases registered
  | cons now readings =>
    simp only [QuotaScheduler.registerProfile] at registered
    split at registered
    · cases registered
    · rw [← Option.some.inj registered]
      have burst_nonneg := QuotaScheduler.burst_nonneg profile
      refine ⟨?_, ?_, ?_, rfl⟩
      · simp only [QuotaScheduler.chain, QuotaScheduler.windows, Dict.get_set, if_true, Option.getD_some]
        intro bucket member
        rcases List.mem_cons.mp member with rfl | window
        · exact QuotaBucket.fresh_sound profile.sustained_nonneg burst_nonneg headroom (bounds now List.mem_cons_self)
        · obtain ⟨⟨limit, reading⟩, listed, rfl⟩ := List.mem_map.mp window
          obtain ⟨ofProfile, ofReadings⟩ := List.of_mem_zip listed
          have length := profile.windows_positive limit ofProfile
          exact QuotaBucket.fresh_sound (div_nonneg (Nat.cast_nonneg _) length.le) (Nat.cast_nonneg _) (le_refl _)
            (bounds reading (List.mem_cons_of_mem _ ofReadings))
      · simp only [Dict.get_set, if_true]
        exact Option.some_ne_none _
      · intro other elsewhere
        simp only [Dict.get_set, if_neg elsewhere, and_self]

theorem Evolves.sound (evolves : Evolves key run after grants) : ∀ bucket ∈ after.scheduler.chain key,
    bucket.Sound after.clock := by
  obtain ⟨full, readings, acquired, -, bounds, moved, -⟩ := evolves
  intro bucket member
  obtain ⟨i, found⟩ := List.mem_iff_getElem?.mp member
  obtain ⟨origin, now, held, read, here⟩ := moved.get found
  obtain ⟨behind, sounds⟩ := bounds now (List.mem_of_getElem? read)
  exact (here.sound (sounds origin (List.mem_of_getElem? held))).mono behind

theorem Sound.step (sound : run.Sound) (taken : step run event = some after) : after.Sound := by
  have evolves (key) (plain : ¬event.Registers key) := step_evolves sound taken plain
  obtain ⟨ordered, grants, answered, clock, -⟩ := step_inv taken
  obtain ⟨-, readingsLe⟩ := clock_bounds ordered
  rw [← clock] at readingsLe
  cases event with
  | registerProfile brokerId profile readings =>
    obtain ⟨scheduler, registered, same⟩ := Option.map_eq_some_iff.mp answered
    obtain ⟨rfl, -⟩ := Prod.mk.inj same
    obtain ⟨fresh, opened, others, headroom⟩ := registerProfile_sound sound.headroom readingsLe registered
    refine ⟨headroom ▸ sound.headroom, ?_, ?_⟩
    · intro key absent
      by_cases own : key = (brokerId, profile.endpointClass)
      · exact absurd (own ▸ absent) opened
      · rw [(others key own).2]
        exact sound.unopened key ((others key own).1 ▸ absent)
    · intro key
      by_cases own : (brokerId, profile.endpointClass) = key
      · exact own ▸ fresh
      · obtain ⟨_, -, moves⟩ := evolves key own
        exact moves.sound
  | headroomFor brokerId endpointClass reading =>
    obtain ⟨scheduled, -⟩ := Prod.mk.inj (Option.some.inj answered)
    have kept : after.scheduler.reservedHeadroom = run.scheduler.reservedHeadroom ∧
        after.scheduler.windowBuckets = run.scheduler.windowBuckets ∧
        ∀ key, after.scheduler.buckets.get key = none → run.scheduler.buckets.get key = none := by
      rw [← scheduled]
      simp only [QuotaScheduler.headroomFor]
      cases held : run.scheduler.buckets.get (brokerId, endpointClass) with
      | none => exact ⟨rfl, rfl, fun _ absent => absent⟩
      | some bucket =>
        refine ⟨rfl, rfl, ?_⟩
        intro key absent
        rw [Dict.get_set] at absent
        split at absent
        · cases absent
        · exact absent
    refine ⟨kept.1 ▸ sound.headroom, ?_, ?_⟩
    · intro key absent
      rw [kept.2.1]
      exact sound.unopened key (kept.2.2 key absent)
    · intro key
      obtain ⟨_, -, moves⟩ := evolves key not_false
      exact moves.sound
  | attempt brokerId endpointClass priority readings =>
    obtain ⟨⟨scheduler, acquired⟩, tried, same⟩ := Option.map_eq_some_iff.mp answered
    obtain ⟨scheduled, -⟩ := Prod.mk.inj same
    cases readings with
    | nil => cases tried
    | cons now readings =>
      obtain ⟨⟨_, -, -, -, opened⟩, others, headroom⟩ :=
        QuotaScheduler.tryAcquireComposite_moved (sound.unopened _) sound.headroom (sound.buckets _) ordered tried
      rw [scheduled] at opened others headroom
      refine ⟨headroom ▸ sound.headroom, ?_, ?_⟩
      · intro key absent
        by_cases own : key = (brokerId, endpointClass)
        · refine absurd ?_ opened
          rw [QuotaScheduler.chain, ← own, absent]
        · rw [(others key own).2]
          exact sound.unopened key ((others key own).1 ▸ absent)
      · intro key
        obtain ⟨_, -, moves⟩ := evolves key not_false
        exact moves.sound

theorem start_sound {headroom clock : ℚ} (nonneg : 0 ≤ headroom) : (start headroom clock).Sound :=
  ⟨nonneg, fun _ _ => rfl, fun _ _ member => nomatch member⟩

/-- Each bucket of a key stands where the uses behind its first state have left it, and the tokens taken by
them are the grants since. -/
structure Accounts (key : String × String) (earlier : List Grant) (run : QuotaRun) (since : List Grant) : Prop where
  granted : run.granted = earlier ++ since
  complete : ∀ grant ∈ since, grant.key = key → run.scheduler.chain key ≠ [] ∧
    grant.readings.length = (run.scheduler.chain key).length
  buckets : ∀ i bucket, (run.scheduler.chain key)[i]? = some bucket →
    ∃ (first : TokenBucket ℚ) (uses : List (TokenBucket.Touch ℚ)), first.Sound ∧ first.Legal uses ∧ bucket.toTokenBucket = uses.foldl TokenBucket.touch first ∧
    ((uses.filter TokenBucket.Touch.taken).map TokenBucket.Touch.now) = readingsOf key i since

theorem Accounts.begin (sound : run.Sound) (key : String × String) : Accounts key run.granted run [] where
  granted := (List.append_nil _).symm
  complete := nofun
  buckets := by
    intro i bucket found
    exact ⟨bucket.toTokenBucket, [], (sound.buckets key bucket (List.mem_of_getElem? found)).tokens, trivial, rfl, rfl⟩

/-- An event that does not register the key keeps the accounts of its buckets. -/
theorem Accounts.step {earlier since : List Grant} (accounts : Accounts key earlier run since) (sound : run.Sound)
    (taken : step run event = some after) (plain : ¬event.Registers key) :
    ∃ grants, Accounts key earlier after (since ++ grants) := by
  obtain ⟨grants, granted, full, readings, acquired, origin, bounds, moved, counts, read⟩ := step_evolves sound taken plain
  refine ⟨grants, ?_, ?_, ?_⟩
  · rw [granted, accounts.granted, List.append_assoc]
  · intro grant member own
    rcases List.mem_append.mp member with earlier | new
    · obtain ⟨opened, sized⟩ := accounts.complete grant earlier own
      have kept : (after.scheduler.chain key).length = (run.scheduler.chain key).length := by
        rcases origin with same | absent
        · rw [moved.length_eq, same]
        · exact absurd absent opened
      refine ⟨?_, sized.trans kept.symm⟩
      intro empty
      rw [empty] at kept
      exact opened (List.eq_nil_of_length_eq_zero kept.symm)
    · exact counts grant new own
  · intro i bucket found
    obtain ⟨before, now, held, instant, here⟩ := moved.get found
    obtain ⟨touches, touched, legal, counted, -⟩ := here.touches
    have soundBefore := (bounds now (List.mem_of_getElem? instant)).2 before (List.mem_of_getElem? held)
    have read_here : readingsOf key i grants = if acquired then [now] else [] := by
      rw [read, instant]
      rfl
    rcases origin with same | absent
    · obtain ⟨first, uses, firstSound, firstLegal, stands, sofar⟩ := accounts.buckets i before (same ▸ held)
      refine ⟨first, uses ++ touches, firstSound, firstLegal.append (stands ▸ legal soundBefore.refilled), ?_, ?_⟩
      · rw [touched, stands, List.foldl_append]
      · rw [List.filter_append, List.map_append, counted, sofar, readingsOf_append, read_here]
    · refine ⟨before.toTokenBucket, touches, soundBefore.tokens, legal soundBefore.refilled, touched, ?_⟩
      have unused : ∀ grant ∈ since, grant.key ≠ key := fun grant member own => (accounts.complete grant member own).1 absent
      rw [counted, readingsOf_append, readingsOf_unused unused, read_here, List.nil_append]

theorem Accounts.kept {earlier since : List Grant} {events : List Event} (accounts : Accounts key earlier run since)
    (sound : run.Sound) (plain : ∀ event ∈ events, ¬event.Registers key) (taken : exec QuotaRun.step run events = some after) :
    ∃ grants, Accounts key earlier after (since ++ grants) ∧ after.Sound := by
  induction events generalizing run since with
  | nil =>
    cases taken
    exact ⟨[], (List.append_nil since).symm ▸ accounts, sound⟩
  | cons event events ih =>
    obtain ⟨next, first, rest⟩ := exec_cons_inv taken
    obtain ⟨grants, onward⟩ := accounts.step sound first (plain event List.mem_cons_self)
    obtain ⟨more, final⟩ := ih onward (sound.step first) (fun event member => plain event (List.mem_cons_of_mem _ member)) rest
    exact ⟨grants ++ more, List.append_assoc since grants more ▸ final⟩

/-- The grants of a key over an interval are within the capacity of each of its buckets and what it refills. -/
theorem Accounts.bound {earlier since : List Grant} (accounts : Accounts key earlier run since) {bucket : QuotaBucket}
    (found : (run.scheduler.chain key)[i]? = some bucket) {s t : ℚ} (ends : s ≤ t) :
    (grantsIn key i s t since : ℚ) ≤ bucket.capacity + (t - s) * bucket.rate := by
  obtain ⟨first, uses, sound, legal, stands, counted⟩ := accounts.buckets i bucket found
  have bound := sound.takenIn_le legal ends
  obtain ⟨rate, capacity⟩ := TokenBucket.touches_rate_capacity first uses
  have same : grantsIn key i s t since = (TokenBucket.takenIn s t uses).length := by
    rw [grantsIn, ← counted, List.filter_map, List.length_map, List.filter_filter, TokenBucket.takenIn]
    congr 1
    apply List.filter_congr
    intro use _
    cases use.taken <;> simp
  rw [same, stands, capacity, rate]
  exact bound

/-- What an attempt is granted leaves what is held back; a refused one is not seen at any later reading. -/
theorem attempt_cases (sound : run.Sound) {brokerId endpointClass : String} {priority : PriorityClass} {readings : List ℚ}
    (taken : step run (.attempt brokerId endpointClass priority readings) = some after) :
    (after.granted = run.granted ++ [⟨(brokerId, endpointClass), priority, readings.tail⟩] ∧
      (priority ≠ .EXECUTION_CRITICAL → ∃ bucket, after.scheduler.buckets.get (brokerId, endpointClass) = some bucket ∧
        bucket.reservedTokens ≤ bucket.tokens)) ∨
    (after.granted = run.granted ∧
      (∃ full, (full = run.scheduler.chain (brokerId, endpointClass) ∨
          run.scheduler.chain (brokerId, endpointClass) = [] ∧ ∃ opened, full = [run.scheduler.defaultBucket opened]) ∧
        List.Forall₂ (QuotaBucket.OnlyAged after.clock) full (after.scheduler.chain (brokerId, endpointClass))) ∧
      ∀ other, other ≠ (brokerId, endpointClass) → after.scheduler.buckets.get other = run.scheduler.buckets.get other ∧
        after.scheduler.windowBuckets.get other = run.scheduler.windowBuckets.get other) := by
  obtain ⟨ordered, grants, answered, clock, granted⟩ := step_inv taken
  obtain ⟨-, readingsLe⟩ := clock_bounds ordered
  rw [← clock] at readingsLe
  obtain ⟨⟨scheduler, acquired⟩, tried, same⟩ := Option.map_eq_some_iff.mp answered
  obtain ⟨scheduled, rfl⟩ := Prod.mk.inj same
  subst scheduled
  cases acquired with
  | true => exact .inl ⟨granted, fun plain => QuotaScheduler.tryAcquireComposite_reserved plain tried⟩
  | false =>
    refine .inr ⟨granted.trans (List.append_nil _), ?_⟩
    cases readings with
    | nil => cases tried
    | cons now readings =>
      obtain ⟨⟨full, origin, sound', moves, -⟩, others, -⟩ :=
        QuotaScheduler.tryAcquireComposite_moved (sound.unopened _) sound.headroom (sound.buckets _) ordered tried
      refine ⟨⟨full, ?_, moves.onlyAged ?_⟩, others⟩
      · rcases origin with same | ⟨absent, same⟩
        · exact .inl same
        · exact .inr ⟨absent, now, same⟩
      · intro reading member
        have first : now ≤ reading := List.rel_of_pairwise_cons (List.pairwise_cons.mp ordered).2 member
        exact ⟨readingsLe reading (List.mem_cons_of_mem _ member), fun bucket held => (sound' bucket held).mono first⟩

theorem start_exec_sound {headroom clock : ℚ} (nonneg : 0 ≤ headroom) {events : List Event}
    (taken : exec step (start headroom clock) events = some run) : run.Sound := by
  have any : Meets step (fun _ _ => True) (start headroom clock) events := meets_of_forall fun _ _ => trivial
  exact exec_invariant (fun _ _ _ sound _ taken => sound.step taken) (start_sound nonneg) any taken

/-- In every run what is granted to traffic that is not critical leaves what is held back, a refused attempt is
not seen at any later reading, and from any state on the grants of a key that is not registered again are within
the capacity of each of its buckets and what it refills, over every interval. -/
theorem quota_laws {headroom clock : ℚ} (nonneg : 0 ≤ headroom) {events : List Event} {run : QuotaRun}
    (reached : exec step (start headroom clock) events = some run) :
    (∀ brokerId endpointClass priority readings after,
      step run (.attempt brokerId endpointClass priority readings) = some after →
      (after.granted = run.granted ++ [⟨(brokerId, endpointClass), priority, readings.tail⟩] ∧
        (priority ≠ .EXECUTION_CRITICAL → ∃ bucket, after.scheduler.buckets.get (brokerId, endpointClass) = some bucket ∧
          bucket.reservedTokens ≤ bucket.tokens)) ∨
      (after.granted = run.granted ∧
        (∃ full, (full = run.scheduler.chain (brokerId, endpointClass) ∨
            run.scheduler.chain (brokerId, endpointClass) = [] ∧ ∃ opened, full = [run.scheduler.defaultBucket opened]) ∧
          List.Forall₂ (QuotaBucket.OnlyAged after.clock) full (after.scheduler.chain (brokerId, endpointClass))) ∧
        ∀ other, other ≠ (brokerId, endpointClass) → after.scheduler.buckets.get other = run.scheduler.buckets.get other ∧
          after.scheduler.windowBuckets.get other = run.scheduler.windowBuckets.get other)) ∧
    ∀ key more after, (∀ event ∈ more, ¬event.Registers key) → exec step run more = some after →
      ∃ since, after.granted = run.granted ++ since ∧
        (∀ grant ∈ since, grant.key = key → grant.readings.length = (after.scheduler.chain key).length) ∧
        ∀ i bucket, (after.scheduler.chain key)[i]? = some bucket → ∀ s t, s ≤ t →
          (grantsIn key i s t since : ℚ) ≤ bucket.capacity + (t - s) * bucket.rate := by
  have sound := start_exec_sound nonneg reached
  constructor
  · intro brokerId endpointClass priority readings after taken
    exact attempt_cases sound taken
  · intro key more after plain taken
    obtain ⟨since, accounts, -⟩ := (Accounts.begin sound key).kept sound plain taken
    refine ⟨since, accounts.granted, fun grant member own => (accounts.complete grant member own).2, ?_⟩
    intro i bucket found s t ends
    exact accounts.bound found ends

/-- Ten orders a second, five a minute. -/
def orders : RateLimitProfile where
  endpointClass := "orders"
  sustainedRps := 10
  burstRps := some 10
  extraWindows := [(5, 60)]
  sustained_nonneg := by norm_num
  burst_nonneg := by
    intro burst same
    rw [← Option.some.inj same]
    norm_num
  windows_positive := by
    intro window member
    rw [List.mem_singleton.mp member]
    norm_num

theorem quota_laws_orders : ∃ run after, exec step (start (1 / 5) 0) [.registerProfile "dhan" orders [0, 0]] = some run ∧
    exec step run [.attempt "dhan" "orders" .PORTFOLIO_READ [0, 0, 0]] = some after ∧
    ∃ since, after.granted = run.granted ++ since ∧
      ∀ bucket, (after.scheduler.chain ("dhan", "orders"))[1]? = some bucket → ∀ s t, s ≤ t →
        (grantsIn ("dhan", "orders") 1 s t since : ℚ) ≤ bucket.capacity + (t - s) * bucket.rate := by
  have registered : (exec step (start (1 / 5) 0) [.registerProfile "dhan" orders [0, 0]]).isSome := by decide +kernel
  obtain ⟨run, reached⟩ := Option.isSome_iff_exists.mp registered
  have attempted : ((exec step (start (1 / 5) 0) [.registerProfile "dhan" orders [0, 0]]).bind fun run =>
      exec step run [.attempt "dhan" "orders" .PORTFOLIO_READ [0, 0, 0]]).isSome := by decide +kernel
  rw [reached] at attempted
  obtain ⟨after, taken⟩ := Option.isSome_iff_exists.mp attempted
  have plain : ∀ event ∈ [Event.attempt "dhan" "orders" .PORTFOLIO_READ [0, 0, 0]], ¬event.Registers ("dhan", "orders") := by
    intro event member
    rw [List.mem_singleton.mp member]
    exact not_false
  obtain ⟨since, granted, -, bound⟩ := (quota_laws (by norm_num) reached).2 _ _ after plain taken
  exact ⟨run, after, reached, taken, since, granted, bound 1⟩

/-- A single request a second, and one at once. -/
def single : RateLimitProfile where
  endpointClass := "quotes"
  sustainedRps := 1
  burstRps := some 1
  extraWindows := []
  sustained_nonneg := by norm_num
  burst_nonneg := by
    intro burst same
    rw [← Option.some.inj same]
    norm_num
  windows_positive := nofun

/-- A profile that is registered again comes with full buckets. -/
theorem renewed_profile_grants_again : ∃ run, exec step (start 0 0) [.registerProfile "dhan" single [0],
      .attempt "dhan" "quotes" .ENRICHMENT [0, 0], .registerProfile "dhan" single [0],
      .attempt "dhan" "quotes" .ENRICHMENT [0, 0]] = some run ∧
    ∃ bucket, (run.scheduler.chain ("dhan", "quotes"))[0]? = some bucket ∧
      ¬(grantsIn ("dhan", "quotes") 0 0 0 run.granted : ℚ) ≤ bucket.capacity + (0 - 0) * bucket.rate := by
  have grants : ((exec step (start 0 0) [.registerProfile "dhan" single [0],
      .attempt "dhan" "quotes" .ENRICHMENT [0, 0], .registerProfile "dhan" single [0],
      .attempt "dhan" "quotes" .ENRICHMENT [0, 0]]).map fun run =>
      (grantsIn ("dhan", "quotes") 0 0 0 run.granted, (run.scheduler.chain ("dhan", "quotes"))[0]?)) =
      some (2, some ⟨⟨1, 1, 0, 0⟩, 0⟩) := by decide +kernel
  obtain ⟨run, reached, same⟩ := Option.map_eq_some_iff.mp grants
  obtain ⟨counted, bucket⟩ := Prod.mk.inj same
  refine ⟨run, reached, _, bucket, ?_⟩
  rw [counted]
  norm_num

end QuotaRun

end TradeX.V1.Quota
