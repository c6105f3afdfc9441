import TradeX.V2.RateLimitRefusals

/-! The rates that the limiter keeps to: the grants of a rolling window in any interval of its length, the
tokens of a bucket over any interval, and the rate that a bucket comes back to. -/

namespace TradeX.V2

open Lib

namespace RollingWindowCounter

/-- What has been granted so far is spaced, and the log has what of it later looks count. -/
structure Recorded (counter : RollingWindowCounter) (grants : List (SlidingWindow.Grant ℚ)) (readings : List ℚ) :
    Prop where
  spaced : SlidingWindow.Spaced counter.max counter.window grants
  logged : ∀ r ∈ readings, SlidingWindow.Logged (r - counter.window) grants counter.timestamps
  stamped : ∀ grant ∈ grants, grant.looked ≤ grant.stamped
  inOrder : readings.Pairwise (· ≤ ·)

variable {counter after : RollingWindowCounter} {deadline timeout : Option ℚ} {timeouts : List (Option ℚ)}
  {readings rest : List ℚ} {looked stamped : ℚ} {granted : Option (SlidingWindow.Grant ℚ)}
  {grants more : List (SlidingWindow.Grant ℚ)}

theorem Recorded.later (recorded : counter.Recorded grants readings) (suffix : rest <:+ readings) :
    counter.Recorded grants rest where
  spaced := recorded.spaced
  logged r member := recorded.logged r (suffix.mem member)
  stamped := recorded.stamped
  inOrder := recorded.inOrder.sublist suffix.sublist

/-- After a look the log has what is counted from then on. -/
theorem Recorded.pruned_logged (recorded : counter.Recorded grants (looked :: readings)) {cutoff : ℚ}
    (behind : looked - counter.window ≤ cutoff) :
    SlidingWindow.Logged cutoff grants (counter.prune looked).timestamps := by
  intro c after
  rw [prune, SlidingWindow.filter_prune (behind.trans after)]
  exact recorded.logged looked List.mem_cons_self c (behind.trans after)

theorem Recorded.pruned (recorded : counter.Recorded grants (looked :: readings)) :
    (counter.prune looked).Recorded grants readings where
  spaced := recorded.spaced
  logged _ member := recorded.pruned_logged
    (sub_le_sub_right (List.rel_of_pairwise_cons recorded.inOrder member) counter.window)
  stamped := recorded.stamped
  inOrder := recorded.inOrder.of_cons

theorem Recorded.grant (recorded : counter.Recorded grants (looked :: stamped :: readings))
    (room : (counter.prune looked).timestamps.length < counter.max) :
    Recorded { counter.prune looked with timestamps := (counter.prune looked).timestamps ++ [stamped] }
      (grants ++ [⟨looked, stamped⟩]) readings where
  spaced := recorded.spaced.granted (recorded.pruned_logged le_rfl) room
  logged r member := by
    apply SlidingWindow.Logged.stamped
    exact recorded.pruned.later (List.suffix_cons stamped readings) |>.logged r member
  stamped grant member := by
    rcases List.mem_append.mp member with earlier | here
    · exact recorded.stamped grant earlier
    · rw [List.mem_singleton.mp here]
      exact List.rel_of_pairwise_cons recorded.inOrder List.mem_cons_self
  inOrder := recorded.inOrder.of_cons.of_cons

end RollingWindowCounter

namespace TokenBucketRateLimiter

/-- What is drawn in the interval. -/
def drawnIn (s t : ℚ) (draws : List Draw) : ℤ :=
  ((draws.filter fun draw => s ≤ draw.now ∧ draw.now ≤ t).map Draw.tokens).sum

inductive Call where
  | acquire (tokens : ℤ) (timeout : Option ℚ)
  | reduceRate (factor : ℚ)
  | triggerCooldown
  deriving DecidableEq, Repr

def call (bucket : TokenBucketRateLimiter) : Call → Clocked ℚ (TokenBucketRateLimiter × List Draw)
  | .acquire tokens timeout => do
    let (bucket, granted) ← bucket.acquire tokens timeout
    return (bucket, granted.toList)
  | .reduceRate factor => do
    let bucket ← bucket.reduceRate factor
    return (bucket, [])
  | .triggerCooldown => do
    let bucket ← bucket.triggerCooldown
    return (bucket, [])

/-- Calls one after the other, and what they draw in order. -/
def calls : TokenBucketRateLimiter → List Call → Clocked ℚ (TokenBucketRateLimiter × List Draw)
  | bucket, [] => return (bucket, [])
  | bucket, made :: later => do
    let (bucket, draws) ← bucket.call made
    let (bucket, more) ← calls bucket later
    return (bucket, draws ++ more)

/-- The rate to come back to is the configured one. -/
structure Remembers (configured : ℚ) (bucket : TokenBucketRateLimiter) : Prop where
  original : bucket.originalRate.getD bucket.rate = configured
  reduced : bucket.originalRate = none ↔ bucket.reducedAt = none

/-- The rate is not above the configured one. -/
def Within (configured : ℚ) (bucket : TokenBucketRateLimiter) : Prop := 0 ≤ bucket.rate ∧ bucket.rate ≤ configured

/-- The readings to come are in order, and none is before the last refill. -/
structure Ahead (bucket : TokenBucketRateLimiter) (readings : List ℚ) : Prop where
  inOrder : readings.Pairwise (· ≤ ·)
  refilled : ∀ r ∈ readings, bucket.lastRefill ≤ r

/-- The draws are those of legal uses of the meter. -/
def Moved (highest : ℚ) (before after : TokenBucketRateLimiter) (draws : List Draw) : Prop :=
  ∃ uses, before.toTokenMeter.Legal highest uses ∧ after.toTokenMeter = uses.foldl TokenMeter.use before.toTokenMeter ∧
    ∀ s t, TokenMeter.drawnIn s t uses = drawnIn s t draws

variable {bucket before between after : TokenBucketRateLimiter} {configured highest factor now : ℚ} {tokens : ℤ}
  {deadline timeout : Option ℚ} {readings rest : List ℚ} {draws more : List Draw} {granted : Option Draw}

theorem drawnIn_append {s t : ℚ} : drawnIn s t (draws ++ more) = drawnIn s t draws + drawnIn s t more := by
  rw [drawnIn, List.filter_append, List.map_append, List.sum_append]
  rfl

theorem Moved.of_same (same : after.toTokenMeter = before.toTokenMeter) : Moved highest before after [] :=
  ⟨[], trivial, same, fun _ _ => rfl⟩

theorem Moved.trans (first : Moved highest before between draws) (second : Moved highest between after more) :
    Moved highest before after (draws ++ more) := by
  obtain ⟨uses, legal, moved, drawn⟩ := first
  obtain ⟨others, onward, movedOn, drawnOn⟩ := second
  refine ⟨uses ++ others, legal.append (moved ▸ onward), ?_, fun s t => ?_⟩
  · rw [List.foldl_append, ← moved]
    exact movedOn
  · rw [TokenMeter.drawnIn_append, drawn, drawnOn, drawnIn_append, Int.cast_add]

theorem Ahead.later (ahead : bucket.Ahead readings) (suffix : rest <:+ readings) : bucket.Ahead rest where
  inOrder := ahead.inOrder.sublist suffix.sublist
  refilled r member := ahead.refilled r (suffix.mem member)

theorem Ahead.of_same (ahead : bucket.Ahead readings) (same : after.toTokenMeter = bucket.toTokenMeter) :
    after.Ahead readings where
  inOrder := ahead.inOrder
  refilled r member := by
    rw [same]
    exact ahead.refilled r member

/-- A refill is one use of the meter that draws nothing. -/
theorem Ahead.refill_moved (ahead : bucket.Ahead (now :: readings)) (within : bucket.Within highest) :
    Moved highest bucket (bucket.refill now) [] := by
  refine ⟨[⟨now, bucket.rate, none⟩], ⟨ahead.refilled now List.mem_cons_self, within, nofun, trivial⟩, rfl, ?_⟩
  intro s t
  by_cases inside : s ≤ now ∧ now ≤ t
  · rw [TokenMeter.drawnIn_cons_inside inside]
    exact add_zero _
  · rw [TokenMeter.drawnIn_cons_outside inside]
    rfl

theorem Ahead.draw_moved (ahead : bucket.Ahead (now :: readings)) (within : bucket.Within highest)
    (there : (tokens : ℚ) ≤ (bucket.refill now).tokens) (stamped : ℚ) :
    Moved highest bucket { bucket.refill now with
      tokens := (bucket.refill now).tokens - tokens, lastRequestTime := stamped } [⟨now, tokens⟩] := by
  refine ⟨[⟨now, bucket.rate, some tokens⟩], ⟨ahead.refilled now List.mem_cons_self, within, ?_, trivial⟩, rfl, ?_⟩
  · intro amount drawn
    obtain rfl := Option.some.inj drawn
    exact there
  · intro s t
    by_cases inside : s ≤ now ∧ now ≤ t
    · rw [TokenMeter.drawnIn_cons_inside inside, drawnIn, List.filter_cons_of_pos (by simpa using inside)]
      simp [TokenMeter.drawnIn]
    · rw [TokenMeter.drawnIn_cons_outside inside, drawnIn, List.filter_cons_of_neg (by simpa using inside)]
      simp [TokenMeter.drawnIn]

theorem Ahead.refill (ahead : bucket.Ahead (now :: readings)) : (bucket.refill now).Ahead readings where
  inOrder := ahead.inOrder.of_cons
  refilled r member := by
    have refilled := @TokenMeter.refill_lastRefill ℚ _ _ bucket.toTokenMeter bucket.rate now _
      (ahead.refilled now List.mem_cons_self)
    exact refilled.trans_le (List.rel_of_pairwise_cons ahead.inOrder member)

/-- What a call keeps of the rates. -/
structure SameRates (before after : TokenBucketRateLimiter) : Prop where
  config : after.config = before.config
  originalRate : after.originalRate = before.originalRate
  reducedAt : after.reducedAt = before.reducedAt

theorem await_sameRates (run : bucket.await tokens deadline readings = some ((after, granted), rest)) :
    SameRates bucket after := by
  fun_induction await tokens deadline bucket readings with
  | case1 | case2 | case5 => cases run
  | case3 deadline bucket now refilled there stamped readings drawn =>
    obtain ⟨ended, -⟩ := Prod.mk.inj (Option.some.inj run)
    obtain ⟨rfl, -⟩ := Prod.mk.inj ended
    exact ⟨rfl, rfl, rfl⟩
  | case4 bucket now readings refilled short ih =>
    have onward := ih run
    exact ⟨onward.config, onward.originalRate, onward.reducedAt⟩
  | case6 bucket now refilled short instant checked readings passed =>
    obtain ⟨ended, -⟩ := Prod.mk.inj (Option.some.inj run)
    obtain ⟨rfl, -⟩ := Prod.mk.inj ended
    exact ⟨rfl, rfl, rfl⟩
  | case7 bucket now refilled short instant checked readings waiting ih =>
    have onward := ih run
    exact ⟨onward.config, onward.originalRate, onward.reducedAt⟩

theorem await_moved (ahead : bucket.Ahead readings) (within : bucket.Within highest)
    (run : bucket.await tokens deadline readings = some ((after, granted), rest)) :
    Moved highest bucket after granted.toList ∧ after.Ahead rest := by
  fun_induction await tokens deadline bucket readings with
  | case1 | case2 | case5 => cases run
  | case3 deadline bucket now refilled there stamped readings drawn =>
    obtain ⟨ended, rfl⟩ := Prod.mk.inj (Option.some.inj run)
    obtain ⟨rfl, rfl⟩ := Prod.mk.inj ended
    have next := ahead.refill.later (List.suffix_cons stamped readings)
    exact ⟨ahead.draw_moved within there stamped, next.inOrder, next.refilled⟩
  | case4 bucket now readings refilled short ih =>
    obtain ⟨moved, next⟩ := ih ahead.refill within run
    exact ⟨(ahead.refill_moved within).trans moved, next⟩
  | case6 bucket now refilled short instant checked readings passed =>
    obtain ⟨ended, rfl⟩ := Prod.mk.inj (Option.some.inj run)
    obtain ⟨rfl, rfl⟩ := Prod.mk.inj ended
    exact ⟨ahead.refill_moved within, ahead.refill.later (List.suffix_cons checked readings)⟩
  | case7 bucket now refilled short instant checked readings waiting ih =>
    obtain ⟨moved, next⟩ := ih (ahead.refill.later (List.suffix_cons checked readings)) within run
    exact ⟨(ahead.refill_moved within).trans moved, next⟩

theorem SameRates.remembers (same : SameRates before after) (remembers : before.Remembers configured) :
    after.Remembers configured where
  original := by
    rw [same.originalRate, rate, same.config]
    exact remembers.original
  reduced := by
    rw [same.originalRate, same.reducedAt]
    exact remembers.reduced

theorem SameRates.within (same : SameRates before after) (within : before.Within configured) :
    after.Within configured := by
  rw [Within, rate, same.config]
  exact within

/-- A rate that is restored is the configured one. -/
theorem Remembers.restoreAt (remembers : bucket.Remembers configured) {reducedAt originalRate : ℚ}
    (original : bucket.originalRate = some originalRate) (now : ℚ) :
    (bucket.restoreAt reducedAt originalRate now).Remembers configured := by
  simp only [TokenBucketRateLimiter.restoreAt]
  split
  · refine ⟨?_, iff_of_true rfl rfl⟩
    have back := remembers.original
    rw [original] at back
    exact back
  · exact remembers

theorem Remembers.maybeRestoreRate (remembers : bucket.Remembers configured)
    (run : bucket.maybeRestoreRate readings = some (after, rest)) : after.Remembers configured := by
  rcases maybeRestoreRate_inv run with ⟨rfl, -⟩ | ⟨reducedAt, originalRate, now, reduced, original, -, rfl⟩
  · exact remembers
  · exact remembers.restoreAt original now

theorem maybeRestoreRate_meter (run : bucket.maybeRestoreRate readings = some (after, rest)) :
    after.toTokenMeter = bucket.toTokenMeter ∧ rest <:+ readings := by
  rcases maybeRestoreRate_inv run with ⟨rfl, rfl⟩ | ⟨reducedAt, originalRate, now, reduced, original, rfl, rfl⟩
  · exact ⟨rfl, List.suffix_rfl⟩
  · refine ⟨?_, List.suffix_cons now rest⟩
    simp only [restoreAt]
    split <;> rfl

theorem Remembers.within (remembers : bucket.Remembers configured) (back : bucket.originalRate = none) :
    bucket.rate = configured := by
  have original := remembers.original
  rw [back] at original
  exact original

theorem Remembers.maybeRestoreRate_within (remembers : bucket.Remembers configured)
    (within : bucket.Within configured) (run : bucket.maybeRestoreRate readings = some (after, rest)) :
    after.Within configured := by
  rcases maybeRestoreRate_inv run with ⟨rfl, -⟩ | ⟨reducedAt, originalRate, now, reduced, original, -, rfl⟩
  · exact within
  · have kept : (bucket.restoreAt reducedAt originalRate now).Remembers configured :=
      remembers.restoreAt original now
    simp only [TokenBucketRateLimiter.restoreAt] at kept ⊢
    split
    · next due =>
      rw [if_pos due] at kept
      exact ⟨(kept.within rfl).symm ▸ within.1.trans within.2, (kept.within rfl).le⟩
    · exact within

/-- A reduction keeps the rate to come back to. -/
theorem Remembers.setRate (remembers : bucket.Remembers configured) {value : ℚ}
    (run : bucket.setRate value readings = some (after, rest)) : after.Remembers configured := by
  obtain ⟨now, middle, first, run⟩ := Clocked.bind_inv run
  obtain ⟨rfl, -⟩ := Clocked.pure_inv run
  exact ⟨remembers.original, iff_of_false (Option.some_ne_none _) (Option.some_ne_none _)⟩

theorem setRate_inv {value : ℚ} (run : bucket.setRate value readings = some (after, rest)) :
    after.rate = value ∧ after.toTokenMeter = bucket.toTokenMeter ∧ rest <:+ readings := by
  obtain ⟨now, middle, first, run⟩ := Clocked.bind_inv run
  obtain ⟨rfl, rfl⟩ := Clocked.pure_inv run
  rw [Clocked.reading_inv first]
  exact ⟨rfl, rfl, List.suffix_cons now _⟩

theorem triggerCooldown_inv (run : bucket.triggerCooldown readings = some (after, rest)) :
    ∃ (cooling : TokenBucketRateLimiter) (now : ℚ) (middle : List ℚ), readings = now :: middle ∧
      cooling = { bucket with cooldownUntil := now + bucket.cooldownOn429 } ∧
      cooling.reduceRate (1 / 2) middle = some (after, rest) := by
  obtain ⟨now, middle, first, run⟩ := Clocked.bind_inv run
  exact ⟨_, now, middle, Clocked.reading_inv first, rfl, run⟩

theorem Remembers.acquire (remembers : bucket.Remembers configured)
    (run : bucket.acquire tokens timeout readings = some ((after, granted), rest)) : after.Remembers configured := by
  obtain ⟨restored, middle, later, first, -, ⟨rfl, -, -⟩ | ⟨deadline, run⟩⟩ := acquire_inv run
  · exact remembers.maybeRestoreRate first
  · exact (await_sameRates run).remembers (remembers.maybeRestoreRate first)

theorem Remembers.call (remembers : bucket.Remembers configured) {made : Call}
    (run : bucket.call made readings = some ((after, draws), rest)) : after.Remembers configured := by
  cases made with
  | acquire tokens timeout =>
    obtain ⟨⟨next, granted⟩, middle, first, run⟩ := Clocked.bind_inv run
    obtain ⟨ended, -⟩ := Clocked.pure_inv run
    obtain ⟨rfl, -⟩ := Prod.mk.inj ended
    exact remembers.acquire first
  | reduceRate factor =>
    obtain ⟨next, middle, first, run⟩ := Clocked.bind_inv run
    obtain ⟨ended, -⟩ := Clocked.pure_inv run
    obtain ⟨rfl, -⟩ := Prod.mk.inj ended
    exact remembers.setRate first
  | triggerCooldown =>
    obtain ⟨next, middle, first, run⟩ := Clocked.bind_inv run
    obtain ⟨ended, -⟩ := Clocked.pure_inv run
    obtain ⟨rfl, -⟩ := Prod.mk.inj ended
    obtain ⟨cooling, now, later, -, rfl, reduced⟩ := triggerCooldown_inv first
    have same : Remembers configured { bucket with cooldownUntil := now + bucket.cooldownOn429 } :=
      ⟨remembers.original, remembers.reduced⟩
    exact same.setRate reduced

theorem Remembers.calls {made : List Call} (remembers : bucket.Remembers configured)
    (run : bucket.calls made readings = some ((after, draws), rest)) : after.Remembers configured := by
  induction made generalizing bucket readings draws with
  | nil =>
    obtain ⟨ended, -⟩ := Clocked.pure_inv run
    obtain ⟨rfl, -⟩ := Prod.mk.inj ended
    exact remembers
  | cons first made ih =>
    obtain ⟨⟨next, drawn⟩, middle, called, run⟩ := Clocked.bind_inv run
    obtain ⟨⟨last, others⟩, ending, onward, run⟩ := Clocked.bind_inv run
    obtain ⟨ended, rfl⟩ := Clocked.pure_inv run
    obtain ⟨rfl, -⟩ := Prod.mk.inj ended
    exact ih (remembers.call called) onward

/-- A call whose factor, if it has one, is between nought and one. -/
def Call.Reduces : Call → Prop
  | .reduceRate factor => 0 ≤ factor ∧ factor ≤ 1
  | _ => True

instance : DecidablePred Call.Reduces
  | .acquire .. => isTrue trivial
  | .reduceRate factor => inferInstanceAs (Decidable (0 ≤ factor ∧ factor ≤ 1))
  | .triggerCooldown => isTrue trivial

/-- What a run keeps while it draws within the configured rate. -/
structure Kept (configured : ℚ) (bucket : TokenBucketRateLimiter) (readings : List ℚ) : Prop where
  remembers : bucket.Remembers configured
  within : bucket.Within configured
  ahead : bucket.Ahead readings

theorem Kept.acquire (kept : Kept configured bucket readings)
    (run : bucket.acquire tokens timeout readings = some ((after, granted), rest)) :
    Moved configured bucket after granted.toList ∧ Kept configured after rest := by
  have remembers := kept.remembers.acquire run
  obtain ⟨restored, middle, later, first, suffix, ends⟩ := acquire_inv run
  obtain ⟨same, dropped⟩ := maybeRestoreRate_meter first
  have within := kept.remembers.maybeRestoreRate_within kept.within first
  have ahead : restored.Ahead later := (kept.ahead.of_same same).later (suffix.trans dropped)
  rcases ends with ⟨rfl, rfl, rfl⟩ | ⟨deadline, run⟩
  · exact ⟨.of_same same, remembers, within, ahead⟩
  · obtain ⟨moved, next⟩ := await_moved ahead within run
    exact ⟨(Moved.of_same same).trans moved, remembers, (await_sameRates run).within within, next⟩

/-- A reduction keeps the rate within the configured one. -/
theorem Within.scaled (within : bucket.Within configured) {factor : ℚ} (reduces : 0 ≤ factor ∧ factor ≤ 1) :
    0 ≤ bucket.rate * factor ∧ bucket.rate * factor ≤ configured :=
  ⟨mul_nonneg within.1 reduces.1, (mul_le_of_le_one_right within.1 reduces.2).trans within.2⟩

theorem Kept.reduceRate (kept : Kept configured bucket readings) {factor : ℚ} (reduces : 0 ≤ factor ∧ factor ≤ 1)
    (run : bucket.reduceRate factor readings = some (after, rest)) :
    Moved configured bucket after [] ∧ Kept configured after rest := by
  obtain ⟨value, same, suffix⟩ := setRate_inv run
  refine ⟨.of_same same, kept.remembers.setRate run, ?_, (kept.ahead.of_same same).later suffix⟩
  rw [Within, value]
  exact kept.within.scaled reduces

theorem Kept.call (kept : Kept configured bucket readings) {made : Call} (reduces : made.Reduces)
    (run : bucket.call made readings = some ((after, draws), rest)) :
    Moved configured bucket after draws ∧ Kept configured after rest := by
  cases made with
  | acquire tokens timeout =>
    obtain ⟨⟨next, granted⟩, middle, first, run⟩ := Clocked.bind_inv run
    obtain ⟨ended, rfl⟩ := Clocked.pure_inv run
    obtain ⟨rfl, rfl⟩ := Prod.mk.inj ended
    exact kept.acquire first
  | reduceRate factor =>
    obtain ⟨next, middle, first, run⟩ := Clocked.bind_inv run
    obtain ⟨ended, rfl⟩ := Clocked.pure_inv run
    obtain ⟨rfl, rfl⟩ := Prod.mk.inj ended
    exact kept.reduceRate reduces first
  | triggerCooldown =>
    obtain ⟨next, middle, first, run⟩ := Clocked.bind_inv run
    obtain ⟨ended, rfl⟩ := Clocked.pure_inv run
    obtain ⟨rfl, rfl⟩ := Prod.mk.inj ended
    obtain ⟨cooling, now, later, rfl, rfl, reduced⟩ := triggerCooldown_inv first
    have ahead := kept.ahead.later (List.suffix_cons now later)
    have cooled : Kept configured { bucket with cooldownUntil := now + bucket.cooldownOn429 } later :=
      ⟨⟨kept.remembers.original, kept.remembers.reduced⟩, kept.within, ahead.inOrder, ahead.refilled⟩
    exact cooled.reduceRate ⟨by norm_num, by norm_num⟩ reduced

theorem Kept.calls {made : List Call} (kept : Kept configured bucket readings)
    (reduces : ∀ call ∈ made, call.Reduces) (run : bucket.calls made readings = some ((after, draws), rest)) :
    Moved configured bucket after draws := by
  induction made generalizing bucket readings draws with
  | nil =>
    obtain ⟨ended, -⟩ := Clocked.pure_inv run
    obtain ⟨rfl, rfl⟩ := Prod.mk.inj ended
    exact .of_same rfl
  | cons first made ih =>
    obtain ⟨⟨next, drawn⟩, middle, called, run⟩ := Clocked.bind_inv run
    obtain ⟨⟨last, others⟩, ending, onward, run⟩ := Clocked.bind_inv run
    obtain ⟨ended, rfl⟩ := Clocked.pure_inv run
    obtain ⟨rfl, rfl⟩ := Prod.mk.inj ended
    obtain ⟨moved, keptNext⟩ := kept.call (reduces first List.mem_cons_self) called
    exact moved.trans (ih keptNext (fun call member => reduces call (List.mem_cons_of_mem _ member)) onward)

variable {config : BucketConfig} {restoreCooldown minInterval cooldownOn429 : ℚ} {made : List Call}

end TokenBucketRateLimiter

end TradeX.V2
