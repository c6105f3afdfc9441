import TradeX.V2.RateLimit

/-! What a refused call leaves of the rate limiter. The windows and the bucket of a category are asked in
turn, and what one of them has granted stays when a later one refuses. -/

namespace TradeX.V2

open Lib

theorem deadlineOf_inv {timeout : Option ℚ} {readings rest : List ℚ} {deadline : Option ℚ}
    (run : deadlineOf timeout readings = some (deadline, rest)) :
    (timeout = none ∧ deadline = none ∧ readings = rest) ∨
      ∃ length now, timeout = some length ∧ deadline = some (now + length) ∧ readings = now :: rest := by
  cases timeout with
  | none =>
    obtain ⟨rfl, rfl⟩ := Clocked.pure_inv run
    exact .inl ⟨rfl, rfl, rfl⟩
  | some length =>
    obtain ⟨now, middle, first, second⟩ := Clocked.bind_inv run
    obtain ⟨rfl, rfl⟩ := Clocked.pure_inv second
    exact .inr ⟨length, now, rfl, rfl, Clocked.reading_inv first⟩

theorem deadlineOf_suffix {timeout : Option ℚ} {readings rest : List ℚ} {deadline : Option ℚ}
    (run : deadlineOf timeout readings = some (deadline, rest)) : rest <:+ readings := by
  rcases deadlineOf_inv run with ⟨-, -, rfl⟩ | ⟨length, now, -, -, rfl⟩
  · exact List.suffix_rfl
  · exact List.suffix_cons now rest

namespace RollingWindowCounter

/-- The passage of time alone: stamps that are too old are dropped. -/
inductive Passes (before : RollingWindowCounter) : RollingWindowCounter → Prop where
  | refl : Passes before before
  | pruned {counter} (now : ℚ) : Passes before counter → Passes before (counter.prune now)

/-- The readings at which the loop looks for room, as long as there is none. -/
def looks : Option ℚ → List ℚ → List ℚ
  | some instant, looked :: checked :: readings =>
    looked :: if checked ≥ instant then [] else looks (some instant) readings
  | _, readings => readings

/-- The readings at which `acquire` looks for room, as long as there is none. -/
def looksWithin : Option ℚ → List ℚ → List ℚ
  | none, readings => readings
  | some timeout, now :: readings => looks (some (now + timeout)) readings
  | some _, [] => []

/-- There is no room at any of the looks of a call. -/
def Full (counter : RollingWindowCounter) (timeout : Option ℚ) (readings : List ℚ) : Prop :=
  ∀ looked ∈ looksWithin timeout readings, counter.max ≤ (counter.prune looked).timestamps.length

instance (counter : RollingWindowCounter) (timeout : Option ℚ) (readings : List ℚ) :
    Decidable (counter.Full timeout readings) :=
  inferInstanceAs (Decidable (∀ _ ∈ _, _))

variable {base counter before after : RollingWindowCounter} {deadline timeout : Option ℚ} {readings rest : List ℚ}
  {granted : Option (SlidingWindow.Grant ℚ)} {grant : SlidingWindow.Grant ℚ} {now later : ℚ}

theorem prune_prune (inOrder : now ≤ later) : (counter.prune now).prune later = counter.prune later := by
  simp only [prune]
  rw [SlidingWindow.prune_prune (sub_le_sub_right inOrder _)]

theorem Passes.suffix (passes : Passes before after) : after.timestamps <:+ before.timestamps := by
  induction passes with
  | refl => exact List.suffix_rfl
  | pruned now passes ih => exact SlidingWindow.prune_suffix.trans ih

/-- The counter after a grant: a stamp behind those that are left at the look. -/
def granting (base : RollingWindowCounter) (grant : SlidingWindow.Grant ℚ) : RollingWindowCounter :=
  { base.prune grant.looked with timestamps := (base.prune grant.looked).timestamps ++ [grant.stamped] }

/-- No passage of time makes a grant. -/
theorem not_passes_granting (length : 0 ≤ base.window) (inOrder : grant.looked ≤ grant.stamped) :
    ¬ Passes base (base.granting grant) := by
  intro passes
  have fresh : grant.looked - base.window ≤ grant.stamped := (sub_le_self _ length).trans inOrder
  exact SlidingWindow.not_suffix_of_stamped fresh passes.suffix

theorem looks_none : looks none readings = readings := by
  cases readings <;> rfl

/-- How the loop ends, for a counter that differs from another in stamps that the next look drops. -/
inductive Ended (base : RollingWindowCounter) (looks : List ℚ) :
    RollingWindowCounter → Option (SlidingWindow.Grant ℚ) → Prop where
  | refused (looked : ℚ) : (∀ look ∈ looks, base.max ≤ (base.prune look).timestamps.length) →
      Ended base looks (base.prune looked) none
  | granted (grant : SlidingWindow.Grant ℚ) : grant.looked ≤ grant.stamped →
      (∃ look ∈ looks, (base.prune look).timestamps.length < base.max) →
      Ended base looks (base.granting grant) (some grant)

theorem Ended.cons {looks : List ℚ} (ended : Ended base looks after granted)
    (full : base.max ≤ (base.prune now).timestamps.length) : Ended base (now :: looks) after granted := by
  cases ended with
  | refused looked all => exact .refused looked (List.forall_mem_cons.mpr ⟨full, all⟩)
  | granted grant inOrder room =>
    obtain ⟨look, member, free⟩ := room
    exact .granted grant inOrder ⟨look, List.mem_cons_of_mem _ member, free⟩

/-- A look without room is followed by looks at the same stamps. -/
theorem ahead_prune {looked : ℚ} (inOrder : (looked :: readings).Pairwise (· ≤ ·))
    (ahead : ∀ r ∈ looked :: readings, counter.prune r = base.prune r) :
    ∀ r ∈ readings, (counter.prune looked).prune r = base.prune r := by
  intro r member
  rw [prune_prune (List.rel_of_pairwise_cons inOrder member)]
  exact ahead r (List.mem_cons_of_mem _ member)

theorem await_ended (inOrder : readings.Pairwise (· ≤ ·)) (ahead : ∀ r ∈ readings, counter.prune r = base.prune r)
    (run : counter.await deadline readings = some ((after, granted), rest)) :
    Ended base (looks deadline readings) after granted := by
  fun_induction await deadline counter readings with
  | case1 | case2 | case5 => cases run
  | case3 deadline counter looked pruned room stamped readings =>
    have same : pruned = base.prune looked := ahead looked List.mem_cons_self
    obtain ⟨ended, -⟩ := Prod.mk.inj (Option.some.inj run)
    obtain ⟨rfl, rfl⟩ := Prod.mk.inj ended
    rw [same] at room ⊢
    refine .granted ⟨looked, stamped⟩ (List.rel_of_pairwise_cons inOrder List.mem_cons_self) ⟨looked, ?_, room⟩
    cases deadline <;> exact List.mem_cons_self
  | case4 counter looked readings pruned full ih =>
    have same : pruned = base.prune looked := ahead looked List.mem_cons_self
    have onward := ih inOrder.of_cons (ahead_prune inOrder ahead) run
    rw [same, not_lt] at full
    rw [looks_none] at onward ⊢
    exact onward.cons full
  | case6 counter looked pruned full instant checked readings passed =>
    have same : pruned = base.prune looked := ahead looked List.mem_cons_self
    obtain ⟨ended, -⟩ := Prod.mk.inj (Option.some.inj run)
    obtain ⟨rfl, rfl⟩ := Prod.mk.inj ended
    rw [same, not_lt] at full
    rw [same, looks, if_pos passed]
    exact .refused looked (List.forall_mem_singleton.mpr full)
  | case7 counter looked pruned full instant checked readings waiting ih =>
    have same : pruned = base.prune looked := ahead looked List.mem_cons_self
    have next := ahead_prune inOrder ahead
    have onward := ih inOrder.of_cons.of_cons (fun r member => next r (List.mem_cons_of_mem _ member)) run
    rw [same, not_lt] at full
    rw [looks, if_neg waiting]
    exact onward.cons full

theorem acquire_ended (inOrder : readings.Pairwise (· ≤ ·))
    (run : base.acquire timeout readings = some ((after, granted), rest)) :
    Ended base (looksWithin timeout readings) after granted := by
  obtain ⟨deadline, middle, first, second⟩ := Clocked.bind_inv run
  rcases deadlineOf_inv first with ⟨rfl, rfl, rfl⟩ | ⟨length, now, rfl, rfl, rfl⟩
  · rw [show looksWithin none readings = looks none readings from looks_none.symm]
    exact await_ended inOrder (fun _ _ => rfl) second
  · exact await_ended inOrder.of_cons (fun _ _ => rfl) second

/-- A call is refused exactly where there is no room at any of its looks. -/
theorem Ended.full_iff (ended : Ended base (looksWithin timeout readings) after granted) :
    base.Full timeout readings ↔ granted = none := by
  cases ended with
  | refused looked full => exact iff_of_true full rfl
  | granted grant inOrder room =>
    obtain ⟨look, member, free⟩ := room
    refine iff_of_false (fun full => ?_) (Option.some_ne_none grant)
    exact absurd (full look member) (not_le.mpr free)

/-- A call leaves a window untouched exactly where it is refused. -/
theorem Ended.passes_iff {looks : List ℚ} (ended : Ended base looks after granted) (length : 0 ≤ base.window) :
    Passes base after ↔ granted = none := by
  cases ended with
  | refused looked full => exact iff_of_true (.pruned looked .refl) rfl
  | granted grant inOrder room =>
    exact iff_of_false (not_passes_granting length inOrder) (Option.some_ne_none grant)

end RollingWindowCounter

namespace TokenBucketRateLimiter

/-- The passage of time alone: the rate is restored, and tokens are refilled. -/
inductive Passes (before : TokenBucketRateLimiter) : TokenBucketRateLimiter → Prop where
  | refl : Passes before before
  | restored {bucket reducedAt originalRate} (now : ℚ) : Passes before bucket → bucket.reducedAt = some reducedAt →
      bucket.originalRate = some originalRate → Passes before (bucket.restoreAt reducedAt originalRate now)
  | refilled {bucket} (now : ℚ) : Passes before bucket → Passes before (bucket.refill now)

variable {bucket before after : TokenBucketRateLimiter} {tokens : ℤ} {deadline timeout : Option ℚ}
  {readings rest : List ℚ} {granted : Option Draw}

theorem await_refused (passes : Passes before bucket)
    (run : bucket.await tokens deadline readings = some ((after, none), rest)) : Passes before after := by
  fun_induction await tokens deadline bucket readings with
  | case1 | case2 | case5 => cases run
  | case3 deadline bucket now refilled there stamped readings drawn =>
    obtain ⟨ended, -⟩ := Prod.mk.inj (Option.some.inj run)
    cases (Prod.mk.inj ended).2
  | case4 bucket now readings refilled short ih => exact ih (passes.refilled now) run
  | case6 bucket now refilled short instant checked readings passed =>
    obtain ⟨ended, -⟩ := Prod.mk.inj (Option.some.inj run)
    obtain ⟨rfl, -⟩ := Prod.mk.inj ended
    exact passes.refilled now
  | case7 bucket now refilled short instant checked readings waiting ih => exact ih (passes.refilled now) run

/-- What `_maybe_restore_rate` does: nothing, or it looks whether the reduction is over. -/
theorem maybeRestoreRate_inv (run : bucket.maybeRestoreRate readings = some (after, rest)) :
    after = bucket ∧ rest = readings ∨ ∃ reducedAt originalRate now, bucket.reducedAt = some reducedAt ∧
      bucket.originalRate = some originalRate ∧ readings = now :: rest ∧
      after = bucket.restoreAt reducedAt originalRate now := by
  cases reduced : bucket.reducedAt with
  | none =>
    simp only [maybeRestoreRate, reduced] at run
    exact .inl (Clocked.pure_inv run)
  | some reducedAt =>
    cases original : bucket.originalRate with
    | none =>
      simp only [maybeRestoreRate, reduced, original] at run
      exact .inl (Clocked.pure_inv run)
    | some originalRate =>
      simp only [maybeRestoreRate, reduced, original] at run
      obtain ⟨now, middle, first, second⟩ := Clocked.bind_inv run
      obtain ⟨rfl, rfl⟩ := Clocked.pure_inv second
      exact .inr ⟨reducedAt, originalRate, now, rfl, rfl, Clocked.reading_inv first, rfl⟩

theorem maybeRestoreRate_passes (run : bucket.maybeRestoreRate readings = some (after, rest)) :
    Passes bucket after := by
  rcases maybeRestoreRate_inv run with ⟨rfl, -⟩ | ⟨reducedAt, originalRate, now, reduced, original, -, rfl⟩
  · exact .refl
  · exact .restored now .refl reduced original

theorem checkCooldown_suffix {done : PUnit} (run : bucket.checkCooldown readings = some (done, rest)) :
    rest <:+ readings := by
  refine (Clocked.forward_reading.bind fun now => ?_) readings done rest run
  split
  · exact Clocked.forward_pure _
  · exact Clocked.forward_pure _

theorem checkMinInterval_suffix {done : PUnit} (run : bucket.checkMinInterval readings = some (done, rest)) :
    rest <:+ readings := by
  simp only [checkMinInterval] at run
  split at run
  · exact Clocked.forward_pure _ readings done rest run
  · refine (Clocked.forward_reading.bind fun now => ?_) readings done rest run
    split
    · exact Clocked.forward_pure _
    · exact Clocked.forward_pure _

/-- A call restores the rate if it is due, and then refuses more than the capacity or waits. -/
theorem acquire_inv (run : bucket.acquire tokens timeout readings = some ((after, granted), rest)) :
    ∃ restored middle later, bucket.maybeRestoreRate readings = some (restored, middle) ∧ later <:+ middle ∧
      ((after = restored ∧ granted = none ∧ rest = later) ∨
        ∃ deadline, restored.await tokens deadline later = some ((after, granted), rest)) := by
  obtain ⟨restored, middle, first, run⟩ := Clocked.bind_inv run
  obtain ⟨slept, cool, cooled, run⟩ := Clocked.bind_inv run
  obtain ⟨waited, apart, spaced, run⟩ := Clocked.bind_inv run
  have suffix := (checkMinInterval_suffix spaced).trans (checkCooldown_suffix cooled)
  split at run
  · obtain ⟨ended, rfl⟩ := Clocked.pure_inv run
    obtain ⟨rfl, rfl⟩ := Prod.mk.inj ended
    exact ⟨_, middle, _, first, suffix, .inl ⟨rfl, rfl, rfl⟩⟩
  · obtain ⟨deadline, later, awaited, run⟩ := Clocked.bind_inv run
    exact ⟨restored, middle, later, first, (deadlineOf_suffix awaited).trans suffix, .inr ⟨deadline, run⟩⟩

/-- A refused call leaves the bucket untouched. -/
theorem acquire_refused (run : bucket.acquire tokens timeout readings = some ((after, none), rest)) :
    Passes bucket after := by
  obtain ⟨restored, middle, later, first, -, ⟨rfl, -, -⟩ | ⟨deadline, run⟩⟩ := acquire_inv run
  · exact maybeRestoreRate_passes first
  · exact await_refused (maybeRestoreRate_passes first) run

end TokenBucketRateLimiter

namespace MultiBucketRateLimiter

/-- Every window and every bucket is as the passage of time alone leaves it. -/
structure Untouched (before after : MultiBucketRateLimiter) : Prop where
  windows : ∀ category, Option.Rel (List.Forall₂ RollingWindowCounter.Passes) (before.rolling.get category)
    (after.rolling.get category)
  buckets : ∀ category, Option.Rel TokenBucketRateLimiter.Passes (before.buckets.get category)
    (after.buckets.get category)

/-- The windows of a category, in the order in which they are asked. -/
def windows (limiter : MultiBucketRateLimiter) (category : String) : List RollingWindowCounter :=
  (limiter.rolling.get category).getD []

/-- The first window of the category, if it has any, has no room at any look of the call. -/
def FirstFull (limiter : MultiBucketRateLimiter) (category : String) (timeout : Option ℚ) (readings : List ℚ) : Prop :=
  ∀ counter ∈ (limiter.windows category).head?, counter.Full timeout readings

variable {limiter after : MultiBucketRateLimiter} {category : String} {tokens : ℤ} {timeout : Option ℚ}
  {readings rest : List ℚ} {counter : RollingWindowCounter} {counters counters' : List RollingWindowCounter}
  {passed : Bool}

theorem untouched_refl : Untouched limiter limiter where
  windows category := by
    cases limiter.rolling.get category with
    | none => exact .none
    | some counters => exact .some (List.forall₂_same.mpr fun _ _ => .refl)
  buckets category := by
    cases limiter.buckets.get category with
    | none => exact .none
    | some bucket => exact .some .refl

/-- What asking the windows comes to: the first one refuses, or grants whatever the others say. -/
theorem acquireWindows_cons_inv
    (run : acquireWindows timeout (counter :: counters) readings = some ((counters', passed), rest)) :
    ∃ first granted middle, counter.acquire timeout readings = some ((first, granted), middle) ∧
      (granted = none ∧ counters' = first :: counters ∧ passed = false ∨
        granted ≠ none ∧ ∃ others, counters' = first :: others) := by
  obtain ⟨⟨first, granted⟩, middle, asked, run⟩ := Clocked.bind_inv run
  refine ⟨first, granted, middle, asked, ?_⟩
  cases granted with
  | none =>
    obtain ⟨ended, -⟩ := Clocked.pure_inv run
    obtain ⟨rfl, rfl⟩ := Prod.mk.inj ended
    exact .inl ⟨rfl, rfl, rfl⟩
  | some grant =>
    obtain ⟨⟨others, all⟩, last, -, run⟩ := Clocked.bind_inv run
    obtain ⟨ended, -⟩ := Clocked.pure_inv run
    obtain ⟨rfl, rfl⟩ := Prod.mk.inj ended
    exact .inr ⟨Option.some_ne_none grant, others, rfl⟩

theorem resolve_get {name : String} {bucket : TokenBucketRateLimiter}
    (resolved : limiter.resolve category = .ok (name, bucket)) : limiter.buckets.get name = some bucket := by
  simp only [resolve] at resolved
  split at resolved
  · next bucket found =>
    obtain ⟨rfl, rfl⟩ := Prod.mk.inj (Except.ok.inj resolved)
    exact found
  · split at resolved
    · next fallback found =>
      obtain ⟨rfl, rfl⟩ := Prod.mk.inj (Except.ok.inj resolved)
      exact found
    · split at resolved
      · next first others entries =>
        obtain rfl := Except.ok.inj resolved
        apply Dict.get_eq_some.mpr
        rw [entries]
        exact List.mem_cons_self
      · cases resolved

/-- A bucket that refuses is untouched, and so is everything else; the windows are not asked again. -/
theorem acquireBucket_inv {answer : Except String Bool}
    (run : limiter.acquireBucket category tokens timeout readings = some ((after, answer), rest)) :
    after.rolling = limiter.rolling ∧ (answer = .ok false → Untouched limiter after) := by
  simp only [acquireBucket] at run
  cases resolved : limiter.resolve category with
  | error failure =>
    rw [resolved] at run
    obtain ⟨ended, -⟩ := Clocked.pure_inv run
    obtain ⟨rfl, rfl⟩ := Prod.mk.inj ended
    exact ⟨rfl, fun _ => untouched_refl⟩
  | ok found =>
    obtain ⟨name, bucket⟩ := found
    rw [resolved] at run
    obtain ⟨⟨drawn, granted⟩, middle, asked, run⟩ := Clocked.bind_inv run
    obtain ⟨ended, -⟩ := Clocked.pure_inv run
    obtain ⟨rfl, rfl⟩ := Prod.mk.inj ended
    refine ⟨rfl, fun refused => ⟨untouched_refl.windows, fun other => ?_⟩⟩
    rw [Dict.get_set]
    split
    · next same =>
      rw [same, resolve_get resolved]
      cases granted with
      | none => exact .some (TokenBucketRateLimiter.acquire_refused asked)
      | some draw => cases Except.ok.inj refused
    · exact untouched_refl.buckets other

theorem untouched_set (found : limiter.rolling.get category = some counters)
    (windows : List.Forall₂ RollingWindowCounter.Passes counters counters') :
    limiter.Untouched { limiter with rolling := limiter.rolling.set category counters' } where
  windows other := by
    rw [Dict.get_set]
    split
    · next same =>
      rw [same, found]
      exact .some windows
    · exact untouched_refl.windows other
  buckets other := untouched_refl.buckets other

theorem set_same (found : limiter.rolling.get category = some counters) :
    ({ limiter with rolling := limiter.rolling.set category counters } : MultiBucketRateLimiter).Untouched after ↔
      limiter.Untouched after := by
  have same : ∀ other, (limiter.rolling.set category counters).get other = limiter.rolling.get other := by
    intro other
    rw [Dict.get_set]
    split
    · next here => rw [here, found]
    · rfl
  constructor
  · intro untouched
    refine ⟨fun other => ?_, untouched.buckets⟩
    rw [← same other]
    exact untouched.windows other
  · intro untouched
    refine ⟨fun other => ?_, untouched.buckets⟩
    rw [same other]
    exact untouched.windows other

/-- A refused call leaves every window and every bucket untouched exactly where the first window of the
category, if it has any, has no room at any look of the call. -/
theorem refused_untouched_iff (inOrder : readings.Pairwise (· ≤ ·))
    (lengths : ∀ counter ∈ limiter.windows category, 0 ≤ counter.window)
    (refused : limiter.acquire category tokens timeout readings = some ((after, .ok false), rest)) :
    limiter.Untouched after ↔ limiter.FirstFull category timeout readings := by
  simp only [acquire] at refused
  simp only [windows] at lengths
  simp only [FirstFull, windows]
  cases found : limiter.rolling.get category with
  | none =>
    rw [found] at refused
    exact iff_of_true ((acquireBucket_inv refused).2 rfl) nofun
  | some counters =>
    rw [found] at refused lengths
    obtain ⟨⟨looked, passed⟩, middle, asked, refused⟩ := Clocked.bind_inv refused
    cases counters with
    | nil =>
      obtain ⟨ended, -⟩ := Clocked.pure_inv asked
      obtain ⟨rfl, rfl⟩ := Prod.mk.inj ended
      exact iff_of_true ((set_same found).mp ((acquireBucket_inv refused).2 rfl)) nofun
    | cons counter counters =>
      obtain ⟨first, granted, later, asked, ends⟩ := acquireWindows_cons_inv asked
      have ended := RollingWindowCounter.acquire_ended inOrder asked
      have full := ended.full_iff
      have passes := ended.passes_iff (lengths counter List.mem_cons_self)
      have condition : (∀ asked ∈ ((some (counter :: counters)).getD []).head?, asked.Full timeout readings) ↔
          granted = none := by
        rw [← full]
        exact ⟨fun all => all counter rfl, fun here asked same => Option.some.inj same ▸ here⟩
      rw [condition]
      rcases ends with ⟨none_granted, rfl, rfl⟩ | ⟨some_granted, others, rfl⟩
      · obtain ⟨ended, -⟩ := Clocked.pure_inv refused
        obtain ⟨rfl, -⟩ := Prod.mk.inj ended
        refine iff_of_true (untouched_set found ?_) none_granted
        exact .cons (passes.mpr none_granted) (List.forall₂_same.mpr fun _ _ => .refl)
      · refine iff_of_false (fun untouched => ?_) some_granted
        have rolled : after.rolling = limiter.rolling.set category (first :: others) := by
          cases passed with
          | true => exact (acquireBucket_inv refused).1
          | false =>
            obtain ⟨ended, -⟩ := Clocked.pure_inv refused
            exact congrArg rolling (Prod.mk.inj ended).1
        have there := untouched.windows category
        rw [rolled, found, Dict.get_set_self] at there
        cases there with
        | some windows =>
          cases windows with
          | cons here others => exact some_granted (passes.mp here)

/-- A limiter for orders of one token a tenth of a second and 250 calls a minute, after one call. -/
def ordersAfterOne (stamps : List ℚ) (refilled tokens : ℚ) : MultiBucketRateLimiter where
  buckets := Dict.set ∅ "orders" {
    capacity := 1
    tokens := tokens
    lastRefill := refilled
    config := { ratePerSecond := 10, capacity := 1 } }
  rolling := Dict.set ∅ "orders" [{ max := 250, window := 60, timestamps := stamps }]

theorem second_call_refused : (ordersAfterOne [0] 0 0).acquire "orders" 1 (some 0) (List.replicate 7 (1 / 100)) =
    some ((ordersAfterOne [0, 1 / 100] (1 / 100) (1 / 10), .ok false), []) := by
  decide +kernel

/-- The window has counted a call that the bucket refused. -/
theorem refused_call_counted : ¬ ∀ (limiter after : MultiBucketRateLimiter) (category : String) (tokens : ℤ)
    (timeout : Option ℚ) (readings rest : List ℚ), readings.Pairwise (· ≤ ·) →
      limiter.acquire category tokens timeout readings = some ((after, .ok false), rest) →
      limiter.Untouched after := by
  intro claim
  have untouched := claim _ _ _ _ _ _ _ (List.pairwise_replicate.mpr (.inr le_rfl)) second_call_refused
  have windows := untouched.windows "orders"
  rw [ordersAfterOne, ordersAfterOne, Dict.get_set_self, Dict.get_set_self] at windows
  cases windows with
  | some counters =>
    cases counters with
    | cons counter others =>
      have shorter := counter.suffix.length_le
      simp only [List.length_cons, List.length_nil] at shorter
      omega

theorem second_call_untouched_iff :
    (ordersAfterOne [0] 0 0).Untouched (ordersAfterOne [0, 1 / 100] (1 / 100) (1 / 10)) ↔
    (ordersAfterOne [0] 0 0).FirstFull "orders" (some 0) (List.replicate 7 (1 / 100)) :=
  refused_untouched_iff (List.pairwise_replicate.mpr (.inr le_rfl)) (by decide +kernel) second_call_refused

/-- A window without room refuses before anything is counted. -/
example : ((ordersAfterOne (List.replicate 250 0) 0 1).acquire "orders" 1 (some 0) [1, 1, 1]).map Prod.fst =
    some (ordersAfterOne (List.replicate 250 0) 0 1, .ok false) := by
  decide +kernel

end MultiBucketRateLimiter

end TradeX.V2
