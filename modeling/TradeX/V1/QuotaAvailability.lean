import TradeX.V1.QuotaScheduler

/-! Whether a class of traffic can ever be granted on an endpoint. Idle buckets fill up to their capacity, so a
class is served again exactly where the capacity of the primary bucket has a token above what is held back. -/

namespace TradeX.V1.Quota

open Lib

namespace QuotaBucket

variable {bucket after : QuotaBucket} {priority : PriorityClass} {now clock : ℚ} {acquired : Bool}

/-- What the bucket does not give to a class. -/
def withheld (bucket : QuotaBucket) (priority : PriorityClass) : ℚ :=
  if priority = .EXECUTION_CRITICAL then 0 else bucket.reservedTokens

/-- What an attempt leaves as it was registered: rate, capacity and held part. -/
def settings (bucket : QuotaBucket) : ℚ × ℚ × ℚ := (bucket.rate, bucket.capacity, bucket.reservedHeadroom)

theorem tryAcquire_granted (bucket : QuotaBucket) (priority : PriorityClass) (now : ℚ) :
    (bucket.tryAcquire priority now).2 = true ↔ bucket.withheld priority + 1 ≤ bucket.level now := by
  have reserved : (bucket.refill now).reservedTokens = bucket.reservedTokens := rfl
  have level : (bucket.refill now).tokens = bucket.level now := rfl
  simp only [tryAcquire, withheld, reserved, level]
  by_cases critical : priority = .EXECUTION_CRITICAL
  · rw [if_pos critical, if_pos critical, zero_add]
    by_cases there : 1 ≤ bucket.level now
    · rw [if_pos there]
      exact iff_of_true rfl there
    · rw [if_neg there]
      exact iff_of_false Bool.false_ne_true there
  · rw [if_neg critical, if_neg critical]
    have above : 1 ≤ max 0 (bucket.level now - bucket.reservedTokens) ↔
        bucket.reservedTokens + 1 ≤ bucket.level now := by
      rw [le_max_iff, le_sub_iff_add_le, add_comm]
      exact or_iff_right (not_le.mpr zero_lt_one)
    by_cases there : 1 ≤ max 0 (bucket.level now - bucket.reservedTokens)
    · rw [if_pos there]
      exact iff_of_true rfl (above.mp there)
    · rw [if_neg there]
      exact iff_of_false Bool.false_ne_true (mt above.mpr there)

theorem Moved.settings (moved : Moved acquired now bucket after) : after.settings = bucket.settings := by
  cases acquired with
  | true =>
    obtain ⟨rfl, -⟩ := moved
    rfl
  | false =>
    rcases moved with rfl | rfl
    · rfl
    · rfl

/-- Buckets that refill are all full after one common wait. -/
theorem full_after_wait : ∀ buckets : List QuotaBucket, (∀ bucket ∈ buckets, bucket.Sound clock ∧ 0 < bucket.rate) →
    ∃ wait, 0 ≤ wait ∧ ∀ bucket ∈ buckets, ∀ now, clock + wait ≤ now → bucket.level now = bucket.capacity
  | [], _ => ⟨0, le_refl _, nofun⟩
  | bucket :: rest, refills => by
    obtain ⟨sound, rate⟩ := refills bucket List.mem_cons_self
    obtain ⟨wait, nonneg, full⟩ := full_after_wait rest fun other member =>
      refills other (List.mem_cons_of_mem _ member)
    refine ⟨max wait ((bucket.capacity - bucket.tokens) / bucket.rate), nonneg.trans (le_max_left _ _), ?_⟩
    intro other member now waited
    rcases List.mem_cons.mp member with rfl | inside
    · apply TokenBucket.level_full rate
      have own := le_max_right wait ((other.capacity - other.tokens) / other.rate)
      have refilled := sound.refilled
      linarith
    · have shorter := le_max_left wait ((bucket.capacity - bucket.tokens) / bucket.rate)
      exact full other inside now (by linarith)

end QuotaBucket

theorem ChainMoved.settings {acquired : Bool} {buckets afters : List QuotaBucket} {readings : List ℚ}
    (moved : ChainMoved acquired buckets readings afters) :
    afters.map QuotaBucket.settings = buckets.map QuotaBucket.settings := by
  induction moved with
  | done => rfl
  | next here _ ih => rw [List.map_cons, List.map_cons, here.settings, ih]

namespace QuotaScheduler

variable {scheduler after : QuotaScheduler} {key : String × String} {priority : PriorityClass} {acquired : Bool}

/-- Every bucket of the chain has a token for the class. -/
theorem acquireChain_granted {buckets : List QuotaBucket} {readings : List ℚ}
    (there : List.Forall₂ (fun bucket now => bucket.withheld priority + 1 ≤ bucket.level now) buckets readings) :
    ∃ afters, acquireChain priority buckets readings = some (afters, true) := by
  induction there with
  | nil => exact ⟨[], rfl⟩
  | @cons bucket now buckets readings here _ ih =>
    obtain ⟨others, onward⟩ := ih
    have granted := (bucket.tryAcquire_granted priority now).mpr here
    simp only [acquireChain]
    cases first : bucket.tryAcquire priority now with
    | mk consumed ok =>
      rw [first] at granted
      cases granted
      simp only [onward, Option.map_some, if_true]
      exact ⟨_, rfl⟩

/-- The first bucket of a granted chain had a token for the class. -/
theorem acquireChain_first {bucket : QuotaBucket} {buckets afters : List QuotaBucket} {readings : List ℚ}
    (tried : acquireChain priority (bucket :: buckets) readings = some (afters, true)) :
    ∃ now, bucket.withheld priority + 1 ≤ bucket.level now := by
  cases readings with
  | nil => cases tried
  | cons now readings =>
    refine ⟨now, (bucket.tryAcquire_granted priority now).mp ?_⟩
    simp only [acquireChain] at tried
    cases first : bucket.tryAcquire priority now with
    | mk after ok =>
      cases ok with
      | true => rfl
      | false =>
        rw [first] at tried
        cases tried

/-- A registered key is tried on its chain, behind a reading that is not used. -/
theorem tryAcquireComposite_chain {now : ℚ} {readings : List ℚ} (opened : scheduler.chain key ≠ [])
    (sized : readings.length = (scheduler.chain key).length) :
    scheduler.tryAcquireComposite key priority (now :: readings) =
      (acquireChain priority (scheduler.chain key) readings).map fun (chain, acquired) =>
        (scheduler.putBack key chain, acquired) := by
  simp only [tryAcquireComposite]
  cases held : scheduler.buckets.get key with
  | none => exact absurd (by rw [chain, held]) opened
  | some bucket =>
    have same : scheduler.chain key = bucket :: scheduler.windows key := by rw [chain, held]
    rw [same, List.length_cons] at sized
    rw [if_neg (not_not.mpr sized), same]
    rfl

theorem tryAcquireComposite_reservedHeadroom {readings : List ℚ}
    (tried : scheduler.tryAcquireComposite key priority readings = some (after, acquired)) :
    after.reservedHeadroom = scheduler.reservedHeadroom := by
  cases readings with
  | nil => cases tried
  | cons now readings =>
    simp only [tryAcquireComposite] at tried
    split at tried
    · cases tried
    · obtain ⟨⟨moved, ok⟩, -, same⟩ := Option.map_eq_some_iff.mp tried
      rw [← (Prod.mk.inj same).1]
      cases moved <;> rfl

/-- The settings of the buckets of a profile: the primary one, and the windows without a held part. -/
def settingsOf (reservedHeadroom : ℚ) (profile : RateLimitProfile) : List (ℚ × ℚ × ℚ) :=
  (profile.sustainedRps, burst profile, reservedHeadroom) ::
    profile.extraWindows.map fun window => (window.1 / window.2, (window.1 : ℚ), 0)

theorem registerProfile_settings {brokerId : String} {profile : RateLimitProfile} {readings : List ℚ}
    (registered : scheduler.registerProfile brokerId profile readings = some after) :
    (after.chain (brokerId, profile.endpointClass)).map QuotaBucket.settings =
      settingsOf scheduler.reservedHeadroom profile ∧ after.reservedHeadroom = scheduler.reservedHeadroom := by
  cases readings with
  | nil => cases registered
  | cons now readings =>
    simp only [registerProfile] at registered
    split at registered
    · cases registered
    · next sized =>
      rw [← Option.some.inj registered]
      refine ⟨?_, rfl⟩
      simp only [chain, windows, Dict.get_set, if_true, Option.getD_some, List.map_cons, List.map_map, settingsOf]
      congr 1
      have limits : (profile.extraWindows.zip readings).map Prod.fst = profile.extraWindows :=
        List.map_fst_zip (not_not.mp sized).symm.le
      conv_rhs => rw [← limits, List.map_map]
      rfl

end QuotaScheduler

namespace QuotaRun

variable {run after : QuotaRun} {event : Event} {events : List Event} {headroom : ℚ} {key : String × String}
  {brokerId endpointClass : String} {priority : PriorityClass} {profile : RateLimitProfile}

/-- After some wait an attempt of the class is granted, if nothing else happens meanwhile. -/
def Available (run : QuotaRun) (brokerId endpointClass : String) (priority : PriorityClass) : Prop :=
  ∃ wait, 0 ≤ wait ∧ ∀ readings : List ℚ,
    readings.length = (run.scheduler.chain (brokerId, endpointClass)).length + 1 → readings.Pairwise (· ≤ ·) →
    (∀ reading ∈ readings, run.clock + wait ≤ reading) →
    ∃ after, step run (.attempt brokerId endpointClass priority readings) = some after ∧
      after.granted = run.granted ++ [⟨(brokerId, endpointClass), priority, readings.tail⟩]

theorem step_reservedHeadroom (taken : step run event = some after) :
    after.scheduler.reservedHeadroom = run.scheduler.reservedHeadroom := by
  obtain ⟨-, grants, answered, -⟩ := step_inv taken
  cases event with
  | registerProfile brokerId profile readings =>
    obtain ⟨scheduler, registered, same⟩ := Option.map_eq_some_iff.mp answered
    rw [← (Prod.mk.inj same).1]
    exact (QuotaScheduler.registerProfile_settings registered).2
  | attempt brokerId endpointClass priority readings =>
    obtain ⟨⟨scheduler, acquired⟩, tried, same⟩ := Option.map_eq_some_iff.mp answered
    rw [← (Prod.mk.inj same).1]
    exact QuotaScheduler.tryAcquireComposite_reservedHeadroom tried
  | headroomFor brokerId endpointClass reading =>
    rw [← (Prod.mk.inj (Option.some.inj answered)).1]
    simp only [QuotaScheduler.headroomFor]
    cases run.scheduler.buckets.get (brokerId, endpointClass) <;> rfl

/-- The run is sound, with the buckets of the profile under its key. -/
structure Serves (headroom : ℚ) (key : String × String) (profile : RateLimitProfile) (run : QuotaRun) : Prop where
  sound : run.Sound
  settings : (run.scheduler.chain key).map QuotaBucket.settings = QuotaScheduler.settingsOf headroom profile

theorem Serves.step (serves : Serves headroom key profile run) (taken : step run event = some after)
    (plain : ¬event.Registers key) : Serves headroom key profile after := by
  refine ⟨serves.sound.step taken, ?_⟩
  obtain ⟨grants, -, full, readings, acquired, origin, -, moved, -⟩ := step_evolves serves.sound taken plain
  rcases origin with same | absent
  · rw [moved.settings, same, serves.settings]
  · have settings := serves.settings
    rw [absent] at settings
    cases settings

theorem Serves.kept (serves : Serves headroom key profile run) (plain : ∀ event ∈ events, ¬event.Registers key)
    (taken : exec QuotaRun.step run events = some after) : Serves headroom key profile after :=
  have preserved : ∀ run event after, Serves headroom key profile run → ¬event.Registers key →
      QuotaRun.step run event = some after → Serves headroom key profile after :=
    fun _ _ _ serves plain taken => serves.step taken plain
  exec_invariant preserved serves (meets_of_forall plain) taken

/-- After any history, with the profile as the last one that was registered for its endpoint. -/
theorem registered_serves {clock : ℚ} (nonneg : 0 ≤ headroom) {earlier more : List Event} {readings : List ℚ}
    (reached : exec step (start headroom clock)
      (earlier ++ .registerProfile brokerId profile readings :: more) = some run)
    (current : ∀ event ∈ more, ¬event.Registers (brokerId, profile.endpointClass)) :
    Serves headroom (brokerId, profile.endpointClass) profile run := by
  obtain ⟨before, first, rest⟩ := exec_append_inv reached
  obtain ⟨registered, taken, onward⟩ := exec_cons_inv rest
  have kept : before.scheduler.reservedHeadroom = headroom := by
    have any : Meets step (fun _ _ => True) (start headroom clock) earlier := meets_of_forall fun _ _ => trivial
    have preserved : ∀ (run : QuotaRun) event after, run.scheduler.reservedHeadroom = headroom → True →
        step run event = some after → after.scheduler.reservedHeadroom = headroom :=
      fun _ _ _ same _ taken => (step_reservedHeadroom taken).trans same
    exact @exec_invariant _ _ _ _ _ _ _ (fun run => run.scheduler.reservedHeadroom = headroom) preserved rfl any first
  have sound := (start_exec_sound nonneg first).step taken
  obtain ⟨-, grants, answered, -⟩ := step_inv taken
  obtain ⟨scheduler, listed, same⟩ := Option.map_eq_some_iff.mp answered
  have settings := (QuotaScheduler.registerProfile_settings listed).1
  rw [(Prod.mk.inj same).1, kept] at settings
  exact Serves.kept ⟨sound, settings⟩ current onward

/-- The class has a whole token above what is held back from it. -/
def Suffices (headroom : ℚ) (profile : RateLimitProfile) (priority : PriorityClass) : Prop :=
  (if priority = .EXECUTION_CRITICAL then 0 else QuotaScheduler.burst profile * headroom) + 1 ≤
    QuotaScheduler.burst profile

/-- The primary bucket and the windows of the chain, with what they were registered with. -/
theorem Serves.buckets (serves : Serves headroom key profile run) :
    ∃ bucket windows, run.scheduler.chain key = bucket :: windows ∧
      bucket.settings = (profile.sustainedRps, QuotaScheduler.burst profile, headroom) ∧
      ∀ window ∈ windows, ∃ limit ∈ profile.extraWindows, window.settings = (limit.1 / limit.2, (limit.1 : ℚ), 0) := by
  have settings := serves.settings
  cases held : run.scheduler.chain key with
  | nil =>
    rw [held] at settings
    cases settings
  | cons bucket windows =>
    rw [held] at settings
    obtain ⟨primary, rest⟩ := List.cons.inj settings
    refine ⟨bucket, windows, rfl, primary, ?_⟩
    intro window member
    have listed : window.settings ∈ windows.map QuotaBucket.settings := List.mem_map_of_mem member
    rw [rest] at listed
    obtain ⟨limit, inside, same⟩ := List.mem_map.mp listed
    exact ⟨limit, inside, same.symm⟩

theorem withheld_of_settings {bucket : QuotaBucket} {rate capacity held : ℚ}
    (settings : bucket.settings = (rate, capacity, held)) (priority : PriorityClass) :
    bucket.withheld priority = if priority = .EXECUTION_CRITICAL then 0 else capacity * held := by
  cases settings
  rfl

/-- Full buckets serve a class that their capacities suffice for. -/
theorem Serves.full_suffices (serves : Serves headroom key profile run)
    (limits : ∀ window ∈ profile.extraWindows, 0 < window.1) (enough : Suffices headroom profile priority) :
    ∀ bucket ∈ run.scheduler.chain key, bucket.withheld priority + 1 ≤ bucket.capacity := by
  obtain ⟨primary, windows, chained, settings, limited⟩ := serves.buckets
  intro bucket member
  rw [chained] at member
  rcases List.mem_cons.mp member with rfl | inside
  · rw [withheld_of_settings settings]
    have capacity : bucket.capacity = QuotaScheduler.burst profile := (Prod.mk.inj (Prod.mk.inj settings).2).1
    rw [capacity]
    exact enough
  · obtain ⟨limit, listed, settings⟩ := limited bucket inside
    have capacity : bucket.capacity = limit.1 := (Prod.mk.inj (Prod.mk.inj settings).2).1
    have positive : (1 : ℚ) ≤ limit.1 := by exact_mod_cast limits limit listed
    rw [withheld_of_settings settings, capacity, mul_zero, ite_self, zero_add]
    exact positive

theorem Serves.refills (serves : Serves headroom key profile run) (sustained : 0 < profile.sustainedRps)
    (limits : ∀ window ∈ profile.extraWindows, 0 < window.1) : ∀ bucket ∈ run.scheduler.chain key, 0 < bucket.rate := by
  obtain ⟨primary, windows, chained, settings, limited⟩ := serves.buckets
  intro bucket member
  rw [chained] at member
  rcases List.mem_cons.mp member with rfl | inside
  · have rate : bucket.rate = profile.sustainedRps := (Prod.mk.inj settings).1
    exact rate ▸ sustained
  · obtain ⟨limit, listed, settings⟩ := limited bucket inside
    have rate : bucket.rate = limit.1 / limit.2 := (Prod.mk.inj settings).1
    rw [rate]
    exact div_pos (Nat.cast_pos.mpr (limits limit listed)) (profile.windows_positive limit listed)

theorem Serves.opened (serves : Serves headroom key profile run) : run.scheduler.chain key ≠ [] := by
  obtain ⟨primary, windows, chained, -⟩ := serves.buckets
  rw [chained]
  exact List.cons_ne_nil _ _

/-- Once every bucket is full an attempt is granted. -/
theorem Serves.available (serves : Serves headroom (brokerId, endpointClass) profile run)
    (sustained : 0 < profile.sustainedRps) (limits : ∀ window ∈ profile.extraWindows, 0 < window.1)
    (enough : Suffices headroom profile priority) : run.Available brokerId endpointClass priority := by
  have refills := serves.refills sustained limits
  obtain ⟨wait, nonneg, full⟩ := QuotaBucket.full_after_wait (run.scheduler.chain (brokerId, endpointClass))
    fun bucket member => ⟨serves.sound.buckets _ bucket member, refills bucket member⟩
  refine ⟨wait, nonneg, ?_⟩
  intro readings sized sorted waited
  cases readings with
  | nil => cases sized
  | cons now readings =>
    have length : readings.length = (run.scheduler.chain (brokerId, endpointClass)).length := Nat.succ.inj sized
    have there : List.Forall₂ (fun bucket now => bucket.withheld priority + 1 ≤ bucket.level now)
        (run.scheduler.chain (brokerId, endpointClass)) readings := by
      apply List.forall₂_iff_zip.mpr
      refine ⟨length.symm, ?_⟩
      intro bucket reading paired
      obtain ⟨member, read⟩ := List.of_mem_zip paired
      rw [full bucket member reading (waited reading (List.mem_cons_of_mem _ read))]
      exact serves.full_suffices limits enough bucket member
    obtain ⟨afters, granted⟩ := QuotaScheduler.acquireChain_granted there
    have ordered : (run.clock :: now :: readings).Pairwise (· ≤ ·) := by
      refine List.pairwise_cons.mpr ⟨?_, sorted⟩
      intro reading member
      have later := waited reading member
      linarith
    have answered : answer run.scheduler (.attempt brokerId endpointClass priority (now :: readings)) =
        some (run.scheduler.putBack (brokerId, endpointClass) afters,
          [⟨(brokerId, endpointClass), priority, readings⟩]) := by
      simp only [answer, QuotaScheduler.tryAcquireComposite_chain serves.opened length, granted, Option.map_some,
        if_true, List.tail_cons]
    let after : QuotaRun := {
      scheduler := run.scheduler.putBack (brokerId, endpointClass) afters
      clock := (now :: readings).getLast?.getD run.clock
      granted := run.granted ++ [⟨(brokerId, endpointClass), priority, readings⟩] }
    refine ⟨after, ?_, rfl⟩
    simp only [QuotaRun.step, Event.readings, if_pos ordered, answered, Option.map_some, after]

/-- No attempt of a class is granted that the capacity does not suffice for. -/
theorem Serves.sufficing (serves : Serves headroom (brokerId, endpointClass) profile run)
    (available : run.Available brokerId endpointClass priority) : Suffices headroom profile priority := by
  obtain ⟨wait, nonneg, granted⟩ := available
  obtain ⟨bucket, windows, chained, settings, -⟩ := serves.buckets
  let length := (run.scheduler.chain (brokerId, endpointClass)).length
  obtain ⟨after, taken, grants⟩ := granted (List.replicate (length + 1) (run.clock + wait)) List.length_replicate
    (List.pairwise_replicate.mpr (.inr (le_refl _))) (fun reading member => (List.mem_replicate.mp member).2.ge)
  obtain ⟨-, more, answered, -, counted⟩ := step_inv taken
  obtain ⟨⟨scheduler, acquired⟩, tried, same⟩ := Option.map_eq_some_iff.mp answered
  cases acquired with
  | false =>
    rw [← (Prod.mk.inj same).2, grants] at counted
    exact absurd (List.append_cancel_left counted) (List.cons_ne_nil _ _)
  | true =>
    rw [List.replicate_succ, QuotaScheduler.tryAcquireComposite_chain serves.opened List.length_replicate] at tried
    obtain ⟨⟨chain, acquired⟩, chainTried, same⟩ := Option.map_eq_some_iff.mp tried
    obtain ⟨-, rfl⟩ := Prod.mk.inj same
    rw [chained] at chainTried
    obtain ⟨now, there⟩ := QuotaScheduler.acquireChain_first chainTried
    rw [withheld_of_settings settings] at there
    have capacity : bucket.capacity = QuotaScheduler.burst profile := (Prod.mk.inj (Prod.mk.inj settings).2).1
    have level : bucket.level now ≤ QuotaScheduler.burst profile := capacity ▸ TokenBucket.level_le
    exact there.trans level

/-- What suffices for the traffic that is not critical suffices for all. -/
theorem suffices_all (nonneg : 0 ≤ headroom) :
    (∀ priority, Suffices headroom profile priority) ↔
      QuotaScheduler.burst profile * headroom + 1 ≤ QuotaScheduler.burst profile := by
  constructor
  · intro every
    exact every .ENRICHMENT
  · intro enough priority
    have burst := QuotaScheduler.burst_nonneg profile
    have held := mul_nonneg burst nonneg
    rw [Suffices]
    split
    · linarith
    · exact enough

/-- After any history every class of traffic can be granted on an endpoint again after some wait if and only if
the burst of its profile has a whole token above the headroom. -/
theorem available_iff {clock : ℚ} (fraction : 0 ≤ headroom ∧ headroom < 1) {earlier more : List Event}
    {readings : List ℚ}
    (sustained : 0 < profile.sustainedRps) (limits : ∀ window ∈ profile.extraWindows, 0 < window.1)
    (reached : exec step (start headroom clock)
      (earlier ++ .registerProfile brokerId profile readings :: more) = some run)
    (current : ∀ event ∈ more, ¬event.Registers (brokerId, profile.endpointClass)) :
    (∀ priority, run.Available brokerId profile.endpointClass priority) ↔
      QuotaScheduler.burst profile * headroom + 1 ≤ QuotaScheduler.burst profile := by
  have serves := registered_serves fraction.1 reached current
  rw [← suffices_all fraction.1]
  constructor
  · intro available priority
    exact serves.sufficing (available priority)
  · intro enough priority
    exact serves.available sustained limits (enough priority)

theorem orders_available_iff : ∃ run, exec step (start (1 / 5) 0) [.registerProfile "dhan" orders [0, 0]] = some run ∧
    ((∀ priority, run.Available "dhan" "orders" priority) ↔
      QuotaScheduler.burst orders * (1 / 5) + 1 ≤ QuotaScheduler.burst orders) := by
  have registered : (exec step (start (1 / 5) 0) [.registerProfile "dhan" orders [0, 0]]).isSome := by decide +kernel
  obtain ⟨run, reached⟩ := Option.isSome_iff_exists.mp registered
  have limits : ∀ window ∈ orders.extraWindows, 0 < window.1 := by
    intro window member
    rw [List.mem_singleton.mp member]
    norm_num
  have sustained : 0 < orders.sustainedRps := by norm_num [orders]
  exact ⟨run, reached, @available_iff _ _ _ _ _ (by norm_num) [] [] _ sustained limits reached nofun⟩

/-- With a burst of one request and a fifth held back no other traffic is ever served. -/
theorem single_request_never_available : ∃ run,
    exec step (start (1 / 5) 0) [.registerProfile "dhan" single [0]] = some run ∧
    ¬run.Available "dhan" "quotes" .PORTFOLIO_READ := by
  have registered : (exec step (start (1 / 5) 0) [.registerProfile "dhan" single [0]]).isSome := by decide +kernel
  obtain ⟨run, reached⟩ := Option.isSome_iff_exists.mp registered
  refine ⟨run, reached, ?_⟩
  intro available
  have serves := @registered_serves _ _ _ _ _ (by norm_num) [] [] _ reached nofun
  have enough : QuotaScheduler.burst single * (1 / 5) + 1 ≤ QuotaScheduler.burst single := serves.sufficing available
  have burst : QuotaScheduler.burst single = 1 := by decide +kernel
  rw [burst] at enough
  norm_num at enough

end QuotaRun

end TradeX.V1.Quota
