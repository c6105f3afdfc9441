import TradeX.Lib.Runs
import TradeX.Lib.Seen

/-! The deduplication of market ticks: what is stored of an accepted tick, when a later one is dropped for it, and
how many entries are held. Times are in seconds, and prices exact. -/

namespace TradeX.V1.Streams

open Lib Lib.Seen

/-- `_STREAM_DEDUP_WINDOW_S` -/
def streamDedupWindowS : ℚ := 2

/-- `_STREAM_DEDUP_MAX_ENTRIES` -/
def streamDedupMaxEntries : ℕ := 4096

/-- `_STREAM_DEDUP_COARSE_BUCKET_S` -/
def streamDedupCoarseBucketS : ℚ := 1

/-- The keys of both kinds in the one table. -/
inductive DedupKey (τ : Type) where
  | primary (instrument : String) (eventTime : τ) (sequence : Option ℤ)
  | fallback (instrument : String) (ltp : ℚ) (bucket : ℤ)
  deriving DecidableEq

/-- A tick as `dedup_drop` is called for it. -/
structure DedupTick (τ : Type) where
  instrumentKey : String
  eventTime : τ
  sequence : Option ℤ
  ltp : Option ℚ := none
  trustedTime : Bool := false
  deriving DecidableEq

namespace DedupTick

variable {τ : Type}

def primaryKey (tick : DedupTick τ) : DedupKey τ := .primary tick.instrumentKey tick.eventTime tick.sequence

def fallbackKey (tick : DedupTick τ) (now : ℚ) : Option (DedupKey τ) :=
  match tick.ltp with
  | some ltp =>
    if !tick.trustedTime then some (.fallback tick.instrumentKey ltp ⌊now / streamDedupCoarseBucketS⌋) else none
  | none => none

/-- The keys that are stored of a tick. -/
def keys (tick : DedupTick τ) (now : ℚ) : List (DedupKey τ) := tick.primaryKey :: (tick.fallbackKey now).toList

end DedupTick

structure TickRouter (τ : Type) [DecidableEq τ] where
  dedupSeen : Dict (DedupKey τ) ℚ := ∅

namespace TickRouter

variable {τ : Type} [DecidableEq τ]

/-- `dedup_drop`, and the table after it. -/
def dedupDrop (router : TickRouter τ) (tick : DedupTick τ) (now : ℚ) : Bool × TickRouter τ :=
  if router.dedupSeen.contains tick.primaryKey then (true, router)
  else if (tick.fallbackKey now).any router.dedupSeen.contains then (true, router)
  else
    let seen :=
      if streamDedupMaxEntries ≤ router.dedupSeen.size then
        let cutoff := now - streamDedupWindowS
        router.dedupSeen.keep fun t => cutoff < t
      else router.dedupSeen
    let seen := seen.set tick.primaryKey now
    (false, ⟨match tick.fallbackKey now with
      | some fallbackKey => seen.set fallbackKey now
      | none => seen⟩)

/-- The entries that are left where the table is full. -/
def makeRoom (router : TickRouter τ) (now : ℚ) : Dict (DedupKey τ) ℚ :=
  if streamDedupMaxEntries ≤ router.dedupSeen.size then
    router.dedupSeen.keep fun t => now - streamDedupWindowS < t
  else router.dedupSeen

/-- The key for which a tick is dropped. -/
def hit (router : TickRouter τ) (tick : DedupTick τ) (now : ℚ) : Option (DedupKey τ) :=
  (tick.keys now).find? router.dedupSeen.contains

variable {router : TickRouter τ} {tick : DedupTick τ} {now : ℚ} {key : DedupKey τ}

theorem dedupDrop_hit (found : router.hit tick now = some key) : router.dedupDrop tick now = (true, router) := by
  rw [hit, DedupTick.keys, List.find?_cons] at found
  rw [dedupDrop]
  split
  · rfl
  · next fresh =>
    simp only [fresh] at found
    have stored : (tick.fallbackKey now).any router.dedupSeen.contains = true := by
      cases back : tick.fallbackKey now with
      | none =>
        rw [back] at found
        cases found
      | some other =>
        rw [back, Option.toList_some, List.find?_singleton] at found
        split at found
        · next held => exact held
        · cases found
    rw [if_pos stored]

theorem dedupDrop_fresh (fresh : router.hit tick now = none) :
    router.dedupDrop tick now = (false, ⟨record (router.makeRoom now) (tick.keys now) now⟩) := by
  have absent : ∀ key ∈ tick.keys now, router.dedupSeen.contains key = false := by
    simpa only [hit, List.find?_eq_none, Bool.not_eq_true] using fresh
  have primary := absent tick.primaryKey List.mem_cons_self
  have back : (tick.fallbackKey now).any router.dedupSeen.contains = false := by
    cases back : tick.fallbackKey now with
    | none => rfl
    | some other =>
      apply absent
      rw [DedupTick.keys, back]
      exact List.mem_cons_of_mem _ List.mem_cons_self
  simp only [dedupDrop, primary, back, Bool.false_eq_true, if_false, makeRoom, DedupTick.keys]
  cases tick.fallbackKey now with
  | none => rfl
  | some other => rfl

/-- The table after a tick that is not dropped has one more entry for each of its keys. -/
theorem size_fresh (fresh : router.hit tick now = none) :
    (router.dedupDrop tick now).2.dedupSeen.size = (router.makeRoom now).size + (tick.keys now).length := by
  have absent : ∀ key ∈ tick.keys now, (router.makeRoom now).get key = none := by
    intro key member
    have missing : router.dedupSeen.get key = none := by
      simpa only [Dict.contains, Option.isSome_eq_false_iff, Option.isNone_iff_eq_none, Bool.not_eq_true] using
        List.find?_eq_none.mp fresh key member
    rw [makeRoom]
    split
    · rw [Dict.get_keep, missing, Option.filter_none]
    · exact missing
  have nodup : (tick.keys now).Nodup := by
    rw [DedupTick.keys, DedupTick.fallbackKey]
    split
    · split
      · simp [DedupTick.primaryKey]
      · exact List.nodup_singleton _
    · exact List.nodup_singleton _
  rw [dedupDrop_fresh fresh]
  exact size_record nodup absent

end TickRouter

/-- A call of `dedup_drop`, made when some time has gone by since the one before. -/
structure Arrival (τ : Type) where
  tick : DedupTick τ
  elapsed : NNRat

/-- A router, the ticks it has accepted, the last one first, and the reading of the clock. -/
structure TickFeed (τ : Type) [DecidableEq τ] where
  router : TickRouter τ := {}
  accepted : List (DedupTick τ × ℚ) := []
  clock : ℚ

namespace TickFeed

variable {τ : Type} [DecidableEq τ]

/-- The reading of the clock at a call. -/
def now (feed : TickFeed τ) (arrival : Arrival τ) : ℚ := feed.clock + arrival.elapsed

def step (feed : TickFeed τ) (arrival : Arrival τ) : Option (TickFeed τ) :=
  let now := feed.now arrival
  let (dropped, router) := feed.router.dedupDrop arrival.tick now
  some {
    router
    accepted := if dropped then feed.accepted else (arrival.tick, now) :: feed.accepted
    clock := now }

/-- The accepted tick of which the one of the call is taken to be a duplicate: the one whose key it meets. -/
def original (feed : TickFeed τ) (arrival : Arrival τ) : Option (DedupTick τ × ℚ) :=
  (feed.router.hit arrival.tick (feed.now arrival)).bind (latest DedupTick.keys feed.accepted)

/-- A tick that was accepted in the window before the call. -/
def Recent (feed : TickFeed τ) (arrival : Arrival τ) (past : DedupTick τ × ℚ) : Prop :=
  past ∈ feed.accepted ∧ feed.now arrival - streamDedupWindowS ≤ past.2

end TickFeed

namespace DedupTick

variable {τ : Type}

/-- Of the same instrument, with the same event time and sequence. -/
def SameEvent (tick past : DedupTick τ) : Prop :=
  past.instrumentKey = tick.instrumentKey ∧ past.eventTime = tick.eventTime ∧ past.sequence = tick.sequence

/-- Of the same instrument with the same price, where the event time of the tick is not trusted. -/
def SamePrice (tick past : DedupTick τ) : Prop :=
  past.instrumentKey = tick.instrumentKey ∧ tick.trustedTime = false ∧
    ∃ ltp, tick.ltp = some ltp ∧ past.ltp = some ltp

theorem fallbackKey_eq_some {tick : DedupTick τ} {now : ℚ} {key : DedupKey τ} :
    tick.fallbackKey now = some key ↔ tick.trustedTime = false ∧ ∃ ltp, tick.ltp = some ltp ∧
      key = .fallback tick.instrumentKey ltp ⌊now / streamDedupCoarseBucketS⌋ := by
  rw [fallbackKey]
  cases priced : tick.ltp with
  | none => simp
  | some ltp =>
    cases trusted : tick.trustedTime with
    | true => simp
    | false => simp [eq_comm]

theorem mem_keys_primary {tick other : DedupTick τ} {now : ℚ} :
    tick.primaryKey ∈ other.keys now ↔ tick.SameEvent other := by
  have apart : tick.primaryKey ∉ (other.fallbackKey now).toList := by
    rw [Option.mem_toList, fallbackKey_eq_some]
    rintro ⟨-, ltp, -, same⟩
    cases same
  rw [keys, List.mem_cons, or_iff_left apart, primaryKey, primaryKey, DedupKey.primary.injEq, SameEvent]
  exact and_congr eq_comm (and_congr eq_comm eq_comm)

/-- A tick that has the fallback key of another has its price, and came in the same second. -/
theorem fallback_shared {tick other : DedupTick τ} {now before : ℚ} {key : DedupKey τ}
    (own : tick.fallbackKey now = some key) (shared : key ∈ other.keys before) :
    tick.SamePrice other ∧ other.ltp = tick.ltp ∧ now - before < 1 := by
  obtain ⟨trusted, ltp, priced, rfl⟩ := fallbackKey_eq_some.mp own
  rw [keys, List.mem_cons, Option.mem_toList, fallbackKey_eq_some] at shared
  rcases shared with primary | ⟨-, other_, again, same⟩
  · cases primary
  · obtain ⟨instrument, rfl, bucket⟩ := DedupKey.fallback.inj same
    refine ⟨⟨instrument.symm, trusted, ltp, priced, again⟩, again.trans priced.symm, ?_⟩
    rw [streamDedupCoarseBucketS, div_one, div_one] at bucket
    exact (abs_lt.mp (Int.abs_sub_lt_one_of_floor_eq_floor bucket)).2

end DedupTick

/-- What is to hold at a call: a tick is dropped for a recent one only, and not for one of another price, and the
table is bounded. -/
structure Deduplicates {τ : Type} [DecidableEq τ] (feed : TickFeed τ) (arrival : Arrival τ) : Prop where
  recent : (feed.router.dedupDrop arrival.tick (feed.now arrival)).1 = true →
    ∃ past, feed.Recent arrival past ∧ (arrival.tick.SameEvent past.1 ∨ arrival.tick.SamePrice past.1)
  priced : (feed.router.dedupDrop arrival.tick (feed.now arrival)).1 = true →
    ∀ past, feed.original arrival = some past → past.1.ltp = arrival.tick.ltp
  bounded : (feed.router.dedupDrop arrival.tick (feed.now arrival)).2.dedupSeen.size ≤ streamDedupMaxEntries + 2

/-- When it does: an event time and sequence that are still stored are repeated at the same price and in the window,
and where the table is full it has not too many entries that are younger than the window. -/
structure Steady {τ : Type} [DecidableEq τ] (feed : TickFeed τ) (arrival : Arrival τ) : Prop where
  repeated : feed.router.dedupSeen.contains arrival.tick.primaryKey = true →
    ∀ past, latest DedupTick.keys feed.accepted arrival.tick.primaryKey = some past →
      past.1.ltp = arrival.tick.ltp ∧
      (feed.Recent arrival past ∨ ∃ other, feed.Recent arrival other ∧ arrival.tick.SamePrice other.1)
  room : feed.router.hit arrival.tick (feed.now arrival) = none →
    streamDedupMaxEntries ≤ feed.router.dedupSeen.size →
    (feed.router.makeRoom (feed.now arrival)).size + (arrival.tick.keys (feed.now arrival)).length ≤
      streamDedupMaxEntries + 2

namespace TickFeed

variable {τ : Type} [DecidableEq τ] {feed : TickFeed τ} {arrival : Arrival τ} {past : DedupTick τ × ℚ}

/-- The table goes back to the accepted ticks, which stand in the order of the clock, and is bounded. -/
structure Sound (feed : TickFeed τ) : Prop where
  faithful : Faithful DedupTick.keys feed.accepted feed.router.dedupSeen
  ordered : feed.accepted.Pairwise fun later earlier => earlier.2 ≤ later.2
  clocked : ∀ past ∈ feed.accepted, past.2 ≤ feed.clock
  bounded : feed.router.dedupSeen.size ≤ streamDedupMaxEntries + 2

theorem clock_le_now (feed : TickFeed τ) (arrival : Arrival τ) : feed.clock ≤ feed.now arrival :=
  le_add_of_nonneg_right arrival.elapsed.coe_nonneg

/-- What is stored goes back to an accepted tick with the key. -/
theorem Sound.original (sound : feed.Sound) {key : DedupKey τ} (stored : feed.router.dedupSeen.contains key = true) :
    ∃ past, latest DedupTick.keys feed.accepted key = some past := by
  obtain ⟨t, found⟩ := Option.isSome_iff_exists.mp stored
  obtain ⟨tick, last⟩ := sound.faithful key t found
  exact ⟨_, last⟩

/-- The key for which a tick is dropped is its first one where that is stored, and else the other. -/
theorem hit_cases {router : TickRouter τ} {tick : DedupTick τ} {now : ℚ} {key : DedupKey τ}
    (found : router.hit tick now = some key) :
    router.dedupSeen.contains key = true ∧ (key = tick.primaryKey ∨ tick.fallbackKey now = some key) := by
  refine ⟨List.find?_some found, ?_⟩
  have member := List.mem_of_find?_eq_some found
  rwa [DedupTick.keys, List.mem_cons, Option.mem_toList] at member

theorem hit_primary {router : TickRouter τ} {tick : DedupTick τ} {now : ℚ}
    (stored : router.dedupSeen.contains tick.primaryKey = true) : router.hit tick now = some tick.primaryKey := by
  rw [TickRouter.hit, DedupTick.keys, List.find?_cons_of_pos stored]

theorem dropped_iff {router : TickRouter τ} {tick : DedupTick τ} {now : ℚ} :
    (router.dedupDrop tick now).1 = true ↔ ∃ key, router.hit tick now = some key := by
  cases hit : router.hit tick now with
  | none => simp [TickRouter.dedupDrop_fresh hit]
  | some key => simp [TickRouter.dedupDrop_hit hit]

/-- At one call the table does what it is to do exactly when the condition is met. -/
theorem Sound.deduplicates_iff (sound : feed.Sound) : Deduplicates feed arrival ↔ Steady feed arrival := by
  constructor
  · intro right
    constructor
    · intro stored past last
      have hit : feed.router.hit arrival.tick (feed.now arrival) = some arrival.tick.primaryKey := hit_primary stored
      have dropped := dropped_iff.mpr ⟨_, hit⟩
      refine ⟨right.priced dropped past (by rw [TickFeed.original, hit]; exact last), ?_⟩
      obtain ⟨other, recent, same | same⟩ := right.recent dropped
      · -- The last of the ticks with the key is at least as recent.
        have newest := latest_newest sound.ordered last recent.1 (DedupTick.mem_keys_primary.mpr same)
        exact .inl ⟨(latest_mem last).1, recent.2.trans newest⟩
      · exact .inr ⟨other, recent, same⟩
    · intro fresh _
      exact TickRouter.size_fresh fresh ▸ right.bounded
  · intro steady
    constructor
    · intro dropped
      obtain ⟨key, hit⟩ := dropped_iff.mp dropped
      obtain ⟨stored, rfl | back⟩ := hit_cases hit
      · obtain ⟨past, last⟩ := sound.original stored
        obtain ⟨-, recent | ⟨other, recent, same⟩⟩ := steady.repeated stored past last
        · exact ⟨past, recent, .inl (DedupTick.mem_keys_primary.mp (latest_mem last).2)⟩
        · exact ⟨other, recent, .inr same⟩
      · obtain ⟨past, last⟩ := sound.original stored
        obtain ⟨member, marked⟩ := latest_mem last
        obtain ⟨same, -, near⟩ := DedupTick.fallback_shared back marked
        refine ⟨past, ⟨member, ?_⟩, .inr same⟩
        rw [streamDedupWindowS]
        linarith
    · intro dropped past origin
      obtain ⟨key, hit⟩ := dropped_iff.mp dropped
      rw [TickFeed.original, hit, Option.bind_some] at origin
      obtain ⟨stored, rfl | back⟩ := hit_cases hit
      · exact (steady.repeated stored past origin).1
      · exact (DedupTick.fallback_shared back (latest_mem origin).2).2.1
    · cases hit : feed.router.hit arrival.tick (feed.now arrival) with
      | some key =>
        rw [TickRouter.dedupDrop_hit hit]
        exact sound.bounded
      | none =>
        rw [TickRouter.size_fresh hit]
        by_cases full : streamDedupMaxEntries ≤ feed.router.dedupSeen.size
        · exact steady.room hit full
        · have two : (arrival.tick.keys (feed.now arrival)).length ≤ 2 := by
            rw [DedupTick.keys, List.length_cons, Option.length_toList]
            split <;> simp
          rw [TickRouter.makeRoom, if_neg full]
          omega

theorem sound_start (clock : ℚ) : Sound ({ clock } : TickFeed τ) where
  faithful := Faithful.empty
  ordered := List.Pairwise.nil
  clocked := fun _ member => nomatch member
  bounded := Nat.zero_le _

theorem step_hit {key : DedupKey τ} (hit : feed.router.hit arrival.tick (feed.now arrival) = some key) :
    feed.step arrival = some { feed with clock := feed.now arrival } := by
  rw [step, TickRouter.dedupDrop_hit hit]
  rfl

theorem step_fresh (fresh : feed.router.hit arrival.tick (feed.now arrival) = none) :
    feed.step arrival = some {
      router := ⟨record (feed.router.makeRoom (feed.now arrival)) (arrival.tick.keys (feed.now arrival))
        (feed.now arrival)⟩
      accepted := (arrival.tick, feed.now arrival) :: feed.accepted
      clock := feed.now arrival } := by
  rw [step, TickRouter.dedupDrop_fresh fresh]
  rfl

theorem Sound.step {next : TickFeed τ} (sound : feed.Sound) (right : Deduplicates feed arrival)
    (taken : feed.step arrival = some next) : next.Sound := by
  have later := feed.clock_le_now arrival
  cases hit : feed.router.hit arrival.tick (feed.now arrival) with
  | some key =>
    rw [step_hit hit] at taken
    rw [← Option.some.inj taken]
    exact ⟨sound.faithful, sound.ordered, fun past member => (sound.clocked past member).trans later, sound.bounded⟩
  | none =>
    have bounded := right.bounded
    rw [TickRouter.dedupDrop_fresh hit] at bounded
    rw [step_fresh hit] at taken
    rw [← Option.some.inj taken]
    refine ⟨?_, ?_, ?_, bounded⟩
    · have room : Faithful DedupTick.keys feed.accepted (feed.router.makeRoom (feed.now arrival)) := by
        rw [TickRouter.makeRoom]
        split
        · exact sound.faithful.keep _
        · exact sound.faithful
      exact room.record arrival.tick (feed.now arrival)
    · exact List.pairwise_cons.mpr ⟨fun past member => (sound.clocked past member).trans later, sound.ordered⟩
    · intro past member
      rcases List.mem_cons.mp member with rfl | before
      · exact le_refl _
      · exact (sound.clocked past before).trans later

/-- In a run the table does at every call what it is to do exactly when every call meets the condition. -/
theorem deduplicates_runs_iff (clock : ℚ) (arrivals : List (Arrival τ)) :
    Meets step Deduplicates { clock } arrivals ↔ Meets step Steady { clock } arrivals := by
  have preserved (feed : TickFeed τ) (arrival : Arrival τ) (next : TickFeed τ) (sound : feed.Sound)
      (right : Deduplicates feed arrival) (taken : feed.step arrival = some next) : next.Sound :=
    sound.step right taken
  exact meets_iff (fun feed arrival sound => sound.deduplicates_iff) preserved (sound_start clock)

/-- Two ticks of one second that differ in price, with the time of the exchange and no sequence, and a tick that is
repeated after ten seconds. -/
theorem second_price_dropped :
    let tick (ltp : ℚ) : DedupTick ℕ := {
      instrumentKey := "RELIANCE:NSE"
      eventTime := 1714531500
      sequence := none
      ltp := some ltp
      trustedTime := true }
    ¬ Meets step Deduplicates ({ clock := 1714531500 } : TickFeed ℕ) [⟨tick 2500, 0⟩, ⟨tick 2501, 1 / 10⟩] ∧
    ¬ Meets step Deduplicates ({ clock := 1714531500 } : TickFeed ℕ) [⟨tick 2500, 0⟩, ⟨tick 2500, 10⟩] := by
  intro tick
  constructor
  · intro met
    obtain ⟨-, right, -⟩ := (meets_cons rfl).mp met
    have price := right.priced (by decide +kernel) (tick 2500, 1714531500) (by decide +kernel)
    exact absurd price (by decide +kernel)
  · intro met
    obtain ⟨-, right, -⟩ := (meets_cons rfl).mp met
    obtain ⟨past, ⟨member, recent⟩, -⟩ := right.recent (by decide +kernel)
    rw [List.mem_singleton.mp member] at recent
    exact absurd recent (by decide +kernel)

end TickFeed

end TradeX.V1.Streams
