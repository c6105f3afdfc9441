import TradeX.Lib.Grid
import TradeX.V1.CandleCorrections

/-! The bars of a timeframe against the wall clock of the exchange. The buckets are whole multiples of the
duration from the epoch, which is midnight in UTC; the days and hours that they are to be aligned to are those of
a zone that is five and a half hours ahead. -/

namespace TradeX.V1.Streaming

open Lib CandleAggregator

/-- `IST_OFFSET`, in seconds. -/
def istOffset : ℤ := 19800

def daySeconds : ℤ := 86400

/-- The calendar day of an instant in the zone, counted from that of the epoch. -/
def istDay (instant : ℚ) : ℤ := ⌊(instant + istOffset) / daySeconds⌋

/-- The midnight that the day of an instant starts with. -/
def istMidnight (instant : ℚ) : ℤ := istDay instant * daySeconds - istOffset

/-- The bars of a timeframe keep to the wall clock: the bar that receives a tick opens a whole number of
durations after midnight and holds the instant of the tick, and no two ticks of a bar are of different days. -/
structure WallClock (timeframes : Timeframes) (timeframe : String) : Prop where
  opens : ∀ events s, exec (CandleFeed.step timeframes) {} events = some s → ∀ tick isCorrection bucket,
    s.takes timeframes tick isCorrection timeframe = true →
    ((s.next timeframes (.update tick isCorrection)).viewOf tick timeframe).1 = some bucket →
    timeframes.duration timeframe ∣ bucket.openEpoch - istMidnight bucket.openEpoch
  holds : ∀ events s, exec (CandleFeed.step timeframes) {} events = some s → ∀ tick isCorrection,
    s.takes timeframes tick isCorrection timeframe = true → ∃ bucket,
    ((s.next timeframes (.update tick isCorrection)).viewOf tick timeframe).1 = some bucket ∧
      (bucket.openEpoch : ℚ) ≤ tick.eventTime ∧
      tick.eventTime < bucket.openEpoch + timeframes.duration timeframe
  days : ∀ events s, exec (CandleFeed.step timeframes) {} events = some s → ∀ symbolKey,
    ∀ tick ∈ s.accepted symbolKey timeframe, ∀ later ∈ s.accepted symbolKey timeframe,
    bucketStart tick.eventTime (timeframes.duration timeframe) =
        bucketStart later.eventTime (timeframes.duration timeframe) →
      istDay tick.eventTime = istDay later.eventTime

section

variable {timeframes : Timeframes} {timeframe : String} {seconds : ℤ} {isCorrection : Bool}
  {state : Option Bucket × List LiveBar} {tick : MarketTick} {events : List CandleEvent} {s : CandleFeed}

/-- The bucket that receives a tick is the one of its instant. -/
theorem heed_receives (taken : accepts isCorrection state (bucketStart tick.eventTime seconds) = true) :
    ∃ bucket, (heed timeframe seconds isCorrection state tick).1 = some bucket ∧
      bucket.openEpoch = bucketStart tick.eventTime seconds := by
  simp only [heed]
  cases held : state.1 with
  | none => exact ⟨_, rfl, rfl⟩
  | some cur =>
    dsimp only
    split
    · exact ⟨_, rfl, rfl⟩
    · next notBefore =>
      split
      · next behind =>
        cases isCorrection with
        | true => exact ⟨_, rfl, rfl⟩
        | false =>
          simp only [accepts, held, Option.all_some, Bool.false_or, decide_eq_true_eq] at taken
          exact absurd taken (not_le.mpr behind)
      · next notBehind => exact ⟨_, rfl, le_antisymm (not_lt.mp notBehind) (not_lt.mp notBefore)⟩

theorem run_named {t : CandleFeed} (named : s.aggregator.Named)
    (run : exec (CandleFeed.step timeframes) s events = some t) :
    t.aggregator.Named := by
  induction events generalizing s with
  | nil =>
    cases run
    exact named
  | cons event rest ih =>
    obtain ⟨middle, taken, later⟩ := exec_cons_inv run
    apply ih _ later
    rw [← Option.some.inj taken]
    exact CandleFeed.next_named named event

theorem new_named : ({} : CandleFeed).aggregator.Named := by
  rintro _ _ ⟨⟩

theorem update_receives (run : exec (CandleFeed.step timeframes) {} events = some s)
    (member : timeframe ∈ timeframes.names) (taken : s.takes timeframes tick isCorrection timeframe = true) :
    ∃ bucket, ((s.next timeframes (.update tick isCorrection)).viewOf tick timeframe).1 = some bucket ∧
      bucket.openEpoch = bucketStart tick.eventTime (timeframes.duration timeframe) := by
  rw [CandleFeed.view_update (run_named new_named run) member]
  exact heed_receives taken

/-- The tick of an instant, and what it is received in by an aggregator that has seen nothing. -/
def tickAt (instant : ℚ) : MarketTick := ⟨⟨"RELIANCE", "NSE"⟩, 100, instant, 1⟩

theorem takes_first (instant : ℚ) : ({} : CandleFeed).takes timeframes (tickAt instant) false timeframe = true := rfl

/-- Two ticks of one bucket, with nothing before them, are both accepted. -/
theorem accepted_both (member : timeframe ∈ timeframes.names) {instant later : ℚ}
    (same : bucketStart instant (timeframes.duration timeframe) = bucketStart later (timeframes.duration timeframe)) :
    ∃ s, exec (CandleFeed.step timeframes) {} [.update (tickAt instant) false, .update (tickAt later) false] = some s ∧
      s.accepted "RELIANCE:NSE" timeframe = [tickAt instant, tickAt later] := by
  let first := ({} : CandleFeed).next timeframes (.update (tickAt instant) false)
  have seen : first.viewOf (tickAt later) timeframe = _ :=
    @CandleFeed.view_update timeframes {} (tickAt instant) false timeframe new_named member
  have taken : accepts false (first.viewOf (tickAt later) timeframe)
      (bucketStart (tickAt later).eventTime (timeframes.duration timeframe)) = true := by
    rw [seen]
    exact decide_eq_true same.le
  have second := (@CandleFeed.accepted_update timeframes first (tickAt later) false timeframe).trans (if_pos taken)
  exact ⟨_, rfl, second⟩

/-- Half an hour is what a day and the offset of the zone have in common. -/
theorem half_hour (divides : seconds ∣ 86400) (shifts : seconds ∣ istOffset) : seconds ∣ 1800 := by
  have both := dvd_sub (shifts.mul_left 35) (divides.mul_left 8)
  norm_num [istOffset] at both
  exact both

/-- A timeframe whose duration divides a day keeps to the wall clock exactly where the duration divides half an
hour. -/
theorem wall_clock_iff (member : timeframe ∈ timeframes.names) (divides : timeframes.duration timeframe ∣ 86400) :
    WallClock timeframes timeframe ↔ timeframes.duration timeframe ∣ 1800 := by
  have positive := timeframes.positive timeframe member
  have daily : timeframes.duration timeframe ∣ daySeconds := divides
  constructor
  · intro clock
    -- The bucket of the epoch opens at the epoch, five and a half hours after midnight.
    have run : exec (CandleFeed.step timeframes) {} [] = some {} := rfl
    obtain ⟨bucket, received, opened⟩ := update_receives run member (takes_first 0)
    have aligned := clock.opens [] {} rfl (tickAt 0) false bucket (takes_first 0) received
    rw [opened] at aligned
    have shifts : timeframes.duration timeframe ∣ istOffset := (Grid.aligned_iff daily (0 : ℚ) _).mp aligned
    exact half_hour divides shifts
  · intro half
    have shifts : timeframes.duration timeframe ∣ istOffset := half.trans (by decide)
    constructor
    · intro events s run tick isCorrection bucket taken received
      obtain ⟨other, received', opened⟩ := update_receives run member taken
      rw [received] at received'
      rw [Option.some.inj received', opened]
      exact (Grid.aligned_iff daily tick.eventTime _).mpr shifts
    · intro events s run tick isCorrection taken
      obtain ⟨bucket, received, opened⟩ := update_receives run member taken
      refine ⟨bucket, received, ?_, ?_⟩
      · rw [opened]
        exact Grid.start_le positive tick.eventTime
      · rw [opened]
        exact Grid.lt_start_add positive tick.eventTime
    · intro events s run symbolKey tick _ later _ same
      exact Grid.cell_of_start positive (by decide) daily shifts same

theorem wall_clock_fiveMinutes : WallClock oneAndFive "5m" :=
  (wall_clock_iff (by decide) (by decide)).mpr (by decide)

/-- Where the duration does not divide half an hour, some bucket holds ticks of two days. -/
theorem days_share_a_bucket (member : timeframe ∈ timeframes.names) (divides : timeframes.duration timeframe ∣ 86400)
    (uneven : ¬timeframes.duration timeframe ∣ 1800) :
    ∃ instant later : ℚ, istDay instant ≠ istDay later ∧
      bucketStart instant (timeframes.duration timeframe) = bucketStart later (timeframes.duration timeframe) ∧
      ∃ s,
        exec (CandleFeed.step timeframes) {} [.update (tickAt instant) false, .update (tickAt later) false] = some s ∧
        s.accepted "RELIANCE:NSE" timeframe = [tickAt instant, tickAt later] := by
  have positive := timeframes.positive timeframe member
  have apart : ¬timeframes.duration timeframe ∣ istOffset := by
    intro shifts
    exact uneven (half_hour divides shifts)
  have dayPositive : 0 < daySeconds := by decide
  obtain ⟨instant, later, same, differs⟩ :=
    @Grid.cell_parted ℚ _ _ _ _ (timeframes.duration timeframe) daySeconds istOffset positive dayPositive apart
  exact ⟨instant, later, differs, same, accepted_both member same⟩

/-- A timeframe of one hour. -/
def hourly : Timeframes where
  names := ["1h"]
  duration := fun _ => 3600
  distinct := by decide
  positive := by decide

example : (Timeframes.ofNames ["1h"]).toOption.map (fun read => read.duration "1h") = some (hourly.duration "1h") := by
  decide +kernel

/-- An hour that opens at the epoch opens at half past five. -/
theorem hour_opens_at_half_past : ¬ ∀ (timeframes : Timeframes) (timeframe : String),
    timeframe ∈ timeframes.names → timeframes.duration timeframe ∣ 86400 → WallClock timeframes timeframe := by
  intro claim
  have clock := claim hourly "1h" (by decide) (by decide)
  have received : ((({} : CandleFeed).next hourly (.update (tickAt 0) false)).viewOf (tickAt 0) "1h").1 =
      some ⟨"RELIANCE", "NSE", 0, 100, 100, 100, 100, 1, 1⟩ := by decide +kernel
  exact absurd (clock.opens [] {} rfl (tickAt 0) false _ rfl received) (by decide +kernel)

end

end TradeX.V1.Streaming
