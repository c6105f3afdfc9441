import TradeX.Lib.Runs
import TradeX.V1.CandleAggregator

/-! Late ticks and corrections. Ticks come in any order, marked as corrections or not, and the aggregator is
flushed anywhere between them. A tick is dropped where its bucket lies before the open one and it is no
correction; every other tick is accepted. What the aggregator shows of a bucket is the bucket itself while it is
open, and else the last bar that was emitted for it. -/

namespace TradeX.V1.Streaming

open Lib History

namespace LiveBar

variable {timeframe : String} {seconds : ℤ} {ticks : List MarketTick}

/-- The bar of the ticks of a bucket in their order, if there are any. -/
def ofTicks (timeframe : String) (seconds : ℤ) : List MarketTick → Option LiveBar
  | [] => none
  | tick :: later => some ((later.map (ofTick timeframe seconds)).foldl join (ofTick timeframe seconds tick))

theorem ofTicks_tells {bar : LiveBar} (built : ofTicks timeframe seconds ticks = some bar) : bar.Tells ticks := by
  cases ticks with
  | nil => cases built
  | cons tick later =>
    rw [← Option.some.inj built]
    exact (ofTick_tells timeframe seconds tick).foldl timeframe seconds later

theorem ofTicks_eq_none : ofTicks timeframe seconds ticks = none ↔ ticks = [] := by
  cases ticks with
  | nil => exact iff_of_true rfl rfl
  | cons tick later => exact iff_of_false nofun nofun

theorem ofTicks_concat {bar : LiveBar} (built : ofTicks timeframe seconds ticks = some bar) (tick : MarketTick) :
    ofTicks timeframe seconds (ticks ++ [tick]) = some (bar.join (ofTick timeframe seconds tick)) := by
  cases ticks with
  | nil => cases built
  | cons first later =>
    rw [← Option.some.inj built]
    simp only [List.cons_append, ofTicks, List.map_append, List.map_cons, List.map_nil, List.foldl_append,
      List.foldl_cons, List.foldl_nil]

/-- The bar of a tick alone is the bar of the ticks up to it exactly where there are no others. -/
theorem ofTick_alone_iff {tick : MarketTick} :
    some (ofTick timeframe seconds tick) = ofTicks timeframe seconds (ticks ++ [tick]) ↔
      ofTicks timeframe seconds ticks = none := by
  rw [ofTicks_eq_none]
  constructor
  · intro alone
    have counted := (ofTicks_tells alone.symm).tickCount
    have one : (ofTick timeframe seconds tick).tickCount = 1 := rfl
    rw [one, List.length_append, List.length_singleton] at counted
    apply List.eq_nil_of_length_eq_zero
    omega
  · rintro rfl
    rfl

end LiveBar

/-- What the last emitted bar of a bucket is. -/
def lastEmitted (bars : List LiveBar) (start : ℤ) : Option LiveBar :=
  (bars.filter fun bar => bar.eventTime = start).getLast?

theorem lastEmitted_concat {bars : List LiveBar} {bar : LiveBar} {start : ℤ} :
    lastEmitted (bars ++ [bar]) start = if bar.eventTime = start then some bar else lastEmitted bars start := by
  by_cases same : bar.eventTime = start
  · simp [lastEmitted, List.filter_append, same]
  · simp [lastEmitted, List.filter_append, same]

namespace CandleAggregator

/-- What is shown of a bucket to one symbol and timeframe. -/
def shown (timeframe : String) (seconds : ℤ) (state : Option Bucket × List LiveBar) (start : ℤ) : Option LiveBar :=
  match state.1 with
  | none => lastEmitted state.2 start
  | some cur => if cur.openEpoch = start then some (cur.toBar timeframe seconds) else lastEmitted state.2 start

/-- A tick of the bucket is taken in, where it is a correction or the open bucket is no later one. -/
def accepts (isCorrection : Bool) (state : Option Bucket × List LiveBar) (start : ℤ) : Bool :=
  isCorrection || state.1.all fun cur => cur.openEpoch ≤ start

/-- Every bucket is shown as the aggregation of its ticks. -/
def Aggregates (timeframe : String) (seconds : ℤ) (state : Option Bucket × List LiveBar) (ticks : List MarketTick) :
    Prop :=
  ∀ start, shown timeframe seconds state start =
    LiveBar.ofTicks timeframe seconds (ticks.filter fun tick => bucketStart tick.eventTime seconds = start)

/-- A correction that targets a bucket before the open one leaves that as it is. -/
def SparesOpen (isCorrection : Bool) (start : ℤ) (state after : Option Bucket × List LiveBar) : Prop :=
  ∀ cur, state.1 = some cur → isCorrection = true → start < cur.openEpoch → after.1 = some cur

/-- The tick opens no bucket of which a bar was emitted, and no correction targets a bucket before the open one. -/
def OpensFresh (isCorrection : Bool) (start : ℤ) (state : Option Bucket × List LiveBar) : Prop :=
  match state.1 with
  | none => lastEmitted state.2 start = none
  | some cur =>
    (cur.openEpoch < start → lastEmitted state.2 start = none) ∧ (start < cur.openEpoch → isCorrection = false)

section

variable {timeframe : String} {seconds start : ℤ} {isCorrection : Bool} {state after : Option Bucket × List LiveBar}
  {tick : MarketTick} {ticks : List MarketTick} {bars : List LiveBar} {bucket cur : Bucket}

theorem shown_putView : shown timeframe seconds (putView timeframe seconds isCorrection bars bucket) start =
    if bucket.openEpoch = start then some (bucket.toBar timeframe seconds) else lastEmitted bars start := by
  cases isCorrection with
  | false => rfl
  | true =>
    simp only [shown, putView, if_true, lastEmitted_concat]
    split
    · rfl
    · next other => exact if_neg other

/-- A tick more changes what is to be shown of its own bucket only. -/
theorem aggregates_concat_iff (others : ∀ other, other ≠ bucketStart tick.eventTime seconds →
      shown timeframe seconds after other =
        LiveBar.ofTicks timeframe seconds (ticks.filter fun tick => bucketStart tick.eventTime seconds = other)) :
    Aggregates timeframe seconds after (ticks ++ [tick]) ↔
      shown timeframe seconds after (bucketStart tick.eventTime seconds) = LiveBar.ofTicks timeframe seconds
        ((ticks.filter fun earlier => bucketStart earlier.eventTime seconds = bucketStart tick.eventTime seconds) ++
          [tick]) := by
  constructor
  · intro aggregates
    have here := aggregates (bucketStart tick.eventTime seconds)
    simpa [List.filter_append] using here
  · intro here start
    by_cases own : start = bucketStart tick.eventTime seconds
    · subst own
      simpa [List.filter_append] using here
    · have apart : bucketStart tick.eventTime seconds ≠ start := fun same => own same.symm
      simpa [List.filter_append, apart] using others start own

/-- A bucket that is opened for a tick is the aggregation of its ticks exactly where nothing was shown of it. -/
theorem opens_iff (aggregates : Aggregates timeframe seconds state ticks)
    (closed : shown timeframe seconds state (bucketStart tick.eventTime seconds) =
      lastEmitted state.2 (bucketStart tick.eventTime seconds))
    (others : ∀ other, other ≠ bucketStart tick.eventTime seconds →
      lastEmitted bars other = shown timeframe seconds state other) :
    Aggregates timeframe seconds (putView timeframe seconds isCorrection bars
        (.ofTick tick (bucketStart tick.eventTime seconds))) (ticks ++ [tick]) ↔
      lastEmitted state.2 (bucketStart tick.eventTime seconds) = none := by
  have opened : (Bucket.ofTick tick (bucketStart tick.eventTime seconds)).openEpoch =
      bucketStart tick.eventTime seconds := rfl
  rw [aggregates_concat_iff]
  · rw [shown_putView, if_pos opened, ← closed, aggregates]
    exact LiveBar.ofTick_alone_iff
  · intro other apart
    rw [shown_putView, opened, if_neg fun same => apart same.symm, others other apart]
    exact aggregates other

/-- A tick of the open bucket keeps it the aggregation of its ticks. -/
theorem add_aggregates (aggregates : Aggregates timeframe seconds state ticks) (held : state.1 = some cur)
    (own : cur.openEpoch = bucketStart tick.eventTime seconds) :
    Aggregates timeframe seconds (putView timeframe seconds isCorrection state.2 (cur.add tick)) (ticks ++ [tick]) := by
  have opened : (cur.add tick).openEpoch = bucketStart tick.eventTime seconds := own
  have before := aggregates (bucketStart tick.eventTime seconds)
  simp only [shown, held, if_pos own] at before
  rw [aggregates_concat_iff]
  · rw [shown_putView, if_pos opened, LiveBar.ofTicks_concat before.symm,
      Bucket.add_eq cur tick (bucketStart tick.eventTime seconds)]
    rfl
  · intro other apart
    have elsewhere : ¬bucketStart tick.eventTime seconds = other := fun same => apart same.symm
    have kept := aggregates other
    simp only [shown, held, own, if_neg elsewhere] at kept
    rw [shown_putView, opened, if_neg elsewhere, kept]

/-- A tick keeps the buckets the aggregations of their ticks and spares the open one exactly where it opens no
bucket again. -/
theorem heed_iff (aggregates : Aggregates timeframe seconds state ticks) :
    (Aggregates timeframe seconds (heed timeframe seconds isCorrection state tick)
        (if accepts isCorrection state (bucketStart tick.eventTime seconds) then ticks ++ [tick] else ticks) ∧
      SparesOpen isCorrection (bucketStart tick.eventTime seconds) state
        (heed timeframe seconds isCorrection state tick)) ↔
      OpensFresh isCorrection (bucketStart tick.eventTime seconds) state := by
  cases held : state.1 with
  | none =>
    have spared : SparesOpen isCorrection (bucketStart tick.eventTime seconds) state
        (heed timeframe seconds isCorrection state tick) := by
      intro cur found
      rw [held] at found
      cases found
    have taken : accepts isCorrection state (bucketStart tick.eventTime seconds) = true := by
      simp only [accepts, held, Option.all_none, Bool.or_true]
    rw [and_iff_left spared, if_pos taken]
    simp only [heed, OpensFresh, held]
    apply opens_iff aggregates
    · simp only [shown, held]
    · intro other _
      simp only [shown, held]
  | some cur =>
    rcases lt_trichotomy cur.openEpoch (bucketStart tick.eventTime seconds) with before | own | behind
    · have spared : SparesOpen isCorrection (bucketStart tick.eventTime seconds) state
          (heed timeframe seconds isCorrection state tick) := by
        intro found same _ late
        rw [held] at same
        cases same
        exact absurd late (not_lt.mpr before.le)
      have taken : accepts isCorrection state (bucketStart tick.eventTime seconds) = true := by
        simp only [accepts, held, Option.all_some, decide_eq_true before.le, Bool.or_true]
      rw [and_iff_left spared, if_pos taken]
      simp only [heed, OpensFresh, held, if_pos before, forall_prop_of_true before, not_lt.mpr before.le,
        false_implies, and_true]
      apply opens_iff aggregates
      · simp only [shown, held, if_neg before.ne]
      · intro other _
        rw [lastEmitted_concat]
        simp only [shown, held]
        rfl
    · have spared : SparesOpen isCorrection (bucketStart tick.eventTime seconds) state
          (heed timeframe seconds isCorrection state tick) := by
        intro found same _ late
        rw [held] at same
        cases same
        exact absurd late (not_lt.mpr own.le)
      have taken : accepts isCorrection state (bucketStart tick.eventTime seconds) = true := by
        simp only [accepts, held, Option.all_some, decide_eq_true own.le, Bool.or_true]
      rw [and_iff_left spared, if_pos taken]
      simp only [heed, OpensFresh, held, if_neg (not_lt.mpr own.le), if_neg (not_lt.mpr own.ge)]
      refine iff_of_true (add_aggregates aggregates held own) ⟨fun later => ?_, fun earlier => ?_⟩
      · exact absurd later (not_lt.mpr own.ge)
      · exact absurd earlier (not_lt.mpr own.le)
    · cases isCorrection with
      | false =>
        have dropped : ¬accepts false state (bucketStart tick.eventTime seconds) = true := by
          simp only [accepts, held, Option.all_some, Bool.false_or, decide_eq_true_eq, not_le]
          exact behind
        rw [if_neg dropped]
        have same : heed timeframe seconds false state tick = state := by
          simp only [heed, held, if_neg (not_lt.mpr behind.le), if_pos behind, Bool.false_eq_true, if_false]
        rw [same]
        simp only [OpensFresh, held]
        exact iff_of_true ⟨aggregates, fun _ _ correction => absurd correction Bool.false_ne_true⟩
          ⟨fun later => absurd later (not_lt.mpr behind.le), fun _ => trivial⟩
      | true =>
        apply iff_of_false
        · rintro ⟨-, spared⟩
          have kept := spared cur held rfl behind
          simp only [heed, held, if_neg (not_lt.mpr behind.le), if_pos behind, if_true, putView] at kept
          have same := congrArg Bucket.openEpoch (Option.some.inj kept)
          exact absurd same behind.ne
        · intro fresh
          simp only [OpensFresh, held] at fresh
          exact absurd (fresh.2 behind) (by decide)

/-- Nothing else is shown behind a flush. -/
theorem shown_shut :
    shown timeframe seconds (shut timeframe seconds state) start = shown timeframe seconds state start := by
  cases held : state.1 with
  | none => simp only [shown, shut, held, Option.toList_none, List.map_nil, List.append_nil]
  | some cur =>
    simp only [shown, shut, held, Option.toList_some, List.map_cons, List.map_nil, lastEmitted_concat]
    rfl

end

theorem flush_named (timeframes : Timeframes) {aggregator : CandleAggregator} (named : aggregator.Named) :
    (flush timeframes aggregator).Named := by
  simp only [flush]
  generalize timeframes.names = names
  induction names generalizing aggregator with
  | nil => exact named
  | cons name names ih => exact ih (view_flushOne timeframes "" "" name named).1

end CandleAggregator

inductive CandleEvent where
  | update (tick : MarketTick) (isCorrection : Bool)
  | flush
  deriving DecidableEq, Repr

/-- The aggregator, and what it does not keep: the ticks of a symbol that a timeframe has accepted. -/
structure CandleFeed where
  aggregator : CandleAggregator := {}
  accepted : String → String → List MarketTick := fun _ _ => []

namespace CandleFeed

open CandleAggregator

variable (timeframes : Timeframes)

/-- What a timeframe sees of the symbol of a tick. -/
def viewOf (s : CandleFeed) (tick : MarketTick) (timeframe : String) : Option Bucket × List LiveBar :=
  view tick.instrument.str timeframe s.aggregator

/-- The timeframe accepts the tick. -/
def takes (s : CandleFeed) (tick : MarketTick) (isCorrection : Bool) (timeframe : String) : Bool :=
  accepts isCorrection (s.viewOf tick timeframe) (bucketStart tick.eventTime (timeframes.duration timeframe))

def next (s : CandleFeed) : CandleEvent → CandleFeed
  | .update tick isCorrection => {
      aggregator := update timeframes tick isCorrection s.aggregator
      accepted := fun symbolKey timeframe =>
        if tick.instrument.str = symbolKey ∧ s.takes timeframes tick isCorrection timeframe then
          s.accepted symbolKey timeframe ++ [tick]
        else s.accepted symbolKey timeframe }
  | .flush => { s with aggregator := flush timeframes s.aggregator }

def step (s : CandleFeed) (event : CandleEvent) : Option CandleFeed := some (s.next timeframes event)

/-- Every bucket of every symbol and timeframe is shown as the aggregation of the ticks that were accepted in it. -/
def Aggregated (s : CandleFeed) : Prop :=
  ∀ symbolKey, ∀ timeframe ∈ timeframes.names,
    Aggregates timeframe (timeframes.duration timeframe) (view symbolKey timeframe s.aggregator)
      (s.accepted symbolKey timeframe)

/-- A correction that targets a bucket before the open one leaves that as it was, in every timeframe. -/
def Spares (s : CandleFeed) : CandleEvent → Prop
  | .update tick isCorrection => ∀ timeframe ∈ timeframes.names,
      SparesOpen isCorrection (bucketStart tick.eventTime (timeframes.duration timeframe)) (s.viewOf tick timeframe)
        ((s.next timeframes (.update tick isCorrection)).viewOf tick timeframe)
  | .flush => True

def Reconciles (s : CandleFeed) (event : CandleEvent) : Prop :=
  (s.next timeframes event).Aggregated timeframes ∧ s.Spares timeframes event

/-- The tick opens no bucket again, in any timeframe. -/
def FirstTime (s : CandleFeed) : CandleEvent → Prop
  | .update tick isCorrection => ∀ timeframe ∈ timeframes.names,
      OpensFresh isCorrection (bucketStart tick.eventTime (timeframes.duration timeframe)) (s.viewOf tick timeframe)
  | .flush => True

variable {timeframes} {s : CandleFeed} {tick : MarketTick} {isCorrection : Bool} {symbolKey timeframe : String}

theorem next_named (named : s.aggregator.Named) (event : CandleEvent) : (s.next timeframes event).aggregator.Named := by
  cases event with
  | update tick isCorrection => exact (view_updates isCorrection "" "" timeframes.distinct named).1
  | flush => exact flush_named timeframes named

theorem view_update (named : s.aggregator.Named) (member : timeframe ∈ timeframes.names) :
    (s.next timeframes (.update tick isCorrection)).viewOf tick timeframe =
      heed timeframe (timeframes.duration timeframe) isCorrection (s.viewOf tick timeframe) tick :=
  (view_updates isCorrection tick.instrument.str timeframe timeframes.distinct named).2.trans (if_pos ⟨rfl, member⟩)

theorem view_update_other (named : s.aggregator.Named) (other : tick.instrument.str ≠ symbolKey) :
    view symbolKey timeframe (s.next timeframes (.update tick isCorrection)).aggregator =
      view symbolKey timeframe s.aggregator :=
  (view_updates isCorrection symbolKey timeframe timeframes.distinct named).2.trans (if_neg fun both => other both.1)

theorem accepted_update (tick : MarketTick) (isCorrection : Bool) (timeframe : String) :
    (s.next timeframes (.update tick isCorrection)).accepted tick.instrument.str timeframe =
      if accepts isCorrection (s.viewOf tick timeframe)
          (bucketStart tick.eventTime (timeframes.duration timeframe)) then
        s.accepted tick.instrument.str timeframe ++ [tick]
      else s.accepted tick.instrument.str timeframe :=
  if_congr (and_iff_right rfl) rfl rfl

/-- In one timeframe a tick reconciles exactly where it opens no bucket again. -/
theorem timeframe_reconciles_iff (named : s.aggregator.Named) (aggregated : s.Aggregated timeframes)
    (tick : MarketTick) (isCorrection : Bool) (member : timeframe ∈ timeframes.names) :
    (Aggregates timeframe (timeframes.duration timeframe)
        ((s.next timeframes (.update tick isCorrection)).viewOf tick timeframe)
        ((s.next timeframes (.update tick isCorrection)).accepted tick.instrument.str timeframe) ∧
      SparesOpen isCorrection (bucketStart tick.eventTime (timeframes.duration timeframe)) (s.viewOf tick timeframe)
        ((s.next timeframes (.update tick isCorrection)).viewOf tick timeframe)) ↔
      OpensFresh isCorrection (bucketStart tick.eventTime (timeframes.duration timeframe))
        (s.viewOf tick timeframe) := by
  rw [view_update named member, accepted_update]
  exact heed_iff (aggregated tick.instrument.str timeframe member)

/-- One event reconciles exactly where it opens no bucket again. -/
theorem next_reconciles_iff (named : s.aggregator.Named) (aggregated : s.Aggregated timeframes) (event : CandleEvent) :
    s.Reconciles timeframes event ↔ s.FirstTime timeframes event := by
  cases event with
  | update tick isCorrection =>
    constructor
    · rintro ⟨aggregates, spares⟩ timeframe member
      exact (timeframe_reconciles_iff named aggregated tick isCorrection member).mp
        ⟨aggregates tick.instrument.str timeframe member, spares timeframe member⟩
    · intro fresh
      have each := fun timeframe member =>
        (timeframe_reconciles_iff named aggregated tick isCorrection member).mpr (fresh timeframe member)
      refine ⟨fun symbolKey timeframe member => ?_, fun timeframe member => (each timeframe member).2⟩
      by_cases own : tick.instrument.str = symbolKey
      · subst own
        exact (each timeframe member).1
      · have kept : (s.next timeframes (.update tick isCorrection)).accepted symbolKey timeframe =
            s.accepted symbolKey timeframe := if_neg fun both => own both.1
        rw [view_update_other named own, kept]
        exact aggregated symbolKey timeframe member
  | flush =>
    refine iff_of_true ⟨fun symbolKey timeframe member => ?_, trivial⟩ trivial
    have closed : view symbolKey timeframe (flush timeframes s.aggregator) = _ :=
      (view_flushes timeframes symbolKey timeframe timeframes.distinct named).trans (if_pos member)
    intro start
    simp only [next]
    rw [closed, shown_shut]
    exact aggregated symbolKey timeframe member start

/-- What a run keeps while its events reconcile. -/
def Sound (timeframes : Timeframes) (s : CandleFeed) : Prop := s.aggregator.Named ∧ s.Aggregated timeframes

theorem sound_new : ({} : CandleFeed).Sound timeframes := by
  refine ⟨?_, fun symbolKey timeframe _ start => rfl⟩
  rintro _ _ ⟨⟩

theorem Sound.step (sound : s.Sound timeframes) {event : CandleEvent} {t : CandleFeed}
    (reconciles : s.Reconciles timeframes event) (taken : step timeframes s event = some t) : t.Sound timeframes := by
  rw [← Option.some.inj taken]
  exact ⟨next_named sound.1 event, reconciles.1⟩

/-- In every run all buckets are the aggregations of their ticks, and no correction touches a later bucket,
exactly where no step opens a bucket again. -/
theorem candles_reconcile_iff (timeframes : Timeframes) (events : List CandleEvent) :
    Meets (step timeframes) (Reconciles timeframes) {} events ↔
      Meets (step timeframes) (FirstTime timeframes) {} events := by
  have agree : ∀ (s : CandleFeed) event, s.Sound timeframes →
      (s.Reconciles timeframes event ↔ s.FirstTime timeframes event) :=
    fun s event sound => next_reconciles_iff sound.1 sound.2 event
  have preserved : ∀ (s : CandleFeed) event t, s.Sound timeframes → s.Reconciles timeframes event →
      step timeframes s event = some t → t.Sound timeframes :=
    fun s event t sound reconciles taken => sound.step reconciles taken
  exact meets_iff agree preserved sound_new

/-- Behind a flush nothing is open, and where the run before it opened no bucket again the last bar of every
bucket is the aggregation of its ticks. -/
theorem flushed_bars {events : List CandleEvent} {t : CandleFeed}
    (first : Meets (step timeframes) (FirstTime timeframes) {} events)
    (run : exec (step timeframes) {} (events ++ [.flush]) = some t) (member : timeframe ∈ timeframes.names)
    (start : ℤ) : (view symbolKey timeframe t.aggregator).1 = none ∧
      lastEmitted (t.aggregator.barsOf symbolKey timeframe) start =
        LiveBar.ofTicks timeframe (timeframes.duration timeframe) ((t.accepted symbolKey timeframe).filter fun tick =>
          bucketStart tick.eventTime (timeframes.duration timeframe) = start) := by
  obtain ⟨before, ran, last⟩ := exec_append_inv run
  have preserved : ∀ (s : CandleFeed) event t, s.Sound timeframes → s.FirstTime timeframes event →
      step timeframes s event = some t → t.Sound timeframes :=
    fun s event t sound fresh taken => sound.step ((next_reconciles_iff sound.1 sound.2 event).mpr fresh) taken
  have sound := exec_invariant preserved sound_new first ran
  have flushed : before.next timeframes .flush = t := Option.some.inj last
  subst flushed
  have closed : view symbolKey timeframe (flush timeframes before.aggregator) = _ :=
    (view_flushes timeframes symbolKey timeframe timeframes.distinct sound.1).trans (if_pos member)
  have behind := ((next_reconciles_iff sound.1 sound.2 .flush).mpr trivial).1 symbolKey timeframe member start
  have empty : (view symbolKey timeframe (flush timeframes before.aggregator)).1 = none := by
    rw [closed]
    rfl
  refine ⟨empty, ?_⟩
  rw [← behind]
  simp only [shown, next, empty]
  rfl

instance (isCorrection : Bool) (start : ℤ) : DecidablePred (OpensFresh isCorrection start)
  | (none, bars) => inferInstanceAs (Decidable (lastEmitted bars start = none))
  | (some _, _) => inferInstanceAs (Decidable (_ ∧ _))

instance (s : CandleFeed) : DecidablePred (s.FirstTime timeframes)
  | .update _ _ => inferInstanceAs (Decidable (∀ timeframe ∈ timeframes.names, _))
  | .flush => isTrue trivial

/-- A tick, and a correction of the bucket that is open. -/
def correctedInTime : List CandleEvent :=
  [.update ⟨⟨"RELIANCE", "NSE"⟩, 100, 300, 1⟩ false, .update ⟨⟨"RELIANCE", "NSE"⟩, 105, 330, 2⟩ true]

theorem flushed_bars_corrected : ∃ t, exec (step oneAndFive) {} (correctedInTime ++ [.flush]) = some t ∧
    lastEmitted (t.aggregator.barsOf "RELIANCE:NSE" "1m") 300 =
      some ⟨⟨"RELIANCE", "NSE"⟩, "1m", 300, 360, 100, 105, 100, 105, 3, 2⟩ := by
  obtain ⟨t, run⟩ := Option.isSome_iff_exists.mp
    (show (exec (step oneAndFive) {} (correctedInTime ++ [.flush])).isSome by rfl)
  have minute : "1m" ∈ oneAndFive.names := List.mem_cons_self
  have bars : lastEmitted (t.aggregator.barsOf "RELIANCE:NSE" "1m") 300 = _ :=
    (flushed_bars (by decide +kernel) run minute 300).2
  refine ⟨t, run, bars.trans ?_⟩
  obtain rfl := Option.some.inj run
  decide +kernel

/-- The events that a symbol is told of: its own ticks, and the flushes. -/
def concerns (symbolKey : String) : CandleEvent → Bool
  | .update tick _ => tick.instrument.str = symbolKey
  | .flush => true

theorem view_next (named : s.aggregator.Named) (symbolKey timeframe : String) (event : CandleEvent) :
    view symbolKey timeframe (s.next timeframes event).aggregator =
      match event with
      | .update tick isCorrection =>
        if tick.instrument.str = symbolKey ∧ timeframe ∈ timeframes.names then
          heed timeframe (timeframes.duration timeframe) isCorrection (view symbolKey timeframe s.aggregator) tick
        else view symbolKey timeframe s.aggregator
      | .flush =>
        if timeframe ∈ timeframes.names then
          shut timeframe (timeframes.duration timeframe) (view symbolKey timeframe s.aggregator)
        else view symbolKey timeframe s.aggregator := by
  cases event with
  | update tick isCorrection => exact (view_updates isCorrection symbolKey timeframe timeframes.distinct named).2
  | flush => exact view_flushes timeframes symbolKey timeframe timeframes.distinct named

theorem view_same {t : CandleFeed} (named : s.aggregator.Named) (named' : t.aggregator.Named)
    (same : view symbolKey timeframe s.aggregator = view symbolKey timeframe t.aggregator)
    (events : List CandleEvent) :
    view symbolKey timeframe (events.foldl (next timeframes) s).aggregator =
      view symbolKey timeframe ((events.filter (concerns symbolKey)).foldl (next timeframes) t).aggregator := by
  induction events generalizing s t with
  | nil => exact same
  | cons event events ih =>
    by_cases told : concerns symbolKey event = true
    · rw [List.filter_cons_of_pos told, List.foldl_cons, List.foldl_cons]
      apply ih (next_named named event) (next_named named' event)
      rw [view_next named, view_next named', same]
    · rw [List.filter_cons_of_neg told, List.foldl_cons]
      apply ih (next_named named event) named'
      rw [← same, view_next named]
      cases event with
      | update tick isCorrection => exact if_neg fun both => told (decide_eq_true both.1)
      | flush => exact absurd rfl told

/-- In every run the open bucket and the bars of a symbol are those of its own ticks alone, whatever comes for other
symbols between them. -/
theorem symbols_apart (timeframes : Timeframes) (symbolKey timeframe : String) (events : List CandleEvent) :
    view symbolKey timeframe (events.foldl (next timeframes) {}).aggregator =
      view symbolKey timeframe ((events.filter (concerns symbolKey)).foldl (next timeframes) {}).aggregator := by
  have named : ({} : CandleFeed).aggregator.Named := by
    rintro _ _ ⟨⟩
  exact view_same named named rfl events

/-- Ticks of two minutes, and then a correction of the first. -/
def corrected : List CandleEvent :=
  [.update ⟨⟨"RELIANCE", "NSE"⟩, 100, 300, 1⟩ false, .update ⟨⟨"RELIANCE", "NSE"⟩, 110, 360, 1⟩ false,
    .update ⟨⟨"RELIANCE", "NSE"⟩, 105, 330, 2⟩ true]

/-- The correction takes the place of the open bucket, whose tick is then in no bar. -/
theorem correction_loses_open_bucket : ¬ ∀ (timeframes : Timeframes) (events : List CandleEvent),
    Meets (step timeframes) (Reconciles timeframes) {} events := by
  intro claim
  obtain ⟨-, -, third, -⟩ := claim oneAndFive corrected
  have open_before := third.2 "1m" (by decide) ⟨"RELIANCE", "NSE", 360, 110, 110, 110, 110, 1, 1⟩
  exact absurd (open_before (by decide +kernel) rfl (by decide +kernel)) (by decide +kernel)

end CandleFeed

end TradeX.V1.Streaming
