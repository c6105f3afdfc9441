import TradeX.Lib.Batching
import TradeX.Lib.KeyedFold
import TradeX.Lib.Numerals
import TradeX.V1.ChunkPlanner

/-! The aggregator of live ticks: a bucket for each symbol and timeframe is advanced by the ticks of the
symbol and emitted as a bar when a later bucket starts. Floats are exact, times are instants in seconds, and
the provenance of a bar, which carries the wall clock, is left out. -/

namespace TradeX.V1.Streaming

open Lib History

structure MarketTick where
  instrument : InstrumentRef
  ltp : ℚ
  eventTime : ℚ
  volume : ℤ
  deriving DecidableEq, Repr

/-- `HistoricalBar.from_live_bucket`. -/
structure LiveBar where
  instrument : InstrumentRef
  timeframe : String
  eventTime : ℤ
  closeTime : ℤ
  openPrice : ℚ
  high : ℚ
  low : ℚ
  close : ℚ
  volume : ℤ
  tickCount : ℕ
  deriving DecidableEq, Repr

inductive TimeframeError where
  | empty
  | unknownUnit (timeframe : String)
  | invalidMagnitude (timeframe : String)
  | nonPositive (timeframe : String)
  | noTimeframe
  deriving DecidableEq, Repr

def fixedTimeframes : List (String × ℤ) :=
  [("1m", 60), ("2m", 120), ("5m", 300), ("10m", 600), ("15m", 900), ("30m", 1800), ("1h", 3600), ("2h", 7200),
    ("4h", 14400), ("6h", 21600), ("12h", 43200), ("1d", 86400), ("1w", 604800)]

def suffixSeconds : List (Char × ℤ) := [('s', 1), ('m', 60), ('h', 3600), ('d', 86400), ('w', 604800)]

/-- `int(text)`: blanks at the ends, a sign, and single underscores between digits are passed over. -/
def readInt (chars : List Char) : Option ℤ :=
  let stripped := (Text.strip (String.ofList chars)).toList
  let digits := match stripped with
    | '+' :: rest => rest
    | '-' :: rest => rest
    | rest => rest
  if (digits.splitOn '_').all (fun piece => piece ≠ []) then Decimal.readInteger (stripped.filter fun c => c ≠ '_')
  else none

def parseTimeframe (given : String) : Except TimeframeError ℤ :=
  let timeframe := String.ofList (Text.lower (Text.strip given))
  match fixedTimeframes.lookup timeframe with
  | some seconds => .ok seconds
  | none => match timeframe.toList.getLast? with
    | none => .error .empty
    | some unit => match suffixSeconds.lookup unit with
      | none => .error (.unknownUnit timeframe)
      | some seconds => match readInt timeframe.toList.dropLast with
        | none => .error (.invalidMagnitude timeframe)
        | some n => if n ≤ 0 then .error (.nonPositive timeframe) else .ok (n * seconds)

theorem fixedTimeframes_positive : ∀ entry ∈ fixedTimeframes, 0 < entry.2 := by decide

theorem suffixSeconds_positive : ∀ entry ∈ suffixSeconds, 0 < entry.2 := by decide

theorem lookup_mem {κ : Type} [DecidableEq κ] {entries : List (κ × ℤ)} {key : κ} {value : ℤ}
    (found : entries.lookup key = some value) : ∃ entry ∈ entries, entry.2 = value := by
  induction entries with
  | nil => cases found
  | cons entry rest ih =>
    rw [List.lookup_cons] at found
    split at found
    · exact ⟨entry, List.mem_cons_self, Option.some.inj found⟩
    · obtain ⟨other, member, same⟩ := ih found
      exact ⟨other, List.mem_cons_of_mem _ member, same⟩

/-- A timeframe that is read has a positive duration. -/
theorem parseTimeframe_positive {given : String} {seconds : ℤ} (read : parseTimeframe given = .ok seconds) :
    0 < seconds := by
  simp only [parseTimeframe] at read
  split at read
  · next value found =>
    cases read
    obtain ⟨entry, member, rfl⟩ := lookup_mem found
    exact fixedTimeframes_positive entry member
  · split at read
    · cases read
    · split at read
      · cases read
      · next value found =>
        split at read
        · cases read
        · next n _ =>
          split at read
          · cases read
          · next positive =>
            cases read
            obtain ⟨entry, member, rfl⟩ := lookup_mem found
            exact Int.mul_pos (not_le.mp positive) (suffixSeconds_positive entry member)

/-- The timeframes of an aggregator: each once, with its duration. -/
structure Timeframes where
  names : List String
  duration : String → ℤ
  distinct : names.Nodup
  positive : ∀ timeframe ∈ names, 0 < duration timeframe

/-- `tuple(dict.fromkeys(timeframes))` with the durations, of a list that names a timeframe. -/
def Timeframes.ofNames (given : List String) : Except TimeframeError Timeframes :=
  let once := given.foldl (fun seen timeframe => seen.set timeframe ()) (Dict.empty : Dict String Unit)
  if once.keys = [] then .error .noTimeframe
  else if readable : ∀ timeframe ∈ once.keys, (parseTimeframe timeframe).isOk = true then
    .ok {
      names := once.keys
      duration := fun timeframe => ((parseTimeframe timeframe).toOption).getD 1
      distinct := once.nodup
      positive := by
        intro timeframe member
        have isRead := readable timeframe member
        cases read : parseTimeframe timeframe with
        | error error => simp [read, Except.isOk, Except.toBool] at isRead
        | ok seconds => exact parseTimeframe_positive read }
  else match once.keys.filterMap fun timeframe => match parseTimeframe timeframe with
      | .error error => some error
      | .ok _ => none with
    | error :: _ => .error error
    | [] => .error .noTimeframe

/-- `_bucket_bounds`; the epoch time of an instant does not depend on its zone. -/
def bucketStart (eventTime : ℚ) (seconds : ℤ) : ℤ := ⌊eventTime / seconds⌋ * seconds

structure Bucket where
  symbol : String
  exchange : String
  openEpoch : ℤ
  openPrice : ℚ
  high : ℚ
  low : ℚ
  close : ℚ
  volume : ℤ
  tickCount : ℕ
  deriving DecidableEq, Repr

namespace Bucket

def ofTick (tick : MarketTick) (openEpoch : ℤ) : Bucket where
  symbol := tick.instrument.symbol
  exchange := tick.instrument.exchange
  openEpoch := openEpoch
  openPrice := tick.ltp
  high := tick.ltp
  low := tick.ltp
  close := tick.ltp
  volume := tick.volume
  tickCount := 1

def add (bucket : Bucket) (tick : MarketTick) : Bucket := { bucket with
  high := if bucket.high < tick.ltp then tick.ltp else bucket.high
  low := if tick.ltp < bucket.low then tick.ltp else bucket.low
  close := tick.ltp
  volume := bucket.volume + tick.volume
  tickCount := bucket.tickCount + 1 }

def symbolKey (bucket : Bucket) : String := bucket.symbol ++ ":" ++ bucket.exchange

def toBar (bucket : Bucket) (timeframe : String) (seconds : ℤ) : LiveBar where
  instrument := ⟨bucket.symbol, bucket.exchange⟩
  timeframe := timeframe
  eventTime := bucket.openEpoch
  closeTime := bucket.openEpoch + seconds
  openPrice := bucket.openPrice
  high := bucket.high
  low := bucket.low
  close := bucket.close
  volume := bucket.volume
  tickCount := bucket.tickCount

end Bucket

/-- The open buckets, and the bars that the callback has got. -/
structure CandleAggregator where
  buckets : Dict (String × String) Bucket := .empty
  emitted : List LiveBar := []

namespace CandleAggregator

variable (timeframes : Timeframes)

def emit (aggregator : CandleAggregator) (bucket : Bucket) (timeframe : String) : CandleAggregator :=
  { aggregator with emitted := aggregator.emitted ++ [bucket.toBar timeframe (timeframes.duration timeframe)] }

def store (aggregator : CandleAggregator) (key : String × String) (bucket : Bucket) : CandleAggregator :=
  { aggregator with buckets := aggregator.buckets.set key bucket }

/-- The tick in the bucket of one timeframe. -/
def updateBucket (tick : MarketTick) (isCorrection : Bool) (aggregator : CandleAggregator) (timeframe : String) :
    CandleAggregator :=
  let start := bucketStart tick.eventTime (timeframes.duration timeframe)
  let key := (tick.instrument.str, timeframe)
  let put (aggregator : CandleAggregator) (bucket : Bucket) : CandleAggregator :=
    if isCorrection then (aggregator.store key bucket).emit timeframes bucket timeframe else aggregator.store key bucket
  match aggregator.buckets.get key with
  | none => put aggregator (.ofTick tick start)
  | some cur =>
    if cur.openEpoch < start then put (aggregator.emit timeframes cur timeframe) (.ofTick tick start)
    else if start < cur.openEpoch then
      if isCorrection then put aggregator (.ofTick tick start) else aggregator
    else put aggregator (cur.add tick)

def update (tick : MarketTick) (isCorrection : Bool) (aggregator : CandleAggregator) : CandleAggregator :=
  timeframes.names.foldl (updateBucket timeframes tick isCorrection) aggregator

/-- The bucket of a key is taken out and emitted. -/
def closeBucket (aggregator : CandleAggregator) (key : String × String) : CandleAggregator :=
  match aggregator.buckets.get key with
  | none => aggregator
  | some bucket => { aggregator with buckets := aggregator.buckets.pop key }.emit timeframes bucket key.2

def flush (aggregator : CandleAggregator) : CandleAggregator :=
  timeframes.names.foldl (fun aggregator timeframe =>
    (aggregator.buckets.keys.filter fun key => key.2 = timeframe).foldl (closeBucket timeframes) aggregator) aggregator

/-- The ticks without corrections, and the flush behind them. -/
def run (ticks : List MarketTick) : CandleAggregator :=
  flush timeframes (ticks.foldl (fun aggregator tick => update timeframes tick false aggregator) {})

/-- The bars emitted for a symbol and a timeframe. -/
def barsOf (symbolKey timeframe : String) (aggregator : CandleAggregator) : List LiveBar :=
  aggregator.emitted.filter fun bar => bar.instrument.str = symbolKey ∧ bar.timeframe = timeframe

end CandleAggregator

namespace Bucket

def join (bucket other : Bucket) : Bucket := { bucket with
  high := max bucket.high other.high
  low := min bucket.low other.low
  close := other.close
  volume := bucket.volume + other.volume
  tickCount := bucket.tickCount + other.tickCount }

def batching : Batching Bucket ℤ where
  key := openEpoch
  combine := join
  key_combine _ _ := rfl
  combine_assoc a b c := by simp only [join, max_assoc, min_assoc, add_assoc]

theorem add_eq (bucket : Bucket) (tick : MarketTick) (openEpoch : ℤ) :
    bucket.add tick = bucket.join (ofTick tick openEpoch) := by
  simp only [add, join, ofTick, max_def_lt, min_comm bucket.low, min_def_lt]

end Bucket

namespace LiveBar

def join (bar other : LiveBar) : LiveBar := { bar with
  high := max bar.high other.high
  low := min bar.low other.low
  close := other.close
  volume := bar.volume + other.volume
  tickCount := bar.tickCount + other.tickCount }

def batching : Batching LiveBar ℤ where
  key := eventTime
  combine := join
  key_combine _ _ := rfl
  combine_assoc a b c := by simp only [join, max_assoc, min_assoc, add_assoc]

/-- The bar as a part of the bar of a longer timeframe. -/
def under (timeframe : String) (seconds : ℤ) (bar : LiveBar) : LiveBar := { bar with
  timeframe := timeframe
  eventTime := bucketStart bar.eventTime seconds
  closeTime := bucketStart bar.eventTime seconds + seconds }

/-- The bars of a longer timeframe, aggregated from those of a shorter one. -/
def rollup (timeframe : String) (seconds : ℤ) (bars : List LiveBar) : List LiveBar :=
  batching.batches (bars.map (under timeframe seconds))

/-- The bar of one tick. -/
def ofTick (timeframe : String) (seconds : ℤ) (tick : MarketTick) : LiveBar :=
  (Bucket.ofTick tick (bucketStart tick.eventTime seconds)).toBar timeframe seconds

/-- The bar tells the first and the last, the highest and the lowest price of the ticks, their volume and number. -/
structure Tells (bar : LiveBar) (ticks : List MarketTick) : Prop where
  instrument : ticks.head?.map MarketTick.instrument = some bar.instrument
  openPrice : ticks.head?.map MarketTick.ltp = some bar.openPrice
  close : ticks.getLast?.map MarketTick.ltp = some bar.close
  high : (∃ tick ∈ ticks, tick.ltp = bar.high) ∧ ∀ tick ∈ ticks, tick.ltp ≤ bar.high
  low : (∃ tick ∈ ticks, tick.ltp = bar.low) ∧ ∀ tick ∈ ticks, bar.low ≤ tick.ltp
  volume : bar.volume = (ticks.map MarketTick.volume).sum
  tickCount : bar.tickCount = ticks.length

variable {bar : LiveBar} {ticks : List MarketTick} {timeframe : String} {seconds : ℤ}

theorem ofTick_tells (timeframe : String) (seconds : ℤ) (tick : MarketTick) :
    (ofTick timeframe seconds tick).Tells [tick] where
  instrument := rfl
  openPrice := rfl
  close := rfl
  high := ⟨⟨tick, List.mem_singleton_self _, rfl⟩, fun _ member => List.mem_singleton.mp member ▸ le_refl _⟩
  low := ⟨⟨tick, List.mem_singleton_self _, rfl⟩, fun _ member => List.mem_singleton.mp member ▸ le_refl _⟩
  volume := (add_zero _).symm
  tickCount := rfl

theorem Tells.join (tells : bar.Tells ticks) (tick : MarketTick) :
    (bar.join (ofTick timeframe seconds tick)).Tells (ticks ++ [tick]) := by
  have some_tick : ticks ≠ [] := by
    rintro rfl
    cases tells.openPrice
  have first : (ticks ++ [tick]).head? = ticks.head? := List.head?_append_of_ne_nil _ some_tick
  constructor
  · rw [first]
    exact tells.instrument
  · rw [first]
    exact tells.openPrice
  · rw [List.getLast?_concat]
    rfl
  · constructor
    · rcases le_total bar.high tick.ltp with below | above
      · exact ⟨tick, List.mem_append_right _ List.mem_cons_self, (max_eq_right below).symm⟩
      · obtain ⟨highest, member, same⟩ := tells.high.1
        exact ⟨highest, List.mem_append_left _ member, same.trans (max_eq_left above).symm⟩
    · intro other member
      rcases List.mem_append.mp member with early | last
      · exact (tells.high.2 other early).trans (le_max_left _ _)
      · exact List.mem_singleton.mp last ▸ le_max_right _ _
  · constructor
    · rcases le_total bar.low tick.ltp with below | above
      · obtain ⟨lowest, member, same⟩ := tells.low.1
        exact ⟨lowest, List.mem_append_left _ member, same.trans (min_eq_left below).symm⟩
      · exact ⟨tick, List.mem_append_right _ List.mem_cons_self, (min_eq_right above).symm⟩
    · intro other member
      rcases List.mem_append.mp member with early | last
      · exact (min_le_left _ _).trans (tells.low.2 other early)
      · exact List.mem_singleton.mp last ▸ min_le_right _ _
  · rw [List.map_append, List.sum_append, ← tells.volume, List.map_singleton, List.sum_singleton]
    rfl
  · rw [List.length_append, ← tells.tickCount]
    rfl

theorem Tells.foldl (timeframe : String) (seconds : ℤ) (tells : bar.Tells ticks) (later : List MarketTick) :
    ((later.map (ofTick timeframe seconds)).foldl LiveBar.join bar).Tells (ticks ++ later) := by
  induction later generalizing bar ticks with
  | nil => rwa [List.append_nil]
  | cons tick later ih =>
    rw [← List.singleton_append, ← List.append_assoc]
    exact ih (tells.join tick)

end LiveBar

namespace CandleAggregator

variable {timeframes : Timeframes} {aggregator : CandleAggregator} {tick : MarketTick} {bucket : Bucket}
  {symbolKey timeframe other : String} {state : Option Bucket × List LiveBar}

/-- A bucket is stored under its symbol. -/
def Named (aggregator : CandleAggregator) : Prop :=
  ∀ key bucket, aggregator.buckets.get key = some bucket → bucket.symbolKey = key.1

/-- What the aggregator holds of one symbol and timeframe. -/
def view (symbolKey timeframe : String) (aggregator : CandleAggregator) : Option Bucket × List LiveBar :=
  (aggregator.buckets.get (symbolKey, timeframe), aggregator.barsOf symbolKey timeframe)

/-- The loop of one symbol and timeframe. -/
def feed (timeframe : String) (seconds : ℤ) (state : Option Bucket × List LiveBar) (tick : MarketTick) :
    Option Bucket × List LiveBar :=
  let start := bucketStart tick.eventTime seconds
  match state.1 with
  | none => (some (.ofTick tick start), state.2)
  | some cur =>
    if cur.openEpoch < start then (some (.ofTick tick start), state.2 ++ [cur.toBar timeframe seconds])
    else if start < cur.openEpoch then state
    else (some (cur.add tick), state.2)

theorem named_store (named : aggregator.Named) {key : String × String} (own : bucket.symbolKey = key.1) :
    (aggregator.store key bucket).Named := by
  intro found held stored
  rw [store, Dict.get_set] at stored
  split at stored
  · next same =>
    cases stored
    rw [same, own]
  · exact named found held stored

theorem view_store : view symbolKey timeframe (aggregator.store (symbolKey, timeframe) bucket) =
    (some bucket, aggregator.barsOf symbolKey timeframe) := by
  simp only [view, store, Dict.get_set, if_true]
  rfl

theorem view_store_other {key : String × String} (elsewhere : key ≠ (symbolKey, timeframe)) :
    view symbolKey timeframe (aggregator.store key bucket) = view symbolKey timeframe aggregator := by
  simp only [view, store, Dict.get_set, if_neg fun same => elsewhere (Eq.symm same)]
  rfl

theorem barsOf_emit (aggregator : CandleAggregator) (own : bucket.symbolKey = symbolKey) (timeframe : String) :
    (aggregator.emit timeframes bucket timeframe).barsOf symbolKey timeframe =
      aggregator.barsOf symbolKey timeframe ++ [bucket.toBar timeframe (timeframes.duration timeframe)] := by
  simp only [barsOf, emit, List.filter_append]
  rw [List.filter_cons_of_pos (by simp [Bucket.toBar, InstrumentRef.str, ← own, Bucket.symbolKey]), List.filter_nil]

theorem view_emit_other (elsewhere : (bucket.symbolKey, other) ≠ (symbolKey, timeframe)) :
    view symbolKey timeframe (aggregator.emit timeframes bucket other) = view symbolKey timeframe aggregator := by
  simp only [view, barsOf, emit, List.filter_append]
  rw [List.filter_cons_of_neg, List.filter_nil, List.append_nil]
  intro same
  rw [decide_eq_true_eq] at same
  exact elsewhere (Prod.ext same.1 same.2)

/-- A bucket is put in its place, and emitted for a correction. -/
def put (timeframes : Timeframes) (isCorrection : Bool) (timeframe : String) (aggregator : CandleAggregator)
    (bucket : Bucket) : CandleAggregator :=
  if isCorrection then (aggregator.store (bucket.symbolKey, timeframe) bucket).emit timeframes bucket timeframe
  else aggregator.store (bucket.symbolKey, timeframe) bucket

/-- A bucket is put in its place, as the loop of one symbol and timeframe sees it. -/
def putView (timeframe : String) (seconds : ℤ) (isCorrection : Bool) (bars : List LiveBar) (bucket : Bucket) :
    Option Bucket × List LiveBar :=
  (some bucket, if isCorrection then bars ++ [bucket.toBar timeframe seconds] else bars)

/-- The loop of one symbol and timeframe, with corrections. -/
def heed (timeframe : String) (seconds : ℤ) (isCorrection : Bool) (state : Option Bucket × List LiveBar)
    (tick : MarketTick) : Option Bucket × List LiveBar :=
  let start := bucketStart tick.eventTime seconds
  match state.1 with
  | none => putView timeframe seconds isCorrection state.2 (.ofTick tick start)
  | some cur =>
    if cur.openEpoch < start then
      putView timeframe seconds isCorrection (state.2 ++ [cur.toBar timeframe seconds]) (.ofTick tick start)
    else if start < cur.openEpoch then
      if isCorrection then putView timeframe seconds isCorrection state.2 (.ofTick tick start) else state
    else putView timeframe seconds isCorrection state.2 (cur.add tick)

theorem put_named (named : aggregator.Named) (isCorrection : Bool) (timeframe : String) :
    (put timeframes isCorrection timeframe aggregator bucket).Named := by
  cases isCorrection with
  | false => exact named_store named rfl
  | true => exact named_store named rfl

theorem view_put (isCorrection : Bool) (own : bucket.symbolKey = symbolKey) :
    view symbolKey timeframe (put timeframes isCorrection timeframe aggregator bucket) =
      putView timeframe (timeframes.duration timeframe) isCorrection (aggregator.barsOf symbolKey timeframe)
        bucket := by
  subst own
  cases isCorrection with
  | false => exact view_store
  | true =>
    have stored : (aggregator.buckets.set (bucket.symbolKey, timeframe) bucket).get (bucket.symbolKey, timeframe) =
        some bucket := Dict.get_set_self ..
    exact Prod.ext stored (barsOf_emit _ rfl timeframe)

theorem view_put_other (isCorrection : Bool) (elsewhere : (bucket.symbolKey, other) ≠ (symbolKey, timeframe)) :
    view symbolKey timeframe (put timeframes isCorrection other aggregator bucket) =
      view symbolKey timeframe aggregator := by
  cases isCorrection with
  | false => exact view_store_other elsewhere
  | true => exact (view_emit_other elsewhere).trans (view_store_other elsewhere)

/-- The bucket of a symbol and timeframe moves under the tick. -/
theorem updateBucket_eq (tick : MarketTick) (isCorrection : Bool) (timeframe : String) (named : aggregator.Named) :
    updateBucket timeframes tick isCorrection aggregator timeframe =
      match aggregator.buckets.get (tick.instrument.str, timeframe) with
      | none => put timeframes isCorrection timeframe aggregator
          (.ofTick tick (bucketStart tick.eventTime (timeframes.duration timeframe)))
      | some cur =>
        if cur.openEpoch < bucketStart tick.eventTime (timeframes.duration timeframe) then
          put timeframes isCorrection timeframe (aggregator.emit timeframes cur timeframe)
            (.ofTick tick (bucketStart tick.eventTime (timeframes.duration timeframe)))
        else if bucketStart tick.eventTime (timeframes.duration timeframe) < cur.openEpoch then
          if isCorrection then put timeframes isCorrection timeframe aggregator
            (.ofTick tick (bucketStart tick.eventTime (timeframes.duration timeframe)))
          else aggregator
        else put timeframes isCorrection timeframe aggregator (cur.add tick) := by
  simp only [updateBucket]
  cases held : aggregator.buckets.get (tick.instrument.str, timeframe) with
  | none => rfl
  | some cur =>
    have own : (cur.add tick).symbolKey = tick.instrument.str := named _ _ held
    dsimp only [put]
    rw [own]
    rfl

theorem updateBucket_named (tick : MarketTick) (isCorrection : Bool) (timeframe : String) (named : aggregator.Named) :
    (updateBucket timeframes tick isCorrection aggregator timeframe).Named := by
  rw [updateBucket_eq tick isCorrection timeframe named]
  split
  · exact put_named named isCorrection timeframe
  · next cur held =>
    have emitted : (aggregator.emit timeframes cur timeframe).Named := named
    split
    · exact put_named emitted isCorrection timeframe
    · split
      · split
        · exact put_named named isCorrection timeframe
        · exact named
      · exact put_named named isCorrection timeframe

theorem view_updateBucket (tick : MarketTick) (isCorrection : Bool) (timeframe : String) (named : aggregator.Named) :
    view tick.instrument.str timeframe (updateBucket timeframes tick isCorrection aggregator timeframe) =
      heed timeframe (timeframes.duration timeframe) isCorrection (view tick.instrument.str timeframe aggregator)
        tick := by
  rw [updateBucket_eq tick isCorrection timeframe named]
  cases held : aggregator.buckets.get (tick.instrument.str, timeframe) with
  | none =>
    simp only [heed, view, held]
    exact view_put isCorrection rfl
  | some cur =>
    have own : cur.symbolKey = tick.instrument.str := named _ _ held
    simp only [heed, view, held]
    split
    · rw [← barsOf_emit aggregator own timeframe]
      exact view_put isCorrection rfl
    · split
      · split
        · exact view_put isCorrection rfl
        · exact Prod.ext held rfl
      · exact view_put isCorrection own

theorem view_updateBucket_other (isCorrection : Bool) (named : aggregator.Named)
    (elsewhere : (tick.instrument.str, other) ≠ (symbolKey, timeframe)) :
    view symbolKey timeframe (updateBucket timeframes tick isCorrection aggregator other) =
      view symbolKey timeframe aggregator := by
  have opened : ∀ start, ((Bucket.ofTick tick start).symbolKey, other) ≠ (symbolKey, timeframe) := fun _ => elsewhere
  rw [updateBucket_eq tick isCorrection other named]
  split
  · exact view_put_other isCorrection (opened _)
  · next cur held =>
    have own : cur.symbolKey = tick.instrument.str := named _ _ held
    split
    · exact (view_put_other isCorrection (opened _)).trans (view_emit_other (own ▸ elsewhere))
    · split
      · split
        · exact view_put_other isCorrection (opened _)
        · rfl
      · have added : ((cur.add tick).symbolKey, other) ≠ (symbolKey, timeframe) := by
          rw [← own] at elsewhere
          exact elsewhere
        exact view_put_other isCorrection added

theorem view_updates (isCorrection : Bool) (symbolKey timeframe : String) {names : List String} (distinct : names.Nodup)
    (named : aggregator.Named) :
    (names.foldl (updateBucket timeframes tick isCorrection) aggregator).Named ∧
    view symbolKey timeframe (names.foldl (updateBucket timeframes tick isCorrection) aggregator) =
      if tick.instrument.str = symbolKey ∧ timeframe ∈ names then
        heed timeframe (timeframes.duration timeframe) isCorrection (view symbolKey timeframe aggregator) tick
      else view symbolKey timeframe aggregator := by
  induction names generalizing aggregator with
  | nil => exact ⟨named, (if_neg fun both => List.not_mem_nil both.2).symm⟩
  | cons name names ih =>
    obtain ⟨fresh, distinct⟩ := List.nodup_cons.mp distinct
    obtain ⟨named', moved⟩ := ih distinct (updateBucket_named tick isCorrection name named)
    refine ⟨named', moved.trans ?_⟩
    by_cases own : tick.instrument.str = symbolKey ∧ name = timeframe
    · obtain ⟨rfl, rfl⟩ := own
      rw [if_neg fun both => fresh both.2, if_pos ⟨rfl, List.mem_cons_self⟩,
        view_updateBucket tick isCorrection name named]
    · have elsewhere : (tick.instrument.str, name) ≠ (symbolKey, timeframe) :=
        fun same => own ⟨congrArg Prod.fst same, congrArg Prod.snd same⟩
      have later : (tick.instrument.str = symbolKey ∧ timeframe ∈ name :: names) ↔
          tick.instrument.str = symbolKey ∧ timeframe ∈ names := by
        rw [List.mem_cons]
        exact and_congr_right fun same => or_iff_right fun equal => own ⟨same, equal.symm⟩
      simp only [later, view_updateBucket_other isCorrection named elsewhere]

/-- The ticks of a symbol move its buckets, those of the others do not. -/
theorem view_ticks (member : timeframe ∈ timeframes.names) (ticks : List MarketTick) :
    view symbolKey timeframe (ticks.foldl (fun aggregator tick => update timeframes tick false aggregator) {}) =
      (ticks.filter fun tick => tick.instrument.str = symbolKey).foldl
        (feed timeframe (timeframes.duration timeframe)) (none, []) := by
  apply foldl_view (view symbolKey timeframe) Named
  · intro aggregator tick named
    exact (view_updates false symbolKey timeframe timeframes.distinct named).1
  · intro aggregator tick named own
    exact (view_updates false symbolKey timeframe timeframes.distinct named).2.trans (if_pos ⟨own, member⟩)
  · intro aggregator tick named other
    exact (view_updates false symbolKey timeframe timeframes.distinct named).2.trans (if_neg fun both => other both.1)
  · rintro _ _ ⟨⟩

variable (timeframes) in
theorem ticks_named (ticks : List MarketTick) (named : aggregator.Named) :
    (ticks.foldl (fun aggregator tick => update timeframes tick false aggregator) aggregator).Named := by
  induction ticks generalizing aggregator with
  | nil => exact named
  | cons tick ticks ih => exact ih (view_updates false "" "" timeframes.distinct named).1

/-- The open bucket of a view is closed. -/
def shut (timeframe : String) (seconds : ℤ) (state : Option Bucket × List LiveBar) : Option Bucket × List LiveBar :=
  (none, state.2 ++ state.1.toList.map fun bucket => bucket.toBar timeframe seconds)

theorem closeBucket_named (key : String × String) (named : aggregator.Named) :
    (closeBucket timeframes aggregator key).Named := by
  simp only [closeBucket]
  split
  · exact named
  · intro found held stored
    have popped : (aggregator.buckets.pop key).get found = some held := stored
    rw [Dict.get_pop] at popped
    split at popped
    · cases popped
    · exact named found held popped

theorem view_closeBucket (named : aggregator.Named) :
    view symbolKey timeframe (closeBucket timeframes aggregator (symbolKey, timeframe)) =
    shut timeframe (timeframes.duration timeframe) (view symbolKey timeframe aggregator) := by
  simp only [closeBucket]
  cases held : aggregator.buckets.get (symbolKey, timeframe) with
  | none => simp only [view, shut, held, Option.toList_none, List.map_nil, List.append_nil]
  | some bucket =>
    have own : bucket.symbolKey = symbolKey := named _ _ held
    simp only [shut, view, held, Option.toList_some, List.map_singleton]
    refine Prod.ext ?_ ?_
    · exact (Dict.get_pop _ _ _).trans (if_pos rfl)
    · exact barsOf_emit { aggregator with buckets := aggregator.buckets.pop (symbolKey, timeframe) } own timeframe

theorem view_closeBucket_other (named : aggregator.Named) {key : String × String}
    (elsewhere : key ≠ (symbolKey, timeframe)) :
    view symbolKey timeframe (closeBucket timeframes aggregator key) = view symbolKey timeframe aggregator := by
  simp only [closeBucket]
  cases held : aggregator.buckets.get key with
  | none => rfl
  | some bucket =>
    have own : bucket.symbolKey = key.1 := named _ _ held
    refine (view_emit_other (own.symm ▸ elsewhere)).trans ?_
    refine Prod.ext ?_ rfl
    exact (Dict.get_pop _ _ _).trans (if_neg fun same => elsewhere same.symm)

variable (timeframes) in
theorem view_closeBuckets (symbolKey timeframe : String) {keys : List (String × String)} (distinct : keys.Nodup)
    (named : aggregator.Named) :
    (keys.foldl (closeBucket timeframes) aggregator).Named ∧
    view symbolKey timeframe (keys.foldl (closeBucket timeframes) aggregator) =
      if (symbolKey, timeframe) ∈ keys then
        shut timeframe (timeframes.duration timeframe) (view symbolKey timeframe aggregator)
      else view symbolKey timeframe aggregator := by
  induction keys generalizing aggregator with
  | nil => exact ⟨named, (if_neg List.not_mem_nil).symm⟩
  | cons key keys ih =>
    obtain ⟨fresh, distinct⟩ := List.nodup_cons.mp distinct
    obtain ⟨named', closed⟩ := ih distinct (closeBucket_named key named)
    refine ⟨named', closed.trans ?_⟩
    by_cases own : key = (symbolKey, timeframe)
    · subst own
      rw [if_neg fresh, if_pos List.mem_cons_self, view_closeBucket named]
    · have later : (symbolKey, timeframe) ∈ key :: keys ↔ (symbolKey, timeframe) ∈ keys := by
        rw [List.mem_cons]
        exact or_iff_right fun equal => own equal.symm
      simp only [later, view_closeBucket_other named own]

theorem mem_keys_iff {key : String × String} : key ∈ aggregator.buckets.keys ↔ aggregator.buckets.get key ≠ none := by
  constructor
  · intro member
    obtain ⟨⟨found, bucket⟩, entry, rfl⟩ := List.mem_map.mp member
    simp [Dict.get_eq_some.mpr entry]
  · intro held
    obtain ⟨bucket, stored⟩ := Option.ne_none_iff_exists'.mp held
    exact Dict.mem_keys stored

/-- The flush of one timeframe. -/
def flushOne (timeframes : Timeframes) (aggregator : CandleAggregator) (name : String) : CandleAggregator :=
  (aggregator.buckets.keys.filter fun key => key.2 = name).foldl (closeBucket timeframes) aggregator

variable (timeframes) in
theorem view_flushOne (symbolKey timeframe : String) (name : String) (named : aggregator.Named) :
    (flushOne timeframes aggregator name).Named ∧
    view symbolKey timeframe (flushOne timeframes aggregator name) =
      if name = timeframe then shut timeframe (timeframes.duration timeframe) (view symbolKey timeframe aggregator)
      else view symbolKey timeframe aggregator := by
  have distinct : (aggregator.buckets.keys.filter fun key => key.2 = name).Nodup :=
    aggregator.buckets.nodup.sublist List.filter_sublist
  obtain ⟨named', closed⟩ := view_closeBuckets timeframes symbolKey timeframe distinct named
  refine ⟨named', closed.trans ?_⟩
  by_cases own : name = timeframe
  · subst own
    rw [if_pos rfl]
    split
    · rfl
    · next absent =>
      have unheld : aggregator.buckets.get (symbolKey, name) = none := by
        by_contra held
        exact absent (List.mem_filter.mpr ⟨mem_keys_iff.mpr held, decide_eq_true rfl⟩)
      simp only [view, shut, unheld, Option.toList_none, List.map_nil, List.append_nil]
  · rw [if_neg own]
    refine if_neg fun member => own ?_
    exact (of_decide_eq_true (List.mem_filter.mp member).2).symm

variable (timeframes) in
theorem view_flushes (symbolKey timeframe : String) {names : List String} (distinct : names.Nodup)
    (named : aggregator.Named) : view symbolKey timeframe (names.foldl (flushOne timeframes) aggregator) =
      if timeframe ∈ names then shut timeframe (timeframes.duration timeframe) (view symbolKey timeframe aggregator)
      else view symbolKey timeframe aggregator := by
  induction names generalizing aggregator with
  | nil => exact (if_neg List.not_mem_nil).symm
  | cons name names ih =>
    obtain ⟨fresh, distinct⟩ := List.nodup_cons.mp distinct
    obtain ⟨named', flushed⟩ := view_flushOne timeframes symbolKey timeframe name named
    rw [List.foldl_cons, ih distinct named', flushed]
    by_cases own : name = timeframe
    · subst own
      rw [if_neg fresh, if_pos rfl, if_pos List.mem_cons_self]
    · have later : timeframe ∈ name :: names ↔ timeframe ∈ names := by
        rw [List.mem_cons]
        exact or_iff_right fun equal => own equal.symm
      simp only [if_neg own, later]

/-- The loop of one symbol and timeframe is the loop that batches the bars of its ticks. -/
theorem feed_eq (timeframe : String) (seconds : ℤ) (state : Option Bucket × List LiveBar) (tick : MarketTick) :
    ((feed timeframe seconds state tick).1.map fun bucket => bucket.toBar timeframe seconds,
      (feed timeframe seconds state tick).2) =
    LiveBar.batching.feed (state.1.map fun bucket => bucket.toBar timeframe seconds, state.2)
      (LiveBar.ofTick timeframe seconds tick) := by
  obtain ⟨held, bars⟩ := state
  cases held with
  | none => rfl
  | some cur =>
    simp only [feed, Batching.feed, Option.map_some]
    change _ = if cur.openEpoch < bucketStart tick.eventTime seconds then _ else
      if bucketStart tick.eventTime seconds < cur.openEpoch then _ else _
    split
    · rfl
    · split
      · rfl
      · rw [Bucket.add_eq cur tick (bucketStart tick.eventTime seconds)]
        rfl

theorem feed_foldl (timeframe : String) (seconds : ℤ) (ticks : List MarketTick) (state : Option Bucket × List LiveBar) :
    ((ticks.foldl (feed timeframe seconds) state).1.map fun bucket => bucket.toBar timeframe seconds,
      (ticks.foldl (feed timeframe seconds) state).2) =
    (ticks.map (LiveBar.ofTick timeframe seconds)).foldl LiveBar.batching.feed
      (state.1.map fun bucket => bucket.toBar timeframe seconds, state.2) := by
  induction ticks generalizing state with
  | nil => rfl
  | cons tick ticks ih => rw [List.foldl_cons, List.map_cons, List.foldl_cons, ih, feed_eq]

theorem bucketStart_mono {seconds : ℤ} (positive : 0 < seconds) {earlier later : ℚ} (before : earlier ≤ later) :
    bucketStart earlier seconds ≤ bucketStart later seconds := by
  have scaled : (0 : ℚ) ≤ seconds := by exact_mod_cast positive.le
  exact mul_le_mul_of_nonneg_right (Int.floor_le_floor (div_le_div_of_nonneg_right before scaled)) positive.le

section

variable {ticks : List MarketTick}

/-- The ticks of one symbol come in the order of time. -/
def Ordered (symbolKey : String) (ticks : List MarketTick) : Prop :=
  (ticks.filter fun tick => tick.instrument.str = symbolKey).Pairwise fun tick later => tick.eventTime ≤ later.eventTime

/-- The bars of the single ticks of a symbol. -/
def tickBars (symbolKey timeframe : String) (seconds : ℤ) (ticks : List MarketTick) : List LiveBar :=
  (ticks.filter fun tick => tick.instrument.str = symbolKey).map (LiveBar.ofTick timeframe seconds)

theorem tickBars_ordered (timeframe : String) {seconds : ℤ} (positive : 0 < seconds)
    (ordered : Ordered symbolKey ticks) :
    (tickBars symbolKey timeframe seconds ticks).Pairwise fun bar later =>
      LiveBar.batching.key bar ≤ LiveBar.batching.key later :=
  List.pairwise_map.mpr (ordered.imp fun before => bucketStart_mono positive before)

/-- The bars of a symbol and a timeframe are the batches of its ticks. -/
theorem barsOf_run (member : timeframe ∈ timeframes.names) (ordered : Ordered symbolKey ticks) :
    (run timeframes ticks).barsOf symbolKey timeframe =
      LiveBar.batching.batches (tickBars symbolKey timeframe (timeframes.duration timeframe) ticks) := by
  have start : ({} : CandleAggregator).Named := by
    rintro _ _ ⟨⟩
  have flushed := view_flushes timeframes symbolKey timeframe timeframes.distinct
    (ticks_named timeframes ticks start)
  rw [if_pos member, view_ticks member] at flushed
  have closed : (run timeframes ticks).barsOf symbolKey timeframe = _ := congrArg Prod.snd flushed
  have batched := Batching.feed_foldl (tickBars_ordered timeframe (timeframes.positive timeframe member) ordered)
  have fed := feed_foldl timeframe (timeframes.duration timeframe)
    (ticks.filter fun tick => tick.instrument.str = symbolKey) (none, [])
  rw [Option.map_none] at fed
  rw [closed, ← batched, tickBars, ← fed, Batching.closed, shut, Option.toList_map]

/-- The bars are those of the ticks: their open times increase, each tick is in exactly one of them, and each
is the bar of the ticks of its bucket. -/
structure BarsOfTicks (timeframe : String) (seconds : ℤ) (ticks : List MarketTick) (bars : List LiveBar) : Prop where
  increasing : bars.Pairwise fun bar later => bar.eventTime < later.eventTime
  counted : ∀ tick ∈ ticks, ∃! bar, bar ∈ bars ∧ bar.eventTime = bucketStart tick.eventTime seconds
  built : ∀ bar ∈ bars, bar.Tells (ticks.filter fun tick => bucketStart tick.eventTime seconds = bar.eventTime)
  framed : ∀ bar ∈ bars, bar.timeframe = timeframe ∧ bar.closeTime = bar.eventTime + seconds

theorem foldl_join_framed (timeframe : String) (seconds : ℤ) (later : List MarketTick) (bar : LiveBar) :
    ((later.map (LiveBar.ofTick timeframe seconds)).foldl LiveBar.join bar).timeframe = bar.timeframe ∧
    ((later.map (LiveBar.ofTick timeframe seconds)).foldl LiveBar.join bar).closeTime = bar.closeTime ∧
    ((later.map (LiveBar.ofTick timeframe seconds)).foldl LiveBar.join bar).eventTime = bar.eventTime := by
  induction later generalizing bar with
  | nil => exact ⟨rfl, rfl, rfl⟩
  | cons tick later ih => exact ih (bar.join (LiveBar.ofTick timeframe seconds tick))

theorem batches_ofTicks {seconds : ℤ} (positive : 0 < seconds) (ordered : Ordered symbolKey ticks) :
    BarsOfTicks timeframe seconds (ticks.filter fun tick => tick.instrument.str = symbolKey)
      (LiveBar.batching.batches (tickBars symbolKey timeframe seconds ticks)) := by
  have batched := Batching.batches_batched (tickBars_ordered timeframe positive ordered)
  have ofBucket : ∀ bar ∈ LiveBar.batching.batches (tickBars symbolKey timeframe seconds ticks),
      ∃ tick later, ((ticks.filter fun tick => tick.instrument.str = symbolKey).filter fun tick =>
          bucketStart tick.eventTime seconds = bar.eventTime) = tick :: later ∧
        (later.map (LiveBar.ofTick timeframe seconds)).foldl LiveBar.join (LiveBar.ofTick timeframe seconds tick) =
          bar := by
    intro bar member
    obtain ⟨first, rest, own, built⟩ := batched.built bar member
    rw [tickBars, List.filter_map] at own
    obtain ⟨tick, later, listed, rfl, rfl⟩ := List.map_eq_cons_iff.mp own
    exact ⟨tick, later, listed, built⟩
  refine ⟨batched.increasing, ?_, ?_, ?_⟩
  · intro tick member
    obtain ⟨bar, listed, same⟩ := batched.holds _ (List.mem_map_of_mem member)
    refine ⟨bar, ⟨listed, same⟩, ?_⟩
    rintro other ⟨listed', same'⟩
    have distinct : (LiveBar.batching.batches (tickBars symbolKey timeframe seconds ticks)).Pairwise fun bar later =>
        bar.eventTime ≠ later.eventTime := batched.increasing.imp ne_of_lt
    exact List.inj_on_of_nodup_map (List.pairwise_map.mpr distinct) listed' listed (same'.trans same.symm)
  · intro bar member
    obtain ⟨tick, later, listed, built⟩ := ofBucket bar member
    have tells := (LiveBar.ofTick_tells timeframe seconds tick).foldl timeframe seconds later
    rw [built] at tells
    exact listed.symm ▸ tells
  · intro bar member
    obtain ⟨tick, later, listed, built⟩ := ofBucket bar member
    obtain ⟨framed, closes, opens⟩ := foldl_join_framed timeframe seconds later
      (LiveBar.ofTick timeframe seconds tick)
    rw [built] at framed closes opens
    exact ⟨framed, closes.trans (congrArg (· + seconds) opens.symm)⟩

/-- The bucket of a bucket is the longer bucket of the instant. -/
theorem bucketStart_bucketStart {seconds longer : ℤ} (positive : 0 < seconds) (longerPositive : 0 < longer)
    (divides : seconds ∣ longer) (instant : ℚ) :
    bucketStart (bucketStart instant seconds : ℤ) longer = bucketStart instant longer := by
  obtain ⟨factor, rfl⟩ := divides
  have times : 0 < factor := (mul_pos_iff_of_pos_left positive).mp longerPositive
  simp only [bucketStart]
  rw [Int.floor_div_cast_of_nonneg longerPositive.le, Int.floor_intCast, Int.floor_div_cast_of_nonneg positive.le,
    Int.floor_div_cast_of_nonneg longerPositive.le, mul_comm (⌊instant⌋ / seconds) seconds,
    Int.mul_ediv_mul_of_pos _ _ positive, Int.ediv_ediv_of_nonneg positive.le]

theorem under_ofTick {seconds longer : ℤ} (positive : 0 < seconds) (longerPositive : 0 < longer)
    (divides : seconds ∣ longer) (tick : MarketTick) :
    (LiveBar.ofTick timeframe seconds tick).under other longer = LiveBar.ofTick other longer tick := by
  have start := bucketStart_bucketStart positive longerPositive divides tick.eventTime
  simp only [LiveBar.under, LiveBar.ofTick, Bucket.toBar, Bucket.ofTick, start]

/-- For each symbol and timeframe the emitted bars are those of the ticks, and the bars of a timeframe of a
multiple duration are the aggregation of the shorter ones. -/
theorem run_aggregates (timeframes : Timeframes) (ticks : List MarketTick)
    (ordered : ∀ symbolKey, Ordered symbolKey ticks) :
    (∀ symbolKey, ∀ timeframe ∈ timeframes.names,
      BarsOfTicks timeframe (timeframes.duration timeframe) (ticks.filter fun tick => tick.instrument.str = symbolKey)
        ((run timeframes ticks).barsOf symbolKey timeframe)) ∧
    ∀ symbolKey, ∀ shorter ∈ timeframes.names, ∀ longer ∈ timeframes.names,
      timeframes.duration shorter ∣ timeframes.duration longer →
      (run timeframes ticks).barsOf symbolKey longer =
        LiveBar.rollup longer (timeframes.duration longer) ((run timeframes ticks).barsOf symbolKey shorter) := by
  constructor
  · intro symbolKey timeframe member
    rw [barsOf_run member (ordered symbolKey)]
    exact batches_ofTicks (timeframes.positive timeframe member) (ordered symbolKey)
  · intro symbolKey shorter shortMember longer longMember divides
    have positive := timeframes.positive shorter shortMember
    have longerPositive := timeframes.positive longer longMember
    rw [barsOf_run shortMember (ordered symbolKey), barsOf_run longMember (ordered symbolKey), LiveBar.rollup,
      Batching.batches_batches, tickBars, tickBars, List.map_map]
    · refine congrArg _ (List.map_congr_left fun tick _ => ?_)
      exact (under_ofTick positive longerPositive divides tick).symm
    · intro bar later same
      exact congrArg (fun start : ℤ => bucketStart start (timeframes.duration longer)) same
    · intro bar later
      rfl

end

/-- Timeframes of one minute and of five. -/
def oneAndFive : Timeframes where
  names := ["1m", "5m"]
  duration := fun name => if name = "1m" then 60 else 300
  distinct := by decide
  positive := by decide

example : (Timeframes.ofNames ["1m", "5m", "1m"]).toOption.map Timeframes.names = some oneAndFive.names := by
  decide +kernel

/-- Ticks of two minutes of one symbol, with one of another symbol between them. -/
def twoMinutes : List MarketTick :=
  [⟨⟨"RELIANCE", "NSE"⟩, 100, 300, 5⟩, ⟨⟨"TCS", "NSE"⟩, 50, 310, 1⟩, ⟨⟨"RELIANCE", "NSE"⟩, 103, 330, 7⟩,
    ⟨⟨"RELIANCE", "NSE"⟩, 99, 365, 2⟩]

theorem run_aggregates_twoMinutes :
    (run oneAndFive twoMinutes).barsOf "RELIANCE:NSE" "5m" =
      LiveBar.rollup "5m" 300 ((run oneAndFive twoMinutes).barsOf "RELIANCE:NSE" "1m") ∧
    (run oneAndFive twoMinutes).barsOf "RELIANCE:NSE" "5m" =
      [⟨⟨"RELIANCE", "NSE"⟩, "5m", 300, 600, 100, 103, 99, 99, 14, 3⟩] :=
  ⟨(run_aggregates oneAndFive twoMinutes fun _ => List.Pairwise.sublist List.filter_sublist (by decide +kernel)).2
      "RELIANCE:NSE" "1m" (by decide) "5m" (by decide) (by decide), by decide +kernel⟩

end CandleAggregator

end TradeX.V1.Streaming
