import TradeX.Lib.RunLength
import TradeX.V1.GapDetector

/-! A fetch of the historical data coordinator with the ledger it returns: chunks and their fallbacks are
collected and merged, gaps are asked of other brokers, and what these bring is merged once more. -/

namespace TradeX.V1.History

open Lib

/-- A later routing of the same operation. -/
structure FallbackRoute extends RouteDecision where
  fallbackBrokers : List String

/-- `decision.parallel_brokers or (decision.primary_broker, *decision.fallback_brokers)`. -/
def FallbackRoute.eligible (route : FallbackRoute) : List String :=
  if route.parallelBrokers = [] then route.primaryBroker :: route.fallbackBrokers else route.parallelBrokers

structure ChunkRecord where
  chunkId : String
  brokerId : String
  fromDate : ℤ
  toDate : ℤ
  timeframe : String
  barsFetched : ℕ
  error : Option String
  deriving DecidableEq

/-- The bars from one index to another, both included, come from a chunk of a broker. -/
structure BarRangeRecord where
  startBarIndex : ℕ
  endBarIndex : ℕ
  chunkId : String
  brokerId : String
  deriving DecidableEq

def BarRangeRecord.Covers (record : BarRangeRecord) (index : ℕ) : Prop :=
  record.startBarIndex ≤ index ∧ index ≤ record.endBarIndex

instance (record : BarRangeRecord) (index : ℕ) : Decidable (record.Covers index) := inferInstanceAs (Decidable (_ ∧ _))

structure ProvenanceLedger where
  requestId : String
  instrument : String
  timeframe : String
  chunks : List ChunkRecord := []
  barRanges : List BarRangeRecord := []
  conflicts : List ConflictRecord := []
  mergeStrategy : MergeStrategy
  degraded : Bool := false
  degradedReason : String := ""
  deriving DecidableEq

namespace ProvenanceLedger

variable (ledger : ProvenanceLedger)

def addChunk (record : ChunkRecord) : ProvenanceLedger := { ledger with chunks := ledger.chunks ++ [record] }

def markDegraded (reason : String) : ProvenanceLedger := { ledger with degraded := true, degradedReason := reason }

def failedChunks : List ChunkRecord := ledger.chunks.filter fun record => record.error.isSome

end ProvenanceLedger

/-- The broker and the request that a bar names. -/
def HistoricalBar.source (bar : HistoricalBar) : String × String := (bar.provenance.brokerId, bar.provenance.requestId)

/-- The record of a run; what it names as the chunk is the request of the bars. -/
def BarRangeRecord.ofRun (run : IndexRun (String × String)) : BarRangeRecord where
  startBarIndex := run.first
  endBarIndex := run.last
  chunkId := run.key.2
  brokerId := run.key.1

def populateBarRanges (bars : List HistoricalBar) : List BarRangeRecord :=
  (IndexRun.group HistoricalBar.source bars).map BarRangeRecord.ofRun

structure MergeManifest where
  chunkAssignments : Dict String String := ∅
  conflictCount : ℕ := 0
  conflictResolution : MergeStrategy := .preferPrimary
  degraded : Bool := false
  degradedReason : String := ""

structure HistoricalSeries where
  bars : List HistoricalBar
  coverage : Span
  instrument : InstrumentRef
  timeframe : String
  gaps : List Gap
  mergeManifest : MergeManifest

/-- A row of the frame that a broker answers with, and the clock when it is read. -/
structure BrokerRow where
  eventTime : ℚ
  openPrice : ℚ
  high : ℚ
  low : ℚ
  close : ℚ
  volume : ℤ
  fetchedAt : ℚ

/-- The bars that the gateway adapter makes of the rows for a chunk. -/
def historicalBars (plan : ChunkPlan) (rows : List BrokerRow) : List HistoricalBar :=
  sortedBy HistoricalBar.eventTime (rows.mapIdx fun index row =>
    { instrument := plan.instrument
      timeframe := plan.timeframe
      eventTime := row.eventTime
      openPrice := row.openPrice
      high := row.high
      low := row.low
      close := row.close
      volume := row.volume
      provenance := ⟨plan.brokerId, row.fetchedAt, plan.requestId⟩
      barIndex := index })

/-- An answer with bars to a chunk. -/
structure Supply where
  chunkId : String
  brokerId : String
  bars : List HistoricalBar
  deriving DecidableEq

def suppliedBars (supplies : List Supply) : List HistoricalBar := supplies.flatMap Supply.bars

/-- A query with its merge options, and what the router, the gateways and the clock answer while it is
fetched. Chunks are numbered in the order in which they get their ids. -/
structure HistoricalFetch where
  planner : ChunkPlanner
  detector : GapDetector
  merger : ChunkMerger
  query : HistoricalQuery
  requestId : Option String
  newRequestId : String
  newChunkId : ℕ → String
  routed : Option RouteDecision
  today : ℤ
  /-- The rows for a chunk, or the text of what was raised. -/
  respond : ℕ → ChunkPlan → Except String (List BrokerRow)
  /-- The routing for the fallback of a chunk, none where it fails. -/
  fallbackRoute : ℕ → Option FallbackRoute
  gapRoute : Option FallbackRoute

/-- The ledger, and how many chunks have their ids. -/
structure FetchState where
  ledger : ProvenanceLedger
  nextChunk : ℕ

/-- What a fetch returns, with the answers it took and the bars that the gaps were filled with. -/
structure FetchResult where
  series : HistoricalSeries
  ledger : ProvenanceLedger
  collected : List Supply
  filled : List Supply

namespace HistoricalFetch

variable (fetching : HistoricalFetch)

/-- `query.request_id or str(uuid.uuid4())`. -/
def request : String :=
  match fetching.requestId with
  | none => fetching.newRequestId
  | some given => if given = "" then fetching.newRequestId else given

def emptyLedger : ProvenanceLedger where
  requestId := fetching.request
  instrument := fetching.query.instrument.str
  timeframe := fetching.query.timeframe
  mergeStrategy := fetching.merger.strategy

/-- `_fetch_chunk`, with the record of it in the ledger. -/
def fetchChunk (ledger : ProvenanceLedger) (number : ℕ) (plan : ChunkPlan) : ProvenanceLedger × Option Supply :=
  let record (barsFetched : ℕ) (error : Option String) : ChunkRecord :=
    { chunkId := fetching.newChunkId number
      brokerId := plan.brokerId
      fromDate := plan.fromDate
      toDate := plan.toDate
      timeframe := plan.timeframe
      barsFetched := barsFetched
      error := error }
  match fetching.respond number plan with
  | .error error => (ledger.addChunk (record 0 (some error)), none)
  | .ok rows =>
    let bars := historicalBars plan rows
    (ledger.addChunk (record bars.length none), some ⟨fetching.newChunkId number, plan.brokerId, bars⟩)

/-- The planned chunks, recorded in the order of the plan. -/
def fetchPlanned (ledger : ProvenanceLedger) : List (ℕ × ChunkPlan) →
    ProvenanceLedger × List (ℕ × ChunkPlan × Option Supply)
  | [] => (ledger, [])
  | (number, plan) :: rest =>
    let (fetched, answer) := fetching.fetchChunk ledger number plan
    let (ended, answers) := fetchPlanned fetched rest
    (ended, (number, plan, answer) :: answers)

/-- The loop over the brokers of a fallback: the first answer ends it, also one without bars. -/
def tryBrokers (failedPlan : ChunkPlan) (state : FetchState) : List String → FetchState × Option Supply
  | [] => (state, none)
  | fallbackId :: rest =>
    let plan := { failedPlan with brokerId := fallbackId, isFallback := true }
    let (ledger, answer) := fetching.fetchChunk state.ledger state.nextChunk plan
    let next : FetchState := ⟨ledger, state.nextChunk + 1⟩
    match answer with
    | some supply => (next, some supply)
    | none => tryBrokers failedPlan next rest

def tryFallback (state : FetchState) (number : ℕ) (failedPlan : ChunkPlan) : FetchState × Option Supply :=
  match fetching.fallbackRoute number with
  | none => (state, none)
  | some route =>
    fetching.tryBrokers failedPlan state (route.eligible.filter fun broker => broker ≠ failedPlan.brokerId)

/-- The answer that is taken for a chunk; one without bars has the fallback tried. -/
def settle (state : FetchState) (number : ℕ) (plan : ChunkPlan) (answer : Option Supply) : FetchState × Option Supply :=
  match answer with
  | none => fetching.tryFallback state number plan
  | some supply => if supply.bars = [] then fetching.tryFallback state number plan else (state, some supply)

def collect (state : FetchState) : List (ℕ × ChunkPlan × Option Supply) → FetchState × List Supply
  | [] => (state, [])
  | (number, plan, answer) :: rest =>
    let (settled, supply) := fetching.settle state number plan answer
    let (ended, supplies) := collect settled rest
    (ended, supply.toList ++ supplies)

/-- The loop over the candidates for one gap: the first answer with bars ends it. -/
def fillGap (gap : Gap) (state : FetchState) : List String → FetchState × Option Supply
  | [] => (state, none)
  | brokerId :: rest =>
    let plan : ChunkPlan :=
      { brokerId := brokerId
        instrument := fetching.query.instrument
        fromDate := gap.start
        toDate := gap.finish
        timeframe := fetching.query.timeframe
        requestId := fetching.request
        isFallback := true }
    let (ledger, answer) := fetching.fetchChunk state.ledger state.nextChunk plan
    let next : FetchState := ⟨ledger, state.nextChunk + 1⟩
    match answer with
    | some supply => if supply.bars = [] then fillGap gap next rest else (next, some supply)
    | none => fillGap gap next rest

def fillEach (candidates : List String) (state : FetchState) : List Gap → FetchState × List Supply
  | [] => (state, [])
  | gap :: rest =>
    let (filled, supply) := fetching.fillGap gap state candidates
    let (ended, supplies) := fillEach candidates filled rest
    (ended, supply.toList ++ supplies)

def fillGaps (state : FetchState) (gaps : List Gap) : FetchState × List Supply :=
  let tried := state.ledger.chunks.map ChunkRecord.brokerId
  match fetching.gapRoute with
  | none => (state, [])
  | some route => fetching.fillEach (route.eligible.filter fun broker => broker ∉ tried) state gaps

/-- `_merge_and_detect_gaps` with what it adds to the ledger; none where it raises. -/
def mergeInto (ledger : ProvenanceLedger) (allBars : List HistoricalBar) (chunks : List ChunkPlan) :
    Option (ProvenanceLedger × List HistoricalBar × List Gap) :=
  let conflicts := (fetching.merger.merge (sortedBy HistoricalBar.eventTime allBars)).2
  match fetching.detector.mergeAndDetectGaps fetching.merger allBars chunks fetching.query with
  | none => none
  | some (merged, gaps) =>
    some ({ ledger with
      conflicts := ledger.conflicts ++ conflicts
      barRanges := ledger.barRanges ++ populateBarRanges merged }, merged, gaps)

def emptySeries (reason : String) : HistoricalSeries where
  bars := []
  coverage := ⟨fetching.query.fromDate, fetching.query.toDate⟩
  instrument := fetching.query.instrument
  timeframe := fetching.query.timeframe
  gaps := [⟨fetching.query.fromDate, fetching.query.toDate, reason⟩]
  mergeManifest := { degraded := true, degradedReason := reason }

/-- The planned chunks with their numbers. -/
def numbered (chunks : List ChunkPlan) : List (ℕ × ChunkPlan) := chunks.mapIdx fun number plan => (number, plan)

/-- The series with its manifest, over the ledger of the last merge. -/
def conclude (ledger : ProvenanceLedger) (merged : List HistoricalBar) (gaps : List Gap) (chunks : List ChunkPlan) :
    HistoricalSeries × ProvenanceLedger :=
  let failed := ledger.failedChunks
  let reason := "; ".intercalate ((failed.filterMap ChunkRecord.error).filter fun error => error ≠ "")
  let manifest : MergeManifest :=
    { chunkAssignments := (numbered chunks).foldl (fun assigned chunk =>
        assigned.set (fetching.newChunkId chunk.1) chunk.2.brokerId) ∅
      conflictCount := ledger.conflicts.length
      conflictResolution := fetching.merger.strategy
      degraded := !failed.isEmpty
      degradedReason := reason }
  ({ bars := merged
     coverage := ⟨fetching.query.fromDate, fetching.query.toDate⟩
     instrument := fetching.query.instrument
     timeframe := fetching.query.timeframe
     gaps := gaps
     mergeManifest := manifest }, if manifest.degraded then ledger.markDegraded reason else ledger)

/-- A fetch without a bar. -/
def fail (ledger : ProvenanceLedger) (collected : List Supply) (reason : String) : FetchResult where
  series := fetching.emptySeries reason
  ledger := ledger.markDegraded reason
  collected := collected
  filled := []

/-- The planned chunks are fetched and collected, with their fallbacks. -/
def gather (chunks : List ChunkPlan) : FetchState × List Supply :=
  let (fetched, answers) := fetching.fetchPlanned fetching.emptyLedger (numbered chunks)
  fetching.collect ⟨fetched, chunks.length⟩ answers

/-- The collected bars are merged; where gaps are filled, all bars are merged once more. -/
def mergeAndFill (state : FetchState) (collected : List Supply) (chunks : List ChunkPlan) : Option FetchResult :=
  match fetching.mergeInto state.ledger (suppliedBars collected) chunks with
  | none => none
  | some (ledger, merged, gaps) =>
    let (last, filled) := fetching.fillGaps { state with ledger } gaps
    if suppliedBars filled = [] then
      let (series, ledger) := fetching.conclude last.ledger merged gaps chunks
      some ⟨series, ledger, collected, filled⟩
    else match fetching.mergeInto last.ledger (suppliedBars collected ++ suppliedBars filled) chunks with
      | none => none
      | some (ledger, merged, gaps) =>
        let (series, ledger) := fetching.conclude ledger merged gaps chunks
        some ⟨series, ledger, collected, filled⟩

/-- `fetch`; no result where the planner or a merge raises. -/
def fetch : Option FetchResult :=
  match fetching.planner.plan fetching.query fetching.request fetching.routed fetching.today with
  | none => none
  | some chunks =>
    if chunks = [] then some (fetching.fail fetching.emptyLedger [] "no_chunks_planned")
    else
      let (state, collected) := fetching.gather chunks
      if suppliedBars collected = [] then some (fetching.fail state.ledger collected "all_chunks_failed")
      else fetching.mergeAndFill state collected chunks

end HistoricalFetch

end TradeX.V1.History
