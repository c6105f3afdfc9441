import TradeX.Lib.KeyedFold
import TradeX.Lib.Span

/-! The chunk plan of the historical data coordinator. The requested range is divided between the brokers
by their lookback windows, and each part is cut into chunks. Dates are day numbers; chunk ids, which are
random and read by no planning step, are left out. -/

namespace TradeX.V1.History

open Lib

structure HistoricalWindowConstraint where
  timeframe : String
  maxLookbackDays : ℤ
  maxChunkDays : ℤ
  deriving DecidableEq, Repr

structure BrokerCapabilities where
  supportsHistoricalData : Bool
  historicalWindows : List HistoricalWindowConstraint
  deriving DecidableEq, Repr

namespace BrokerCapabilities

variable (caps : BrokerCapabilities)

def historicalWindowFor (timeframe : String) : Option HistoricalWindowConstraint :=
  caps.historicalWindows.find? fun constraint => constraint.timeframe = timeframe

def canServeHistorical (timeframe : String) (lookbackDays : ℤ) : Bool :=
  if !caps.supportsHistoricalData then false
  else match caps.historicalWindowFor timeframe with
    | none => false
    | some constraint => decide (lookbackDays ≤ constraint.maxLookbackDays)

/-- `constraint.max_chunk_days if constraint else 90`. -/
def maxChunk (timeframe : String) : ℤ :=
  match caps.historicalWindowFor timeframe with
  | some constraint => constraint.maxChunkDays
  | none => 90

end BrokerCapabilities

structure RouteDecision where
  primaryBroker : String
  parallelBrokers : List String
  deriving DecidableEq, Repr

/-- `list(decision.parallel_brokers) or [decision.primary_broker]`; a routing error leaves no broker. -/
def eligibleBrokers : Option RouteDecision → List String
  | none => []
  | some decision =>
    if decision.parallelBrokers = [] then [decision.primaryBroker] else decision.parallelBrokers

structure InstrumentRef where
  symbol : String
  exchange : String
  deriving DecidableEq, Repr

def InstrumentRef.str (instrument : InstrumentRef) : String := instrument.symbol ++ ":" ++ instrument.exchange

structure HistoricalQuery where
  instrument : InstrumentRef
  timeframe : String
  fromDate : ℤ
  toDate : ℤ
  deriving DecidableEq, Repr

structure ChunkPlan where
  brokerId : String
  instrument : InstrumentRef
  fromDate : ℤ
  toDate : ℤ
  timeframe : String
  requestId : String
  isFallback : Bool := false
  deriving DecidableEq, Repr

def ChunkPlan.span (chunk : ChunkPlan) : Span := ⟨chunk.fromDate, chunk.toDate⟩

structure ChunkPlanner where
  registry : Dict String BrokerCapabilities

namespace ChunkPlanner

variable (planner : ChunkPlanner)

/-- The lookback the window map gets for the broker; a broker that raises is passed by. -/
def lookback (timeframe : String) (brokerId : String) : Option ℤ :=
  match planner.registry.get brokerId with
  | none => none
  | some caps => match caps.historicalWindowFor timeframe with
    | none => none
    | some constraint => if caps.supportsHistoricalData then some constraint.maxLookbackDays else none

def brokerWindows (timeframe : String) (brokerIds : List String) : Dict String ℤ :=
  brokerIds.foldl (fun windows brokerId => match planner.lookback timeframe brokerId with
    | some days => windows.set brokerId days
    | none => windows) .empty

/-- A range of the partition, where it has a day. -/
def assignRange (result : Dict String Span) (brokerId : String) (first last : ℤ) : Dict String Span :=
  if first ≤ last then result.set brokerId ⟨first, last⟩ else result

def partition (fromDate toDate : ℤ) (timeframe : String) (brokerIds : List String) (today : ℤ) :
    Dict String Span :=
  let windows := planner.brokerWindows timeframe brokerIds
  match windows.entries with
  | [] => .empty
  | [(brokerId, maxDays)] => assignRange .empty brokerId (max fromDate (today - maxDays)) toDate
  | _ =>
    let sorted := sortedBy Prod.snd windows.entries
    match sorted.head?, sorted.getLast? with
    | some (shortBroker, shortDays), some (longBroker, longDays) =>
      let shortFrom := max fromDate (today - shortDays)
      assignRange (assignRange .empty shortBroker shortFrom toDate)
        longBroker (max fromDate (today - longDays)) (shortFrom - 1)
    | _, _ => .empty

/-- The chunks of one broker's range. -/
def splitRange (query : HistoricalQuery) (requestId brokerId : String) (range : Span) :
    Option (List ChunkPlan) :=
  match planner.registry.get brokerId with
  | none => none
  | some caps => (range.cut (caps.maxChunk query.timeframe)).map fun pieces => pieces.map fun piece => {
      brokerId := brokerId, instrument := query.instrument, fromDate := piece.first, toDate := piece.last,
      timeframe := query.timeframe, requestId := requestId }

def splitRanges (query : HistoricalQuery) (requestId : String) : List (String × Span) → Option (List ChunkPlan)
  | [] => some []
  | (brokerId, range) :: rest =>
    match planner.splitRange query requestId brokerId range with
    | none => none
    | some chunks => (splitRanges query requestId rest).map (chunks ++ ·)

/-- No plan where an exception leaves the planner or the loop over the chunks does not end. -/
def plan (query : HistoricalQuery) (requestId : String) (routed : Option RouteDecision) (today : ℤ) :
    Option (List ChunkPlan) :=
  planner.splitRanges query requestId
    (planner.partition query.fromDate query.toDate query.timeframe (eligibleBrokers routed) today).entries

variable {planner} {timeframe brokerId requestId : String} {brokerIds : List String} {days : ℤ}
  {fromDate toDate today : ℤ} {query : HistoricalQuery}

theorem lookback_eq_some : planner.lookback timeframe brokerId = some days ↔
    ∃ caps, planner.registry.get brokerId = some caps ∧ caps.supportsHistoricalData = true ∧
      ∃ constraint, caps.historicalWindowFor timeframe = some constraint ∧ constraint.maxLookbackDays = days := by
  simp only [lookback]
  cases planner.registry.get brokerId with
  | none => simp
  | some caps =>
    cases found : caps.historicalWindowFor timeframe with
    | none => simp [found]
    | some constraint => simp [found]

/-- The windows of the map serve the days their brokers say they can serve. -/
theorem served_iff : (∃ caps, planner.registry.get brokerId = some caps ∧ caps.canServeHistorical timeframe days = true) ↔
    ∃ window, planner.lookback timeframe brokerId = some window ∧ days ≤ window := by
  constructor
  · rintro ⟨caps, registered, serves⟩
    simp only [BrokerCapabilities.canServeHistorical] at serves
    cases supports : caps.supportsHistoricalData with
    | false => simp [supports] at serves
    | true =>
      cases found : caps.historicalWindowFor timeframe with
      | none => simp [supports, found] at serves
      | some constraint =>
        refine ⟨_, lookback_eq_some.mpr ⟨caps, registered, supports, constraint, found, rfl⟩, ?_⟩
        simpa [supports, found] using serves
  · rintro ⟨window, known, reaches⟩
    obtain ⟨caps, registered, supports, constraint, found, rfl⟩ := lookback_eq_some.mp known
    refine ⟨caps, registered, ?_⟩
    simpa [BrokerCapabilities.canServeHistorical, supports, found] using reaches

theorem get_brokerWindows_from (windows : Dict String ℤ) : (brokerIds.foldl (fun windows brokerId =>
      match planner.lookback timeframe brokerId with
      | some days => windows.set brokerId days
      | none => windows) windows).get brokerId =
    if brokerId ∈ brokerIds then (planner.lookback timeframe brokerId).or (windows.get brokerId)
    else windows.get brokerId := by
  induction brokerIds generalizing windows with
  | nil => rfl
  | cons head rest ih =>
    rw [List.foldl_cons, ih]
    by_cases same : brokerId = head
    · subst same
      rw [if_pos List.mem_cons_self]
      cases known : planner.lookback timeframe brokerId with
      | none => simp
      | some days => simp
    · have elsewhere : (match planner.lookback timeframe head with
          | some days => windows.set head days
          | none => windows).get brokerId = windows.get brokerId := by
        cases planner.lookback timeframe head with
        | none => rfl
        | some days => exact (Dict.get_set _ _ _ _).trans (if_neg same)
      simp only [elsewhere, List.mem_cons, same, false_or]

theorem mem_brokerWindows : (brokerId, days) ∈ (planner.brokerWindows timeframe brokerIds).entries ↔
    brokerId ∈ brokerIds ∧ planner.lookback timeframe brokerId = some days := by
  rw [← Dict.get_eq_some, brokerWindows, get_brokerWindows_from]
  have unset : (Dict.empty : Dict String ℤ).get brokerId = none := rfl
  by_cases eligible : brokerId ∈ brokerIds
  · rw [if_pos eligible, unset, Option.or_none]
    exact (and_iff_right eligible).symm
  · rw [if_neg eligible, unset]
    simp [eligible]

/-- The brokers of the first and the last window are different when there are more windows than one. -/
theorem ends_differ {windows : Dict String ℤ} {first second : String × ℤ} {rest : List (String × ℤ)}
    (entries : windows.entries = first :: second :: rest) : ∃ short ∈ windows.entries, ∃ long ∈ windows.entries,
      (sortedBy Prod.snd windows.entries).head? = some short ∧
      (sortedBy Prod.snd windows.entries).getLast? = some long ∧ short.1 ≠ long.1 ∧
      ∀ window ∈ windows.entries, short.2 ≤ window.2 ∧ window.2 ≤ long.2 := by
  have perm := sortedBy_perm Prod.snd windows.entries
  have ordered := sortedBy_pairwise Prod.snd windows.entries
  have distinct : ((sortedBy Prod.snd windows.entries).map Prod.fst).Nodup :=
    (perm.map Prod.fst).nodup_iff.mpr windows.nodup
  have sized : (sortedBy Prod.snd windows.entries).length = rest.length + 2 := by
    rw [perm.length_eq, entries]
    rfl
  cases sorted : sortedBy Prod.snd windows.entries with
  | nil => simp [sorted] at sized
  | cons short behind =>
    rw [sorted] at perm ordered distinct sized
    have some_behind : behind ≠ [] := by
      rintro rfl
      simp at sized
    have last := List.getLast_mem some_behind
    have closes : (short :: behind).getLast? = some (behind.getLast some_behind) := by
      rw [List.getLast?_eq_some_getLast (List.cons_ne_nil _ _), List.getLast_cons some_behind]
    refine ⟨short, perm.subset List.mem_cons_self, behind.getLast some_behind,
      perm.subset (List.mem_cons_of_mem _ last), rfl, closes, ?_, ?_⟩
    · intro same
      exact (List.nodup_cons.mp distinct).1 (same ▸ List.mem_map_of_mem last)
    · intro window member
      constructor
      · rcases List.mem_cons.mp (perm.symm.subset member) with rfl | later
        · exact le_refl _
        · exact List.rel_of_pairwise_cons ordered later
      · have split : behind.dropLast ++ [behind.getLast some_behind] = behind := List.dropLast_append_getLast some_behind
        rw [← split, ← List.cons_append, List.pairwise_append] at ordered
        rcases List.mem_append.mp (split ▸ perm.symm.subset member : window ∈ (short :: behind.dropLast) ++ _) with early | final
        · exact ordered.2.2 _ early _ List.mem_cons_self
        · exact (List.mem_singleton.mp final ▸ le_refl _)

/-- The ranges of the brokers with the shortest and with the longest window. -/
def dividedRanges (fromDate toDate today : ℤ) (short long : String × ℤ) : List (String × Span) :=
  [(short.1, ⟨max fromDate (today - short.2), toDate⟩),
    (long.1, ⟨max fromDate (today - long.2), max fromDate (today - short.2) - 1⟩)].filter
      fun range => range.2.first ≤ range.2.last

theorem partition_unserved (fromDate toDate today : ℤ)
    (none : (planner.brokerWindows timeframe brokerIds).entries = []) :
    (planner.partition fromDate toDate timeframe brokerIds today).entries = [] := by
  simp only [partition, none]
  rfl

theorem partition_divided (fromDate toDate today : ℤ)
    (known : (planner.brokerWindows timeframe brokerIds).entries ≠ []) :
    ∃ short ∈ (planner.brokerWindows timeframe brokerIds).entries,
      ∃ long ∈ (planner.brokerWindows timeframe brokerIds).entries,
        (∀ window ∈ (planner.brokerWindows timeframe brokerIds).entries, short.2 ≤ window.2 ∧ window.2 ≤ long.2) ∧
        (planner.partition fromDate toDate timeframe brokerIds today).entries =
          dividedRanges fromDate toDate today short long := by
  match entries : (planner.brokerWindows timeframe brokerIds).entries with
  | [] => exact absurd entries known
  | [(brokerId, days)] =>
    refine ⟨_, List.mem_cons_self, _, List.mem_cons_self, ?_, ?_⟩
    · intro window member
      rw [List.mem_singleton.mp member]
      exact ⟨le_refl _, le_refl _⟩
    · have before : ¬max fromDate (today - days) ≤ max fromDate (today - days) - 1 := by omega
      simp only [partition, entries, assignRange, dividedRanges, List.filter_cons, decide_eq_true_eq, if_neg before,
        List.filter_nil]
      split
      · rfl
      · rfl
  | first :: second :: rest =>
    obtain ⟨short, shortMember, long, longMember, head, last, differ, between⟩ := ends_differ entries
    rw [← entries]
    refine ⟨short, shortMember, long, longMember, between, ?_⟩
    simp only [partition, head, last]
    rw [entries]
    simp only [assignRange, dividedRanges, List.filter_cons, decide_eq_true_eq, List.filter_nil]
    split
    · split
      · exact (if_neg differ : (if short.1 = long.1 then _ else _) = _)
      · rfl
    · split
      · rfl
      · rfl

/-- The chunks stand for the ranges: they cover the same days, each lies in the range of its broker and is
no longer than its broker takes, and where the ranges are apart, so are the chunks. -/
structure Splits (planner : ChunkPlanner) (timeframe : String) (ranges : List (String × Span))
    (chunks : List ChunkPlan) : Prop where
  covers : ∀ day, (∃ chunk ∈ chunks, day ∈ chunk.span) ↔ ∃ range ∈ ranges, day ∈ range.2
  inside : ∀ chunk ∈ chunks, ∃ range ∈ ranges, chunk.brokerId = range.1 ∧ range.2.first ≤ chunk.fromDate ∧
    chunk.fromDate ≤ chunk.toDate ∧ chunk.toDate ≤ range.2.last
  sized : ∀ chunk ∈ chunks, ∃ caps, planner.registry.get chunk.brokerId = some caps ∧
    chunk.span.length ≤ caps.maxChunk timeframe
  apart : (ranges.Pairwise fun range other => range.2.Apart other.2) →
    chunks.Pairwise fun chunk other => chunk.span.Apart other.span

theorem splitRange_splits {caps : BrokerCapabilities} (requestId : String) (registered : planner.registry.get brokerId = some caps)
    (positive : 0 < caps.maxChunk query.timeframe) (range : Span) : ∃ chunks,
      planner.splitRange query requestId brokerId range = some chunks ∧
      planner.Splits query.timeframe [(brokerId, range)] chunks := by
  obtain ⟨pieces, cut, tiles⟩ := Span.cut_tiles positive range
  refine ⟨_, by simp only [splitRange, registered, cut, Option.map_some]; rfl, ?_, ?_, ?_, ?_⟩
  · intro day
    simp only [List.mem_map, exists_exists_and_eq_and, List.mem_singleton, exists_eq_left]
    exact tiles.covers day
  · intro chunk member
    obtain ⟨piece, cutPiece, rfl⟩ := List.mem_map.mp member
    obtain ⟨begins, ordered, ends, -⟩ := tiles.within cutPiece
    exact ⟨_, List.mem_cons_self, rfl, begins, ordered, ends⟩
  · intro chunk member
    obtain ⟨piece, cutPiece, rfl⟩ := List.mem_map.mp member
    exact ⟨caps, registered, (tiles.within cutPiece).2.2.2⟩
  · intro
    rw [List.pairwise_map]
    exact tiles.apart

theorem splitRanges_requestId {ranges : List (String × Span)} {chunks : List ChunkPlan}
    (split : planner.splitRanges query requestId ranges = some chunks) : ∀ chunk ∈ chunks, chunk.requestId = requestId := by
  induction ranges generalizing chunks with
  | nil =>
    cases split
    intro chunk member
    cases member
  | cons range rest ih =>
    simp only [splitRanges] at split
    split at split
    · cases split
    · next here planned =>
      obtain ⟨others, later, rfl⟩ := Option.map_eq_some_iff.mp split
      intro chunk member
      rcases List.mem_append.mp member with first | second
      · simp only [splitRange] at planned
        split at planned
        · cases planned
        · obtain ⟨pieces, -, rfl⟩ := Option.map_eq_some_iff.mp planned
          obtain ⟨piece, -, rfl⟩ := List.mem_map.mp first
          rfl
      · exact ih later chunk second

theorem splitRanges_splits (requestId : String) {ranges : List (String × Span)} (chunked : ∀ range ∈ ranges, ∃ caps,
      planner.registry.get range.1 = some caps ∧ 0 < caps.maxChunk query.timeframe) : ∃ chunks,
    planner.splitRanges query requestId ranges = some chunks ∧ planner.Splits query.timeframe ranges chunks := by
  induction ranges with
  | nil =>
    refine ⟨[], rfl, ?_, ?_, ?_, fun _ => .nil⟩
    · simp
    · intro chunk member
      cases member
    · intro chunk member
      cases member
  | cons range rest ih =>
    obtain ⟨caps, registered, positive⟩ := chunked range List.mem_cons_self
    obtain ⟨chunks, split, here⟩ := splitRange_splits requestId registered positive range.2
    obtain ⟨others, splitRest, there⟩ := ih fun range member => chunked range (List.mem_cons_of_mem _ member)
    refine ⟨chunks ++ others, by simp only [splitRanges, split, splitRest, Option.map_some], ?_, ?_, ?_, ?_⟩
    · intro day
      simp only [List.mem_append, or_and_right, exists_or, here.covers, there.covers, List.mem_cons, List.not_mem_nil,
        or_false]
    · intro chunk member
      rcases List.mem_append.mp member with first | later
      · obtain ⟨found, range', rest'⟩ := here.inside chunk first
        obtain rfl := List.mem_singleton.mp range'
        exact ⟨_, List.mem_cons_self, rest'⟩
      · obtain ⟨found, range', rest'⟩ := there.inside chunk later
        exact ⟨found, List.mem_cons_of_mem _ range', rest'⟩
    · intro chunk member
      rcases List.mem_append.mp member with first | later
      · exact here.sized chunk first
      · exact there.sized chunk later
    · intro apart
      obtain ⟨head, tail⟩ := List.pairwise_cons.mp apart
      rw [List.pairwise_append]
      refine ⟨here.apart (List.pairwise_singleton _ _), there.apart tail, ?_⟩
      intro chunk first other later
      obtain ⟨_, found, -, begins, -, ends⟩ := here.inside chunk first
      obtain rfl := List.mem_singleton.mp found
      obtain ⟨range', found', -, begins', -, ends'⟩ := there.inside other later
      exact (head range' found').pieces begins ends begins' ends'

/-- A plan over the request: its chunks lie in the request, are apart, are of a length that their broker
takes, and cover the days of the request that one of the brokers can serve. -/
structure PlanCovers (planner : ChunkPlanner) (query : HistoricalQuery) (brokerIds : List String) (today : ℤ)
    (chunks : List ChunkPlan) : Prop where
  within : ∀ chunk ∈ chunks, query.fromDate ≤ chunk.fromDate ∧ chunk.fromDate ≤ chunk.toDate ∧
    chunk.toDate ≤ query.toDate
  apart : chunks.Pairwise fun chunk other => chunk.span.Apart other.span
  sized : ∀ chunk ∈ chunks, ∃ caps, planner.registry.get chunk.brokerId = some caps ∧
    ∃ constraint, caps.historicalWindowFor query.timeframe = some constraint ∧
      chunk.span.length ≤ constraint.maxChunkDays
  covers : ∀ day, (∃ chunk ∈ chunks, day ∈ chunk.span) ↔ query.fromDate ≤ day ∧ day ≤ query.toDate ∧
    ∃ brokerId ∈ brokerIds, ∃ caps, planner.registry.get brokerId = some caps ∧
      caps.canServeHistorical query.timeframe (today - day) = true

/-- Of two eligible brokers with different windows the shorter one reaches the day behind the request. -/
def WindowsReach (planner : ChunkPlanner) (query : HistoricalQuery) (brokerIds : List String) (today : ℤ) : Prop :=
  ∀ brokerId ∈ brokerIds, ∀ window, planner.lookback query.timeframe brokerId = some window →
    ∀ other ∈ brokerIds, ∀ longer, planner.lookback query.timeframe other = some longer →
      window < longer → today - window ≤ query.toDate + 1

theorem covered_iff (lookbackDays : ℤ) {longest : ℤ} (reached : ∃ brokerId ∈ brokerIds,
      planner.lookback timeframe brokerId = some longest)
    (bounds : ∀ brokerId ∈ brokerIds, ∀ window, planner.lookback timeframe brokerId = some window → window ≤ longest) :
    (∃ brokerId ∈ brokerIds, ∃ caps, planner.registry.get brokerId = some caps ∧
      caps.canServeHistorical timeframe lookbackDays = true) ↔ lookbackDays ≤ longest := by
  simp only [served_iff]
  constructor
  · rintro ⟨brokerId, eligible, window, known, reaches⟩
    exact reaches.trans (bounds brokerId eligible window known)
  · intro reaches
    obtain ⟨brokerId, eligible, known⟩ := reached
    exact ⟨brokerId, eligible, longest, known, reaches⟩

/-- A chunk of a broker that has a window is measured by the constraint of the window. -/
theorem sized_by_window {caps : BrokerCapabilities} (known : planner.lookback timeframe brokerId = some days)
    (registered : planner.registry.get brokerId = some caps) :
    ∃ constraint, caps.historicalWindowFor timeframe = some constraint ∧
      constraint ∈ caps.historicalWindows ∧ caps.maxChunk timeframe = constraint.maxChunkDays := by
  obtain ⟨caps', registered', -, constraint, found, -⟩ := lookback_eq_some.mp known
  obtain rfl := Option.some.inj (registered.symm.trans registered')
  exact ⟨constraint, found, List.mem_of_find?_eq_some found, by simp only [BrokerCapabilities.maxChunk, found]⟩

section

variable {short long : String × ℤ} {range : String × Span} {day : ℤ}

theorem mem_dividedRanges : range ∈ dividedRanges fromDate toDate today short long ↔
    range.2.first ≤ range.2.last ∧ (range = (short.1, ⟨max fromDate (today - short.2), toDate⟩) ∨
      range = (long.1, ⟨max fromDate (today - long.2), max fromDate (today - short.2) - 1⟩)) := by
  simp only [dividedRanges, List.mem_filter, List.mem_cons, List.not_mem_nil, or_false, decide_eq_true_eq]
  exact and_comm

theorem dividedRanges_covers : (∃ range ∈ dividedRanges fromDate toDate today short long, day ∈ range.2) ↔
    (max fromDate (today - short.2) ≤ day ∧ day ≤ toDate) ∨
      (max fromDate (today - long.2) ≤ day ∧ day ≤ max fromDate (today - short.2) - 1) := by
  constructor
  · rintro ⟨range, member, inside⟩
    obtain ⟨-, rfl | rfl⟩ := mem_dividedRanges.mp member
    · exact .inl inside
    · exact .inr inside
  · rintro (⟨begins, ends⟩ | ⟨begins, ends⟩)
    · exact ⟨_, mem_dividedRanges.mpr ⟨begins.trans ends, .inl rfl⟩, begins, ends⟩
    · exact ⟨_, mem_dividedRanges.mpr ⟨begins.trans ends, .inr rfl⟩, begins, ends⟩

theorem dividedRanges_apart : (dividedRanges fromDate toDate today short long).Pairwise
    fun range other => range.2.Apart other.2 := by
  apply List.Pairwise.sublist List.filter_sublist
  refine List.pairwise_pair.mpr (.inr ?_)
  exact sub_one_lt _

end

/-- The plan of any route, behind the ranges of its partition. -/
theorem plan_splits (requestId : String) {routed : Option RouteDecision} (chunked : ∀ brokerId ∈ eligibleBrokers routed,
      ∀ caps, planner.registry.get brokerId = some caps → ∀ constraint ∈ caps.historicalWindows, 0 < constraint.maxChunkDays)
    (windowed : ∀ range ∈ (planner.partition query.fromDate query.toDate query.timeframe (eligibleBrokers routed) today).entries,
      range.1 ∈ eligibleBrokers routed ∧ ∃ window, planner.lookback query.timeframe range.1 = some window) :
    ∃ chunks, planner.plan query requestId routed today = some chunks ∧ planner.Splits query.timeframe
      (planner.partition query.fromDate query.toDate query.timeframe (eligibleBrokers routed) today).entries chunks := by
  apply splitRanges_splits
  intro range member
  obtain ⟨eligible, window, known⟩ := windowed range member
  obtain ⟨caps, registered, -⟩ := lookback_eq_some.mp known
  obtain ⟨constraint, -, listed, sized⟩ := sized_by_window known registered
  exact ⟨caps, registered, sized ▸ chunked range.1 eligible caps registered constraint listed⟩

section

variable {routed : Option RouteDecision} {chunks : List ChunkPlan} {short long : String × ℤ}

theorem unserved_covers (none : (planner.brokerWindows query.timeframe brokerIds).entries = [])
    (splits : planner.Splits query.timeframe [] chunks) : planner.PlanCovers query brokerIds today chunks := by
  have empty : ∀ chunk, chunk ∉ chunks := by
    intro chunk member
    obtain ⟨_, ⟨⟩, _⟩ := splits.inside chunk member
  constructor
  · intro chunk member
    exact absurd member (empty chunk)
  · exact splits.apart .nil
  · intro chunk member
    exact absurd member (empty chunk)
  · intro day
    constructor
    · rintro ⟨chunk, member, -⟩
      exact absurd member (empty chunk)
    · rintro ⟨-, -, brokerId, eligible, serves⟩
      obtain ⟨window, known, -⟩ := served_iff.mp serves
      have entry := mem_brokerWindows.mpr ⟨eligible, known⟩
      rw [none] at entry
      cases entry

/-- The chunks of a division overshoot the request exactly when the shortest window starts behind it and
the longest one is longer. -/
theorem divided_covers_iff (ordered : query.fromDate ≤ query.toDate)
    (shortKnown : short.1 ∈ brokerIds ∧ planner.lookback query.timeframe short.1 = some short.2)
    (longKnown : long.1 ∈ brokerIds ∧ planner.lookback query.timeframe long.1 = some long.2)
    (between : ∀ brokerId ∈ brokerIds, ∀ window, planner.lookback query.timeframe brokerId = some window →
      short.2 ≤ window ∧ window ≤ long.2)
    (splits : planner.Splits query.timeframe (dividedRanges query.fromDate query.toDate today short long) chunks) :
    planner.PlanCovers query brokerIds today chunks ↔ (short.2 < long.2 → today - short.2 ≤ query.toDate + 1) := by
  have served (day : ℤ) := covered_iff (today - day) ⟨long.1, longKnown⟩ fun brokerId eligible window known =>
    (between brokerId eligible window known).2
  have ends : short.2 ≤ long.2 := (between short.1 shortKnown.1 short.2 shortKnown.2).2
  constructor
  · intro plan longer
    by_contra late
    -- The day before the short window: the long window has it, the request has not.
    have inPlan : ∃ chunk ∈ chunks, today - short.2 - 1 ∈ chunk.span := by
      rw [splits.covers, dividedRanges_covers]
      omega
    have inRequest := (plan.covers _).mp inPlan
    omega
  · intro reach
    constructor
    · intro chunk member
      obtain ⟨range, ranged, -, begins, spans, finishes⟩ := splits.inside chunk member
      obtain ⟨-, rfl | rfl⟩ := mem_dividedRanges.mp ranged
      · simp only at begins finishes
        omega
      · simp only at begins finishes
        omega
    · exact splits.apart dividedRanges_apart
    · intro chunk member
      obtain ⟨caps, registered, sized⟩ := splits.sized chunk member
      obtain ⟨range, ranged, named, -⟩ := splits.inside chunk member
      have known : ∃ window, planner.lookback query.timeframe chunk.brokerId = some window := by
        obtain ⟨-, rfl | rfl⟩ := mem_dividedRanges.mp ranged
        · exact ⟨_, named ▸ shortKnown.2⟩
        · exact ⟨_, named ▸ longKnown.2⟩
      obtain ⟨window, known⟩ := known
      obtain ⟨constraint, found, -, measured⟩ := sized_by_window known registered
      exact ⟨caps, registered, constraint, found, measured ▸ sized⟩
    · intro day
      rw [splits.covers, dividedRanges_covers, served]
      omega

/-- The plan is over the request, as long as the shorter of two windows reaches the day behind it. -/
theorem plan_covers_iff (planner : ChunkPlanner) (query : HistoricalQuery) (requestId : String)
    (routed : Option RouteDecision) (today : ℤ) (ordered : query.fromDate ≤ query.toDate)
    (chunked : ∀ brokerId ∈ eligibleBrokers routed, ∀ caps, planner.registry.get brokerId = some caps →
      ∀ constraint ∈ caps.historicalWindows, 0 < constraint.maxChunkDays) :
    (∃ chunks, planner.plan query requestId routed today = some chunks ∧
      planner.PlanCovers query (eligibleBrokers routed) today chunks) ↔
    planner.WindowsReach query (eligibleBrokers routed) today := by
  by_cases unserved : (planner.brokerWindows query.timeframe (eligibleBrokers routed)).entries = []
  · have ranges := partition_unserved query.fromDate query.toDate today unserved
    have windowed : ∀ range ∈ (planner.partition query.fromDate query.toDate query.timeframe (eligibleBrokers routed)
        today).entries, range.1 ∈ eligibleBrokers routed ∧
          ∃ window, planner.lookback query.timeframe range.1 = some window := by
      rw [ranges]
      intro range member
      cases member
    obtain ⟨chunks, planned, splits⟩ := plan_splits requestId chunked windowed
    rw [ranges] at splits
    refine iff_of_true ⟨chunks, planned, unserved_covers unserved splits⟩ ?_
    intro brokerId eligible window known
    have entry := mem_brokerWindows.mpr ⟨eligible, known⟩
    rw [unserved] at entry
    cases entry
  · obtain ⟨short, shortMember, long, longMember, between, ranges⟩ :=
      partition_divided query.fromDate query.toDate today unserved
    have shortKnown := mem_brokerWindows.mp shortMember
    have longKnown := mem_brokerWindows.mp longMember
    have windowed : ∀ range ∈ (planner.partition query.fromDate query.toDate query.timeframe (eligibleBrokers routed)
        today).entries, range.1 ∈ eligibleBrokers routed ∧
          ∃ window, planner.lookback query.timeframe range.1 = some window := by
      rw [ranges]
      intro range member
      obtain ⟨-, rfl | rfl⟩ := mem_dividedRanges.mp member
      · exact ⟨shortKnown.1, _, shortKnown.2⟩
      · exact ⟨longKnown.1, _, longKnown.2⟩
    obtain ⟨chunks, planned, splits⟩ := plan_splits requestId chunked windowed
    rw [ranges] at splits
    have bounds : ∀ brokerId ∈ eligibleBrokers routed, ∀ window,
        planner.lookback query.timeframe brokerId = some window → short.2 ≤ window ∧ window ≤ long.2 :=
      fun brokerId eligible window known => between _ (mem_brokerWindows.mpr ⟨eligible, known⟩)
    have divided := divided_covers_iff ordered shortKnown longKnown bounds splits
    constructor
    · rintro ⟨chunks', planned', covers⟩
      obtain rfl := Option.some.inj (planned.symm.trans planned')
      intro brokerId eligible window known other eligible' longer known' shorter
      have lower := (bounds brokerId eligible window known).1
      have upper := (bounds other eligible' longer known').2
      have reach := divided.mp covers (by omega)
      omega
    · intro reach
      refine ⟨chunks, planned, divided.mpr ?_⟩
      exact reach short.1 shortKnown.1 short.2 shortKnown.2 long.1 longKnown.1 long.2 longKnown.2

/-- A broker with ten days of lookback and one with a year of it. -/
def tenDaysAndAYear : ChunkPlanner where
  registry := (Dict.empty.set "upstox" ⟨true, [⟨"1m", 10, 30⟩]⟩).set "dhan" ⟨true, [⟨"1m", 365, 90⟩]⟩

theorem plan_covers_recent : ∃ chunks,
    tenDaysAndAYear.plan ⟨⟨"RELIANCE", "NSE"⟩, "1m", 739600, 739700⟩ "r1" (some ⟨"dhan", ["dhan", "upstox"]⟩) 739700 = some chunks ∧
      tenDaysAndAYear.PlanCovers ⟨⟨"RELIANCE", "NSE"⟩, "1m", 739600, 739700⟩ ["dhan", "upstox"] 739700 chunks := by
  apply (plan_covers_iff tenDaysAndAYear ⟨⟨"RELIANCE", "NSE"⟩, "1m", 739600, 739700⟩ "r1" (some ⟨"dhan", ["dhan", "upstox"]⟩) 739700
    (by decide) ?_).mpr
  · intro brokerId eligible window known other eligible' longer known' shorter
    simp only [eligibleBrokers, List.cons_ne_nil, if_false, List.mem_cons, List.not_mem_nil, or_false] at eligible
    rcases eligible with rfl | rfl
    · obtain rfl : 365 = window := Option.some.inj known
      decide
    · obtain rfl : 10 = window := Option.some.inj known
      decide
  · decide

/-- A request of the weeks before the short window: the long broker is asked up to that window. -/
theorem plan_overshoots : ¬∃ chunks,
    tenDaysAndAYear.plan ⟨⟨"RELIANCE", "NSE"⟩, "1m", 739600, 739650⟩ "r1" (some ⟨"dhan", ["dhan", "upstox"]⟩) 739700 = some chunks ∧
      tenDaysAndAYear.PlanCovers ⟨⟨"RELIANCE", "NSE"⟩, "1m", 739600, 739650⟩ ["dhan", "upstox"] 739700 chunks := by
  rintro ⟨chunks, planned, covers⟩
  have built : tenDaysAndAYear.plan ⟨⟨"RELIANCE", "NSE"⟩, "1m", 739600, 739650⟩ "r1" (some ⟨"dhan", ["dhan", "upstox"]⟩) 739700 =
      some [⟨"dhan", ⟨"RELIANCE", "NSE"⟩, 739600, 739689, "1m", "r1", false⟩] := by decide
  obtain rfl := Option.some.inj (built.symm.trans planned)
  exact absurd (covers.within _ List.mem_cons_self).2.2 (by decide)

end

end ChunkPlanner

end TradeX.V1.History
