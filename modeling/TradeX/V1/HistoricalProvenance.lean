import TradeX.V1.HistoricalCoordinator

/-! What the ledger of a fetch says of the returned series: which range an index is in, and which conflicts
were met. Ranges and conflicts are only ever added to the ledger, also by a second merge. -/

namespace TradeX.V1.History

open Lib

/-- The timestamp of a conflict and its two brokers. -/
def ConflictRecord.key (conflict : ConflictRecord) : ℚ × Sym2 String :=
  (conflict.barEventTime, s(conflict.primaryBroker, conflict.secondaryBroker))

/-- The ranges and the conflicts of one ledger are those of another. -/
structure SameMerges (ledger other : ProvenanceLedger) : Prop where
  barRanges : ledger.barRanges = other.barRanges
  conflicts : ledger.conflicts = other.conflicts

theorem SameMerges.refl (ledger : ProvenanceLedger) : SameMerges ledger ledger := ⟨rfl, rfl⟩

theorem SameMerges.trans {first second third : ProvenanceLedger} (one : SameMerges first second)
    (two : SameMerges second third) : SameMerges first third :=
  ⟨one.barRanges.trans two.barRanges, one.conflicts.trans two.conflicts⟩

namespace FetchResult

variable (result : FetchResult)

def supplies : List Supply := result.collected ++ result.filled

/-- The bars of the last merge. -/
def allBars : List HistoricalBar := suppliedBars result.supplies

/-- The chunk and the broker of the range answered with the bar. -/
def Supplied (record : BarRangeRecord) (bar : HistoricalBar) : Prop :=
  ∃ supply ∈ result.supplies, supply.chunkId = record.chunkId ∧ supply.brokerId = record.brokerId ∧
    ∃ given ∈ supply.bars, { given with barIndex := bar.barIndex } = bar

/-- Every index of the series is in exactly one range, which is right for its bar. -/
def Assigned (right : BarRangeRecord → HistoricalBar → Prop) : Prop :=
  ∀ index bar, result.series.bars[index]? = some bar →
    ∃ record, result.ledger.barRanges.filter (·.Covers index) = [record] ∧ right record bar

/-- The range has the broker and the request that the bar itself names. -/
def Named (record : BarRangeRecord) (bar : HistoricalBar) : Prop :=
  record.brokerId = bar.provenance.brokerId ∧ record.chunkId = bar.provenance.requestId

end FetchResult

namespace HistoricalFetch

variable (fetching : HistoricalFetch)

/-- The bars that a merge returns, with their indices. -/
def mergedBars (bars : List HistoricalBar) : List HistoricalBar :=
  (fetching.merger.merge (sortedBy HistoricalBar.eventTime bars)).1.mapIdx fun index bar =>
    { bar with barIndex := index }

/-- The conflicts that a merge meets. -/
def metConflicts (bars : List HistoricalBar) : List ConflictRecord :=
  (fetching.merger.merge (sortedBy HistoricalBar.eventTime bars)).2

/-- The ledger has every conflict of the last merge once, and no other. -/
structure ConflictLaws (result : FetchResult) : Prop where
  once : (result.ledger.conflicts.map ConflictRecord.key).Nodup
  recorded : ∀ key, key ∈ result.ledger.conflicts.map ConflictRecord.key ↔
    key ∈ (fetching.metConflicts result.allBars).map ConflictRecord.key

/-- The manifest counts the timestamps at which the last merge met a conflict. -/
def Counted (result : FetchResult) : Prop :=
  result.series.mergeManifest.conflictCount =
    ((fetching.metConflicts result.allBars).map ConflictRecord.barEventTime).dedup.length

/-- What the ledger and the manifest have to say of the series. -/
structure ProvenanceLaws (result : FetchResult) : Prop where
  assigned : result.Assigned result.Supplied
  conflicts : fetching.ConflictLaws result
  counted : fetching.Counted result

/-- An answer to a chunk of the fetch: its bars name the broker, and the request of the fetch. -/
structure Genuine (supply : Supply) : Prop where
  numbered : ∃ number, supply.chunkId = fetching.newChunkId number
  stamped : ∀ bar ∈ supply.bars, bar.provenance.brokerId = supply.brokerId ∧ bar.provenance.requestId = fetching.request

variable {fetching} {ledger : ProvenanceLedger} {state : FetchState} {plan : ChunkPlan} {number : ℕ}
  {bar : HistoricalBar}

theorem mem_historicalBars {rows : List BrokerRow} (member : bar ∈ historicalBars plan rows) :
    bar.provenance.brokerId = plan.brokerId ∧ bar.provenance.requestId = plan.requestId := by
  have listed := (sortedBy_perm HistoricalBar.eventTime _).mem_iff.mp member
  obtain ⟨index, row, -, rfl⟩ := List.mem_mapIdx.mp listed
  exact ⟨rfl, rfl⟩

theorem fetchChunk_spec (own : plan.requestId = fetching.request) :
    SameMerges (fetching.fetchChunk ledger number plan).1 ledger ∧
    ∀ supply, (fetching.fetchChunk ledger number plan).2 = some supply → fetching.Genuine supply := by
  simp only [fetchChunk]
  cases fetching.respond number plan with
  | error error =>
    refine ⟨⟨rfl, rfl⟩, ?_⟩
    intro supply answered
    cases answered
  | ok rows =>
    refine ⟨⟨rfl, rfl⟩, ?_⟩
    intro supply answered
    cases answered
    refine ⟨⟨number, rfl⟩, ?_⟩
    intro bar member
    obtain ⟨broker, request⟩ := mem_historicalBars member
    exact ⟨broker, request.trans own⟩

theorem fetchPlanned_spec {planned : List (ℕ × ChunkPlan)}
    (own : ∀ chunk ∈ planned, chunk.2.requestId = fetching.request) :
    SameMerges (fetching.fetchPlanned ledger planned).1 ledger ∧
    ∀ answer ∈ (fetching.fetchPlanned ledger planned).2, answer.2.1.requestId = fetching.request ∧
      ∀ supply, answer.2.2 = some supply → fetching.Genuine supply := by
  induction planned generalizing ledger with
  | nil =>
    refine ⟨.refl ledger, ?_⟩
    intro answer member
    cases member
  | cons chunk rest ih =>
    have first := own chunk List.mem_cons_self
    obtain ⟨same, genuine⟩ := @fetchChunk_spec fetching ledger chunk.2 chunk.1 first
    obtain ⟨later, answers⟩ := @ih (fetching.fetchChunk ledger chunk.1 chunk.2).1 fun other member =>
      own other (List.mem_cons_of_mem _ member)
    refine ⟨later.trans same, ?_⟩
    intro answer member
    rcases List.mem_cons.mp member with rfl | behind
    · exact ⟨first, genuine⟩
    · exact answers answer behind

theorem tryBrokers_spec (own : plan.requestId = fetching.request) (brokers : List String) :
    SameMerges (fetching.tryBrokers plan state brokers).1.ledger state.ledger ∧
    ∀ supply, (fetching.tryBrokers plan state brokers).2 = some supply → fetching.Genuine supply := by
  induction brokers generalizing state with
  | nil =>
    refine ⟨.refl _, ?_⟩
    intro supply answered
    cases answered
  | cons broker rest ih =>
    obtain ⟨same, genuine⟩ := @fetchChunk_spec fetching state.ledger
      { plan with brokerId := broker, isFallback := true } state.nextChunk own
    simp only [tryBrokers]
    cases answered : (fetching.fetchChunk state.ledger state.nextChunk
        { plan with brokerId := broker, isFallback := true }).2 with
    | none =>
      obtain ⟨later, taken⟩ := @ih ⟨(fetching.fetchChunk state.ledger state.nextChunk
        { plan with brokerId := broker, isFallback := true }).1, state.nextChunk + 1⟩
      exact ⟨later.trans same, taken⟩
    | some supply =>
      refine ⟨same, ?_⟩
      intro other chosen
      cases chosen
      exact genuine supply answered

theorem tryFallback_spec (own : plan.requestId = fetching.request) :
    SameMerges (fetching.tryFallback state number plan).1.ledger state.ledger ∧
    ∀ supply, (fetching.tryFallback state number plan).2 = some supply → fetching.Genuine supply := by
  simp only [tryFallback]
  cases fetching.fallbackRoute number with
  | none =>
    refine ⟨.refl _, ?_⟩
    intro supply answered
    cases answered
  | some route => exact tryBrokers_spec own _

theorem settle_spec {answer : Option Supply} (own : plan.requestId = fetching.request)
    (genuine : ∀ supply, answer = some supply → fetching.Genuine supply) :
    SameMerges (fetching.settle state number plan answer).1.ledger state.ledger ∧
    ∀ supply, (fetching.settle state number plan answer).2 = some supply → fetching.Genuine supply := by
  simp only [settle]
  split
  · exact tryFallback_spec own
  · split
    · exact tryFallback_spec own
    · exact ⟨.refl _, genuine⟩

theorem collect_spec {answers : List (ℕ × ChunkPlan × Option Supply)}
    (own : ∀ answer ∈ answers, answer.2.1.requestId = fetching.request ∧
      ∀ supply, answer.2.2 = some supply → fetching.Genuine supply) :
    SameMerges (fetching.collect state answers).1.ledger state.ledger ∧
    ∀ supply ∈ (fetching.collect state answers).2, fetching.Genuine supply := by
  induction answers generalizing state with
  | nil =>
    refine ⟨.refl _, ?_⟩
    intro supply member
    cases member
  | cons answer rest ih =>
    obtain ⟨requested, genuine⟩ := own answer List.mem_cons_self
    obtain ⟨same, settled⟩ := @settle_spec fetching state answer.2.1 answer.1 answer.2.2 requested genuine
    obtain ⟨later, taken⟩ := @ih (fetching.settle state answer.1 answer.2.1 answer.2.2).1 fun other member =>
      own other (List.mem_cons_of_mem _ member)
    refine ⟨later.trans same, ?_⟩
    intro supply member
    rcases List.mem_append.mp member with first | second
    · exact settled supply (Option.mem_toList.mp first)
    · exact taken supply second

theorem fillGap_spec (gap : Gap) (brokers : List String) :
    SameMerges (fetching.fillGap gap state brokers).1.ledger state.ledger ∧
    ∀ supply, (fetching.fillGap gap state brokers).2 = some supply → fetching.Genuine supply := by
  induction brokers generalizing state with
  | nil =>
    refine ⟨.refl _, ?_⟩
    intro supply answered
    cases answered
  | cons broker rest ih =>
    let plan : ChunkPlan := ⟨broker, fetching.query.instrument, gap.start, gap.finish, fetching.query.timeframe,
      fetching.request, true⟩
    obtain ⟨same, genuine⟩ := @fetchChunk_spec fetching state.ledger plan state.nextChunk rfl
    obtain ⟨later, taken⟩ := @ih ⟨(fetching.fetchChunk state.ledger state.nextChunk plan).1, state.nextChunk + 1⟩
    simp only [fillGap]
    cases answered : (fetching.fetchChunk state.ledger state.nextChunk plan).2 with
    | none => exact ⟨later.trans same, taken⟩
    | some supply =>
      dsimp only
      split
      · exact ⟨later.trans same, taken⟩
      · refine ⟨same, ?_⟩
        intro other chosen
        cases chosen
        exact genuine supply answered

theorem fillEach_spec (candidates : List String) (gaps : List Gap) :
    SameMerges (fetching.fillEach candidates state gaps).1.ledger state.ledger ∧
    ∀ supply ∈ (fetching.fillEach candidates state gaps).2, fetching.Genuine supply := by
  induction gaps generalizing state with
  | nil =>
    refine ⟨.refl _, ?_⟩
    intro supply member
    cases member
  | cons gap rest ih =>
    obtain ⟨same, genuine⟩ := @fillGap_spec fetching state gap candidates
    obtain ⟨later, taken⟩ := @ih (fetching.fillGap gap state candidates).1
    refine ⟨later.trans same, ?_⟩
    intro supply member
    rcases List.mem_append.mp member with first | second
    · exact genuine supply (Option.mem_toList.mp first)
    · exact taken supply second

theorem fillGaps_spec (gaps : List Gap) :
    SameMerges (fetching.fillGaps state gaps).1.ledger state.ledger ∧
    ∀ supply ∈ (fetching.fillGaps state gaps).2, fetching.Genuine supply := by
  simp only [fillGaps]
  cases fetching.gapRoute with
  | none =>
    refine ⟨.refl _, ?_⟩
    intro supply member
    cases member
  | some route => exact fillEach_spec _ _

end HistoricalFetch

/-- The bars of a merge that a second one has superseded. -/
def FetchResult.superseded (result : FetchResult) : List HistoricalBar :=
  if suppliedBars result.filled = [] then [] else suppliedBars result.collected

namespace HistoricalFetch

variable {fetching : HistoricalFetch} {ledger after : ProvenanceLedger} {bars merged : List HistoricalBar}
  {gaps : List Gap} {chunks : List ChunkPlan} {result : FetchResult}

theorem mergeInto_spec (merges : fetching.mergeInto ledger bars chunks = some (after, merged, gaps)) :
    merged = fetching.mergedBars bars ∧ after.barRanges = ledger.barRanges ++ populateBarRanges merged ∧
    after.conflicts = ledger.conflicts ++ fetching.metConflicts bars := by
  simp only [mergeInto, GapDetector.mergeAndDetectGaps] at merges
  split at merges
  · cases merges
  · next found =>
    split at found
    · cases found
    · cases found
      cases merges
      exact ⟨rfl, rfl, rfl⟩

theorem conclude_same (ledger : ProvenanceLedger) (merged : List HistoricalBar) (gaps : List Gap)
    (chunks : List ChunkPlan) : SameMerges (fetching.conclude ledger merged gaps chunks).2 ledger := by
  simp only [conclude]
  split
  · exact ⟨rfl, rfl⟩
  · exact .refl ledger

/-- What a returned fetch has recorded: the ranges and conflicts of the superseded merge and of the last one. -/
structure Recorded (fetching : HistoricalFetch) (result : FetchResult) : Prop where
  genuine : ∀ supply ∈ result.supplies, fetching.Genuine supply
  started : suppliedBars result.filled ≠ [] → suppliedBars result.collected ≠ []
  bars : result.series.bars = fetching.mergedBars result.allBars
  barRanges : result.ledger.barRanges =
    populateBarRanges (fetching.mergedBars result.superseded) ++ populateBarRanges (fetching.mergedBars result.allBars)
  conflicts : result.ledger.conflicts =
    fetching.metConflicts result.superseded ++ fetching.metConflicts result.allBars
  counted : result.series.mergeManifest.conflictCount = result.ledger.conflicts.length

theorem gather_spec (requested : ∀ chunk ∈ chunks, chunk.requestId = fetching.request) :
    SameMerges (fetching.gather chunks).1.ledger fetching.emptyLedger ∧
    ∀ supply ∈ (fetching.gather chunks).2, fetching.Genuine supply := by
  have own : ∀ chunk ∈ numbered chunks, chunk.2.requestId = fetching.request := by
    intro chunk member
    obtain ⟨index, within, rfl⟩ := List.mem_mapIdx.mp member
    exact requested _ (List.getElem_mem within)
  obtain ⟨kept, answers⟩ := @fetchPlanned_spec fetching fetching.emptyLedger (numbered chunks) own
  obtain ⟨same, collected⟩ := @collect_spec fetching
    ⟨(fetching.fetchPlanned fetching.emptyLedger (numbered chunks)).1, chunks.length⟩ _ answers
  exact ⟨same.trans kept, collected⟩

theorem supplies_genuine {collected filled : List Supply} (first : ∀ supply ∈ collected, fetching.Genuine supply)
    (second : ∀ supply ∈ filled, fetching.Genuine supply) :
    ∀ supply ∈ collected ++ filled, fetching.Genuine supply := by
  intro supply member
  rcases List.mem_append.mp member with early | late
  · exact first supply early
  · exact second supply late

theorem fail_recorded {collected : List Supply} {reason : String} (unmerged : SameMerges ledger fetching.emptyLedger)
    (genuine : ∀ supply ∈ collected, fetching.Genuine supply) (none : suppliedBars collected = []) :
    fetching.Recorded (fetching.fail ledger collected reason) := by
  have allNone : (fetching.fail ledger collected reason).allBars = [] := by
    simpa [FetchResult.allBars, FetchResult.supplies, fail] using none
  constructor
  · simpa [FetchResult.supplies, fail] using genuine
  · exact fun brought => absurd rfl brought
  · rw [allNone]
    rfl
  · rw [allNone]
    exact unmerged.barRanges
  · rw [allNone]
    exact unmerged.conflicts
  · exact (congrArg List.length unmerged.conflicts).symm

theorem conclude_recorded {collected filled : List Supply}
    (genuine : ∀ supply ∈ collected ++ filled, fetching.Genuine supply)
    (started : suppliedBars filled ≠ [] → suppliedBars collected ≠ [])
    (barRanges : ledger.barRanges =
      populateBarRanges (fetching.mergedBars (if suppliedBars filled = [] then [] else suppliedBars collected)) ++
        populateBarRanges (fetching.mergedBars (suppliedBars collected ++ suppliedBars filled)))
    (conflicts : ledger.conflicts =
      fetching.metConflicts (if suppliedBars filled = [] then [] else suppliedBars collected) ++
        fetching.metConflicts (suppliedBars collected ++ suppliedBars filled))
    (merges : merged = fetching.mergedBars (suppliedBars collected ++ suppliedBars filled)) :
    fetching.Recorded ⟨(fetching.conclude ledger merged gaps chunks).1,
      (fetching.conclude ledger merged gaps chunks).2, collected, filled⟩ := by
  have all : suppliedBars (collected ++ filled) = suppliedBars collected ++ suppliedBars filled := List.flatMap_append
  have same := @conclude_same fetching ledger merged gaps chunks
  constructor
  · exact genuine
  · exact started
  · simp only [FetchResult.allBars, FetchResult.supplies, all]
    exact merges
  · simp only [FetchResult.allBars, FetchResult.supplies, FetchResult.superseded, all]
    exact same.barRanges.trans barRanges
  · simp only [FetchResult.allBars, FetchResult.supplies, FetchResult.superseded, all]
    exact same.conflicts.trans conflicts
  · exact (congrArg List.length same.conflicts).symm

theorem mergeAndFill_recorded {state : FetchState} {collected : List Supply}
    (unmerged : SameMerges state.ledger fetching.emptyLedger) (genuine : ∀ supply ∈ collected, fetching.Genuine supply)
    (some_bar : suppliedBars collected ≠ []) (returned : fetching.mergeAndFill state collected chunks = some result) :
    fetching.Recorded result := by
  simp only [mergeAndFill] at returned
  split at returned
  · cases returned
  · next ledger merged gaps merges =>
    obtain ⟨rfl, ranges, conflicts⟩ := mergeInto_spec merges
    rw [unmerged.barRanges] at ranges
    rw [unmerged.conflicts] at conflicts
    obtain ⟨same, brought⟩ := @fillGaps_spec fetching { state with ledger } gaps
    revert same brought returned
    generalize fetching.fillGaps { state with ledger } gaps = filling
    obtain ⟨last, filled⟩ := filling
    intro returned same brought
    dsimp only at returned same brought
    have genuineAll := supplies_genuine genuine brought
    split at returned
    · next none =>
      cases returned
      apply conclude_recorded genuineAll fun _ => some_bar
      · rw [if_pos none, none, List.append_nil, same.barRanges, ranges]
        rfl
      · rw [if_pos none, none, List.append_nil, same.conflicts, conflicts]
        rfl
      · rw [none, List.append_nil]
    · next some_filled =>
      split at returned
      · cases returned
      · next after remerged gaps' again =>
        obtain ⟨rfl, ranges', conflicts'⟩ := mergeInto_spec again
        cases returned
        apply conclude_recorded genuineAll fun _ => some_bar
        · rw [if_neg some_filled, ranges', same.barRanges, ranges]
          rfl
        · rw [if_neg some_filled, conflicts', same.conflicts, conflicts]
          rfl
        · rfl

theorem fetch_recorded (returned : fetching.fetch = some result) : fetching.Recorded result := by
  simp only [fetch] at returned
  split at returned
  · cases returned
  · next chunks planning =>
    obtain ⟨unmerged, genuine⟩ := gather_spec (ChunkPlanner.splitRanges_requestId planning)
    split at returned
    · cases returned
      exact fail_recorded (.refl _) (fun supply member => (nomatch member)) rfl
    · split at returned
      · next none =>
        cases returned
        exact fail_recorded unmerged genuine none
      · next some_bar => exact mergeAndFill_recorded unmerged genuine some_bar returned

end HistoricalFetch

namespace HistoricalFetch

variable {fetching : HistoricalFetch} {bars more : List HistoricalBar} {bar : HistoricalBar} {index : ℕ}
  {result : FetchResult}

/-- Every index of a list is in exactly one of its ranges, with the broker and the request of its bar. -/
theorem populateBarRanges_covers (found : bars[index]? = some bar) :
    ∃ record, (populateBarRanges bars).filter (·.Covers index) = [record] ∧ FetchResult.Named record bar := by
  obtain ⟨run, alone, named⟩ := @IndexRun.group_covers _ _ HistoricalBar.source _ _ _ _ found
  have same : (IndexRun.group HistoricalBar.source bars).filter
      ((fun record : BarRangeRecord => decide (record.Covers index)) ∘ BarRangeRecord.ofRun) = [run] := alone
  refine ⟨BarRangeRecord.ofRun run, ?_, ?_⟩
  · rw [populateBarRanges, List.filter_map, same, List.map_singleton]
  · exact ⟨congrArg Prod.fst named, congrArg Prod.snd named⟩

theorem mem_mergedBars (member : bar ∈ fetching.mergedBars bars) :
    ∃ given ∈ bars, { given with barIndex := bar.barIndex } = bar := by
  obtain ⟨index, within, rfl⟩ := List.mem_mapIdx.mp member
  obtain ⟨first, rest, listed, chosen⟩ := ChunkMerger.mem_merge.mp (List.getElem_mem within)
  obtain ⟨kept, -⟩ := @ChunkMerger.kept_listed fetching.merger _ _ _ _ listed
  rw [chosen] at kept
  exact ⟨_, (sortedBy_perm HistoricalBar.eventTime bars).mem_iff.mp kept, rfl⟩

theorem mergedBars_first (some_bar : bars ≠ []) : ∃ bar, (fetching.mergedBars bars)[0]? = some bar := by
  obtain ⟨given, member⟩ := List.exists_mem_of_ne_nil bars some_bar
  have listed := (sortedBy_perm HistoricalBar.eventTime bars).mem_iff.mpr member
  obtain ⟨kept, stands, -⟩ := @ChunkMerger.merge_complete fetching.merger _ _ listed
  have positive : 0 < (fetching.mergedBars bars).length := by
    rw [mergedBars, List.length_mapIdx]
    exact List.length_pos_of_mem stands
  exact ⟨_, List.getElem?_eq_getElem positive⟩

/-- A conflict that was met is met again when bars are added at the end. -/
theorem metConflicts_append {conflict : ConflictRecord} (met : conflict ∈ fetching.metConflicts bars) :
    conflict ∈ fetching.metConflicts (bars ++ more) := by
  have at_time (bars : List HistoricalBar) :
      ChunkMerger.barsAt conflict.barEventTime (sortedBy HistoricalBar.eventTime bars) =
        ChunkMerger.barsAt conflict.barEventTime bars := sortedBy_stable _ _ _
  have own : conflict ∈ (fetching.metConflicts bars).filter fun other => other.barEventTime = conflict.barEventTime :=
    List.mem_filter.mpr ⟨met, decide_eq_true rfl⟩
  cases listed : ChunkMerger.barsAt conflict.barEventTime bars with
  | nil =>
    rw [metConflicts, ChunkMerger.merge_unrecorded ((at_time bars).trans listed)] at own
    cases own
  | cons first rest =>
    rw [metConflicts, ChunkMerger.merge_recorded ((at_time bars).trans listed)] at own
    have longer : ChunkMerger.barsAt conflict.barEventTime (bars ++ more) =
        first :: (rest ++ ChunkMerger.barsAt conflict.barEventTime more) := by
      simp only [ChunkMerger.barsAt] at listed ⊢
      rw [List.filter_append, listed, List.cons_append]
    have again := @ChunkMerger.merge_recorded fetching.merger _ _ _ _ ((at_time (bars ++ more)).trans longer)
    rw [ChunkMerger.clashes_append, List.map_append] at again
    have kept : conflict ∈ (fetching.metConflicts (bars ++ more)).filter fun other =>
        other.barEventTime = conflict.barEventTime := by
      rw [metConflicts, again]
      exact List.mem_append_left _ own
    exact (List.mem_filter.mp kept).1

/-- Every index is in one range, named by its bar, exactly when no gap was filled: the ranges of a superseded
merge stay in the ledger. -/
theorem assigned_named_iff (recorded : fetching.Recorded result) :
    result.Assigned FetchResult.Named ↔ suppliedBars result.filled = [] := by
  constructor
  · intro assigned
    by_contra some_filled
    have some_bar := recorded.started some_filled
    have superseded : result.superseded = suppliedBars result.collected := if_neg some_filled
    have more : result.allBars ≠ [] := by
      simp only [FetchResult.allBars, FetchResult.supplies, suppliedBars, List.flatMap_append]
      exact List.append_ne_nil_of_left_ne_nil some_bar _
    obtain ⟨old, first⟩ := @mergedBars_first fetching _ some_bar
    obtain ⟨bar, second⟩ := @mergedBars_first fetching _ more
    obtain ⟨record, alone, -⟩ := assigned 0 bar (recorded.bars ▸ second)
    obtain ⟨stale, staleAlone, -⟩ := populateBarRanges_covers first
    obtain ⟨fresh, freshAlone, -⟩ := populateBarRanges_covers second
    rw [recorded.barRanges, superseded, List.filter_append, staleAlone, freshAlone] at alone
    exact absurd (congrArg List.length alone) (by simp)
  · intro none index bar found
    rw [recorded.bars] at found
    obtain ⟨record, alone, named⟩ := populateBarRanges_covers found
    refine ⟨record, ?_, named⟩
    rw [recorded.barRanges, List.filter_append, FetchResult.superseded, if_pos none]
    exact alone

/-- The chunk that a range names is the request of the fetch, which is no chunk of it. -/
theorem not_supplied (recorded : fetching.Recorded result)
    (fresh : ∀ number, fetching.newChunkId number ≠ fetching.request) (some_bar : result.allBars ≠ []) :
    ¬result.Assigned result.Supplied := by
  intro assigned
  obtain ⟨bar, found⟩ := @mergedBars_first fetching _ some_bar
  obtain ⟨record, alone, supply, supplied, chunk, -⟩ := assigned 0 bar (recorded.bars ▸ found)
  obtain ⟨named, namedAlone, -, request⟩ := populateBarRanges_covers found
  have listed : named ∈ result.ledger.barRanges.filter fun record => decide (record.Covers 0) := by
    rw [recorded.barRanges, List.filter_append, namedAlone]
    exact List.mem_append_right _ List.mem_cons_self
  rw [alone, List.mem_singleton] at listed
  obtain ⟨given, member, same⟩ := mem_mergedBars (List.mem_of_getElem? found)
  obtain ⟨source, taken, held⟩ := List.mem_flatMap.mp member
  have stamped := ((recorded.genuine source taken).stamped given held).2
  obtain ⟨number, numbered⟩ := (recorded.genuine supply supplied).numbered
  apply fresh number
  rw [← numbered, chunk, ← listed, request, ← same]
  exact stamped

/-- What a superseded merge has met, the last one has met again. -/
theorem superseded_conflicts {conflict : ConflictRecord} (met : conflict ∈ fetching.metConflicts result.superseded) :
    conflict ∈ fetching.metConflicts result.allBars := by
  simp only [FetchResult.superseded] at met
  split at met
  · cases met
  · simp only [FetchResult.allBars, FetchResult.supplies, suppliedBars, List.flatMap_append]
    exact metConflicts_append met

theorem ledger_conflicts (recorded : fetching.Recorded result) (none : fetching.metConflicts result.superseded = []) :
    result.ledger.conflicts = fetching.metConflicts result.allBars := by
  rw [recorded.conflicts, none, List.nil_append]

theorem conflictLaws_iff (recorded : fetching.Recorded result) : fetching.ConflictLaws result ↔
    fetching.metConflicts result.superseded = [] ∧
    ((fetching.metConflicts result.allBars).map ConflictRecord.key).Nodup := by
  constructor
  · intro laws
    have once := laws.once
    rw [recorded.conflicts, List.map_append] at once
    obtain ⟨-, distinct, apart⟩ := List.nodup_append.mp once
    refine ⟨?_, distinct⟩
    apply List.eq_nil_iff_forall_not_mem.mpr
    intro conflict met
    exact apart _ (List.mem_map_of_mem met) _ (List.mem_map_of_mem (superseded_conflicts met)) rfl
  · rintro ⟨none, distinct⟩
    constructor
    · rw [ledger_conflicts recorded none]
      exact distinct
    · intro key
      rw [ledger_conflicts recorded none]

theorem counted_iff (recorded : fetching.Recorded result) : fetching.Counted result ↔
    fetching.metConflicts result.superseded = [] ∧
    ((fetching.metConflicts result.allBars).map ConflictRecord.barEventTime).Nodup := by
  have counts : result.series.mergeManifest.conflictCount =
      (fetching.metConflicts result.superseded).length + (fetching.metConflicts result.allBars).length := by
    rw [recorded.counted, recorded.conflicts, List.length_append]
  have times := List.dedup_sublist ((fetching.metConflicts result.allBars).map ConflictRecord.barEventTime)
  constructor
  · intro counted
    rw [Counted, counts] at counted
    have bounded := times.length_le
    rw [List.length_map] at bounded
    have none : fetching.metConflicts result.superseded = [] := by
      apply List.eq_nil_of_length_eq_zero
      omega
    refine ⟨none, ?_⟩
    rw [none, List.length_nil, Nat.zero_add] at counted
    rw [← times.eq_of_length (by rw [← counted, List.length_map])]
    exact List.nodup_dedup _
  · rintro ⟨none, distinct⟩
    rw [Counted, counts, none, distinct.dedup, List.length_map, List.length_nil, Nat.zero_add]

/-- A merge was superseded after a conflict exactly when a gap was filled behind one. -/
theorem superseded_quiet : fetching.metConflicts result.superseded = [] ↔
    (suppliedBars result.filled ≠ [] → fetching.metConflicts (suppliedBars result.collected) = []) := by
  simp only [FetchResult.superseded]
  split
  · next none => exact iff_of_true rfl fun some_filled => absurd none some_filled
  · next some_filled => exact ⟨fun quiet _ => quiet, fun quiet => quiet some_filled⟩

theorem barless_laws (recorded : fetching.Recorded result) (none : result.allBars = []) :
    fetching.ProvenanceLaws result := by
  have unfilled : result.superseded = [] := by
    have parts := none
    simp only [FetchResult.allBars, FetchResult.supplies, suppliedBars, List.flatMap_append,
      List.append_eq_nil_iff] at parts
    exact if_pos parts.2
  constructor
  · intro index bar found
    rw [recorded.bars, none] at found
    cases found
  · apply (conflictLaws_iff recorded).mpr
    rw [unfilled, none]
    exact ⟨rfl, List.nodup_nil⟩
  · apply (counted_iff recorded).mpr
    rw [unfilled, none]
    exact ⟨rfl, List.nodup_nil⟩

end HistoricalFetch

/-- The ledger of a returned fetch accounts for the series exactly when no gateway answered with a bar: a range
names the request of the fetch where its chunk belongs. Apart from that, each index has one range exactly when
no gap was filled; the conflicts are recorded once and counted right exactly when, besides, no gap was filled
behind a merge with a conflict and the last merge met none twice. -/
theorem provenance_iff (fetching : HistoricalFetch) (result : FetchResult)
    (fresh : ∀ number, fetching.newChunkId number ≠ fetching.request) (returned : fetching.fetch = some result) :
    (fetching.ProvenanceLaws result ↔ ∀ supply ∈ result.supplies, supply.bars = []) ∧
    (result.Assigned FetchResult.Named ↔ suppliedBars result.filled = []) ∧
    (fetching.ConflictLaws result ↔
      (suppliedBars result.filled ≠ [] → fetching.metConflicts (suppliedBars result.collected) = []) ∧
      ((fetching.metConflicts result.allBars).map ConflictRecord.key).Nodup) ∧
    (fetching.Counted result ↔
      (suppliedBars result.filled ≠ [] → fetching.metConflicts (suppliedBars result.collected) = []) ∧
      ((fetching.metConflicts result.allBars).map ConflictRecord.barEventTime).Nodup) := by
  have recorded := HistoricalFetch.fetch_recorded returned
  refine ⟨?_, HistoricalFetch.assigned_named_iff recorded, ?_, ?_⟩
  · have barless : (∀ supply ∈ result.supplies, supply.bars = []) ↔ result.allBars = [] := List.flatMap_eq_nil_iff.symm
    rw [barless]
    constructor
    · intro laws
      by_contra some_bar
      exact HistoricalFetch.not_supplied recorded fresh some_bar laws.assigned
    · exact HistoricalFetch.barless_laws recorded
  · rw [HistoricalFetch.conflictLaws_iff recorded, HistoricalFetch.superseded_quiet]
  · rw [HistoricalFetch.counted_iff recorded, HistoricalFetch.superseded_quiet]

def brokerRow (day : ℤ) : BrokerRow := ⟨day * 86400, 100, 100, 100, 100, 1, 0⟩

/-- Three days are asked of one broker, which leaves out the last; the other one has it. -/
def gapFilled : HistoricalFetch where
  planner := ⟨((∅ : Dict String BrokerCapabilities).set "upstox" ⟨true, [⟨"1D", 30, 30⟩]⟩).set
    "dhan" ⟨true, [⟨"1D", 90, 90⟩]⟩⟩
  detector := GapDetector.weekdays
  merger := ⟨id, .preferPrimary, 1 / 1000⟩
  query := GapDetector.threeDays
  requestId := some "hist-req-gapfill"
  newRequestId := "4be1c0de"
  newChunkId number := "chunk-" ++ toString number
  routed := some ⟨"upstox", ["upstox", "dhan"]⟩
  today := 20656
  respond _ plan := .ok (if plan.brokerId = "upstox" then [brokerRow 20654, brokerRow 20655] else [brokerRow 20656])
  fallbackRoute _ := none
  gapRoute := some { primaryBroker := "upstox", parallelBrokers := ["upstox", "dhan"], fallbackBrokers := [] }

theorem gapFilled_fresh (number : ℕ) : gapFilled.newChunkId number ≠ gapFilled.request := by
  intro same
  have first := congrArg (fun text => text.toList.head?) same
  simp [gapFilled, HistoricalFetch.request] at first

theorem provenance_iff_gapFilled : ∃ result, gapFilled.fetch = some result ∧
    (gapFilled.ProvenanceLaws result ↔ ∀ supply ∈ result.supplies, supply.bars = []) ∧
    (result.Assigned FetchResult.Named ↔ suppliedBars result.filled = []) ∧
    (gapFilled.ConflictLaws result ↔
      (suppliedBars result.filled ≠ [] → gapFilled.metConflicts (suppliedBars result.collected) = []) ∧
      ((gapFilled.metConflicts result.allBars).map ConflictRecord.key).Nodup) ∧
    (gapFilled.Counted result ↔
      (suppliedBars result.filled ≠ [] → gapFilled.metConflicts (suppliedBars result.collected) = []) ∧
      ((gapFilled.metConflicts result.allBars).map ConflictRecord.barEventTime).Nodup) := by
  have succeeds : gapFilled.fetch.isSome = true := by decide +kernel
  obtain ⟨result, returned⟩ := Option.isSome_iff_exists.mp succeeds
  exact ⟨result, returned, provenance_iff gapFilled result gapFilled_fresh returned⟩

namespace HistoricalFetch

variable {fetching : HistoricalFetch} {ledger after : ProvenanceLedger} {bars merged : List HistoricalBar}
  {gaps : List Gap} {chunks : List ChunkPlan} {result : FetchResult}

theorem mergeInto_detects (merges : fetching.mergeInto ledger bars chunks = some (after, merged, gaps)) :
    fetching.detector.mergeAndDetectGaps fetching.merger bars chunks fetching.query = some (merged, gaps) := by
  simp only [mergeInto] at merges
  split at merges
  · cases merges
  · next detected =>
    cases merges
    exact detected

/-- The series has no bar, or is what the last merge returned. -/
theorem fetch_detects (returned : fetching.fetch = some result) : result.series.bars = [] ∨ ∃ bars chunks,
    fetching.detector.mergeAndDetectGaps fetching.merger bars chunks fetching.query =
      some (result.series.bars, result.series.gaps) := by
  simp only [fetch] at returned
  split at returned
  · cases returned
  · split at returned
    · cases returned
      exact Or.inl rfl
    · split at returned
      · cases returned
        exact Or.inl rfl
      · right
        simp only [mergeAndFill] at returned
        split at returned
        · cases returned
        · next merges =>
          split at returned
          · cases returned
            exact ⟨_, _, mergeInto_detects merges⟩
          · split at returned
            · cases returned
            · next again =>
              cases returned
              exact ⟨_, _, mergeInto_detects again⟩

/-- Whatever the brokers answer and whichever of them fail, the series of a returned fetch is in the order of time and
numbered, of the bars that were answered to it and with one for the time of each of them, and has no bar in a gap. -/
theorem fetched_series (returned : fetching.fetch = some result) :
    result.series.bars.Pairwise (fun bar other => bar.eventTime < other.eventTime) ∧
    (∀ (index : ℕ) (bar : HistoricalBar), result.series.bars[index]? = some bar → bar.barIndex = index) ∧
    (∀ bar ∈ result.series.bars, ∃ supply ∈ result.supplies, fetching.Genuine supply ∧
      ∃ given ∈ supply.bars, { given with barIndex := bar.barIndex } = bar) ∧
    (∀ supply ∈ result.supplies, ∀ bar ∈ supply.bars, ∃ kept ∈ result.series.bars, kept.eventTime = bar.eventTime) ∧
    ∀ gap ∈ result.series.gaps, ∀ bar ∈ result.series.bars, bar.date ∉ gap.span := by
  have recorded := fetch_recorded returned
  refine ⟨?_, ?_, ?_, ?_, ?_⟩
  · rcases fetch_detects returned with none | ⟨bars, chunks, detected⟩
    · rw [none]
      exact List.Pairwise.nil
    · exact (fetching.detector.mergeAndDetectGaps_sound detected).1
  · intro index bar found
    rw [recorded.bars, mergedBars, List.getElem?_mapIdx] at found
    obtain ⟨given, -, rfl⟩ := Option.map_eq_some_iff.mp found
    rfl
  · intro bar member
    rw [recorded.bars] at member
    obtain ⟨given, answered, same⟩ := mem_mergedBars member
    obtain ⟨supply, listed, inside⟩ := List.mem_flatMap.mp answered
    exact ⟨supply, listed, recorded.genuine supply listed, given, inside, same⟩
  · intro supply listed bar inside
    have sorted : bar ∈ sortedBy HistoricalBar.eventTime result.allBars :=
      (sortedBy_perm _ _).mem_iff.mpr (List.mem_flatMap.mpr ⟨supply, listed, inside⟩)
    obtain ⟨kept, stands, same⟩ := @ChunkMerger.merge_complete fetching.merger _ _ sorted
    obtain ⟨index, within, found⟩ := List.mem_iff_getElem.mp stands
    rw [recorded.bars]
    exact ⟨_, List.mem_mapIdx.mpr ⟨index, within, rfl⟩, by rw [found]; exact same⟩
  · rcases fetch_detects returned with none | ⟨bars, chunks, detected⟩
    · rw [none]
      exact fun _ _ _ member => absurd member List.not_mem_nil
    · exact (fetching.detector.mergeAndDetectGaps_sound detected).2.2

end HistoricalFetch

theorem fetched_series_gapFilled : ∃ result, gapFilled.fetch = some result ∧ result.series.bars.length = 3 ∧
    result.series.bars.Pairwise (fun bar other => bar.eventTime < other.eventTime) := by
  obtain ⟨result, returned, three⟩ := Option.map_eq_some_iff.mp
    (show gapFilled.fetch.map (fun result => result.series.bars.length) = some 3 by decide +kernel)
  exact ⟨result, returned, three, (HistoricalFetch.fetched_series returned).1⟩

/-- The range of the first merge is still there behind the second one, so two ranges have the first bar. -/
theorem gap_fill_keeps_old_ranges : ∃ result, gapFilled.fetch = some result ∧
    result.ledger.barRanges = [⟨0, 1, "hist-req-gapfill", "upstox"⟩, ⟨0, 1, "hist-req-gapfill", "upstox"⟩,
      ⟨2, 2, "hist-req-gapfill", "dhan"⟩] ∧
    ¬gapFilled.ProvenanceLaws result := by
  have run : (gapFilled.fetch.map fun result => (result.series.bars.length, result.ledger.barRanges)) =
      some (3, [⟨0, 1, "hist-req-gapfill", "upstox"⟩, ⟨0, 1, "hist-req-gapfill", "upstox"⟩,
        ⟨2, 2, "hist-req-gapfill", "dhan"⟩]) := by decide +kernel
  obtain ⟨result, returned, facts⟩ := Option.map_eq_some_iff.mp run
  obtain ⟨bars, ranges⟩ := Prod.mk.inj facts
  refine ⟨result, returned, ranges, ?_⟩
  intro laws
  have first : result.series.bars[0]? = some (result.series.bars[0]) := List.getElem?_eq_getElem (by omega)
  obtain ⟨record, alone, -⟩ := laws.assigned 0 _ first
  rw [ranges] at alone
  exact absurd (congrArg List.length alone) (by simp [BarRangeRecord.Covers])

end TradeX.V1.History
