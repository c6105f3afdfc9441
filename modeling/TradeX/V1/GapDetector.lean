import TradeX.V1.ChunkMerger

/-! Gap detection over the merged bars of a request. The trading calendar is any set of days. -/

namespace TradeX.V1.History

open Lib

/-- `event_time.date()`: the bars are in UTC, and days are counted from the epoch. -/
def HistoricalBar.date (bar : HistoricalBar) : ℤ := ⌊bar.eventTime / 86400⌋

structure Gap where
  start : ℤ
  finish : ℤ
  reason : String
  deriving DecidableEq, Repr

def Gap.span (gap : Gap) : Span := ⟨gap.start, gap.finish⟩

structure GapDetector where
  isTradingDay : ℤ → Bool

namespace GapDetector

variable (detector : GapDetector)

/-- The loop over the days, for as many rounds as there are days left. -/
def spansFrom : ℕ → ℤ → Bool
  | 0, _ => false
  | rounds + 1, day => detector.isTradingDay day || spansFrom rounds (day + 1)

def spansTradingDay (start finish : ℤ) : Bool := detector.spansFrom (finish + 1 - start).toNat start

/-- A gap, where it spans a trading day. -/
def reportGap (start finish : ℤ) (reason : String) : List Gap :=
  if detector.spansTradingDay start finish then [⟨start, finish, reason⟩] else []

def missingChunk (bars : List HistoricalBar) (chunk : ChunkPlan) : List Gap :=
  let covered := bars.any fun bar => decide (chunk.fromDate ≤ bar.date ∧ bar.date ≤ chunk.toDate)
  if covered then [] else detector.reportGap chunk.fromDate chunk.toDate "missing_chunk"

def detect (bars : List HistoricalBar) (query : HistoricalQuery) (plannedChunks : List ChunkPlan) : List Gap :=
  match bars.head?, bars.getLast? with
  | some first, some last =>
    (if query.fromDate < first.date then detector.reportGap query.fromDate (first.date - 1) "missing_from_start" else []) ++
    (if last.date < query.toDate then detector.reportGap (last.date + 1) query.toDate "missing_from_end" else []) ++
    plannedChunks.flatMap (detector.missingChunk bars)
  | _, _ => detector.reportGap query.fromDate query.toDate "all_failed"

/-- The merged and numbered bars with their gaps; none where the merge has failed on a conflict. -/
def mergeAndDetectGaps (merger : ChunkMerger) (allBars : List HistoricalBar) (chunks : List ChunkPlan)
    (query : HistoricalQuery) : Option (List HistoricalBar × List Gap) :=
  let (merged, conflicts) := merger.merge (sortedBy HistoricalBar.eventTime allBars)
  if merger.strategy = .failOnConflict ∧ conflicts ≠ [] then none
  else
    let numbered := merged.mapIdx fun index bar => { bar with barIndex := index }
    some (numbered, detector.detect numbered query chunks)

variable {detector} {day start finish : ℤ} {gap : Gap} {reason : String} {bars : List HistoricalBar}
  {query : HistoricalQuery} {chunks : List ChunkPlan} {chunk : ChunkPlan} {bar first last : HistoricalBar}

theorem spansFrom_iff (rounds : ℕ) : detector.spansFrom rounds start = true ↔
    ∃ day, start ≤ day ∧ day < start + rounds ∧ detector.isTradingDay day = true := by
  induction rounds generalizing start with
  | zero =>
    simp only [spansFrom, Bool.false_eq_true, false_iff]
    rintro ⟨day, begins, ends, -⟩
    omega
  | succ rounds ih =>
    rw [spansFrom, Bool.or_eq_true, ih]
    constructor
    · rintro (opens | ⟨day, begins, ends, trading⟩)
      · exact ⟨start, le_refl _, by omega, opens⟩
      · exact ⟨day, by omega, by omega, trading⟩
    · rintro ⟨day, begins, ends, trading⟩
      by_cases same : day = start
      · exact .inl (same ▸ trading)
      · exact .inr ⟨day, by omega, by omega, trading⟩

theorem spansTradingDay_iff : detector.spansTradingDay start finish = true ↔
    ∃ day, start ≤ day ∧ day ≤ finish ∧ detector.isTradingDay day = true := by
  rw [spansTradingDay, spansFrom_iff]
  constructor
  · rintro ⟨day, begins, ends, trading⟩
    exact ⟨day, begins, by omega, trading⟩
  · rintro ⟨day, begins, ends, trading⟩
    exact ⟨day, begins, by omega, trading⟩

theorem reportGap_eq_nil : detector.reportGap start finish reason = [] ↔
    ∀ day, start ≤ day → day ≤ finish → detector.isTradingDay day = false := by
  simp only [reportGap]
  split
  · next spans =>
    obtain ⟨day, begins, ends, trading⟩ := spansTradingDay_iff.mp spans
    simp only [List.cons_ne_nil, false_iff]
    intro closed
    exact absurd trading (by simp [closed day begins ends])
  · next spans =>
    simp only [true_iff]
    intro day begins ends
    by_contra trading
    exact spans (spansTradingDay_iff.mpr ⟨day, begins, ends, by simpa using trading⟩)

theorem mem_reportGap (member : gap ∈ detector.reportGap start finish reason) : gap.start = start ∧ gap.finish = finish := by
  simp only [reportGap] at member
  split at member
  · rw [List.mem_singleton.mp member]
    exact ⟨rfl, rfl⟩
  · cases member

theorem missingChunk_eq_nil : detector.missingChunk bars chunk = [] ↔
    (∃ bar ∈ bars, bar.date ∈ chunk.span) ∨ ∀ day ∈ chunk.span, detector.isTradingDay day = false := by
  simp only [missingChunk]
  by_cases covered : (bars.any fun bar => decide (chunk.fromDate ≤ bar.date ∧ bar.date ≤ chunk.toDate)) = true
  · rw [if_pos covered]
    simp only [List.any_eq_true, decide_eq_true_eq] at covered
    exact iff_of_true rfl (.inl covered)
  · rw [if_neg covered, reportGap_eq_nil]
    simp only [List.any_eq_true, decide_eq_true_eq] at covered
    constructor
    · intro closed
      exact .inr fun day inside => closed day inside.1 inside.2
    · rintro (hasBar | closed)
      · exact absurd hasBar covered
      · exact fun day begins ends => closed day ⟨begins, ends⟩

theorem mem_missingChunk (member : gap ∈ detector.missingChunk bars chunk) :
    gap.span = chunk.span ∧ ∀ bar ∈ bars, bar.date ∉ chunk.span := by
  simp only [missingChunk] at member
  split at member
  · cases member
  · next uncovered =>
    obtain ⟨begins, ends⟩ := mem_reportGap member
    refine ⟨by rw [Gap.span, begins, ends, ChunkPlan.span], ?_⟩
    intro bar listed inside
    apply uncovered
    simp only [List.any_eq_true, decide_eq_true_eq]
    exact ⟨bar, listed, inside⟩

theorem date_mono (before : bar.eventTime ≤ last.eventTime) : bar.date ≤ last.date :=
  Int.floor_le_floor (div_le_div_of_nonneg_right before (by norm_num))

/-- The first and the last bar of a list in the order of time bound its days. -/
theorem dates_between (ordered : bars.Pairwise fun bar other => bar.eventTime ≤ other.eventTime)
    (opens : bars.head? = some first) (closes : bars.getLast? = some last) (member : bar ∈ bars) :
    first.date ≤ bar.date ∧ bar.date ≤ last.date := by
  constructor
  · cases bars with
    | nil => cases member
    | cons head rest =>
      cases opens
      rcases List.mem_cons.mp member with rfl | later
      · exact le_refl _
      · exact date_mono (List.rel_of_pairwise_cons ordered later)
  · obtain ⟨front, rfl⟩ := List.getLast?_eq_some_iff.mp closes
    obtain ⟨-, -, across⟩ := List.pairwise_append.mp ordered
    rcases List.mem_append.mp member with early | final
    · exact date_mono (across bar early last List.mem_cons_self)
    · rw [List.mem_singleton.mp final]

/-- A day with a bar is in no gap. -/
theorem detect_apart (ordered : bars.Pairwise fun bar other => bar.eventTime ≤ other.eventTime)
    (reported : gap ∈ detector.detect bars query chunks) (member : bar ∈ bars) : bar.date ∉ gap.span := by
  intro inside
  obtain ⟨begins, ends⟩ := Span.mem_iff.mp inside
  simp only [Gap.span] at begins ends
  simp only [detect] at reported
  split at reported
  · next first last opens closes =>
    have between := dates_between ordered opens closes member
    rw [List.mem_append, List.mem_append] at reported
    rcases reported with (early | late) | hole
    · split at early
      · obtain ⟨-, stops⟩ := mem_reportGap early
        omega
      · cases early
    · split at late
      · obtain ⟨starts, -⟩ := mem_reportGap late
        omega
      · cases late
    · obtain ⟨chunk, -, missing⟩ := List.mem_flatMap.mp hole
      obtain ⟨same, uncovered⟩ := mem_missingChunk missing
      exact uncovered bar member (same ▸ inside)
  · next empty =>
    cases bars with
    | nil => cases member
    | cons head rest =>
      exact empty head _ rfl (List.getLast?_eq_some_getLast (List.cons_ne_nil _ _))

/-- What a merge returns is in the order of time, stands for every bar, and has no bar in a gap. -/
theorem mergeAndDetectGaps_sound {merger : ChunkMerger} {allBars : List HistoricalBar} {gaps : List Gap}
    (returned : detector.mergeAndDetectGaps merger allBars chunks query = some (bars, gaps)) :
    bars.Pairwise (fun bar other => bar.eventTime < other.eventTime) ∧
    (∀ bar ∈ allBars, ∃ kept ∈ bars, kept.eventTime = bar.eventTime) ∧
    ∀ gap ∈ gaps, ∀ bar ∈ bars, bar.date ∉ gap.span := by
  simp only [mergeAndDetectGaps] at returned
  split at returned
  · cases returned
  · cases returned
    have increasing : ((merger.merge (sortedBy HistoricalBar.eventTime allBars)).1.mapIdx
        fun index bar => { bar with barIndex := index }).Pairwise fun bar other => bar.eventTime < other.eventTime := by
      apply List.pairwise_iff_getElem.mpr
      intro i j earlier later before
      rw [List.getElem_mapIdx, List.getElem_mapIdx]
      rw [List.length_mapIdx] at earlier later
      exact List.pairwise_iff_getElem.mp ChunkMerger.merge_increasing i j earlier later before
    refine ⟨increasing, ?_, ?_⟩
    · intro bar member
      have listed := (sortedBy_perm HistoricalBar.eventTime allBars).mem_iff.mpr member
      obtain ⟨kept, stands, same⟩ := ChunkMerger.merge_complete listed
      obtain ⟨index, within, found⟩ := List.mem_iff_getElem.mp stands
      exact ⟨_, List.mem_mapIdx.mpr ⟨index, within, rfl⟩, by rw [found]; exact same⟩
    · intro gap reported bar member
      exact detect_apart (increasing.imp le_of_lt) reported member

/-- Every trading day of the request has a bar. -/
def Complete (detector : GapDetector) (bars : List HistoricalBar) (query : HistoricalQuery) : Prop :=
  ∀ day, query.fromDate ≤ day → day ≤ query.toDate → detector.isTradingDay day = true → ∃ bar ∈ bars, bar.date = day

/-- A chunk with a bar has one for each of its requested trading days. -/
def ChunksFilled (detector : GapDetector) (bars : List HistoricalBar) (query : HistoricalQuery)
    (chunks : List ChunkPlan) : Prop :=
  ∀ chunk ∈ chunks, (∃ bar ∈ bars, bar.date ∈ chunk.span) → ∀ day ∈ chunk.span, query.fromDate ≤ day →
    day ≤ query.toDate → detector.isTradingDay day = true → ∃ bar ∈ bars, bar.date = day

/-- A trading day lies before the first bar or behind the last, or in a chunk without a bar. -/
def MissingOutside (detector : GapDetector) (bars : List HistoricalBar) (query : HistoricalQuery)
    (chunks : List ChunkPlan) : Prop :=
  (∃ first, bars.head? = some first ∧
    ∃ day, query.fromDate ≤ day ∧ day < first.date ∧ detector.isTradingDay day = true) ∨
  (∃ last, bars.getLast? = some last ∧
    ∃ day, last.date < day ∧ day ≤ query.toDate ∧ detector.isTradingDay day = true) ∨
  ∃ chunk ∈ chunks, (∀ bar ∈ bars, bar.date ∉ chunk.span) ∧ ∃ day ∈ chunk.span, detector.isTradingDay day = true

theorem detect_nil : detector.detect [] query chunks = [] ↔
    ∀ day, query.fromDate ≤ day → day ≤ query.toDate → detector.isTradingDay day = false :=
  reportGap_eq_nil

/-- A report behind a test that only fails where there is no day to report. -/
theorem guarded_eq_nil {guard : Prop} [Decidable guard] (unguarded : ¬guard → finish < start) :
    (if guard then detector.reportGap start finish reason else []) = [] ↔
      ¬∃ day, start ≤ day ∧ day ≤ finish ∧ detector.isTradingDay day = true := by
  have closed_iff : (∀ day, start ≤ day → day ≤ finish → detector.isTradingDay day = false) ↔
      ¬∃ day, start ≤ day ∧ day ≤ finish ∧ detector.isTradingDay day = true := by simp
  by_cases tested : guard
  · rw [if_pos tested, reportGap_eq_nil, closed_iff]
  · refine iff_of_true (if_neg tested) ?_
    rintro ⟨day, begins, ends, -⟩
    have before := unguarded tested
    omega

/-- Over a list with bars nothing is reported exactly when no trading day is missing outside of them. -/
theorem detect_eq_nil_iff (some_bar : bars ≠ []) :
    detector.detect bars query chunks = [] ↔ ¬detector.MissingOutside bars query chunks := by
  obtain ⟨first, opens⟩ : ∃ first, bars.head? = some first := ⟨_, List.head?_eq_some_head some_bar⟩
  obtain ⟨last, closes⟩ : ∃ last, bars.getLast? = some last := ⟨_, List.getLast?_eq_some_getLast some_bar⟩
  have start : (if query.fromDate < first.date then
        detector.reportGap query.fromDate (first.date - 1) "missing_from_start" else []) = [] ↔
      ¬∃ day, query.fromDate ≤ day ∧ day < first.date ∧ detector.isTradingDay day = true := by
    refine (guarded_eq_nil fun late => by omega).trans (not_congr (exists_congr fun day => ?_))
    rw [Int.le_sub_one_iff]
  have finish : (if last.date < query.toDate then
        detector.reportGap (last.date + 1) query.toDate "missing_from_end" else []) = [] ↔
      ¬∃ day, last.date < day ∧ day ≤ query.toDate ∧ detector.isTradingDay day = true :=
    guarded_eq_nil fun early => by omega
  have holes : chunks.flatMap (detector.missingChunk bars) = [] ↔
      ¬∃ chunk ∈ chunks, (∀ bar ∈ bars, bar.date ∉ chunk.span) ∧
        ∃ day ∈ chunk.span, detector.isTradingDay day = true := by
    simp only [List.flatMap_eq_nil_iff, missingChunk_eq_nil]
    constructor
    · rintro filled ⟨chunk, planned, uncovered, day, inside, trading⟩
      rcases filled chunk planned with ⟨bar, listed, covers⟩ | closed
      · exact uncovered bar listed covers
      · exact absurd trading (by simp [closed day inside])
    · intro none chunk planned
      by_contra missing
      obtain ⟨uncovered, spans⟩ := not_or.mp missing
      refine none ⟨chunk, planned, fun bar listed inside => uncovered ⟨bar, listed, inside⟩, ?_⟩
      by_contra closed
      exact spans fun day inside => by simpa using fun trading => closed ⟨day, inside, trading⟩
  simp only [detect, opens, closes, List.append_eq_nil_iff, start, finish, holes, MissingOutside, Option.some.injEq,
    exists_eq_left', not_or, and_assoc]

/-- No gap means that no trading day is without a bar, as long as the holes are not inside of a chunk that
has bars; and a gap is always without bars. -/
theorem gaps_complete_iff (detector : GapDetector) (bars : List HistoricalBar) (query : HistoricalQuery)
    (chunks : List ChunkPlan) (ordered : bars.Pairwise fun bar other => bar.eventTime ≤ other.eventTime)
    (covering : ∀ day, query.fromDate ≤ day → day ≤ query.toDate → ∃ chunk ∈ chunks, day ∈ chunk.span) :
    ((detector.detect bars query chunks = [] → detector.Complete bars query) ∧
      ∀ gap ∈ detector.detect bars query chunks, ∀ bar ∈ bars, bar.date ∉ gap.span) ↔
    detector.ChunksFilled bars query chunks ∨ detector.MissingOutside bars query chunks := by
  constructor
  · rintro ⟨tells, -⟩
    by_cases empty : bars = []
    · subst empty
      left
      rintro chunk planned ⟨bar, ⟨⟩, -⟩
    · by_cases outside : detector.MissingOutside bars query chunks
      · exact .inr outside
      · have complete := tells ((detect_eq_nil_iff empty).mpr outside)
        exact .inl fun chunk planned hasBar day inside => complete day
  · intro located
    refine ⟨?_, fun gap reported bar member => detect_apart ordered reported member⟩
    intro quiet day begins ends trading
    by_cases empty : bars = []
    · subst empty
      exact absurd trading (by simp [detect_nil.mp quiet day begins ends])
    · have inside := (detect_eq_nil_iff empty).mp quiet
      have filled := located.resolve_right inside
      obtain ⟨chunk, planned, holds⟩ := covering day begins ends
      by_cases covered : ∃ bar ∈ bars, bar.date ∈ chunk.span
      · exact filled chunk planned covered day holds begins ends trading
      · refine absurd (.inr (.inr ⟨chunk, planned, ?_, day, holds, trading⟩)) inside
        exact fun bar listed within => covered ⟨bar, listed, within⟩

/-- The trading days of a week without holidays; the epoch is a Thursday. -/
def weekdays : GapDetector := ⟨fun day => decide (day % 7 ≠ 2 ∧ day % 7 ≠ 3)⟩

/-- A daily bar of a day. -/
def dayBar (day : ℤ) : HistoricalBar := { ChunkMerger.flatBar 100 0 with eventTime := day * 86400 }

/-- A request of three trading days, fetched in one chunk. -/
def threeDays : HistoricalQuery := ⟨⟨"RELIANCE", "NSE"⟩, "1D", 20654, 20656⟩

def threeDayChunk : ChunkPlan := ⟨"dhan", ⟨"RELIANCE", "NSE"⟩, 20654, 20656, "1D", "r1", false⟩

theorem dayBar_date (day : ℤ) : (dayBar day).date = day := by
  simp only [HistoricalBar.date, dayBar]
  rw [mul_div_cancel_right₀ _ (by norm_num : (86400 : ℚ) ≠ 0), Int.floor_intCast]

theorem gaps_complete_iff_threeDays :
    ((weekdays.detect [dayBar 20654, dayBar 20655, dayBar 20656] threeDays [threeDayChunk] = [] →
        weekdays.Complete [dayBar 20654, dayBar 20655, dayBar 20656] threeDays) ∧
      ∀ gap ∈ weekdays.detect [dayBar 20654, dayBar 20655, dayBar 20656] threeDays [threeDayChunk],
        ∀ bar ∈ [dayBar 20654, dayBar 20655, dayBar 20656], bar.date ∉ gap.span) ↔
    weekdays.ChunksFilled [dayBar 20654, dayBar 20655, dayBar 20656] threeDays [threeDayChunk] ∨
      weekdays.MissingOutside [dayBar 20654, dayBar 20655, dayBar 20656] threeDays [threeDayChunk] :=
  gaps_complete_iff weekdays _ threeDays [threeDayChunk] (by decide +kernel)
    fun day begins ends => ⟨threeDayChunk, List.mem_cons_self, begins, ends⟩

/-- The middle one of three trading days has no bar, and no gap is reported. -/
theorem hole_inside_a_chunk : weekdays.detect [dayBar 20654, dayBar 20656] threeDays [threeDayChunk] = [] ∧
    ¬weekdays.Complete [dayBar 20654, dayBar 20656] threeDays := by
  constructor
  · decide +kernel
  · intro complete
    obtain ⟨bar, listed, same⟩ := complete 20655 (by decide) (by decide) (by decide)
    simp only [List.mem_cons, List.not_mem_nil, or_false] at listed
    rcases listed with rfl | rfl
    · rw [dayBar_date] at same
      omega
    · rw [dayBar_date] at same
      omega

end GapDetector

end TradeX.V1.History
