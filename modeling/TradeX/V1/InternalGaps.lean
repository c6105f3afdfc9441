import TradeX.Lib.HoleRuns
import TradeX.V1.ParquetMerge

/-! The internal gaps of the candle file of one symbol: the trading days between its first and its last day on which it
has no candle. Days are counted from the epoch, and the trading calendar is any set of them. -/

namespace TradeX.V1.Datalake

open Lib

/-- `trading_days_between`: the loop over the days, for as many rounds as there are days left. It has no result where
the rounds run out. -/
def tradingDaysFrom (isTradingDay : ℤ → Bool) (finish : ℤ) : ℕ → ℤ → Option (List ℤ)
  | 0, current => if current ≤ finish then none else some []
  | rounds + 1, current =>
    if current ≤ finish then
      (tradingDaysFrom isTradingDay finish rounds (current + 1)).map fun days =>
        if isTradingDay current then current :: days else days
    else some []

def tradingDaysBetween (isTradingDay : ℤ → Bool) (start finish : ℤ) : Option (List ℤ) :=
  tradingDaysFrom isTradingDay finish (finish + 1 - start).toNat start

/-- The day of a timestamp; none for a missing one. -/
def Row.day (row : Row) : Option ℤ :=
  match row.timestamp with
  | some time => some (time / microsecondsPerDay)
  | none => none

/-- `set(ts.dt.date)`. Where all timestamps are missing there is no day; where some are, the minimum raises. -/
def datesWithData (rows : List Row) : Option (Finset ℤ) :=
  let days := rows.filterMap Row.day
  if days = [] ∨ days.length = rows.length then some days.toFinset else none

/-- The inner loop: the index of the next trading day with data, or the end of the list. -/
def skipMissing (tradingDays : List ℤ) (dates : Finset ℤ) : ℕ → ℕ → Option ℕ
  | 0, _ => none
  | rounds + 1, i =>
    match tradingDays[i]? with
    | none => some i
    | some d => if d ∈ dates then some i else skipMissing tradingDays dates rounds (i + 1)

/-- The outer loop, for a number of rounds of each loop. -/
def gapRangesFrom (tradingDays : List ℤ) (dates : Finset ℤ) : ℕ → ℕ → Option (List (ℤ × ℤ))
  | 0, _ => none
  | rounds + 1, i =>
    match tradingDays[i]? with
    | none => some []
    | some d =>
      if d ∈ dates then gapRangesFrom tradingDays dates rounds (i + 1)
      else do
        let stop ← skipMissing tradingDays dates (tradingDays.length + 1) i
        let gapEnd ← tradingDays[stop - 1]?
        let ranges ← gapRangesFrom tradingDays dates rounds stop
        some ((d, gapEnd) :: ranges)

/-- `detect_internal_gap_ranges` of a file that may be missing or unreadable; none where an exception leaves or a loop
does not end. -/
def detectInternalGapRanges (isTradingDay : ℤ → Bool) (file : Option (List Row)) (readFails : Bool) :
    Option (List (ℤ × ℤ)) :=
  match file with
  | none => some []
  | some rows =>
    if readFails || rows.isEmpty then some []
    else
      match datesWithData rows with
      | none => none
      | some dates =>
        if some_ : dates.Nonempty then do
          let tradingDays ← tradingDaysBetween isTradingDay (dates.min' some_) (dates.max' some_)
          gapRangesFrom tradingDays dates (tradingDays.length + 1) 0
        else some []

/-- A trading day between two days of the file, without data. -/
def Missing (isTradingDay : ℤ → Bool) (dates : Finset ℤ) (day : ℤ) : Prop :=
  isTradingDay day = true ∧ day ∉ dates ∧ (∃ first ∈ dates, first < day) ∧ ∃ last ∈ dates, day < last

/-- The ranges are the maximal runs of missing days, in their order. Every missing day is in one of them, no trading
day with data is in any, and their ends are missing days. -/
structure GapLaws (isTradingDay : ℤ → Bool) (dates : Finset ℤ) (ranges : List (ℤ × ℤ)) : Prop where
  maximal : ∀ range, range ∈ ranges ↔ MaximalRun {day | isTradingDay day = true} (Missing isTradingDay dates) range
  increasing : ranges.Pairwise fun before behind => before.2 < behind.1
  once : ∀ day, Missing isTradingDay dates day → ∃! range, range ∈ ranges ∧ range.1 ≤ day ∧ day ≤ range.2
  spared : ∀ range ∈ ranges, ∀ day ∈ dates, isTradingDay day = true → ¬(range.1 ≤ day ∧ day ≤ range.2)
  ends : ∀ range ∈ ranges, Missing isTradingDay dates range.1 ∧ Missing isTradingDay dates range.2

variable {isTradingDay : ℤ → Bool} {dates : Finset ℤ} {tradingDays : List ℤ} {start finish current : ℤ}
  {rounds i : ℕ} {ranges : List (ℤ × ℤ)} {rows : List Row}

theorem tradingDaysFrom_spec (enough : finish + 1 - current ≤ rounds) :
    ∃ days, tradingDaysFrom isTradingDay finish rounds current = some days ∧ days.Pairwise (· < ·) ∧
      ∀ day, day ∈ days ↔ (current ≤ day ∧ day ≤ finish) ∧ isTradingDay day = true := by
  induction rounds generalizing current with
  | zero =>
    have past : ¬current ≤ finish := by omega
    refine ⟨[], if_neg past, List.Pairwise.nil, fun day => ⟨nofun, fun inside => ?_⟩⟩
    omega
  | succ rounds ih =>
    by_cases left : current ≤ finish
    · obtain ⟨days, collected, sorted, mem⟩ := @ih (current + 1) (by omega)
      by_cases trading : isTradingDay current = true
      · refine ⟨current :: days, ?_, List.pairwise_cons.mpr ⟨fun day member => ?_, sorted⟩, fun day => ?_⟩
        · simp only [tradingDaysFrom, if_pos left, collected, Option.map_some, if_pos trading]
        · have bounds := ((mem day).mp member).1
          omega
        · rw [List.mem_cons, mem]
          constructor
          · rintro (rfl | ⟨inside, open_⟩)
            · exact ⟨⟨le_refl _, left⟩, trading⟩
            · exact ⟨by omega, open_⟩
          · rintro ⟨inside, open_⟩
            rcases eq_or_ne day current with same | other
            · exact .inl same
            · exact .inr ⟨by omega, open_⟩
      · refine ⟨days, ?_, sorted, fun day => ?_⟩
        · simp only [tradingDaysFrom, if_pos left, collected, Option.map_some, if_neg trading]
        · rw [mem]
          constructor
          · rintro ⟨inside, open_⟩
            exact ⟨by omega, open_⟩
          · rintro ⟨inside, open_⟩
            have other : day ≠ current := by
              rintro rfl
              exact trading open_
            exact ⟨by omega, open_⟩
    · refine ⟨[], if_neg left, List.Pairwise.nil, fun day => ⟨nofun, fun inside => ?_⟩⟩
      omega

theorem drop_of_getElem? {day : ℤ} (found : tradingDays[i]? = some day) :
    tradingDays.drop i = day :: tradingDays.drop (i + 1) ∧ i < tradingDays.length := by
  obtain ⟨inside, rfl⟩ := List.getElem?_eq_some_iff.mp found
  exact ⟨List.drop_eq_getElem_cons inside, inside⟩

/-- The inner loop leaves the block of missing days from an index on. -/
theorem skipMissing_spec (inside : i ≤ tradingDays.length) (enough : tradingDays.length < i + rounds) :
    ∃ block rest, skipMissing tradingDays dates rounds i = some (i + block.length) ∧
      tradingDays.drop i = block ++ rest ∧ (∀ d ∈ block, d ∉ dates) ∧ ∀ d ∈ rest.head?, ¬d ∉ dates := by
  induction rounds generalizing i with
  | zero => omega
  | succ rounds ih =>
    rw [skipMissing]
    cases found : tradingDays[i]? with
    | none =>
      refine ⟨[], [], rfl, ?_, nofun, nofun⟩
      exact List.drop_of_length_le (List.getElem?_eq_none_iff.mp found)
    | some d =>
      obtain ⟨dropped, more⟩ := drop_of_getElem? found
      by_cases has : d ∈ dates
      · refine ⟨[], d :: tradingDays.drop (i + 1), if_pos has, dropped, nofun, ?_⟩
        rintro first ⟨⟩
        exact not_not.mpr has
      · obtain ⟨block, rest, stops, split, empty, ends⟩ := @ih (i + 1) more (by omega)
        refine ⟨d :: block, rest, ?_, ?_, ?_, ends⟩
        · simp only [if_neg has, stops, List.length_cons]
          congr 1
          omega
        · rw [dropped, split, List.cons_append]
        · intro day member
          rcases List.mem_cons.mp member with rfl | later
          · exact has
          · exact empty day later

/-- From a missing day on it leaves a block that opens with the day, and the index behind the block. -/
theorem block_spec {d : ℤ} (found : tradingDays[i]? = some d) (missing : d ∉ dates) :
    ∃ holes rest, skipMissing tradingDays dates (tradingDays.length + 1) i = some (i + holes.length + 1) ∧
      tradingDays.drop i = (d :: holes) ++ rest ∧ tradingDays.drop (i + holes.length + 1) = rest ∧
      tradingDays[i + holes.length]? = some ((d :: holes).getLast (List.cons_ne_nil _ _)) ∧
      (∀ day ∈ d :: holes, day ∉ dates) ∧ ∀ day ∈ rest.head?, ¬day ∉ dates := by
  obtain ⟨dropped, more⟩ := drop_of_getElem? found
  obtain ⟨block, rest, stops, split, empty, ends⟩ :=
    @skipMissing_spec dates tradingDays (tradingDays.length + 1) i more.le (by omega)
  cases block with
  | nil =>
    rw [List.nil_append, dropped] at split
    subst split
    exact absurd missing (ends d rfl)
  | cons first holes =>
    obtain rfl : d = first := by
      rw [dropped, List.cons_append] at split
      exact (List.cons.inj split).1
    refine ⟨holes, rest, stops, split, ?_, ?_, empty, ends⟩
    · rw [Nat.add_assoc, ← List.length_cons, ← List.drop_drop, split, List.drop_left]
    · rw [← List.getElem?_drop, split, List.getElem?_append_left (Nat.lt_succ_self _), List.getLast_eq_getElem]
      exact List.getElem?_eq_getElem _

/-- The outer loop scans the trading days from an index on. -/
theorem gapRangesFrom_spec (inside : i ≤ tradingDays.length) (enough : tradingDays.length < i + rounds) :
    ∃ ranges, gapRangesFrom tradingDays dates rounds i = some ranges ∧
      Scanned (· ∉ dates) (tradingDays.drop i) ranges := by
  induction rounds generalizing i with
  | zero => omega
  | succ rounds ih =>
    rw [gapRangesFrom]
    cases found : tradingDays[i]? with
    | none =>
      refine ⟨[], rfl, ?_⟩
      rw [List.drop_of_length_le (List.getElem?_eq_none_iff.mp found)]
      exact .done
    | some d =>
      obtain ⟨dropped, more⟩ := drop_of_getElem? found
      by_cases has : d ∈ dates
      · obtain ⟨ranges, scans, scanned⟩ := @ih (i + 1) more (by omega)
        refine ⟨ranges, ?_, ?_⟩
        · simp only [if_pos has, scans]
        · rw [dropped]
          exact .filled (not_not.mpr has) scanned
      · obtain ⟨holes, rest, stops, split, left, last, empty, ends⟩ := block_spec found has
        have size := congrArg List.length split
        rw [List.length_drop, List.length_append, List.length_cons] at size
        obtain ⟨ranges, scans, scanned⟩ := @ih (i + holes.length + 1) (by omega) (by omega)
        refine ⟨(d, (d :: holes).getLast (List.cons_ne_nil _ _)) :: ranges, ?_, ?_⟩
        · simp only [if_neg has, stops, Nat.add_sub_cancel, last, scans, Option.bind_eq_bind, Option.bind_some]
        · rw [left] at scanned
          rw [split]
          exact .block empty ends scanned

/-- Between the first and the last day of the file, the missing days are the trading days without data. -/
theorem missing_iff (some_ : dates.Nonempty) {day : ℤ} : Missing isTradingDay dates day ↔
    ((dates.min' some_ ≤ day ∧ day ≤ dates.max' some_) ∧ isTradingDay day = true) ∧ day ∉ dates := by
  constructor
  · rintro ⟨trading, absent, ⟨first, firstIn, before⟩, last, lastIn, behind⟩
    exact ⟨⟨⟨(dates.min'_le first firstIn).trans before.le, behind.le.trans (dates.le_max' last lastIn)⟩, trading⟩,
      absent⟩
  · rintro ⟨⟨⟨behind, before⟩, trading⟩, absent⟩
    have first := dates.min'_mem some_
    have last := dates.max'_mem some_
    refine ⟨trading, absent, ⟨_, first, lt_of_le_of_ne behind ?_⟩, _, last, lt_of_le_of_ne before ?_⟩
    · rintro same
      exact absent (same ▸ first)
    · rintro same
      exact absent (same ▸ last)

/-- The ranges over the listed trading days are those over all trading days. -/
theorem holeRanges_all (some_ : dates.Nonempty)
    (listed : ∀ day, day ∈ tradingDays ↔
      (dates.min' some_ ≤ day ∧ day ≤ dates.max' some_) ∧ isTradingDay day = true)
    (found : HoleRanges {day | day ∈ tradingDays} (· ∉ dates) ranges) :
    HoleRanges {day | isTradingDay day = true} (Missing isTradingDay dates) ranges := by
  have missing : ∀ day, Missing isTradingDay dates day ↔ day ∈ tradingDays ∧ day ∉ dates := by
    intro day
    rw [missing_iff some_, listed]
  constructor
  · intro range member
    have run := found.runs range member
    have first := (listed _).mp run.first.1
    have last := (listed _).mp run.last.1
    refine ⟨run.ordered, ⟨first.2, (missing _).mpr run.first⟩, ⟨last.2, (missing _).mpr run.last⟩, ?_⟩
    intro day trading begins ends
    have inside : day ∈ tradingDays := (listed day).mpr ⟨⟨first.1.1.trans begins, ends.trans last.1.2⟩, trading⟩
    exact (missing day).mpr ⟨inside, run.holes day inside begins ends⟩
  · intro day _ here
    obtain ⟨inside, absent⟩ := (missing day).mp here
    exact found.covers day inside absent
  · refine found.parted.imp ?_
    rintro before behind ⟨day, inside, has, between⟩
    exact ⟨day, ((listed day).mp inside).2, fun here => has ((missing day).mp here).2, between⟩

theorem gapLaws_of_holeRanges
    (found : HoleRanges {day | isTradingDay day = true} (Missing isTradingDay dates) ranges) :
    GapLaws isTradingDay dates ranges where
  maximal _ := found.mem_iff
  increasing := found.increasing
  once _ here := found.existsUnique here.1 here
  spared range member day has trading inside :=
    ((found.runs range member).holes day trading inside.1 inside.2).2.1 has
  ends range member := ⟨(found.runs range member).first.2, (found.runs range member).last.2⟩

/-- A file without days has no gaps. -/
theorem gapLaws_empty (isTradingDay : ℤ → Bool) : GapLaws isTradingDay ∅ [] := by
  have none_ : ∀ day, ¬Missing isTradingDay ∅ day := by
    rintro day ⟨-, -, ⟨first, member, -⟩, -⟩
    exact absurd member (Finset.notMem_empty first)
  exact gapLaws_of_holeRanges ⟨nofun, fun day _ here => absurd here (none_ day), List.Pairwise.nil⟩

/-- For every file whose days can be compared and every trading calendar, the detection ends, with the maximal runs of
missing days. -/
theorem internal_gaps (isTradingDay : ℤ → Bool) (dated : datesWithData rows = some dates) :
    ∃ ranges, detectInternalGapRanges isTradingDay (some rows) false = some ranges ∧
      GapLaws isTradingDay dates ranges := by
  by_cases some_ : dates.Nonempty
  · have stored : rows.isEmpty = false := by
      cases rows with
      | nil =>
        cases dated
        exact absurd some_ Finset.not_nonempty_empty
      | cons row rest => rfl
    obtain ⟨tradingDays, collected, sorted, listed⟩ := @tradingDaysFrom_spec isTradingDay (dates.max' some_)
      (dates.min' some_) (dates.max' some_ + 1 - dates.min' some_).toNat (by omega)
    obtain ⟨ranges, scans, scanned⟩ :=
      @gapRangesFrom_spec dates tradingDays (tradingDays.length + 1) 0 (Nat.zero_le _) (by omega)
    refine ⟨ranges, ?_, gapLaws_of_holeRanges (holeRanges_all some_ listed ?_)⟩
    · simp only [detectInternalGapRanges, stored, dated, dif_pos some_, tradingDaysBetween, collected,
        Option.bind_eq_bind, Option.bind_some, scans, Bool.or_false, Bool.false_eq_true, if_false]
    · rw [List.drop_zero] at scanned
      exact scanned.holeRanges sorted
  · obtain rfl := Finset.not_nonempty_iff_eq_empty.mp some_
    refine ⟨[], ?_, gapLaws_empty isTradingDay⟩
    simp only [detectInternalGapRanges, dated, dif_neg some_]
    split <;> rfl

/-- A file that is missing, unreadable or empty has no gaps. -/
theorem no_gaps (isTradingDay : ℤ → Bool) (file : Option (List Row)) (readFails : Bool)
    (empty : file.getD [] = [] ∨ readFails = true) : detectInternalGapRanges isTradingDay file readFails = some [] := by
  cases file with
  | none => rfl
  | some rows =>
    refine if_pos ?_
    rcases empty with rfl | fails
    · exact Bool.or_true _
    · rw [fails]
      rfl

/-- Where no timestamp is missing, the days of the file are those of its timestamps. -/
theorem datesWithData_timed (timed : ∀ row ∈ rows, row.timestamp ≠ ⊤) :
    datesWithData rows = some (rows.filterMap Row.day).toFinset := by
  refine if_pos (.inr (List.filterMap_length_eq_length.mpr fun row member => ?_))
  have present := timed row member
  unfold Row.day
  cases time : row.timestamp with
  | none => exact absurd time present
  | some time => rfl

/-- A merge-write leaves no row with a missing timestamp where it finds none. -/
theorem mergeWrite_timed (ingest : Ingest) {lake : Lake} (write : MergeWrite)
    (timed : ∀ row ∈ lake.rows, row.timestamp ≠ ⊤) :
    ∀ row ∈ (ingest.mergeWrite lake write).1.rows, row.timestamp ≠ ⊤ := by
  by_cases lands : write.Lands
  · obtain ⟨result, written, -⟩ := @Ingest.mergeWrite_lands ingest lake write lands
    rw [written]
    intro row member
    obtain ⟨listed, -⟩ := latestAt_mem (mem_consolidated.mp member)
    rcases List.mem_append.mp listed with old | fresh
    · unfold Ingest.existing at old
      split at old
      · cases old
      · exact timed row old
    · have valid := (List.mem_filter.mp fresh).2
      simp only [Ingest.valid, Bool.and_eq_true, decide_eq_true_eq] at valid
      exact valid.1.1.1.1.1.1
  · rw [Ingest.mergeWrite_skips lands]
    exact timed

/-- The days of every file that a run of merge-writes leaves can be compared. -/
theorem lake_dated (ingest : Ingest) {writes : List MergeWrite} {lake : Lake}
    (ran : exec ingest.step Lake.empty writes = some lake) :
    datesWithData lake.rows = some (lake.rows.filterMap Row.day).toFinset := by
  have all : Meets ingest.step (fun _ _ => True) Lake.empty writes := meets_of_forall fun _ _ => trivial
  have preserved : ∀ (lake : Lake) write after, (∀ row ∈ lake.rows, row.timestamp ≠ ⊤) → True →
      ingest.step lake write = some after → ∀ row ∈ after.rows, row.timestamp ≠ ⊤ := by
    intro lake write after timed _ taken
    rw [← Option.some.inj taken]
    exact mergeWrite_timed ingest write timed
  have timed : ∀ row ∈ lake.rows, row.timestamp ≠ ⊤ :=
    exec_invariant preserved (fun _ member => absurd member List.not_mem_nil) all ran
  exact datesWithData_timed timed

/-- A candle at the opening of the session of a day. -/
def dayCandle (day : ℤ) : Row :=
  { minuteBar 0 with timestamp := ((microsecondsPerDay * day + 13500000000 : ℤ) : Instant) }

/-- Monday and Friday are on disk: Tuesday to Thursday are the gap. -/
theorem internal_gaps_week : ∃ ranges, detectInternalGapRanges (fun day => decide (day % 7 ≠ 2 ∧ day % 7 ≠ 3))
      (some [dayCandle 20458, dayCandle 20462]) false = some ranges ∧
    GapLaws (fun day => decide (day % 7 ≠ 2 ∧ day % 7 ≠ 3)) {20458, 20462} ranges :=
  internal_gaps _ (by decide +kernel)

end TradeX.V1.Datalake
