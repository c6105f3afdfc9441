import TradeX.Lib.Runs
import TradeX.Lib.Binary64
import TradeX.Lib.LatestByKey

/-! The merge-write of the candle file of one symbol and timeframe: the rows of the file and the new ones
are consolidated by timestamp, and the file is replaced. Reading the file may fail, and a write may raise. -/

namespace TradeX.V1.Datalake

open Lib

/-- A timestamp column's entry, in microseconds of the exchange's clock; the missing one sorts last. -/
abbrev Instant := WithTop ℤ

/-- A comparison of timestamps, false where one of them is missing. -/
def earlier : Instant → Instant → Bool
  | some first, some second => first < second
  | _, _ => false

/-- A comparison of floats, false where one of them is no number. -/
def less : Extended → Extended → Bool
  | .finite a, .finite b => a < b
  | .finite _, .infinite negative => !negative
  | .infinite negative, .finite _ => negative
  | .infinite first, .infinite second => first && !second
  | _, _ => false

/-- The columns that say when a version of a candle came to be; a live bar has none of them. -/
structure TemporalMetadata where
  eventTime : Instant
  publishedAt : Instant
  ingestedAt : Instant
  isCorrection : Option Bool
  deriving DecidableEq

structure Row where
  timestamp : Instant
  symbol : String
  exchange : String
  openPrice : Extended
  high : Extended
  low : Extended
  close : Extended
  volume : Extended
  oi : Extended
  temporal : Option TemporalMetadata
  deriving DecidableEq

def maxPrice : Extended := .finite 10000000

def microsecondsPerDay : ℤ := 86400000000

namespace Row

variable (row : Row)

def invalidOhlc : Bool :=
  less row.high row.low || less row.openPrice (.finite 0) || less row.close (.finite 0) ||
  less row.high row.openPrice || less row.high row.close || less row.openPrice row.low || less row.close row.low

def extreme : Bool := less maxPrice row.high || less row.low (.finite 0)

def negativeVolume : Bool := less row.volume (.finite 0)

/-- `timestamp.dt.time` of a timestamp that is not missing. -/
def timeOfDay : ℤ := row.timestamp.untopD 0 % microsecondsPerDay

/-- The checks of the columns that only a download has; its flag of corrections is typed as the check wants it. -/
def invalidMetadata : Bool :=
  match row.temporal with
  | none => false
  | some times => times.ingestedAt = ⊤ || times.publishedAt = ⊤ || times.eventTime ≠ row.timestamp ||
      earlier times.publishedAt times.eventTime

end Row

/-- The guard against jumps: the close's change relative to the one before, as floats have it, and its bound. -/
structure SpikeGuard where
  change : Extended → Extended → Extended
  bound : Extended

/-- The rows that did not jump from the row before, which may be one that did. -/
def SpikeGuard.steady (guard : SpikeGuard) (before : Extended) : List Row → List Row
  | [] => []
  | row :: rest =>
    let change := guard.change before row.close
    let bad := less guard.bound (if change = .nan then .finite 0 else change)
    if bad then guard.steady row.close rest else row :: guard.steady row.close rest

/-- The hours of the session as times of the day, and the guard where it is switched on. -/
structure Ingest where
  timeframe : String
  sessionOpen : ℤ
  sessionClose : ℤ
  spikeGuard : Option SpikeGuard

structure WriteResult where
  rows : ℕ
  invalidDropped : ℕ
  totalRows : ℕ
  firstTs : Option Instant
  lastTs : Option Instant
  deriving DecidableEq

/-- What goes wrong around a write: the file cannot be read, or the validation, the cast or the write raises. -/
structure WriteFaults where
  readFails : Bool := false
  raises : Bool := false
  deriving DecidableEq

namespace Ingest

variable (ingest : Ingest)

def intradayTimeframes : List String := ["1m", "5m", "15m", "30m"]

def outsideSession (row : Row) : Bool :=
  row.timeOfDay < ingest.sessionOpen || ingest.sessionClose < row.timeOfDay

def dropSpikeRows (rows : List Row) : List Row :=
  match ingest.spikeGuard with
  | none => rows
  | some guard => guard.steady .nan rows

/-- `validate_candles` of one row. -/
def valid (now : ℤ) (row : Row) : Bool :=
  row.timestamp ≠ ⊤ && !row.invalidOhlc && !row.extreme && !row.negativeVolume && !earlier now row.timestamp &&
  !(ingest.timeframe ∈ intradayTimeframes && ingest.outsideSession row) && !row.invalidMetadata

/-- The rows that are kept, and how many are dropped. -/
def validateAtIngest (now : ℤ) (rows : List Row) : List Row × ℕ :=
  let validated := (ingest.dropSpikeRows rows).filter (ingest.valid now)
  (validated, rows.length - validated.length)

/-- `_write_parquet`: the file it leaves, and its result unless it raises. -/
def writeParquet (target : Option (List Row)) (rows : List Row) (now : ℤ) (faults : WriteFaults) :
    Option (List Row) × Option WriteResult :=
  let (valid, invalidCount) := ingest.validateAtIngest now rows
  let existing := match target with
    | none => []
    -- the failure is logged, and the file counts as empty
    | some stored => if faults.readFails then [] else stored
  let merged := sortedBy Row.timestamp (keepLast Row.timestamp (existing ++ valid))
  if faults.raises then (target, none)
  else (some merged, some {
    rows := valid.length
    invalidDropped := invalidCount
    totalRows := merged.length
    firstTs := (merged.map Row.timestamp).min?
    lastTs := (merged.map Row.timestamp).max? })

end Ingest

/-- The merge-writes of one file, each with its clock reading: of a frame that a download fetched and
normalized, and of a bar that closed live. -/
inductive MergeWrite where
  | download (fetched : List Row) (now : ℤ) (faults : WriteFaults)
  | liveBar (bar : Row) (now : ℤ) (faults : WriteFaults)

namespace MergeWrite

def now : MergeWrite → ℤ
  | download _ now _ => now
  | liveBar _ now _ => now

def faults : MergeWrite → WriteFaults
  | download _ _ faults => faults
  | liveBar _ _ faults => faults

/-- The frame that is handed to `_write_parquet`. -/
def frame : MergeWrite → List Row
  | download fetched _ _ => sortedBy Row.timestamp (keepLast Row.timestamp fetched)
  | liveBar bar _ _ => [bar]

/-- `download_symbol` ends without a write where nothing was fetched. -/
def idle : MergeWrite → Bool
  | download fetched _ _ => fetched.isEmpty
  | liveBar _ _ _ => false

/-- The write replaces the file. -/
def Lands (write : MergeWrite) : Prop := write.idle = false ∧ write.faults.raises = false

instance (write : MergeWrite) : Decidable write.Lands := inferInstanceAs (Decidable (_ ∧ _))

end MergeWrite

/-- The file, and beside it every valid row that was written, in order. -/
structure Lake where
  file : Option (List Row)
  written : List Row

namespace Lake

def empty : Lake := ⟨none, []⟩

def rows (lake : Lake) : List Row := lake.file.getD []

end Lake

namespace Ingest

variable (ingest : Ingest)

/-- The valid rows of a write. -/
def validRows (write : MergeWrite) : List Row := (ingest.validateAtIngest write.now write.frame).1

/-- What a write leaves, and its result. -/
def mergeWrite (lake : Lake) (write : MergeWrite) : Lake × Option WriteResult :=
  if write.idle then (lake, none)
  else
    let (file, answer) := ingest.writeParquet lake.file write.frame write.now write.faults
    ({ file
       written := if answer.isSome then lake.written ++ ingest.validRows write else lake.written }, answer)

def step (lake : Lake) (write : MergeWrite) : Option Lake := some (ingest.mergeWrite lake write).1

/-- What a write has to leave: strictly increasing timestamps, those of all valid rows ever written, of each
the row written last, a result that describes the file; the same file where it raises. -/
structure MergeLaws (before after : Lake) (answer : Option WriteResult) : Prop where
  increasing : after.rows.Pairwise fun a b => a.timestamp < b.timestamp
  timestamps : ∀ time, (∃ row ∈ after.rows, row.timestamp = time) ↔ ∃ row ∈ after.written, row.timestamp = time
  latest : ∀ row ∈ after.rows, latestAt Row.timestamp row.timestamp after.written = some row
  raised : answer = none → after.file = before.file
  described : ∀ result, answer = some result → after.file = some after.rows ∧
    result.totalRows = after.rows.length ∧ result.firstTs = after.rows.head?.map Row.timestamp ∧
    result.lastTs = after.rows.getLast?.map Row.timestamp

/-- The write leaves what it has to. -/
def Faithful (lake : Lake) (write : MergeWrite) : Prop :=
  MergeLaws lake (ingest.mergeWrite lake write).1 (ingest.mergeWrite lake write).2

/-- Where the file cannot be read, the new valid rows have each of its timestamps. -/
def Covered (lake : Lake) (write : MergeWrite) : Prop :=
  write.Lands → write.faults.readFails = true →
    ∀ row ∈ lake.rows, ∃ fresh ∈ ingest.validRows write, fresh.timestamp = row.timestamp

instance (lake : Lake) (write : MergeWrite) : Decidable (ingest.Covered lake write) :=
  inferInstanceAs (Decidable (_ → _))

/-- The rows of the file as a write finds them. -/
def existing (lake : Lake) (write : MergeWrite) : List Row := if write.faults.readFails then [] else lake.rows

/-- The file as a write leaves it. -/
def merged (lake : Lake) (write : MergeWrite) : List Row :=
  consolidated Row.timestamp (existing lake write ++ ingest.validRows write)

variable {ingest} {lake : Lake} {write : MergeWrite}

theorem mergeWrite_skips (skips : ¬write.Lands) : ingest.mergeWrite lake write = (lake, none) := by
  simp only [mergeWrite]
  split
  · rfl
  · next busy =>
    have raises : write.faults.raises = true := by
      by_contra quiet
      exact skips ⟨Bool.eq_false_iff.mpr busy, Bool.eq_false_iff.mpr quiet⟩
    simp only [writeParquet, raises, if_true]
    rfl

theorem mergeWrite_lands (lands : write.Lands) : ∃ result, ingest.mergeWrite lake write =
      (⟨some (ingest.merged lake write), lake.written ++ ingest.validRows write⟩, some result) ∧
    result.totalRows = (ingest.merged lake write).length ∧
    result.firstTs = ((ingest.merged lake write).map Row.timestamp).min? ∧
    result.lastTs = ((ingest.merged lake write).map Row.timestamp).max? := by
  have found : (match lake.file with
      | none => []
      | some stored => if write.faults.readFails then [] else stored) = existing lake write := by
    simp only [existing, Lake.rows]
    cases lake.file with
    | none => simp
    | some stored => rfl
  simp only [mergeWrite, lands.1, writeParquet, lands.2, found]
  exact ⟨_, rfl, rfl, rfl, rfl⟩

/-- The file holds the consolidated log of what was written. -/
def Kept (lake : Lake) : Prop := lake.rows = consolidated Row.timestamp lake.written

theorem merged_covered (kept : Kept lake) (lands : write.Lands) (covered : ingest.Covered lake write) :
    ingest.merged lake write = consolidated Row.timestamp (lake.written ++ ingest.validRows write) := by
  simp only [merged, existing]
  split
  · next failed =>
    rw [List.nil_append, ← consolidated_append, ← kept]
    exact consolidated_absorbs.mpr (covered lands failed)
  · rw [kept, consolidated_append]

theorem mergeWrite_kept (kept : Kept lake) (covered : ingest.Covered lake write) :
    Kept (ingest.mergeWrite lake write).1 := by
  by_cases lands : write.Lands
  · obtain ⟨result, written, -⟩ := @mergeWrite_lands ingest lake write lands
    rw [written]
    exact merged_covered kept lands covered
  · rw [mergeWrite_skips lands]
    exact kept

/-- A file that holds the consolidated log has the timestamps of the log, of each the row written last. -/
theorem Kept.laws {answer : Option WriteResult} {before : Lake} (kept : Kept lake)
    (raised : answer = none → lake.file = before.file)
    (described : ∀ result, answer = some result → lake.file = some lake.rows ∧
      result.totalRows = lake.rows.length ∧ result.firstTs = (lake.rows.map Row.timestamp).min? ∧
      result.lastTs = (lake.rows.map Row.timestamp).max?) : MergeLaws before lake answer where
  increasing := by
    rw [kept]
    exact consolidated_increasing _ _
  timestamps := by
    intro time
    rw [kept, consolidated_keys]
  latest := by
    intro row member
    rw [kept] at member
    exact mem_consolidated.mp member
  raised := raised
  described := by
    intro result answered
    obtain ⟨stored, total, first, last⟩ := described result answered
    have increasing : lake.rows.Pairwise fun a b => a.timestamp < b.timestamp := by
      rw [kept]
      exact consolidated_increasing _ _
    rw [min?_of_increasing increasing] at first
    rw [max?_of_increasing increasing] at last
    exact ⟨stored, total, first, last⟩

theorem faithful_of_covered (kept : Kept lake) (covered : ingest.Covered lake write) : ingest.Faithful lake write := by
  apply (mergeWrite_kept kept covered).laws
  · intro unanswered
    by_cases lands : write.Lands
    · obtain ⟨result, written, -⟩ := @mergeWrite_lands ingest lake write lands
      rw [written] at unanswered
      cases unanswered
    · rw [mergeWrite_skips lands]
  · intro result answered
    by_cases lands : write.Lands
    · obtain ⟨answer, written, described⟩ := @mergeWrite_lands ingest lake write lands
      rw [written] at answered ⊢
      cases answered
      exact ⟨rfl, described⟩
    · rw [mergeWrite_skips lands] at answered
      cases answered

/-- A timestamp of the file that does not come again is lost where the file cannot be read. -/
theorem covered_of_faithful (kept : Kept lake) (faithful : ingest.Faithful lake write) : ingest.Covered lake write := by
  intro lands failed row member
  obtain ⟨result, written, -⟩ := @mergeWrite_lands ingest lake write lands
  have laws := faithful
  rw [Faithful, written] at laws
  have remembered : ∃ old ∈ lake.written ++ ingest.validRows write, old.timestamp = row.timestamp := by
    rw [kept] at member
    obtain ⟨old, listed, same⟩ := consolidated_keys.mp ⟨row, member, rfl⟩
    exact ⟨old, List.mem_append_left _ listed, same⟩
  have stored := (laws.timestamps row.timestamp).mpr remembered
  change ∃ row' ∈ ingest.merged lake write, row'.timestamp = row.timestamp at stored
  simp only [merged, existing, failed, if_true, List.nil_append] at stored
  exact consolidated_keys.mp stored

end Ingest

/-- Every write of a run leaves what it has to exactly when no failed read hides a timestamp of the file
that the write does not bring again. -/
theorem merge_writes_iff (ingest : Ingest) (writes : List MergeWrite) :
    Meets ingest.step ingest.Faithful Lake.empty writes ↔ Meets ingest.step ingest.Covered Lake.empty writes := by
  symm
  have preserved : ∀ lake write after, Ingest.Kept lake → ingest.Covered lake write →
      ingest.step lake write = some after → Ingest.Kept after := by
    intro lake write after kept covered taken
    rw [← Option.some.inj taken]
    exact Ingest.mergeWrite_kept kept covered
  apply meets_iff _ preserved
  · rfl
  · intro lake write kept
    exact ⟨Ingest.faithful_of_covered kept, Ingest.covered_of_faithful kept⟩

def minuteCandles : Ingest := ⟨"1m", 33300000000, 55800000000, none⟩

/-- A live bar of the minute from 09:15 on. -/
def minuteBar (minute : ℤ) : Row where
  timestamp := ((1767604500000000 + 60000000 * minute : ℤ) : Instant)
  symbol := "RELIANCE"
  exchange := "NSE"
  openPrice := .finite 100
  high := .finite 101
  low := .finite 99
  close := .finite 100
  volume := .finite 1000
  oi := .finite 0
  temporal := none

def liveMinute (minute : ℤ) (faults : WriteFaults) : MergeWrite :=
  .liveBar (minuteBar minute) (1767604500000000 + 60000000 * (minute + 1)) faults

/-- The second bar replaces the file that could not be read: the first bar is gone. -/
theorem failed_read_truncates : ¬Meets minuteCandles.step minuteCandles.Faithful Lake.empty
    [liveMinute 0 {}, liveMinute 1 { readFails := true }] := by
  intro met
  let first := (minuteCandles.mergeWrite Lake.empty (liveMinute 0 {})).1
  let second := (minuteCandles.mergeWrite first (liveMinute 1 { readFails := true })).1
  have laws : minuteCandles.Faithful first (liveMinute 1 { readFails := true }) := met.2.1
  have written : minuteBar 0 ∈ second.written := by decide +kernel
  have left : second.rows = [minuteBar 1] := by decide +kernel
  have stored : ∃ row ∈ second.rows, row.timestamp = (minuteBar 0).timestamp :=
    (laws.timestamps _).mpr ⟨minuteBar 0, written, rfl⟩
  rw [left] at stored
  obtain ⟨row, member, same⟩ := stored
  rw [List.mem_singleton.mp member] at same
  exact absurd same (by decide +kernel)

namespace Ingest

variable {ingest : Ingest} {lake after : Lake} {writes : List MergeWrite}

/-- The rows that writes add to the log, when they are made one after the other. -/
def addedRows (ingest : Ingest) (writes : List MergeWrite) : List Row :=
  (writes.filter fun write => write.Lands).flatMap ingest.validRows

theorem exec_written (ran : exec ingest.step lake writes = some after) :
    after.written = lake.written ++ ingest.addedRows writes := by
  induction writes generalizing lake with
  | nil =>
    cases ran
    exact (List.append_nil _).symm
  | cons write writes ih =>
    obtain ⟨middle, taken, rest⟩ := exec_cons_inv ran
    have wrote := Option.some.inj taken
    rw [ih rest, ← wrote]
    by_cases lands : write.Lands
    · obtain ⟨result, written, -⟩ := @mergeWrite_lands ingest lake write lands
      have kept : (write :: writes).filter (fun write => decide write.Lands) =
          write :: writes.filter fun write => decide write.Lands := List.filter_cons_of_pos (decide_eq_true lands)
      rw [written, addedRows, addedRows, kept, List.flatMap_cons, List.append_assoc]
    · have dropped : (write :: writes).filter (fun write => decide write.Lands) =
          writes.filter fun write => decide write.Lands := List.filter_cons_of_neg (by simpa using lands)
      rw [mergeWrite_skips lands, addedRows, addedRows, dropped]

theorem exec_kept (covered : Meets ingest.step ingest.Covered Lake.empty writes)
    (ran : exec ingest.step Lake.empty writes = some after) :
    after.rows = consolidated Row.timestamp (ingest.addedRows writes) := by
  have preserved : ∀ lake write after, Kept lake → ingest.Covered lake write →
      ingest.step lake write = some after → Kept after := by
    intro lake write after kept covered taken
    rw [← Option.some.inj taken]
    exact mergeWrite_kept kept covered
  have initial : Kept Lake.empty := rfl
  have kept : Kept after := exec_invariant preserved initial covered ran
  rw [kept, exec_written ran]
  rfl

/-- An attempt that was given up leaves no trace in the file once its timestamps are written again. -/
theorem resumed_writes (done attempt block rest : List MergeWrite) {lake resumed : Lake}
    (brought : ∀ row ∈ ingest.addedRows attempt, ∃ fresh ∈ ingest.addedRows block, fresh.timestamp = row.timestamp)
    (covered : Meets ingest.step ingest.Covered Lake.empty (done ++ (block ++ rest)))
    (ran : exec ingest.step Lake.empty (done ++ (block ++ rest)) = some lake)
    (coveredAgain : Meets ingest.step ingest.Covered Lake.empty (done ++ (attempt ++ (block ++ rest))))
    (ranAgain : exec ingest.step Lake.empty (done ++ (attempt ++ (block ++ rest))) = some resumed) :
    resumed.rows = lake.rows := by
  rw [exec_kept covered ran, exec_kept coveredAgain ranAgain]
  apply consolidated_congr
  intro time
  simp only [addedRows, List.filter_append, List.flatMap_append, latestAt_append] at brought ⊢
  cases again : latestAt Row.timestamp time ((block.filter fun write => write.Lands).flatMap ingest.validRows) with
  | some row => simp only [Option.or_assoc, Option.some_or]
  | none =>
    -- a row of the attempt at this time would stand in the block
    have missed : latestAt Row.timestamp time ((attempt.filter fun write => write.Lands).flatMap ingest.validRows) =
        none := by
      apply latestAt_eq_none.mpr
      intro row member same
      obtain ⟨fresh, there, at_⟩ := brought row member
      exact latestAt_eq_none.mp again fresh there (at_.trans same)
    simp only [missed, Option.or_none]

/-- The first of two bars is written, the second one raises, and both are written again. -/
theorem resumed_writes_raised : ∃ lake resumed,
    exec minuteCandles.step Lake.empty [liveMinute 0 {}, liveMinute 1 {}, liveMinute 2 {}] = some lake ∧
    exec minuteCandles.step Lake.empty [liveMinute 0 {}, liveMinute 1 { raises := true }, liveMinute 0 {},
      liveMinute 1 {}, liveMinute 2 {}] = some resumed ∧ resumed.rows = lake.rows :=
  ⟨_, _, rfl, rfl, resumed_writes [] [liveMinute 0 {}, liveMinute 1 { raises := true }]
    [liveMinute 0 {}, liveMinute 1 {}] [liveMinute 2 {}] (by decide +kernel) (by decide +kernel) rfl
    (by decide +kernel) rfl⟩

end Ingest

end TradeX.V1.Datalake
