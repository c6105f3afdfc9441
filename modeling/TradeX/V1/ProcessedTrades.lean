import TradeX.V1.FillReducer
import TradeX.Lib.Runs

/-! The ledger of processed trades and its JSONL file. The hot set may be evicted; the durable set and
the file are what a redelivered trade meets. -/

namespace TradeX.V1

open Lib

/-- A record that a line of the file spells: every value a text or null. -/
abbrev TradeRecord := Dict String (Option String)

namespace TradeIdKey

/-- `TradeIdKey(...)`: the texts are stripped once the trade id has been checked. -/
def build (tradeId : String) (brokerTradeId orderId : Option String) : Except OmsError TradeIdKey :=
  if tradeId = "" then .error (.valueError "TradeIdKey requires a non-empty trade_id")
  else .ok ⟨Text.strip tradeId, brokerTradeId.map Text.strip, orderId.map Text.strip⟩

def toDict (key : TradeIdKey) : TradeRecord :=
  ((Dict.empty.set "trade_id" (some key.tradeId)).set "broker_trade_id" key.brokerTradeId).set
    "order_id" key.orderId

/-- `str(raw.get(field, ""))`. -/
def textOf (raw : TradeRecord) (field : String) : String := ((raw.get field).getD (some "")).getD "None"

def fromDict (raw : TradeRecord) : Except OmsError TradeIdKey :=
  build (textOf raw "trade_id") (raw.get "broker_trade_id").join (raw.get "order_id").join

/-- A key as the constructor leaves it. -/
def Built (key : TradeIdKey) : Prop :=
  ∃ tradeId brokerTradeId orderId, build tradeId brokerTradeId orderId = .ok key

variable {key : TradeIdKey}

theorem Built.stripped (built : key.Built) : Text.strip key.tradeId = key.tradeId ∧
    key.brokerTradeId.map Text.strip = key.brokerTradeId ∧ key.orderId.map Text.strip = key.orderId := by
  obtain ⟨tradeId, brokerTradeId, orderId, built⟩ := built
  unfold build at built
  split at built
  · cases built
  · cases built
    have again : ∀ text : Option String, (text.map Text.strip).map Text.strip = text.map Text.strip := by
      intro text
      cases text with
      | none => rfl
      | some text => exact congrArg some (Text.strip_strip text)
    exact ⟨Text.strip_strip tradeId, again brokerTradeId, again orderId⟩

/-- What a record read back gives does not depend on the moment it was recorded at. -/
theorem fromDict_recorded (key : TradeIdKey) (recordedAt : String) :
    fromDict (key.toDict.set "recorded_at" (some recordedAt)) = fromDict key.toDict := by
  have kept : ∀ field, field ≠ "recorded_at" →
      (key.toDict.set "recorded_at" (some recordedAt)).get field = key.toDict.get field := by
    intro field other
    exact Dict.get_set_other _ _ _ _ other
  unfold fromDict textOf
  rw [kept "trade_id" (by decide), kept "broker_trade_id" (by decide), kept "order_id" (by decide)]

/-- Decoding an encoded key gives the key, or the error of the constructor. -/
theorem fromDict_toDict (built : key.Built) : fromDict key.toDict =
    if key.tradeId = "" then .error (.valueError "TradeIdKey requires a non-empty trade_id") else .ok key := by
  obtain ⟨tradeId, brokerTradeId, orderId⟩ := built.stripped
  have read : fromDict key.toDict = build key.tradeId key.brokerTradeId key.orderId := by
    have fields : key.toDict.get "trade_id" = some (some key.tradeId) ∧
        key.toDict.get "broker_trade_id" = some key.brokerTradeId ∧ key.toDict.get "order_id" = some key.orderId := by
      simp [toDict]
    unfold fromDict textOf
    rw [fields.1, fields.2.1, fields.2.2]
    rfl
  rw [read]
  unfold build
  rw [tradeId, brokerTradeId, orderId]

end TradeIdKey

/-- How the write of a line to the file ends. -/
inductive AppendOutcome where
  | written
  /-- `OSError` before a character is written. -/
  | lost
  /-- `OSError` in the middle of the line. -/
  | cut
  deriving DecidableEq, Repr

/-- The JSONL file: for each whole line the record it spells, if it spells one. -/
structure TradeFile where
  lines : List (Option TradeRecord) := []
  /-- Behind them stands a line that was cut and has no end. -/
  unended : Bool := false

/-- A line is written behind whatever the file ends with. -/
def TradeFile.append (file : TradeFile) (record : TradeRecord) : AppendOutcome → TradeFile
  | .written => { lines := file.lines ++ [if file.unended then none else some record] }
  | .lost => file
  | .cut => { file with unended := true }

structure ProcessedTradeRepository where
  seen : Finset TradeIdKey := ∅
  durableKeys : Finset TradeIdKey := ∅
  keyTimestamps : Dict TradeIdKey ℚ := ∅
  maxAgeSeconds : ℤ := 0
  /-- Without a path the ledger is in memory only. -/
  file : Option TradeFile := none
  duplicatesObserved : Nat := 0
  totalProcessed : Nat := 0
  evicted : Nat := 0

namespace ProcessedTradeRepository

variable (repository : ProcessedTradeRepository) (key : TradeIdKey)

def isProcessed : Bool := decide (key ∈ repository.seen ∨ key ∈ repository.durableKeys)

/-- `_load_from_disk` at one line: a blank or corrupt one is passed, and one without a trade id. -/
def loadLine : Option TradeRecord → ProcessedTradeRepository
  | none => repository
  | some record =>
    match TradeIdKey.fromDict record with
    | .error _ => repository
    | .ok key => { repository with
        seen := insert key repository.seen
        durableKeys := insert key repository.durableKeys
        totalProcessed := repository.totalProcessed + 1 }

/-- `ProcessedTradeRepository(persistence_path, max_age_seconds=...)` over what the file holds. -/
def load (maxAgeSeconds : ℤ) (file : Option TradeFile) : ProcessedTradeRepository :=
  ((file.map TradeFile.lines).getD []).foldl loadLine { maxAgeSeconds, file }

/-- `_append_to_disk`, where there is a path. -/
def appendToDisk (recordedAt : String) (outcome : AppendOutcome) : ProcessedTradeRepository × Except OmsError Bool :=
  match repository.file with
  | none => (repository, .ok true)
  | some file =>
    ({ repository with file := some (file.append (key.toDict.set "recorded_at" (some recordedAt)) outcome) },
      if outcome = .written then .ok true else .error (.ledger "OSError"))

/-- `mark_processed` at the clock reading: true where the key is new. -/
def markProcessed (now : ℚ) (recordedAt : String) (outcome : AppendOutcome) :
    ProcessedTradeRepository × Except OmsError Bool :=
  if key.tradeId = "" then
    (repository, .error (.valueError "ProcessedTradeRepository.mark_processed requires a non-empty trade_id"))
  else if repository.isProcessed key then
    ({ repository with duplicatesObserved := repository.duplicatesObserved + 1 }, .ok false)
  else
    { repository with
      seen := insert key repository.seen
      durableKeys := insert key repository.durableKeys
      keyTimestamps := repository.keyTimestamps.set key now
      totalProcessed := repository.totalProcessed + 1 : ProcessedTradeRepository }.appendToDisk key recordedAt outcome

/-- The hot keys older than `max_age_seconds`. -/
def expired (now : ℚ) : List TradeIdKey :=
  (repository.keyTimestamps.entries.filter fun entry => entry.2 < now - repository.maxAgeSeconds).map Prod.fst

/-- `cleanup` at the clock reading: the hot set loses what has expired, the durable set keeps it. -/
def cleanup (now : ℚ) : ProcessedTradeRepository × Nat :=
  if repository.maxAgeSeconds ≤ 0 then (repository, 0)
  else
    ({ repository with
        seen := (repository.expired now).foldl Finset.erase repository.seen
        keyTimestamps := (repository.expired now).foldl Dict.pop repository.keyTimestamps
        evicted := repository.evicted + (repository.expired now).length }, (repository.expired now).length)

variable {repository key}

theorem isProcessed_iff (hot : repository.seen ⊆ repository.durableKeys) :
    repository.isProcessed key = true ↔ key ∈ repository.durableKeys := by
  unfold isProcessed
  rw [decide_eq_true_iff]
  constructor
  · rintro (seen | durable)
    · exact hot seen
    · exact durable
  · exact Or.inr

end ProcessedTradeRepository

namespace TradeFile

/-- A line of the file spells a record of the key. -/
def Holds (file : TradeFile) (key : TradeIdKey) : Prop :=
  ∃ record, some record ∈ file.lines ∧ TradeIdKey.fromDict record = .ok key

/-- A whole line behind whole lines is read back. -/
theorem append_holds {file : TradeFile} {record : TradeRecord} {key other : TradeIdKey} (ended : file.unended = false)
    (spells : TradeIdKey.fromDict record = .ok key) :
    (file.append record .written).Holds other ↔ file.Holds other ∨ other = key := by
  have lines : (file.append record .written).lines = file.lines ++ [some record] := by
    simp [append, ended]
  unfold Holds
  rw [lines]
  constructor
  · rintro ⟨found, member, read⟩
    rcases List.mem_append.mp member with earlier | last
    · exact Or.inl ⟨found, earlier, read⟩
    · cases List.mem_singleton.mp last
      rw [spells] at read
      cases read
      exact Or.inr rfl
  · rintro (⟨found, member, read⟩ | rfl)
    · exact ⟨found, List.mem_append_left _ member, read⟩
    · exact ⟨record, List.mem_append_right _ List.mem_cons_self, spells⟩

end TradeFile

namespace ProcessedTradeRepository

variable {repository : ProcessedTradeRepository} {key : TradeIdKey}

/-- What the file holds is durable after the lines have been loaded, with what was so before. -/
theorem foldl_loadLine (lines : List (Option TradeRecord)) (hot : repository.seen = repository.durableKeys) :
    (lines.foldl loadLine repository).seen = (lines.foldl loadLine repository).durableKeys ∧
      (lines.foldl loadLine repository).file = repository.file ∧
      ∀ key, key ∈ (lines.foldl loadLine repository).durableKeys ↔
        key ∈ repository.durableKeys ∨ ∃ record, some record ∈ lines ∧ TradeIdKey.fromDict record = .ok key := by
  induction lines generalizing repository with
  | nil => exact ⟨hot, rfl, fun key => by simp⟩
  | cons line rest ih =>
    cases line with
    | none =>
      obtain ⟨same, file, durable⟩ := ih hot
      refine ⟨same, file, fun key => (durable key).trans ?_⟩
      simp
    | some record =>
      cases read : TradeIdKey.fromDict record with
      | error raised =>
        have passed : repository.loadLine (some record) = repository := by
          simp only [loadLine, read]
        obtain ⟨same, file, durable⟩ := ih hot
        rw [List.foldl_cons, passed]
        refine ⟨same, file, fun key => (durable key).trans (or_congr_right ?_)⟩
        constructor
        · rintro ⟨found, member, spells⟩
          exact ⟨found, List.mem_cons_of_mem _ member, spells⟩
        · rintro ⟨found, member, spells⟩
          rcases List.mem_cons.mp member with first | later
          · cases first
            rw [read] at spells
            cases spells
          · exact ⟨found, later, spells⟩
      | ok loaded =>
        have added : (repository.loadLine (some record)).seen = insert loaded repository.seen ∧
            (repository.loadLine (some record)).durableKeys = insert loaded repository.durableKeys ∧
            (repository.loadLine (some record)).file = repository.file := by
          simp only [loadLine, read, and_self]
        obtain ⟨same, file, durable⟩ := @ih (repository.loadLine (some record)) (by rw [added.1, added.2.1, hot])
        rw [List.foldl_cons]
        refine ⟨same, file.trans added.2.2, fun key => (durable key).trans ?_⟩
        rw [added.2.1, Finset.mem_insert]
        constructor
        · rintro ((rfl | before) | ⟨found, member, spells⟩)
          · exact Or.inr ⟨record, List.mem_cons_self, read⟩
          · exact Or.inl before
          · exact Or.inr ⟨found, List.mem_cons_of_mem _ member, spells⟩
        · rintro (before | ⟨found, member, spells⟩)
          · exact Or.inl (Or.inr before)
          · rcases List.mem_cons.mp member with first | later
            · cases first
              rw [read] at spells
              cases spells
              exact Or.inl (Or.inl rfl)
            · exact Or.inr ⟨found, later, spells⟩

/-- A ledger that has just read its file holds what the file holds. -/
theorem load_spec (maxAgeSeconds : ℤ) (file : Option TradeFile) :
    (load maxAgeSeconds file).seen = (load maxAgeSeconds file).durableKeys ∧
      (load maxAgeSeconds file).file = file ∧
      ∀ key, key ∈ (load maxAgeSeconds file).durableKeys ↔ ∃ held ∈ file, held.Holds key := by
  obtain ⟨same, kept, durable⟩ :=
    @foldl_loadLine { maxAgeSeconds, file } ((file.map TradeFile.lines).getD []) rfl
  refine ⟨same, kept, fun key => (durable key).trans ?_⟩
  cases file with
  | none => simp
  | some held => simp [TradeFile.Holds]

/-- What a call to `mark_processed` answers, and what it makes durable, where the line is written. -/
theorem markProcessed_spec {now : ℚ} {recordedAt : String} {outcome : AppendOutcome}
    (hot : repository.seen ⊆ repository.durableKeys)
    (written : repository.file.isSome = true → outcome = .written) :
    if key.tradeId = "" then (repository.markProcessed key now recordedAt outcome).1 = repository ∧
        (repository.markProcessed key now recordedAt outcome).2 ≠ .ok true
    else if key ∈ repository.durableKeys then
      (repository.markProcessed key now recordedAt outcome).2 = .ok false ∧
        (repository.markProcessed key now recordedAt outcome).1.seen = repository.seen ∧
        (repository.markProcessed key now recordedAt outcome).1.durableKeys = repository.durableKeys ∧
        (repository.markProcessed key now recordedAt outcome).1.file = repository.file
    else (repository.markProcessed key now recordedAt outcome).2 = .ok true ∧
      (repository.markProcessed key now recordedAt outcome).1.seen = insert key repository.seen ∧
      (repository.markProcessed key now recordedAt outcome).1.durableKeys = insert key repository.durableKeys ∧
      (repository.markProcessed key now recordedAt outcome).1.file =
        repository.file.map fun file => file.append (key.toDict.set "recorded_at" (some recordedAt)) .written := by
  unfold markProcessed
  by_cases empty : key.tradeId = ""
  · rw [if_pos empty, if_pos empty]
    exact ⟨rfl, by rintro ⟨⟩⟩
  · rw [if_neg empty, if_neg empty]
    by_cases present : key ∈ repository.durableKeys
    · rw [if_pos present, if_pos ((isProcessed_iff hot).mpr present)]
      exact ⟨rfl, rfl, rfl, rfl⟩
    · rw [if_neg present, if_neg fun processed => present ((isProcessed_iff hot).mp processed)]
      cases path : repository.file with
      | none =>
        simp only [appendToDisk, Option.map_none, and_self]
      | some file =>
        rw [path] at written
        simp only [appendToDisk, written rfl, if_true, Option.map_some, and_self]

theorem cleanup_spec (repository : ProcessedTradeRepository) (now : ℚ) :
    (repository.cleanup now).1.seen ⊆ repository.seen ∧
      (repository.cleanup now).1.durableKeys = repository.durableKeys ∧
      (repository.cleanup now).1.file = repository.file := by
  have erased : ∀ (keys : List TradeIdKey) (hot : Finset TradeIdKey), keys.foldl Finset.erase hot ⊆ hot := by
    intro keys
    induction keys with
    | nil => exact fun hot => Finset.Subset.refl hot
    | cons key rest ih => exact fun hot => (ih _).trans (Finset.erase_subset key hot)
  unfold cleanup
  split
  · exact ⟨Finset.Subset.refl _, rfl, rfl⟩
  · exact ⟨erased _ _, rfl, rfl⟩

end ProcessedTradeRepository

/-- An operation on the ledger, or a restart that reads the file again. -/
inductive ProcessedTradeOperation where
  | mark (key : TradeIdKey) (built : key.Built) (now : ℚ) (recordedAt : String) (outcome : AppendOutcome)
  | isProcessed (key : TradeIdKey)
  | cleanup (now : ℚ)
  | reload (maxAgeSeconds : ℤ)

/-- The ledger, and beside it every mark so far with its answer. -/
structure ProcessedTradeRun where
  repository : ProcessedTradeRepository
  marks : List (TradeIdKey × Except OmsError Bool) := []

namespace ProcessedTradeRun

def opened (maxAgeSeconds : ℤ) (file : Option TradeFile) : ProcessedTradeRun :=
  ⟨.load maxAgeSeconds file, []⟩

def step (run : ProcessedTradeRun) : ProcessedTradeOperation → Option ProcessedTradeRun
  | .mark key _ now recordedAt outcome =>
    let answered := run.repository.markProcessed key now recordedAt outcome
    some ⟨answered.1, run.marks ++ [(key, answered.2)]⟩
  | .isProcessed _ => some run
  | .cleanup now => some { run with repository := (run.repository.cleanup now).1 }
  | .reload maxAgeSeconds => some { run with repository := .load maxAgeSeconds run.repository.file }

/-- Every line is written whole, and a restart has a file to read. -/
def Lands (run : ProcessedTradeRun) : ProcessedTradeOperation → Prop
  | .mark _ _ _ _ outcome => run.repository.file.isSome = true → outcome = .written
  | .reload _ => run.repository.file.isSome = true
  | _ => True

variable (run : ProcessedTradeRun) (key : TradeIdKey)

/-- A key marked in this run. -/
def Marked : Prop := key ∈ run.marks.map Prod.fst ∧ key.tradeId ≠ ""

instance : Decidable (run.Marked key) := inferInstanceAs (Decidable (_ ∧ _))

/-- How often a mark of the key has answered that it is new. -/
def firstTimes : Nat := run.marks.countP fun mark => mark.1 = key ∧ mark.2 = .ok true

/-- The ledger over a file that held these keys when the run began. -/
structure Sound (known : TradeIdKey → Prop) (run : ProcessedTradeRun) : Prop where
  hot : run.repository.seen ⊆ run.repository.durableKeys
  durable : ∀ key, key ∈ run.repository.durableKeys ↔ known key ∨ run.Marked key
  ended : ∀ file ∈ run.repository.file, file.unended = false
  stored : ∀ file ∈ run.repository.file, ∀ key, key ∈ run.repository.durableKeys ↔ file.Holds key
  once : ∀ key, run.firstTimes key ≤ 1 ∧ (run.firstTimes key = 1 ↔ run.Marked key ∧ ¬ known key)

section

variable {run key} {known : TradeIdKey → Prop} {next : ProcessedTradeRun} {operation : ProcessedTradeOperation}
  {repository : ProcessedTradeRepository} {other : TradeIdKey} {answer : Except OmsError Bool}

theorem marked_concat : Marked ⟨repository, run.marks ++ [(other, answer)]⟩ key ↔
    run.Marked key ∨ key = other ∧ other.tradeId ≠ "" := by
  unfold Marked
  rw [List.map_append, List.mem_append, List.map_singleton, List.mem_singleton, or_and_right]
  refine or_congr_right (and_congr_right ?_)
  rintro rfl
  exact Iff.rfl

theorem firstTimes_concat : firstTimes ⟨repository, run.marks ++ [(other, answer)]⟩ key =
    run.firstTimes key + if other = key ∧ answer = .ok true then 1 else 0 := by
  unfold firstTimes
  rw [List.countP_append, List.countP_singleton]
  simp only [decide_eq_true_iff]

/-- Where no key is new, the marks leave a sound ledger sound. -/
theorem Sound.passed (sound : run.Sound known) (seen : repository.seen = run.repository.seen)
    (durable : repository.durableKeys = run.repository.durableKeys) (file : repository.file = run.repository.file)
    (present : other.tradeId ≠ "" → other ∈ run.repository.durableKeys) (answered : answer ≠ .ok true) :
    Sound known ⟨repository, run.marks ++ [(other, answer)]⟩ := by
  have marks : ∀ key, known key ∨ Marked ⟨repository, run.marks ++ [(other, answer)]⟩ key ↔
      known key ∨ run.Marked key := by
    intro key
    rw [marked_concat]
    constructor
    · rintro (knew | marked | ⟨rfl, named⟩)
      · exact Or.inl knew
      · exact Or.inr marked
      · exact (sound.durable key).mp (present named)
    · rintro (knew | marked)
      · exact Or.inl knew
      · exact Or.inr (Or.inl marked)
  refine ⟨?_, fun key => ?_, ?_, ?_, fun key => ?_⟩
  · change repository.seen ⊆ repository.durableKeys
    rw [seen, durable]
    exact sound.hot
  · rw [marks, ← sound.durable]
    exact durable ▸ Iff.rfl
  · rw [show _ = run.repository.file from file]
    exact sound.ended
  · rw [show _ = run.repository.file from file, show _ = run.repository.durableKeys from durable]
    exact sound.stored
  · obtain ⟨bound, counted⟩ := sound.once key
    rw [firstTimes_concat, if_neg fun first => answered first.2, add_zero]
    refine ⟨bound, counted.trans ?_⟩
    have same := marks key
    constructor
    · rintro ⟨marked, fresh⟩
      exact ⟨marked_concat.mpr (Or.inl marked), fresh⟩
    · rintro ⟨marked, fresh⟩
      exact ⟨(same.mp (Or.inr marked)).resolve_left fresh, fresh⟩

/-- A new key is marked: it is durable and on the file, and its mark is the first. -/
theorem Sound.added (sound : run.Sound known) (built : other.Built) (named : other.tradeId ≠ "")
    (fresh : other ∉ run.repository.durableKeys) {recordedAt : String}
    (seen : repository.seen = insert other run.repository.seen)
    (durable : repository.durableKeys = insert other run.repository.durableKeys)
    (file : repository.file = run.repository.file.map fun file =>
      file.append (other.toDict.set "recorded_at" (some recordedAt)) .written) :
    Sound known ⟨repository, run.marks ++ [(other, .ok true)]⟩ := by
  have new : ¬ (known other ∨ run.Marked other) := fun before => fresh ((sound.durable other).mpr before)
  have spells : TradeIdKey.fromDict (other.toDict.set "recorded_at" (some recordedAt)) = .ok other := by
    rw [TradeIdKey.fromDict_recorded, TradeIdKey.fromDict_toDict built, if_neg named]
  refine ⟨?_, fun key => ?_, fun held member => ?_, fun held member key => ?_, fun key => ?_⟩
  · change repository.seen ⊆ repository.durableKeys
    rw [seen, durable]
    exact Finset.insert_subset_insert other sound.hot
  · change key ∈ repository.durableKeys ↔ _
    rw [durable, Finset.mem_insert, marked_concat, sound.durable]
    constructor
    · rintro (rfl | knew | marked)
      · exact Or.inr (Or.inr ⟨rfl, named⟩)
      · exact Or.inl knew
      · exact Or.inr (Or.inl marked)
    · rintro (knew | marked | ⟨rfl, -⟩)
      · exact Or.inr (Or.inl knew)
      · exact Or.inr (Or.inr marked)
      · exact Or.inl rfl
  · change held ∈ repository.file at member
    rw [file] at member
    obtain ⟨before, -, rfl⟩ := Option.mem_map.mp member
    rfl
  · change held ∈ repository.file at member
    rw [file] at member
    obtain ⟨before, path, rfl⟩ := Option.mem_map.mp member
    change key ∈ repository.durableKeys ↔ _
    rw [durable, Finset.mem_insert, TradeFile.append_holds (sound.ended before path) spells,
      sound.stored before path key]
    exact or_comm
  · rw [firstTimes_concat, marked_concat]
    obtain ⟨bound, counted⟩ := sound.once key
    by_cases same : other = key
    · subst same
      have none : run.firstTimes other = 0 := by
        have unmarked : run.firstTimes other ≠ 1 := fun one => new (Or.inr (counted.mp one).1)
        omega
      rw [if_pos ⟨rfl, rfl⟩, none]
      exact ⟨le_refl 1, fun _ => ⟨Or.inr ⟨rfl, named⟩, fun knew => new (Or.inl knew)⟩, fun _ => rfl⟩
    · rw [if_neg fun first => same first.1, add_zero]
      refine ⟨bound, counted.trans (and_congr_left' ?_)⟩
      exact ⟨Or.inl, fun marked => marked.resolve_right fun first => same first.1.symm⟩

theorem Sound.step (sound : run.Sound known) (lands : run.Lands operation) (taken : run.step operation = some next) :
    next.Sound known := by
  cases operation with
  | mark key built now recordedAt outcome =>
    obtain rfl := Option.some.inj taken
    have answered := @ProcessedTradeRepository.markProcessed_spec run.repository key now recordedAt outcome
      sound.hot lands
    split at answered
    · next empty =>
      obtain ⟨same, notFirst⟩ := answered
      refine sound.passed ?_ ?_ ?_ (fun named => absurd empty named) notFirst
      all_goals rw [same]
    · next named =>
      split at answered
      · next present =>
        obtain ⟨duplicate, seen, durable, file⟩ := answered
        refine sound.passed seen durable file (fun _ => present) ?_
        rw [duplicate]
        rintro ⟨⟩
      · next fresh =>
        obtain ⟨first, seen, durable, file⟩ := answered
        rw [first]
        exact sound.added built named fresh seen durable file
  | isProcessed key =>
    obtain rfl := Option.some.inj taken
    exact sound
  | cleanup now =>
    obtain rfl := Option.some.inj taken
    obtain ⟨seen, durable, file⟩ := run.repository.cleanup_spec now
    refine ⟨?_, fun key => ?_, ?_, ?_, sound.once⟩
    · exact (seen.trans sound.hot).trans_eq durable.symm
    · exact durable ▸ sound.durable key
    · exact file ▸ sound.ended
    · exact file ▸ durable ▸ sound.stored
  | reload maxAgeSeconds =>
    obtain rfl := Option.some.inj taken
    obtain ⟨hot, file, durable⟩ := ProcessedTradeRepository.load_spec maxAgeSeconds run.repository.file
    obtain ⟨held, path⟩ := Option.isSome_iff_exists.mp lands
    have stored : ∀ key, key ∈ (ProcessedTradeRepository.load maxAgeSeconds run.repository.file).durableKeys ↔
        key ∈ run.repository.durableKeys := by
      intro key
      rw [durable, sound.stored held path key, path]
      simp
    refine ⟨hot.le, fun key => (stored key).trans (sound.durable key), ?_, ?_, sound.once⟩
    · rw [show _ = run.repository.file from file]
      exact sound.ended
    · intro held member key
      change held ∈ (ProcessedTradeRepository.load maxAgeSeconds run.repository.file).file at member
      rw [file] at member
      exact (stored key).trans (sound.stored held member key)

end

/-- A key that the file held when the run began. -/
def Known (file : Option TradeFile) (key : TradeIdKey) : Prop := ∃ held ∈ file, held.Holds key

theorem opened_sound {maxAgeSeconds : ℤ} {file : Option TradeFile} (ended : ∀ held ∈ file, held.unended = false) :
    (opened maxAgeSeconds file).Sound (Known file) := by
  obtain ⟨hot, kept, durable⟩ := ProcessedTradeRepository.load_spec maxAgeSeconds file
  refine ⟨hot.le, fun key => ?_, ?_, fun held member key => ?_, fun key => ?_⟩
  · refine (durable key).trans ⟨Or.inl, fun knew => knew.resolve_right ?_⟩
    rintro ⟨member, -⟩
    cases member
  · rw [show (opened maxAgeSeconds file).repository.file = file from kept]
    exact ended
  · change held ∈ (ProcessedTradeRepository.load maxAgeSeconds file).file at member
    rw [kept] at member
    refine (durable key).trans ⟨?_, fun holds => ⟨held, member, holds⟩⟩
    rintro ⟨other, found, holds⟩
    obtain rfl := Option.mem_unique found member
    exact holds
  · refine ⟨Nat.zero_le 1, fun one => ?_, ?_⟩
    · cases one
    · rintro ⟨⟨member, -⟩, -⟩
      cases member

/-- `TradeIdKey(trade_id="T1", order_id=" 220901")`. -/
def firstTrade : TradeIdKey := ⟨"T1", none, some "220901"⟩

theorem firstTrade_built : firstTrade.Built := ⟨"T1", none, some " 220901", by decide +kernel⟩

/-- A trade that comes again after an hour and a restart. -/
def redelivered : List ProcessedTradeOperation :=
  [.mark firstTrade firstTrade_built 0 "2026-01-05T09:15:00+00:00" .written, .cleanup 3600, .reload 60,
    .mark firstTrade firstTrade_built 3700 "2026-01-05T10:16:40+00:00" .written]

end ProcessedTradeRun

end TradeX.V1
