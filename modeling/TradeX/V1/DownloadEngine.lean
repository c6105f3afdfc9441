import TradeX.Lib.Frames
import TradeX.Lib.Span
import TradeX.Lib.Dict

/-! The download engine: the chunks of the requested range, the fetch of a chunk with its retries, one thread or many,
and the table that is made of the frames. Dates are day numbers. Delays, the caching, the check of the columns and the
count of failed chunks are left out; columns other than the symbol and the time stamp stand in one value. -/

namespace TradeX.V1.Download

open Lib

structure Row (T : Type u) (ρ : Type v) where
  symbol : String
  timestamp : T
  values : ρ
  deriving DecidableEq, Repr

/-- What a gateway answers with: its rows may come without a column for the symbol. -/
structure HistoryFrame (T : Type u) (ρ : Type v) where
  hasSymbol : Bool
  rows : List (Row T ρ)

/-- A chunk of the symbol at a place of the request. -/
structure Job where
  symbol : String
  place : Nat
  span : Span
  deriving DecidableEq

inductive GatewayCapabilities where
  | none
  | record (maxIntradayDays : ℤ)
  | mapping (maxIntradayDays maxDailyDays : Option ℤ)
  deriving DecidableEq

structure DownloadConfig where
  maxRetries : ℤ := 3
  maxWorkers : ℤ := 5
  dedup : Bool := true
  sort : Bool := true

structure DownloadProgress where
  totalSymbols : Nat := 0
  completedSymbols : Nat := 0
  totalChunks : Nat := 0
  completedChunks : Nat := 0
  totalRows : Nat := 0
  errors : List (Job × String) := []
  deriving DecidableEq

/-- A gateway answers the attempts at a job in turn. -/
structure HistoricalDownloadEngine (T : Type u) (ρ : Type v) where
  capabilities : GatewayCapabilities := .none
  history : Job → Nat → Except String (HistoryFrame T ρ)
  config : DownloadConfig := {}

structure DownloadRequest where
  symbols : List String
  years : ℤ := 1
  timeframe : String := "1D"
  fromDate : Option ℤ := none
  toDate : Option ℤ := none
  maxWorkers : Option ℤ := none

/-- `TIMEFRAME_MAX_DAYS.get(timeframe, 365)` -/
def timeframeMaxDays (timeframe : String) : ℤ :=
  match timeframe with
  | "1m" | "5m" | "15m" | "30m" => 30
  | "1h" => 90
  | "1D" => 365 * 10
  | _ => 365

def GatewayCapabilities.brokerMax (capabilities : GatewayCapabilities) (timeframe : String) : ℤ :=
  match capabilities with
  | .none => timeframeMaxDays timeframe
  | .record maxIntradayDays => if timeframe ≠ "1D" then maxIntradayDays else 3650
  | .mapping maxIntradayDays maxDailyDays =>
    if timeframe ≠ "1D" then maxIntradayDays.getD (timeframeMaxDays timeframe) else maxDailyDays.getD 3650

/-- `_compute_chunks`; no result where the loop does not end. -/
def computeChunks (start stop maxDays : ℤ) : Option (List Span) := Span.cut maxDays ⟨start, stop⟩

/-- The rows of a frame, with the symbol of the job where they have none. -/
def HistoryFrame.labelled {T : Type u} {ρ : Type v} (frame : HistoryFrame T ρ) (symbol : String) : List (Row T ρ) :=
  if frame.hasSymbol then frame.rows else frame.rows.map fun row => { row with symbol := symbol }

namespace HistoricalDownloadEngine

variable {T : Type u} {ρ : Type v} (engine : HistoricalDownloadEngine T ρ)

def effectiveMax (timeframe : String) : ℤ :=
  min (timeframeMaxDays timeframe) (engine.capabilities.brokerMax timeframe)

/-- The attempts at a job that are left, the number of the next one given: its rows, or the last error. -/
def attempts (job : Job) : Nat → Nat → Option (Except String (List (Row T ρ)))
  | 0, _ => none
  | left + 1, attempt =>
    match engine.history job attempt with
    | .ok frame => some (.ok (frame.labelled job.symbol))
    | .error error => if left = 0 then some (.error error) else attempts job left (attempt + 1)

/-- `_fetch_chunk` -/
def fetchChunk (job : Job) : Option (Except String (List (Row T ρ))) :=
  engine.attempts job (engine.config.maxRetries + 1).toNat 0

/-- The rows of a chunk; a chunk that failed has none. -/
def rowsOf (job : Job) : List (Row T ρ) :=
  match engine.fetchChunk job with
  | some (.ok rows) => rows
  | _ => []

def errorOf (job : Job) : Option (Job × String) :=
  match engine.fetchChunk job with
  | some (.error error) => some (job, error)
  | _ => none

variable [LinearOrder T]

/-- The columns by which rows are deduplicated and sorted. -/
def keyOf (row : Row T ρ) : String ×ₗ T := toLex (row.symbol, row.timestamp)

/-- `_dedup` and the sort over the concatenated frames. -/
def table (frames : List (List (Row T ρ))) : List (Row T ρ) :=
  let rows := frames.flatten
  let deduped := if engine.config.dedup then keepLast keyOf rows else rows
  if engine.config.sort then sortedBy keyOf deduped else deduped

def jobsOf (symbols : List String) (chunks : List Span) : List Job :=
  symbols.zipIdx.flatMap fun (symbol, place) => chunks.map fun span => ⟨symbol, place, span⟩

def endOf (request : DownloadRequest) (today : ℤ) : ℤ := request.toDate.getD today

def startOf (request : DownloadRequest) (today : ℤ) : ℤ :=
  request.fromDate.getD (endOf request today - request.years * 365)

/-- The jobs of a request; none where the chunks are not found. -/
def jobs (request : DownloadRequest) (today : ℤ) : Option (List Job) :=
  (computeChunks (startOf request today) (endOf request today) (engine.effectiveMax request.timeframe)).map
    (jobsOf request.symbols)

/-- The frames with rows, and the errors. -/
def framesOf (taken : List Job) : List (List (Row T ρ)) := (taken.map engine.rowsOf).filter (· ≠ [])

def errorsOf (ended : List Job) : List (Job × String) := ended.filterMap engine.errorOf

/-- `_download_sequential` and what is made of its frames. -/
def sequentially (symbols : List String) (jobs : List Job) : List (Row T ρ) × DownloadProgress :=
  let frames := engine.framesOf jobs
  let rows := engine.table frames
  (rows, {
    totalSymbols := symbols.length
    completedSymbols := if frames = [] then 0 else symbols.length
    totalChunks := jobs.length
    totalRows := rows.length
    errors := engine.errorsOf jobs })

/-- `_download_parallel`: the workers end the jobs in one order, their frames are taken in another. -/
def inParallel (symbols : List String) (jobs ended taken : List Job) : List (Row T ρ) × DownloadProgress :=
  let frames := engine.framesOf taken
  let rows := engine.table frames
  (rows, {
    totalSymbols := symbols.length
    completedSymbols := symbols.length
    totalChunks := jobs.length
    completedChunks := frames.length
    totalRows := rows.length
    errors := engine.errorsOf ended })

/-- `max_workers or self._config.max_workers` -/
def workers (request : DownloadRequest) : ℤ :=
  match request.maxWorkers with
  | some workers => if workers = 0 then engine.config.maxWorkers else workers
  | none => engine.config.maxWorkers

/-- What `download` can answer. -/
inductive Downloads (request : DownloadRequest) (today : ℤ) (parallel : Bool) :
    Except String (List (Row T ρ) × DownloadProgress) → Prop where
  | sequential {jobs} : ¬(parallel ∧ 1 < request.symbols.length) → engine.jobs request today = some jobs →
      Downloads request today parallel (.ok (engine.sequentially request.symbols jobs))
  | refused {jobs} : parallel → 1 < request.symbols.length → engine.jobs request today = some jobs →
      engine.workers request ≤ 0 →
      Downloads request today parallel (.error "max_workers must be greater than 0")
  | parallel {jobs ended taken} : parallel → 1 < request.symbols.length → engine.jobs request today = some jobs →
      0 < engine.workers request → ended.Perm jobs → taken.Perm jobs →
      Downloads request today parallel (.ok (engine.inParallel request.symbols jobs ended taken))

/-- The frame of the first attempt that is answered. -/
def Answered (job : Job) (frame : HistoryFrame T ρ) : Prop :=
  ∃ k : Nat, (k : ℤ) ≤ engine.config.maxRetries ∧ engine.history job k = .ok frame ∧
    ∀ i < k, ∃ error, engine.history job i = .error error

/-- Every attempt fails, the last one with this error. -/
def Failed (job : Job) (error : String) : Prop :=
  engine.history job engine.config.maxRetries.toNat = .error error ∧
    ∀ i : Nat, (i : ℤ) ≤ engine.config.maxRetries → ∃ error, engine.history job i = .error error

section Attempts

variable {engine : HistoricalDownloadEngine T ρ} {job : Job}

omit [LinearOrder T]

theorem errors_before {attempt k : Nat} {error : String} (first : engine.history job attempt = .error error)
    (rest : ∀ i < k, ∃ error, engine.history job (attempt + 1 + i) = .error error) :
    ∀ i < k + 1, ∃ error, engine.history job (attempt + i) = .error error := by
  intro i below
  cases i with
  | zero => exact ⟨error, first⟩
  | succ i =>
    rw [← Nat.add_assoc, Nat.add_right_comm]
    exact rest i (Nat.lt_of_succ_lt_succ below)

variable (engine job) in
/-- The first answer counts; without one, the last error. -/
theorem attempts_outcome (left attempt : Nat) :
    (∃ k ≤ left, ∃ frame, engine.history job (attempt + k) = .ok frame ∧
      (∀ i < k, ∃ error, engine.history job (attempt + i) = .error error) ∧
      engine.attempts job (left + 1) attempt = some (.ok (frame.labelled job.symbol))) ∨
    (∃ error, engine.history job (attempt + left) = .error error ∧
      (∀ i < left + 1, ∃ error, engine.history job (attempt + i) = .error error) ∧
      engine.attempts job (left + 1) attempt = some (.error error)) := by
  induction left generalizing attempt with
  | zero =>
    cases first : engine.history job attempt with
    | ok frame =>
      refine Or.inl ⟨0, le_refl 0, frame, first, fun i before => absurd before (Nat.not_lt_zero i), ?_⟩
      simp only [attempts, first]
    | error error =>
      refine Or.inr ⟨error, rfl, errors_before first fun i before => absurd before (Nat.not_lt_zero i), ?_⟩
      simp only [attempts, first, if_true]
  | succ left ih =>
    cases first : engine.history job attempt with
    | ok frame =>
      refine Or.inl ⟨0, Nat.zero_le _, frame, first, fun i before => absurd before (Nat.not_lt_zero i), ?_⟩
      simp only [attempts, first]
    | error error =>
      have next : engine.attempts job (left + 1 + 1) attempt = engine.attempts job (left + 1) (attempt + 1) := by
        rw [attempts, first]
        exact if_neg (Nat.succ_ne_zero left)
      rw [next]
      rcases ih (attempt + 1) with ⟨k, within, frame, answered, before, result⟩ | ⟨last, failed, before, result⟩
      · refine Or.inl ⟨k + 1, Nat.succ_le_succ within, frame, ?_, errors_before first before, result⟩
        rwa [Nat.add_right_comm] at answered
      · refine Or.inr ⟨last, ?_, errors_before first before, result⟩
        rwa [Nat.add_right_comm] at failed

theorem fetchChunk_outcome (retries : 0 ≤ engine.config.maxRetries) (job : Job) :
    (∃ frame, engine.Answered job frame ∧ engine.rowsOf job = frame.labelled job.symbol ∧
      engine.errorOf job = none) ∨
    (∃ error, engine.Failed job error ∧ engine.rowsOf job = [] ∧ engine.errorOf job = some (job, error)) := by
  have count : (engine.config.maxRetries + 1).toNat = engine.config.maxRetries.toNat + 1 := by
    omega
  rcases attempts_outcome engine job engine.config.maxRetries.toNat 0 with
    ⟨k, within, frame, answered, before, result⟩ | ⟨error, failed, before, result⟩
  · rw [Nat.zero_add] at answered
    simp only [Nat.zero_add] at before
    refine Or.inl ⟨frame, ⟨k, by omega, answered, before⟩, ?_, ?_⟩
    · simp only [rowsOf, fetchChunk, count, result]
    · simp only [errorOf, fetchChunk, count, result]
  · rw [Nat.zero_add] at failed
    simp only [Nat.zero_add] at before
    refine Or.inr ⟨error, ⟨failed, fun i within => before i (by omega)⟩, ?_, ?_⟩
    · simp only [rowsOf, fetchChunk, count, result]
    · simp only [errorOf, fetchChunk, count, result]

end Attempts

section Tables

variable {engine : HistoricalDownloadEngine T ρ} {taken jobs : List Job} {row : Row T ρ}

omit [LinearOrder T] in
theorem framesOf_flatten (taken : List Job) : (engine.framesOf taken).flatten = (taken.map engine.rowsOf).flatten := by
  induction taken with
  | nil => rfl
  | cons job taken ih =>
    rw [framesOf, List.map_cons, List.filter_cons, List.flatten_cons, ← ih]
    by_cases empty : engine.rowsOf job = []
    · simp [empty, framesOf]
    · simp [empty, framesOf]

theorem table_eq (dedup : engine.config.dedup = true) (sort : engine.config.sort = true) (taken : List Job) :
    engine.table (engine.framesOf taken) = consolidated keyOf (taken.map engine.rowsOf).flatten := by
  rw [← framesOf_flatten, table, if_pos dedup, if_pos sort, consolidated]

/-- The table is the one of the sequential download whatever order the frames come in, exactly when no two chunks
have different last rows for one symbol and time. -/
theorem table_perm_iff (dedup : engine.config.dedup = true) (sort : engine.config.sort = true) :
    (∀ taken : List Job, taken.Perm jobs →
      engine.table (engine.framesOf taken) = engine.table (engine.framesOf jobs)) ↔
      Uncontested keyOf (jobs.map engine.rowsOf) := by
  rw [← consolidated_perm_iff]
  constructor
  · intro same others perm
    obtain ⟨taken, rfl, order⟩ : ∃ taken : List Job, others = taken.map engine.rowsOf ∧ taken.Perm jobs := by
      have lifted := congrFun₂ (List.eq_map_comp_perm engine.rowsOf) others jobs
      exact lifted.mpr perm
    rw [← table_eq dedup sort, ← table_eq dedup sort, same taken order]
  · intro same taken order
    rw [table_eq dedup sort, table_eq dedup sort]
    exact same _ (order.map engine.rowsOf)

end Tables

section Downloads

variable {engine : HistoricalDownloadEngine T ρ} {request : DownloadRequest} {today : ℤ} {jobs : List Job}
  {job other : Job} {day : T → ℤ}

/-- A gateway answers a job with rows of its symbol and its days. -/
def AnswersWithin (engine : HistoricalDownloadEngine T ρ) (day : T → ℤ) : Prop :=
  ∀ job attempt frame, engine.history job attempt = .ok frame →
    ∀ row ∈ frame.labelled job.symbol, row.symbol = job.symbol ∧ day row.timestamp ∈ job.span

omit [LinearOrder T] in
theorem mem_jobsOf {symbols : List String} {chunks : List Span} :
    job ∈ jobsOf symbols chunks ↔ symbols[job.place]? = some job.symbol ∧ job.span ∈ chunks := by
  obtain ⟨symbol, place, span⟩ := job
  simp only [jobsOf, List.mem_flatMap, List.mem_map, Prod.exists, Job.mk.injEq, List.mk_mem_zipIdx_iff_getElem?]
  constructor
  · rintro ⟨_, _, listed, _, chunk, rfl, rfl, rfl⟩
    exact ⟨listed, chunk⟩
  · rintro ⟨listed, chunk⟩
    exact ⟨symbol, place, listed, span, chunk, rfl, rfl, rfl⟩

variable (today) in
omit [LinearOrder T] in
theorem jobs_found (positive : 0 < engine.effectiveMax request.timeframe) :
    ∃ chunks, engine.jobs request today = some (jobsOf request.symbols chunks) ∧
      Span.Tiles (engine.effectiveMax request.timeframe) (endOf request today) (startOf request today) chunks := by
  obtain ⟨chunks, cut, tiles⟩ := Span.cut_tiles positive ⟨startOf request today, endOf request today⟩
  refine ⟨chunks, ?_, tiles⟩
  rw [jobs, computeChunks, cut, Option.map_some]

/-- Of every symbol, a day is in one chunk. -/
theorem job_unique {symbols : List String} {chunks : List Span} (distinct : symbols.Nodup)
    (apart : chunks.Pairwise Span.Apart) (listed : job ∈ jobsOf symbols chunks)
    (listed' : other ∈ jobsOf symbols chunks) (symbol : job.symbol = other.symbol) {d : ℤ} (inside : d ∈ job.span)
    (inside' : d ∈ other.span) : job = other := by
  obtain ⟨symbol₁, place₁, span₁⟩ := job
  obtain ⟨symbol₂, place₂, span₂⟩ := other
  obtain rfl : symbol₁ = symbol₂ := symbol
  obtain ⟨at₁, chunk₁⟩ := mem_jobsOf.mp listed
  obtain ⟨at₂, chunk₂⟩ := mem_jobsOf.mp listed'
  have place : place₁ = place₂ :=
    (List.getElem?_inj (List.getElem?_eq_some_iff.mp at₁).1 distinct).mp (at₁.trans at₂.symm)
  have span : span₁ = span₂ := by
    by_contra differ
    have symmetric : Std.Symm Span.Apart := ⟨fun _ _ => Or.symm⟩
    have := apart.forall chunk₁ chunk₂ differ
    simp only [Span.Apart, Span.mem_iff] at *
    omega
  rw [place, span]

omit [LinearOrder T] in
theorem rowsOf_within (within : AnswersWithin engine day) (retries : 0 ≤ engine.config.maxRetries) {row : Row T ρ}
    (member : row ∈ engine.rowsOf job) : row.symbol = job.symbol ∧ day row.timestamp ∈ job.span := by
  rcases fetchChunk_outcome retries job with ⟨frame, ⟨k, -, answered, -⟩, rows, -⟩ | ⟨_, -, rows, -⟩
  · rw [rows] at member
    exact within job k frame answered row member
  · rw [rows] at member
    cases member

/-- Chunks that are answered within their bounds do not contest a row. -/
theorem uncontested_of_within {chunks : List Span} (within : AnswersWithin engine day)
    (retries : 0 ≤ engine.config.maxRetries) (distinct : request.symbols.Nodup) (apart : chunks.Pairwise Span.Apart) :
    Uncontested keyOf ((jobsOf request.symbols chunks).map engine.rowsOf) := by
  intro f inside g there k a b first second
  obtain ⟨job, listed, rfl⟩ := List.mem_map.mp inside
  obtain ⟨other, listed', rfl⟩ := List.mem_map.mp there
  obtain ⟨member, key⟩ := latestAt_mem first
  obtain ⟨member', key'⟩ := latestAt_mem second
  have same : (a.symbol, a.timestamp) = (b.symbol, b.timestamp) := toLex.injective (key.trans key'.symm)
  obtain ⟨symbol, timestamp⟩ := Prod.mk.inj same
  have own := rowsOf_within within retries member
  have own' := rowsOf_within within retries member'
  rw [← symbol, ← timestamp] at own'
  have equal := job_unique distinct apart listed listed' (own.1.symm.trans own'.1) own.2 own'.2
  rw [equal, second] at first
  exact (Option.some.inj first).symm

variable {parallel : Bool} {rows : List (Row T ρ)} {progress : DownloadProgress}

theorem downloads_inv (positive : 0 < engine.effectiveMax request.timeframe)
    (done : engine.Downloads request today parallel (.ok (rows, progress))) :
    ∃ chunks taken ended, Span.Tiles (engine.effectiveMax request.timeframe) (endOf request today)
        (startOf request today) chunks ∧ taken.Perm (jobsOf request.symbols chunks) ∧
      ended.Perm (jobsOf request.symbols chunks) ∧ rows = engine.table (engine.framesOf taken) ∧
      progress.errors = engine.errorsOf ended := by
  obtain ⟨chunks, found, tiles⟩ := jobs_found today positive
  cases done with
  | sequential _ jobs =>
    obtain rfl := Option.some.inj (jobs.symm.trans found)
    exact ⟨chunks, _, _, tiles, .refl _, .refl _, rfl, rfl⟩
  | @parallel _ ended taken _ _ jobs _ ends takes =>
    obtain rfl := Option.some.inj (jobs.symm.trans found)
    exact ⟨chunks, taken, ended, tiles, takes, ends, rfl, rfl⟩

/-- Two symbols in two chunks each; the gateway is busy at first, and one chunk is never answered. -/
def busyGateway : HistoricalDownloadEngine ℤ ℤ where
  capabilities := .record 10
  history job attempt :=
    if job.symbol = "TCS" ∧ job.span.first = 10 then .error "down"
    else if attempt = 0 then .error "busy"
    else if job.span.last < job.span.first then .ok ⟨true, []⟩
    else .ok ⟨false, [⟨"", job.span.first, 1⟩, ⟨"", job.span.first, 2⟩]⟩

def twoSymbols : DownloadRequest where
  symbols := ["TCS", "INFY"]
  timeframe := "5m"
  fromDate := some 0
  toDate := some 14

def fourJobs : List Job :=
  [⟨"TCS", 0, ⟨0, 9⟩⟩, ⟨"TCS", 0, ⟨10, 14⟩⟩, ⟨"INFY", 1, ⟨0, 9⟩⟩, ⟨"INFY", 1, ⟨10, 14⟩⟩]

theorem busyGateway_jobs : busyGateway.jobs twoSymbols 20 = some fourJobs := by
  decide +kernel

theorem busyGateway_parallel (taken : List Job) (perm : taken.Perm fourJobs) :
    busyGateway.Downloads twoSymbols 20 true
      (.ok (busyGateway.inParallel twoSymbols.symbols fourJobs fourJobs taken)) :=
  .parallel rfl (by decide) busyGateway_jobs (by decide) (List.Perm.refl fourJobs) perm

/-- A download holds, of every symbol and every day, what the first answer to its chunk has, or reports the chunk. -/
theorem download_complete (distinct : request.symbols.Nodup) (positive : 0 < engine.effectiveMax request.timeframe)
    (retries : 0 ≤ engine.config.maxRetries) (dedup : engine.config.dedup = true) (sort : engine.config.sort = true)
    (within : AnswersWithin engine day) (done : engine.Downloads request today parallel (.ok (rows, progress))) :
    rows.Pairwise (fun a b => keyOf a < keyOf b) ∧
    (∀ row ∈ rows, row.symbol ∈ request.symbols ∧
      startOf request today ≤ day row.timestamp ∧ day row.timestamp ≤ endOf request today) ∧
    (∀ entry ∈ progress.errors, engine.Failed entry.1 entry.2) ∧
    ∀ symbol ∈ request.symbols, ∀ d, startOf request today ≤ d → d ≤ endOf request today →
      ∃ job : Job, job.symbol = symbol ∧ d ∈ job.span ∧
        job.span.length ≤ engine.effectiveMax request.timeframe ∧
        ((∃ frame, engine.Answered job frame ∧ ∀ row, row.symbol = symbol → day row.timestamp = d →
            (row ∈ rows ↔ latestAt keyOf (keyOf row) (frame.labelled symbol) = some row)) ∨
          ∃ error, engine.Failed job error ∧ (job, error) ∈ progress.errors ∧
            ∀ row ∈ rows, row.symbol = symbol → day row.timestamp ≠ d) := by
  obtain ⟨chunks, taken, ended, tiles, takes, ends, table, errors⟩ := downloads_inv positive done
  have uncontested := (uncontested_of_within within retries distinct tiles.apart).perm (takes.map engine.rowsOf)
  have listed (row : Row T ρ) : row ∈ rows ↔
      ∃ job ∈ jobsOf request.symbols chunks, latestAt keyOf (keyOf row) (engine.rowsOf job) = some row := by
    rw [table, table_eq dedup sort, mem_consolidated, uncontested.latestAt_flatten]
    simp only [List.mem_map, exists_exists_and_eq_and, takes.mem_iff]
  refine ⟨?_, ?_, ?_, ?_⟩
  · rw [table, table_eq dedup sort]
    exact consolidated_increasing _ _
  · intro row member
    obtain ⟨job, asked, last⟩ := (listed row).mp member
    obtain ⟨symbol, inside⟩ := rowsOf_within within retries (latestAt_mem last).1
    obtain ⟨place, chunk⟩ := mem_jobsOf.mp asked
    rw [symbol]
    exact ⟨List.mem_of_getElem? place, (tiles.covers _).mp ⟨job.span, chunk, inside⟩⟩
  · intro entry member
    rw [errors, errorsOf, List.mem_filterMap] at member
    obtain ⟨job, -, reported⟩ := member
    rcases fetchChunk_outcome retries job with ⟨_, -, -, unreported⟩ | ⟨error, failed, -, own⟩
    · cases unreported.symm.trans reported
    · obtain rfl := Option.some.inj (own.symm.trans reported)
      exact failed
  · intro symbol member d begins ends'
    obtain ⟨place, found⟩ := List.mem_iff_getElem?.mp member
    obtain ⟨span, chunk, inside⟩ := (tiles.covers d).mpr ⟨begins, ends'⟩
    have asked : (⟨symbol, place, span⟩ : Job) ∈ jobsOf request.symbols chunks :=
      mem_jobsOf.mpr ⟨found, chunk⟩
    -- no other job has rows of the symbol and the day
    have only {row : Row T ρ} (own : row.symbol = symbol) (its : day row.timestamp = d) :
        row ∈ rows ↔ latestAt keyOf (keyOf row) (engine.rowsOf ⟨symbol, place, span⟩) = some row := by
      rw [listed]
      constructor
      · rintro ⟨job, asked', last⟩
        have bounds := rowsOf_within within retries (latestAt_mem last).1
        rw [own, its] at bounds
        rwa [job_unique distinct tiles.apart asked asked' bounds.1 inside bounds.2]
      · intro last
        exact ⟨_, asked, last⟩
    refine ⟨⟨symbol, place, span⟩, rfl, inside, (tiles.within chunk).2.2.2, ?_⟩
    rcases fetchChunk_outcome retries ⟨symbol, place, span⟩ with
      ⟨frame, answered, rowsOf, -⟩ | ⟨error, failed, rowsOf, reported⟩
    · rw [rowsOf] at only
      exact Or.inl ⟨frame, answered, fun row own its => only own its⟩
    · refine Or.inr ⟨error, failed, ?_, fun row kept own its => ?_⟩
      · rw [errors, errorsOf, List.mem_filterMap]
        exact ⟨_, ends.mem_iff.mpr asked, reported⟩
      · rw [only own its, rowsOf] at kept
        cases kept

theorem busyGateway_within : AnswersWithin busyGateway id := by
  intro job attempt frame answered row member
  simp only [busyGateway] at answered
  split_ifs at answered with _ _ empty
  · obtain rfl := Except.ok.inj answered
    cases member
  · obtain rfl := Except.ok.inj answered
    simp only [HistoryFrame.labelled, Bool.false_eq_true, if_false, List.map_cons, List.map_nil, List.mem_cons,
      List.not_mem_nil, or_false] at member
    rcases member with rfl | rfl
    · exact ⟨rfl, le_refl _, not_lt.mp empty⟩
    · exact ⟨rfl, le_refl _, not_lt.mp empty⟩

theorem download_complete_busy :
    let rows := (busyGateway.inParallel twoSymbols.symbols fourJobs fourJobs fourJobs.reverse).1
    rows.Pairwise (fun a b => keyOf a < keyOf b) ∧
    rows = [⟨"INFY", 0, 2⟩, ⟨"INFY", 10, 2⟩, ⟨"TCS", 0, 2⟩] := by
  have complete := download_complete (by decide) (by decide) (by decide) rfl rfl busyGateway_within
    (busyGateway_parallel fourJobs.reverse fourJobs.reverse_perm)
  exact ⟨complete.1, by decide +kernel⟩

/-- Parallel downloads give the table of the sequential one in every order, exactly when no two chunks have
different last rows for one symbol and time. -/
theorem parallel_agrees_iff (dedup : engine.config.dedup = true) (sort : engine.config.sort = true)
    (many : 1 < request.symbols.length) (workers : 0 < engine.workers request)
    (found : engine.jobs request today = some jobs) :
    (∀ rows progress plain progress', engine.Downloads request today true (.ok (rows, progress)) →
      engine.Downloads request today false (.ok (plain, progress')) → rows = plain) ↔
      Uncontested keyOf (jobs.map engine.rowsOf) := by
  have plainly : engine.Downloads request today false (.ok (engine.sequentially request.symbols jobs)) :=
    .sequential (fun both => Bool.false_ne_true both.1) found
  rw [← table_perm_iff dedup sort]
  constructor
  · intro same taken perm
    exact same _ _ _ _ (.parallel rfl many found workers (List.Perm.refl jobs) perm) plainly
  · intro same rows progress plain progress' done done'
    cases done' with
    | sequential _ found' =>
      obtain rfl := Option.some.inj (found'.symm.trans found)
      cases done with
      | sequential single => exact absurd ⟨rfl, many⟩ single
      | parallel _ _ again _ _ perm =>
        obtain rfl := Option.some.inj (again.symm.trans found)
        exact same _ perm
    | parallel on => exact absurd on Bool.false_ne_true

theorem parallel_agrees_busy : Uncontested keyOf (fourJobs.map busyGateway.rowsOf) ∧
    ∀ rows progress plain progress', busyGateway.Downloads twoSymbols 20 true (.ok (rows, progress)) →
      busyGateway.Downloads twoSymbols 20 false (.ok (plain, progress')) → rows = plain := by
  have apart : [Span.mk 0 9, Span.mk 10 14].Pairwise Span.Apart := by
    simp [Span.Apart]
  have distinct : twoSymbols.symbols.Nodup := by
    decide
  have uncontested : Uncontested keyOf (fourJobs.map busyGateway.rowsOf) :=
    uncontested_of_within busyGateway_within (by decide) distinct apart
  exact ⟨uncontested, (parallel_agrees_iff rfl rfl (by decide) (by decide) busyGateway_jobs).mpr uncontested⟩

end Downloads

end HistoricalDownloadEngine

end TradeX.V1.Download
