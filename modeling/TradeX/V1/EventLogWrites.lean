import TradeX.Lib.Runs

/-! The writes of the two v1 event logs, any of which may raise. `EventLog` marks an event as seen
before it writes it, and `BufferedEventLog` keeps its whole buffer when a flush ends half way. -/

namespace TradeX.V1

open Lib

/-- An event as a log writes it: its id and the rest of its record. -/
structure EventRecord where
  eventId : String
  line : String
  deriving DecidableEq, Repr

/-- How the write of a line ends. A write that raises may have brought the line into the file. -/
inductive WriteOutcome where
  | written
  | openRaises
  | writeRaises (stored : Bool)
  deriving DecidableEq, Repr

namespace WriteOutcome

/-- The line is in the file. -/
def stores : WriteOutcome → Bool
  | written => true
  | openRaises => false
  | writeRaises stored => stored

end WriteOutcome

/-- `MAX_SEEN_IDS`. -/
def maxSeenIds : ℕ := 200000

/-- `EventLog`: the ids seen, the oldest first, and the lines of its files. -/
structure EventLog where
  seenIds : List String := []
  stored : List EventRecord := []
  appendErrors : ℕ := 0
  deriving DecidableEq, Repr

namespace EventLog

/-- The duplicate filter knows the event. -/
def knows (log : EventLog) (event : EventRecord) : Bool := event.eventId != "" && log.seenIds.contains event.eventId

/-- The filter after an event that it did not know; the oldest ids are evicted. -/
def mark (log : EventLog) (event : EventRecord) : EventLog :=
  if event.eventId = "" then log
  else
    let seen := log.seenIds ++ [event.eventId]
    { log with seenIds := seen.drop (seen.length - maxSeenIds) }

/-- `append`, where the write ends as given, and whether it returns. -/
def append (log : EventLog) (event : EventRecord) (outcome : WriteOutcome) : EventLog × Bool :=
  if log.knows event then
    ({ log with seenIds := log.seenIds.erase event.eventId ++ [event.eventId] }, true)
  else
    let marked := log.mark event
    match outcome with
    | .written => ({ marked with stored := marked.stored ++ [event] }, true)
    | .openRaises => (marked, false)
    | .writeRaises stored => ({ marked with
        stored := if stored then marked.stored ++ [event] else marked.stored
        appendErrors := marked.appendErrors + 1 }, false)

end EventLog

/-- A log, with the events whose append has returned. -/
structure EventLogRun where
  log : EventLog := {}
  accepted : List EventRecord := []
  deriving DecidableEq, Repr

/-- A call of `append`, with the end of its write. -/
structure AppendCall where
  event : EventRecord
  outcome : WriteOutcome
  deriving DecidableEq, Repr

namespace EventLogRun

def step (run : EventLogRun) (call : AppendCall) : Option EventLogRun :=
  let result := run.log.append call.event call.outcome
  some { log := result.1, accepted := if result.2 then run.accepted ++ [call.event] else run.accepted }

/-- Every event is stored at most once, and every event whose append returned is stored. -/
structure Exact (run : EventLogRun) : Prop where
  once : run.log.stored.Nodup
  stored : ∀ event ∈ run.accepted, event ∈ run.log.stored

/-- The duplicate filter tells the truth about the event: it is known when it is stored, and known
only then. A write that brings nothing into the file may be of any event that is not known. -/
def settles (run : EventLogRun) (call : AppendCall) : Prop :=
  if run.log.knows call.event then call.event ∈ run.log.stored
  else call.outcome.stores = true → call.event ∉ run.log.stored

instance (run : EventLogRun) (call : AppendCall) : Decidable (run.settles call) := by
  unfold settles
  infer_instance

theorem mark_stored (log : EventLog) (event : EventRecord) : (log.mark event).stored = log.stored := by
  unfold EventLog.mark
  split <;> rfl

/-- What `append` stores, and when it returns. -/
theorem append_cases (log : EventLog) (event : EventRecord) (outcome : WriteOutcome) :
    (log.knows event = true ∧ (log.append event outcome).1.stored = log.stored ∧ (log.append event outcome).2 = true) ∨
    (log.knows event = false ∧
      (log.append event outcome).1.stored = log.stored ++ (if outcome.stores then [event] else []) ∧
      ((log.append event outcome).2 = true ↔ outcome = .written)) := by
  unfold EventLog.append
  cases known : log.knows event with
  | true => exact .inl ⟨rfl, rfl, rfl⟩
  | false =>
    refine .inr ⟨rfl, ?_⟩
    cases outcome with
    | written | openRaises => simp [WriteOutcome.stores, mark_stored]
    | writeRaises stored => cases stored <;> simp [WriteOutcome.stores, mark_stored]

/-- What a call stores and accepts. -/
theorem step_cases {before after : EventLogRun} {call : AppendCall} (taken : before.step call = some after) :
    (before.log.knows call.event = true ∧ after.log.stored = before.log.stored ∧
      after.accepted = before.accepted ++ [call.event]) ∨
    (before.log.knows call.event = false ∧
      after.log.stored = before.log.stored ++ (if call.outcome.stores then [call.event] else []) ∧
      after.accepted = before.accepted ++ (if call.outcome = .written then [call.event] else [])) := by
  unfold step at taken
  dsimp only at taken
  obtain rfl := Option.some.inj taken
  obtain ⟨known, stored, returned⟩ | ⟨unknown, stored, returned⟩ := append_cases before.log call.event call.outcome
  · exact .inl ⟨known, stored, if_pos returned⟩
  · refine .inr ⟨unknown, stored, ?_⟩
    by_cases written : call.outcome = .written
    · rw [if_pos written]
      exact if_pos (returned.mpr written)
    · rw [if_neg written, List.append_nil]
      exact if_neg fun done => written (returned.mp done)

/-- A call keeps the log exact where the filter tells the truth about its event, and only there. -/
theorem exact_step {before after : EventLogRun} {call : AppendCall} (held : before.Exact)
    (taken : before.step call = some after) : before.settles call ↔ after.Exact := by
  obtain ⟨known, stored, accepted⟩ | ⟨unknown, stored, accepted⟩ := step_cases taken
  · unfold settles
    rw [if_pos known]
    constructor
    · intro present
      refine ⟨stored ▸ held.once, ?_⟩
      rw [stored, accepted]
      intro event member
      obtain earlier | last := List.mem_append.mp member
      · exact held.stored event earlier
      · exact List.mem_singleton.mp last ▸ present
    · intro exact_
      have present := exact_.stored call.event (accepted ▸ List.mem_append_right _ List.mem_cons_self)
      exact stored ▸ present
  · unfold settles
    rw [if_neg (by rw [unknown]; nofun)]
    constructor
    · intro fresh
      refine ⟨?_, ?_⟩
      · rw [stored]
        split
        · next stores => exact List.nodup_append.mpr ⟨held.once, List.nodup_singleton _, by
            rintro event member other isIt rfl
            exact fresh stores (List.mem_singleton.mp isIt ▸ member)⟩
        · exact (List.append_nil _).symm ▸ held.once
      · rw [stored, accepted]
        intro event member
        obtain earlier | last := List.mem_append.mp member
        · exact List.mem_append_left _ (held.stored event earlier)
        · split at last
          · next written =>
            rw [written]
            exact List.mem_append_right _ last
          · cases last
    · intro exact_ stores present
      have once := exact_.once
      rw [stored, if_pos stores] at once
      exact (List.nodup_append.mp once).2.2 _ present _ List.mem_cons_self rfl

end EventLogRun

/-- How a flush ends: all lines are written, or it raises behind some of them. -/
inductive FlushOutcome where
  | written
  | raisesAfter (lines : ℕ)
  deriving DecidableEq, Repr

/-- The lines that are written before the flush raises. -/
def FlushOutcome.lines : FlushOutcome → ℕ
  | written => 0
  | raisesAfter lines => lines

/-- `BufferedEventLog`. Times are in seconds. -/
structure BufferedEventLog where
  flushThreshold : ℕ := 100
  flushInterval : ℚ := 1
  buffer : List EventRecord := []
  lastFlush : ℚ := 0
  flushCount : ℕ := 0
  stored : List EventRecord := []
  deriving DecidableEq, Repr

namespace BufferedEventLog

/-- `_flush_locked`: the whole buffer is written again after a flush that raised. -/
def flushLocked (log : BufferedEventLog) (now : ℚ) (outcome : FlushOutcome) : BufferedEventLog :=
  if log.buffer = [] then log
  else match outcome with
    | .written => { log with
        stored := log.stored ++ log.buffer
        flushCount := log.flushCount + 1
        lastFlush := now
        buffer := [] }
    | .raisesAfter lines => { log with stored := log.stored ++ log.buffer.take lines }

/-- `append`. -/
def append (log : BufferedEventLog) (event : EventRecord) (syncMode : Bool) (now : ℚ) (outcome : FlushOutcome) :
    BufferedEventLog :=
  let buffered := { log with buffer := log.buffer ++ [event] }
  if syncMode = true ∨ log.flushThreshold ≤ buffered.buffer.length ∨ log.flushInterval ≤ now - log.lastFlush then
    buffered.flushLocked now outcome
  else buffered

end BufferedEventLog

/-- The calls on a buffered log, with the time and the end of the flush they may come to. -/
inductive BufferedCall where
  | append (event : EventRecord) (syncMode : Bool) (now : ℚ) (outcome : FlushOutcome)
  | flush (now : ℚ) (outcome : FlushOutcome)
  deriving DecidableEq, Repr

/-- A buffered log, with the events appended to it. -/
structure BufferedRun where
  log : BufferedEventLog := {}
  accepted : List EventRecord := []
  deriving DecidableEq, Repr

namespace BufferedRun

def step (run : BufferedRun) : BufferedCall → Option BufferedRun
  | .append event syncMode now outcome => some {
      log := run.log.append event syncMode now outcome
      accepted := run.accepted ++ [event] }
  | .flush now outcome => some { run with log := run.log.flushLocked now outcome }

/-- The log after a flush that writes all. -/
def flushed (run : BufferedRun) : BufferedEventLog := run.log.flushLocked run.log.lastFlush .written

/-- Once a flush succeeds, every appended event is stored, and none twice. -/
structure Exact (run : BufferedRun) : Prop where
  once : run.flushed.stored.Nodup
  stored : ∀ event ∈ run.accepted, event ∈ run.flushed.stored

/-- The event that the call appends. -/
def appended : BufferedCall → List EventRecord
  | .append event _ _ _ => [event]
  | .flush _ _ => []

def outcome : BufferedCall → FlushOutcome
  | .append _ _ _ outcome => outcome
  | .flush _ outcome => outcome

/-- The call comes to a flush of lines. -/
def flushes (run : BufferedRun) : BufferedCall → Prop
  | .append event syncMode now _ => syncMode = true ∨
      run.log.flushThreshold ≤ (run.log.buffer ++ [event]).length ∨ run.log.flushInterval ≤ now - run.log.lastFlush
  | .flush _ _ => run.log.buffer ≠ []

/-- An appended event is new to the file and to the buffer, and a flush that raises does so before
its first line. -/
def settles (run : BufferedRun) (call : BufferedCall) : Prop :=
  (∀ event ∈ appended call, event ∉ run.log.stored ++ run.log.buffer) ∧
  (run.flushes call → (outcome call).lines = 0)

instance (run : BufferedRun) (call : BufferedCall) : Decidable (run.flushes call) := by
  cases call <;> (unfold flushes; infer_instance)

instance (run : BufferedRun) (call : BufferedCall) : Decidable (run.settles call) :=
  inferInstanceAs (Decidable (_ ∧ _))

/-- The lines of the file and the buffer after a flush: those written before it raised come twice. -/
theorem flushLocked_lines (log : BufferedEventLog) (now : ℚ) (outcome : FlushOutcome) :
    (log.flushLocked now outcome).stored ++ (log.flushLocked now outcome).buffer =
      log.stored ++ (log.buffer.take outcome.lines ++ log.buffer) := by
  unfold BufferedEventLog.flushLocked
  split
  · next empty => rw [empty, List.take_nil, List.nil_append]
  · cases outcome with
    | written => simp [FlushOutcome.lines]
    | raisesAfter lines => simp [FlushOutcome.lines]

theorem flushed_stored (run : BufferedRun) : run.flushed.stored = run.log.stored ++ run.log.buffer := by
  unfold flushed BufferedEventLog.flushLocked
  split
  · next empty => rw [empty, List.append_nil]
  · rfl

/-- The lines of the file and the buffer after a call: those that a flush wrote before it raised come
twice. -/
theorem step_lines {before after : BufferedRun} {call : BufferedCall} (taken : before.step call = some after) :
    ∃ again, after.flushed.stored = before.log.stored ++ (again ++ (before.log.buffer ++ appended call)) ∧
      (before.flushes call → again = (before.log.buffer ++ appended call).take (outcome call).lines) ∧
      (¬before.flushes call → again = []) ∧ after.accepted = before.accepted ++ appended call := by
  rw [flushed_stored]
  cases call with
  | append event syncMode now outcome =>
    obtain rfl := Option.some.inj taken
    unfold BufferedEventLog.append
    dsimp only [flushes, appended, BufferedRun.outcome]
    split
    · next due => exact ⟨_, flushLocked_lines _ now outcome, fun _ => rfl, fun waits => absurd due waits, rfl⟩
    · next waits => exact ⟨[], rfl, fun due => absurd due waits, fun _ => rfl, rfl⟩
  | flush now outcome =>
    obtain rfl := Option.some.inj taken
    dsimp only [flushes, appended, BufferedRun.outcome]
    rw [flushLocked_lines, List.append_nil, List.append_nil]
    exact ⟨_, rfl, fun _ => rfl, fun empty => by rw [not_not.mp empty, List.take_nil], rfl⟩

/-- A call keeps the log exact where it settles, and only there. -/
theorem exact_step {before after : BufferedRun} {call : BufferedCall} (held : before.Exact)
    (taken : before.step call = some after) : before.settles call ↔ after.Exact := by
  obtain ⟨again, lines, flushing, waiting, accepted⟩ := step_lines taken
  have once := held.once
  have stored := held.stored
  rw [flushed_stored] at once stored
  constructor
  · rintro ⟨fresh, early⟩
    have none_ : again = [] := by
      by_cases due : before.flushes call
      · rw [flushing due, early due, List.take_zero]
      · exact waiting due
    rw [none_, List.nil_append, ← List.append_assoc] at lines
    refine ⟨?_, ?_⟩
    · rw [lines]
      refine List.nodup_append.mpr ⟨once, by cases call <;> simp [appended], ?_⟩
      rintro event member other new rfl
      exact fresh event new member
    · rw [lines, accepted]
      intro event member
      obtain earlier | new := List.mem_append.mp member
      · exact List.mem_append_left _ (stored event earlier)
      · exact List.mem_append_right _ new
  · intro exact_
    have after_ := exact_.once
    rw [lines] at after_
    obtain ⟨-, written, apart⟩ := List.nodup_append.mp after_
    obtain ⟨-, buffered, twice⟩ := List.nodup_append.mp written
    refine ⟨?_, ?_⟩
    · intro event new member
      have last : event ∈ before.log.buffer ++ appended call := List.mem_append_right _ new
      obtain stored | held := List.mem_append.mp member
      · exact apart event stored event (List.mem_append_right _ last) rfl
      · exact (List.nodup_append.mp buffered).2.2 event held event new rfl
    · intro due
      by_contra some_
      have nonempty : before.log.buffer ++ appended call ≠ [] := by
        cases call with
        | append event syncMode now outcome => simp [appended]
        | flush now outcome => simpa [appended, flushes] using due
      obtain ⟨first, rest, isList⟩ := List.exists_cons_of_ne_nil nonempty
      obtain ⟨n, more⟩ := Nat.exists_eq_succ_of_ne_zero some_
      rw [flushing due, isList, more, List.take_succ_cons] at twice
      exact twice first List.mem_cons_self first List.mem_cons_self rfl

end BufferedRun

/-- The calls of a run settle just where each keeps the log exact. -/
theorem meets_exact_iff {σ ε : Type} {step : σ → ε → Option σ} {settles : σ → ε → Prop} {Exact : σ → Prop}
    (total : ∀ state call, ∃ next, step state call = some next)
    (exact_step : ∀ before call after, Exact before → step before call = some after → (settles before call ↔ Exact after))
    {start : σ} (initial : Exact start) (calls : List ε) :
    Meets step (fun state call => ∀ next, step state call = some next → Exact next) start calls ↔
      Meets step settles start calls := by
  have agree : ∀ state call, Exact state →
      ((∀ next, step state call = some next → Exact next) ↔ settles state call) := by
    intro state call held
    obtain ⟨next, taken⟩ := total state call
    rw [exact_step state call next held taken]
    constructor
    · exact fun all => all next taken
    · rintro kept other same
      obtain rfl := Option.some.inj (taken.symm.trans same)
      exact kept
  exact meets_iff agree (fun _ _ next _ all taken => all next taken) initial

/-- In the runs of either log, every state has every event stored exactly once just where the calls
settle. -/
theorem stored_exactly_once_iff (calls : List AppendCall) (buffered : List BufferedCall) :
    (Meets EventLogRun.step (fun run call => ∀ next, run.step call = some next → next.Exact) {} calls ↔
      Meets EventLogRun.step EventLogRun.settles {} calls) ∧
    (Meets BufferedRun.step (fun run call => ∀ next, run.step call = some next → next.Exact) {} buffered ↔
      Meets BufferedRun.step BufferedRun.settles {} buffered) := by
  constructor
  · refine meets_exact_iff (fun _ _ => ⟨_, rfl⟩) (fun _ _ _ => EventLogRun.exact_step) ?_ calls
    exact ⟨List.nodup_nil, List.forall_mem_nil _⟩
  · refine meets_exact_iff (fun _ call => ?_) (fun _ _ _ => BufferedRun.exact_step) ?_ buffered
    · cases call <;> exact ⟨_, rfl⟩
    · exact ⟨List.nodup_nil, List.forall_mem_nil _⟩

def tradeRecord : EventRecord := ⟨"9f2c4e1a7b3d5c60", "TRADE"⟩

def orderRecord : EventRecord := ⟨"41d0a7c2e95b8f36", "ORDER_UPDATED"⟩

/-- The append of a trade raises, and its retry returns without writing it. A flush of two lines raises
behind the first, and the next one writes both. -/
theorem retried_writes_wrong :
    (∃ run, exec EventLogRun.step {} [⟨tradeRecord, .openRaises⟩, ⟨tradeRecord, .written⟩] = some run ∧
      run.accepted = [tradeRecord] ∧ run.log.stored = [] ∧ ¬run.Exact) ∧
    (∃ run, exec BufferedRun.step {} [.append tradeRecord false 0 .written, .append orderRecord false 0 .written,
        .flush 0 (.raisesAfter 1), .flush 0 .written] = some run ∧
      run.log.stored = [tradeRecord, tradeRecord, orderRecord] ∧ run.log.buffer = [] ∧ ¬run.Exact) := by
  constructor
  · refine ⟨_, rfl, by decide +kernel, by decide +kernel, ?_⟩
    intro exact_
    exact absurd (exact_.stored tradeRecord (by decide +kernel)) (by decide +kernel)
  · refine ⟨_, rfl, by decide +kernel, by decide +kernel, ?_⟩
    intro exact_
    exact absurd exact_.once (by decide +kernel)

end TradeX.V1
