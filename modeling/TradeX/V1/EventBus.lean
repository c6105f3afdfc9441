import TradeX.Lib.Interleaving

/-! The event bus of v1: its guard against a second processing of an event id, and `publish` step by
step for any number of concurrent calls. A call that a handler makes from inside a dispatch is one of them.
The bus keeps its ids itself; no idempotency service is attached. -/

namespace TradeX.V1

open Lib

/-- An event as the bus tells it from another. An empty id is none. -/
structure PublishedEvent where
  eventId : String
  eventType : String
  deriving DecidableEq, Repr

structure EventIdempotencyGuard where
  maxProcessedEvents : Nat
  /-- `deque(maxlen=max_processed_events)`, the oldest id first. -/
  processedEvents : List String := []
  processedEventIds : Finset String := ∅
  inFlightEventIds : Finset String := ∅

namespace EventIdempotencyGuard

variable (guard : EventIdempotencyGuard) (eventId : String)

def isDuplicate : Bool := decide (eventId ≠ "" ∧ eventId ∈ guard.processedEventIds)

def tryClaim : EventIdempotencyGuard × Bool :=
  if eventId = "" then (guard, true)
  else if eventId ∈ guard.processedEventIds ∨ eventId ∈ guard.inFlightEventIds then (guard, false)
  else ({ guard with inFlightEventIds := insert eventId guard.inFlightEventIds }, true)

def release : EventIdempotencyGuard :=
  if eventId = "" then guard else { guard with inFlightEventIds := guard.inFlightEventIds.erase eventId }

/-- `deque.append`: a full queue loses its oldest item. -/
def appended : List String :=
  (guard.processedEvents ++ [eventId]).drop (guard.processedEvents.length + 1 - guard.maxProcessedEvents)

/-- `commit`. A queue that the append leaves full gives up its oldest id; a queue of no items raises
`IndexError` there, and the set keeps what it was given. -/
def commit : EventIdempotencyGuard :=
  if eventId = "" then guard
  else
    let freed := { guard with inFlightEventIds := guard.inFlightEventIds.erase eventId }
    if eventId ∈ guard.processedEventIds then freed
    else
      let queue := guard.appended eventId
      let marked := insert eventId guard.processedEventIds
      if queue.length = guard.maxProcessedEvents then
        match queue with
        | [] => { freed with processedEvents := [], processedEventIds := marked }
        | oldest :: rest => { freed with processedEvents := rest, processedEventIds := marked.erase oldest }
      else { freed with processedEvents := queue, processedEventIds := marked }

/-- The commit leaves the id unremembered, though it was remembered or has just been processed. -/
def Forgets (id : String) : Prop :=
  (id = eventId ∨ id ∈ guard.processedEventIds) ∧ id ∉ (guard.commit eventId).processedEventIds

instance (id : String) : Decidable (guard.Forgets eventId id) := inferInstanceAs (Decidable (_ ∧ _))

/-- The set and the queue hold the same ids, and none of them is in flight. -/
structure Consistent : Prop where
  same : ∀ id, id ∈ guard.processedEvents ↔ id ∈ guard.processedEventIds
  nodup : guard.processedEvents.Nodup
  room : guard.processedEvents.length < guard.maxProcessedEvents
  apart : ∀ id ∈ guard.inFlightEventIds, id ∉ guard.processedEventIds

variable {guard eventId} {id : String}

theorem consistent_new {maxProcessedEvents : Nat} (room : maxProcessedEvents ≠ 0) :
    Consistent { maxProcessedEvents } where
  same id := by simp
  nodup := List.nodup_nil
  room := Nat.pos_of_ne_zero room
  apart id member := by simp at member

theorem tryClaim_granted (granted : (guard.tryClaim eventId).2 = true) (named : eventId ≠ "") :
    (eventId ∉ guard.processedEventIds ∧ eventId ∉ guard.inFlightEventIds) ∧
      (guard.tryClaim eventId).1 = { guard with inFlightEventIds := insert eventId guard.inFlightEventIds } := by
  unfold tryClaim at granted ⊢
  rw [if_neg named] at granted ⊢
  by_cases known : eventId ∈ guard.processedEventIds ∨ eventId ∈ guard.inFlightEventIds
  · rw [if_pos known] at granted
    cases granted
  · rw [if_neg known]
    exact ⟨not_or.mp known, rfl⟩

theorem tryClaim_refused (refused : (guard.tryClaim eventId).2 = false) : (guard.tryClaim eventId).1 = guard := by
  unfold tryClaim at refused ⊢
  split
  · rfl
  · next named =>
    rw [if_neg named] at refused
    split
    · rfl
    · next fresh =>
      rw [if_neg fresh] at refused
      cases refused

theorem Consistent.claim (consistent : guard.Consistent) : (guard.tryClaim eventId).1.Consistent := by
  cases answered : (guard.tryClaim eventId).2 with
  | false =>
    rw [tryClaim_refused answered]
    exact consistent
  | true =>
    by_cases unnamed : eventId = ""
    · subst unnamed
      exact consistent
    · obtain ⟨fresh, claimed⟩ := tryClaim_granted answered unnamed
      rw [claimed]
      refine ⟨consistent.same, consistent.nodup, consistent.room, fun id member => ?_⟩
      rcases Finset.mem_insert.mp member with rfl | other
      · exact fresh.1
      · exact consistent.apart id other

theorem Consistent.release (consistent : guard.Consistent) : (guard.release eventId).Consistent := by
  unfold EventIdempotencyGuard.release
  split
  · exact consistent
  · refine ⟨consistent.same, consistent.nodup, consistent.room, fun id member => ?_⟩
    exact consistent.apart id (Finset.mem_of_mem_erase member)

/-- A commit drops the oldest id where it fills the queue. -/
theorem Consistent.commit_cases (consistent : guard.Consistent) (named : eventId ≠ "")
    (fresh : eventId ∉ guard.processedEventIds) : ∃ oldest rest,
      (guard.processedEvents ++ [eventId] = oldest :: rest ∧
          guard.processedEvents.length + 1 = guard.maxProcessedEvents ∧
          guard.commit eventId = { guard with
            inFlightEventIds := guard.inFlightEventIds.erase eventId
            processedEvents := rest
            processedEventIds := (insert eventId guard.processedEventIds).erase oldest }) ∨
        (guard.processedEvents.length + 1 < guard.maxProcessedEvents ∧
          guard.commit eventId = { guard with
            inFlightEventIds := guard.inFlightEventIds.erase eventId
            processedEvents := guard.processedEvents ++ [eventId]
            processedEventIds := insert eventId guard.processedEventIds }) := by
  have room := consistent.room
  have queue : guard.appended eventId = guard.processedEvents ++ [eventId] := by
    unfold appended
    rw [Nat.sub_eq_zero_of_le room, List.drop_zero]
  have length : (guard.processedEvents ++ [eventId]).length = guard.processedEvents.length + 1 := by
    rw [List.length_append, List.length_singleton]
  obtain ⟨oldest, rest, split⟩ : ∃ oldest rest, guard.processedEvents ++ [eventId] = oldest :: rest :=
    List.exists_cons_of_ne_nil (List.append_ne_nil_of_right_ne_nil _ (List.cons_ne_nil _ _))
  refine ⟨oldest, rest, ?_⟩
  unfold EventIdempotencyGuard.commit
  simp only [if_neg named, if_neg fresh, queue]
  by_cases full : guard.processedEvents.length + 1 = guard.maxProcessedEvents
  · refine Or.inl ⟨split, full, ?_⟩
    rw [if_pos (length.trans full), split]
  · refine Or.inr ⟨by omega, ?_⟩
    rw [if_neg (length.symm ▸ full)]

theorem Consistent.commit (consistent : guard.Consistent) (flying : eventId ≠ "" → eventId ∈ guard.inFlightEventIds) :
    (guard.commit eventId).Consistent := by
  by_cases unnamed : eventId = ""
  · rw [EventIdempotencyGuard.commit, if_pos unnamed]
    exact consistent
  · have fresh := consistent.apart eventId (flying unnamed)
    have absent : eventId ∉ guard.processedEvents := fun member => fresh ((consistent.same eventId).mp member)
    have nodup : (guard.processedEvents ++ [eventId]).Nodup := by
      rw [List.nodup_append]
      refine ⟨consistent.nodup, List.nodup_singleton _, ?_⟩
      rintro id earlier other last rfl
      obtain rfl := List.mem_singleton.mp last
      exact absent earlier
    have marked : ∀ id, id ∈ guard.processedEvents ++ [eventId] ↔ id ∈ insert eventId guard.processedEventIds := by
      intro id
      rw [List.mem_append, List.mem_singleton, Finset.mem_insert, consistent.same, or_comm]
    have apart : ∀ id ∈ guard.inFlightEventIds.erase eventId, id ∉ insert eventId guard.processedEventIds := by
      intro id member processed
      obtain ⟨other, flies⟩ := Finset.mem_erase.mp member
      exact consistent.apart id flies ((Finset.mem_insert.mp processed).resolve_left other)
    obtain ⟨oldest, rest, ⟨split, full, committed⟩ | ⟨room, committed⟩⟩ := consistent.commit_cases unnamed fresh
    · rw [committed]
      rw [split, List.nodup_cons] at nodup
      refine ⟨fun id => ?_, nodup.2, ?_, fun id member processed => ?_⟩
      · have held := marked id
        rw [split, List.mem_cons] at held
        rw [Finset.mem_erase, ← held]
        constructor
        · intro later
          refine ⟨?_, Or.inr later⟩
          rintro rfl
          exact nodup.1 later
        · rintro ⟨other, first | later⟩
          · exact absurd first other
          · exact later
      · have length := congrArg List.length split
        simp only [List.length_append, List.length_cons, List.length_nil] at length ⊢
        omega
      · exact apart id member (Finset.mem_of_mem_erase processed)
    · rw [committed]
      refine ⟨marked, nodup, ?_, apart⟩
      rw [List.length_append, List.length_singleton]
      exact room

/-- Only the committed id leaves the ids in flight, and only it can become one that is remembered. -/
theorem commit_frame (guard : EventIdempotencyGuard) (eventId : String) :
    (∀ id, id ≠ eventId → (id ∈ (guard.commit eventId).inFlightEventIds ↔ id ∈ guard.inFlightEventIds)) ∧
      ∀ id ∈ (guard.commit eventId).processedEventIds, id = eventId ∧ eventId ≠ "" ∨ id ∈ guard.processedEventIds := by
  have erased : ∀ id, id ≠ eventId →
      (id ∈ guard.inFlightEventIds.erase eventId ↔ id ∈ guard.inFlightEventIds) := by
    intro id other
    rw [Finset.mem_erase, and_iff_right other]
  unfold EventIdempotencyGuard.commit
  split
  · exact ⟨fun _ _ => Iff.rfl, fun _ => Or.inr⟩
  · next named =>
    have inserted : ∀ id ∈ insert eventId guard.processedEventIds,
        id = eventId ∧ eventId ≠ "" ∨ id ∈ guard.processedEventIds := by
      intro id member
      exact (Finset.mem_insert.mp member).imp_left fun same => ⟨same, named⟩
    dsimp only
    split
    · exact ⟨erased, fun _ => Or.inr⟩
    · split
      · split
        · exact ⟨erased, inserted⟩
        · exact ⟨erased, fun id member => inserted id (Finset.mem_of_mem_erase member)⟩
      · exact ⟨erased, inserted⟩

end EventIdempotencyGuard

structure EventBusConfig where
  /-- The handlers of an event type, by their subscription tokens, in the order of subscription. -/
  subscribers : String → List String
  nodup : ∀ eventType, (subscribers eventType).Nodup
  failFast : Bool := false
  replayMode : Bool := false
  /-- An event log is attached, and logging is enabled. -/
  persists : Bool := false

/-- Where a call of `publish` stands. -/
inductive PublishStage where
  | idle
  | checking (event : PublishedEvent)
  | claiming (event : PublishedEvent)
  | persisting (event : PublishedEvent)
  | listing (event : PublishedEvent)
  /-- The handlers that have been called, those that wait for their call, and how many have failed. -/
  | dispatching (event : PublishedEvent) (called waiting : List String) (failures : Nat)
  /-- An exception is on its way out of the dispatch. -/
  | raising (event : PublishedEvent)
  deriving DecidableEq, Repr

inductive PublishStep where
  | publish (event : PublishedEvent)
  | check
  | claim
  | persist (fails : Bool)
  | list
  | handle (completes : Bool)
  | settle
  deriving DecidableEq, Repr

/-- The guard, and beside it for every event id the handlers that have completed since the guard last
forgot the id, and the handlers whose last call has failed. -/
structure BusState where
  guard : EventIdempotencyGuard
  completed : List (String × String) := []
  failed : Finset (String × String) := ∅

namespace BusState

/-- A handler returns. -/
def complete (state : BusState) (handler eventId : String) : BusState :=
  if eventId = "" then state
  else { state with
    completed := state.completed ++ [(handler, eventId)]
    failed := state.failed.erase (handler, eventId) }

/-- A handler raises. -/
def fail (state : BusState) (handler eventId : String) : BusState :=
  if eventId = "" then state else { state with failed := insert (handler, eventId) state.failed }

/-- The guard commits the id, and what it forgets is forgotten. -/
def commit (state : BusState) (eventId : String) : BusState :=
  { state with
    guard := state.guard.commit eventId
    completed := state.completed.filter fun call => ¬ state.guard.Forgets eventId call.2 }

def release (state : BusState) (eventId : String) : BusState := { state with guard := state.guard.release eventId }

end BusState

namespace EventBusConfig

/-- The handlers that a publication dispatches to. -/
def handlers (config : EventBusConfig) (eventType : String) : List String :=
  if config.replayMode then [] else config.subscribers eventType

def act (config : EventBusConfig) (state : BusState) (stage : PublishStage) :
    PublishStep → Option (BusState × PublishStage)
  | .publish event =>
    match stage with
    | .idle => some (state, .checking event)
    | _ => none
  | .check =>
    match stage with
    | .checking event => some (state, if state.guard.isDuplicate event.eventId then .idle else .claiming event)
    | _ => none
  | .claim =>
    match stage with
    | .claiming event =>
      let claimed := state.guard.tryClaim event.eventId
      some ({ state with guard := claimed.1 }, if claimed.2 then .persisting event else .idle)
    | _ => none
  | .persist fails =>
    match stage with
    | .persisting event =>
      let raises := config.persists && !config.replayMode && fails && config.failFast
      some (state, if raises then .raising event else .listing event)
    | _ => none
  | .list =>
    match stage with
    | .listing event => some (state, .dispatching event [] (config.handlers event.eventType) 0)
    | _ => none
  | .handle completes =>
    match stage with
    | .dispatching event called (handler :: waiting) failures =>
      if completes then
        some (state.complete handler event.eventId, .dispatching event (called ++ [handler]) waiting failures)
      else
        some (state.fail handler event.eventId,
          if config.failFast then .raising event else .dispatching event (called ++ [handler]) waiting (failures + 1))
    | _ => none
  | .settle =>
    match stage with
    | .dispatching event _ [] failures =>
      some (if failures = 0 then state.commit event.eventId else state.release event.eventId, .idle)
    | .raising event => some (state.release event.eventId, .idle)
    | _ => none

end EventBusConfig

/-- The event of a call in progress. -/
def PublishStage.event : PublishStage → Option PublishedEvent
  | .idle => none
  | .checking event | .claiming event | .persisting event | .listing event | .dispatching event _ _ _
  | .raising event => some event

/-- The stages after the claim. -/
def PublishStage.claimed : PublishStage → Bool
  | .persisting _ | .listing _ | .dispatching _ _ _ _ | .raising _ => true
  | _ => false

namespace EventBusConfig

variable (config : EventBusConfig) (eventTypes : String → String)

/-- An event that comes again comes with its type. -/
def SameEvent (_ : BusState) (_ : PublishStage) : PublishStep → Prop
  | .publish event => event.eventId ≠ "" → event.eventType = eventTypes event.eventId
  | _ => True

/-- No publication claims an id again that was released with handlers that had completed. -/
def Untouched (state : BusState) : PublishStage → PublishStep → Prop
  | .claiming event, .claim =>
    (state.guard.tryClaim event.eventId).2 = true → ∀ call ∈ state.completed, call.2 ≠ event.eventId
  | _, _ => True

/-- The guard is consistent, and it remembers no id on which the last call of a handler failed. -/
structure Retries (state : BusState) : Prop where
  guard : state.guard.Consistent
  failed : ∀ handler id, (handler, id) ∈ state.failed →
    id ≠ "" ∧ id ∉ state.guard.processedEventIds ∧ handler ∈ config.handlers (eventTypes id)

/-- A call that has claimed its id holds it, and its dispatch has called the handlers in their order. -/
structure Dispatches (state : BusState) (stage : PublishStage) : Prop where
  typed : ∀ event ∈ stage.event, event.eventId ≠ "" → event.eventType = eventTypes event.eventId
  holds : stage.claimed = true → ∀ event ∈ stage.event, event.eventId ≠ "" →
    event.eventId ∈ state.guard.inFlightEventIds
  order : ∀ event called waiting failures, stage = .dispatching event called waiting failures →
    called ++ waiting = config.handlers event.eventType ∧
      (failures = 0 → ∀ handler ∈ called, (handler, event.eventId) ∉ state.failed)
  raised : ∀ event, stage = .raising event → config.failFast = true

/-- Two calls never hold the same id. -/
def Exclude (first second : PublishStage) : Prop :=
  first.claimed = true → second.claimed = true → ∀ one ∈ first.event, ∀ other ∈ second.event,
    one.eventId ≠ "" → one.eventId ≠ other.eventId

/-- Nothing of what a call under the other id relies on is lost. -/
structure Frame (eventId : String) (state state' : BusState) : Prop where
  flying : ∀ id, (id = eventId → id = "") → id ∈ state.guard.inFlightEventIds → id ∈ state'.guard.inFlightEventIds
  failed : ∀ handler id, (id = eventId → id = "") → (handler, id) ∈ state'.failed → (handler, id) ∈ state.failed
  completed : ∀ handler id, (id = eventId → id = "") → (handler, id) ∈ state'.completed → (handler, id) ∈ state.completed

variable {config eventTypes} {state state' : BusState} {stage stage' other : PublishStage} {taken : PublishStep}
  {event : PublishedEvent} {handler eventId : String}

theorem frame_complete : Frame eventId state (state.complete handler eventId) := by
  unfold BusState.complete
  split
  · exact ⟨fun _ _ => id, fun _ _ _ => id, fun _ _ _ => id⟩
  · next named =>
    refine ⟨fun _ _ => id, fun _ _ _ member => Finset.mem_of_mem_erase member, fun caller id apart member => ?_⟩
    rcases List.mem_append.mp member with earlier | last
    · exact earlier
    · cases List.mem_singleton.mp last
      exact absurd (apart rfl) named

theorem frame_fail : Frame eventId state (state.fail handler eventId) := by
  unfold BusState.fail
  split
  · exact ⟨fun _ _ => id, fun _ _ _ => id, fun _ _ _ => id⟩
  · next named =>
    refine ⟨fun _ _ => id, fun caller id apart member => ?_, fun _ _ _ => id⟩
    rcases Finset.mem_insert.mp member with same | earlier
    · cases same
      exact absurd (apart rfl) named
    · exact earlier

theorem frame_commit : Frame eventId state (state.commit eventId) := by
  refine ⟨fun id apart member => ?_, fun _ _ _ => id, fun _ _ _ member => List.mem_of_mem_filter member⟩
  by_cases same : id = eventId
  · have unnamed : eventId = "" := same ▸ apart same
    change id ∈ (state.guard.commit eventId).inFlightEventIds
    rw [EventIdempotencyGuard.commit, if_pos unnamed]
    exact member
  · exact ((state.guard.commit_frame eventId).1 id same).mpr member

theorem frame_release : Frame eventId state (state.release eventId) := by
  refine ⟨fun id apart member => ?_, fun _ _ _ => id, fun _ _ _ => id⟩
  change id ∈ (state.guard.release eventId).inFlightEventIds
  unfold EventIdempotencyGuard.release
  split
  · exact member
  · next named =>
    refine Finset.mem_erase.mpr ⟨?_, member⟩
    rintro rfl
    exact named (apart rfl)

theorem frame_claim : Frame eventId state { state with guard := (state.guard.tryClaim eventId).1 } := by
  refine ⟨fun id _ member => ?_, fun _ _ _ => id, fun _ _ _ => id⟩
  change id ∈ (state.guard.tryClaim eventId).1.inFlightEventIds
  unfold EventIdempotencyGuard.tryClaim
  split
  · exact member
  · split
    · exact member
    · exact Finset.mem_insert_of_mem member

/-- The call holds its id, or nobody does. -/
def Takes (state : BusState) (stage : PublishStage) : Prop :=
  stage.claimed = true ∨ ∀ event ∈ stage.event, event.eventId ≠ "" → event.eventId ∉ state.guard.inFlightEventIds

theorem takes_granted (granted : (state.guard.tryClaim event.eventId).2 = true) : Takes state (.claiming event) := by
  refine Or.inr ?_
  rintro other ⟨⟩ named
  exact (EventIdempotencyGuard.tryClaim_granted granted named).1.2

variable (config) in
/-- What a step of a call of `publish` does. -/
inductive Acted (state : BusState) : PublishStage → PublishStep → BusState → PublishStage → Prop where
  | published {event : PublishedEvent} : Acted state .idle (.publish event) state (.checking event)
  | duplicate {event : PublishedEvent} (known : state.guard.isDuplicate event.eventId = true) :
    Acted state (.checking event) .check state .idle
  | unseen {event : PublishedEvent} (unknown : state.guard.isDuplicate event.eventId = false) :
    Acted state (.checking event) .check state (.claiming event)
  | granted {event : PublishedEvent} (granted : (state.guard.tryClaim event.eventId).2 = true) :
    Acted state (.claiming event) .claim { state with guard := (state.guard.tryClaim event.eventId).1 }
      (.persisting event)
  | refused {event : PublishedEvent} (refused : (state.guard.tryClaim event.eventId).2 = false) :
    Acted state (.claiming event) .claim state .idle
  | unlogged {event : PublishedEvent} {fails : Bool}
    (raises : (config.persists && !config.replayMode && fails && config.failFast) = true) :
    Acted state (.persisting event) (.persist fails) state (.raising event)
  | persisted {event : PublishedEvent} {fails : Bool}
    (goesOn : (config.persists && !config.replayMode && fails && config.failFast) = false) :
    Acted state (.persisting event) (.persist fails) state (.listing event)
  | listed {event : PublishedEvent} :
    Acted state (.listing event) .list state (.dispatching event [] (config.handlers event.eventType) 0)
  | completed {event : PublishedEvent} {handler : String} {called waiting : List String} {failures : Nat} :
    Acted state (.dispatching event called (handler :: waiting) failures) (.handle true)
      (state.complete handler event.eventId) (.dispatching event (called ++ [handler]) waiting failures)
  | aborted {event : PublishedEvent} {handler : String} {called waiting : List String} {failures : Nat}
    (fast : config.failFast = true) :
    Acted state (.dispatching event called (handler :: waiting) failures) (.handle false)
      (state.fail handler event.eventId) (.raising event)
  | failed {event : PublishedEvent} {handler : String} {called waiting : List String} {failures : Nat}
    (slow : config.failFast = false) :
    Acted state (.dispatching event called (handler :: waiting) failures) (.handle false)
      (state.fail handler event.eventId) (.dispatching event (called ++ [handler]) waiting (failures + 1))
  | committed {event : PublishedEvent} {called : List String} :
    Acted state (.dispatching event called [] 0) .settle (state.commit event.eventId) .idle
  | released {event : PublishedEvent} {called : List String} {failures : Nat} (failing : failures ≠ 0) :
    Acted state (.dispatching event called [] failures) .settle (state.release event.eventId) .idle
  | raised {event : PublishedEvent} : Acted state (.raising event) .settle (state.release event.eventId) .idle

theorem act_inv (acted : config.act state stage taken = some (state', stage')) :
    Acted config state stage taken state' stage' := by
  cases taken with
  | publish event =>
    simp only [act] at acted
    split at acted
    · cases acted
      exact .published
    · cases acted
  | check =>
    simp only [act] at acted
    split at acted
    · next event =>
      cases acted
      cases known : state.guard.isDuplicate event.eventId with
      | true => exact .duplicate known
      | false => exact .unseen known
    · cases acted
  | claim =>
    simp only [act] at acted
    split at acted
    · next event =>
      cases acted
      cases granted : (state.guard.tryClaim event.eventId).2 with
      | true => exact .granted granted
      | false =>
        rw [EventIdempotencyGuard.tryClaim_refused granted]
        exact .refused granted
    · cases acted
  | persist fails =>
    simp only [act] at acted
    split at acted
    · cases acted
      cases raises : config.persists && !config.replayMode && fails && config.failFast with
      | true => exact .unlogged raises
      | false => exact .persisted raises
    · cases acted
  | list =>
    simp only [act] at acted
    split at acted
    · cases acted
      exact .listed
    · cases acted
  | handle completes =>
    simp only [act] at acted
    split at acted
    · cases completes with
      | true =>
        cases acted
        exact .completed
      | false =>
        cases acted
        cases fast : config.failFast with
        | true => exact .aborted fast
        | false => exact .failed fast
    · cases acted
  | settle =>
    simp only [act] at acted
    split at acted
    · next event called failures =>
      cases acted
      cases failures with
      | zero => exact .committed
      | succ more => exact .released (Nat.succ_ne_zero more)
    · cases acted
      exact .raised
    · cases acted

/-- A step changes the state only for an id that its call holds, or that nobody holds. -/
theorem act_frame (acted : config.act state stage taken = some (state', stage')) :
    state' = state ∨ Takes state stage ∧ ∃ event ∈ stage.event, Frame event.eventId state state' := by
  cases act_inv acted with
  | @granted event granted => exact Or.inr ⟨takes_granted granted, event, rfl, frame_claim⟩
  | @completed event => exact Or.inr ⟨Or.inl rfl, event, rfl, frame_complete⟩
  | @aborted event => exact Or.inr ⟨Or.inl rfl, event, rfl, frame_fail⟩
  | @failed event => exact Or.inr ⟨Or.inl rfl, event, rfl, frame_fail⟩
  | @committed event => exact Or.inr ⟨Or.inl rfl, event, rfl, frame_commit⟩
  | @released event => exact Or.inr ⟨Or.inl rfl, event, rfl, frame_release⟩
  | @raised event => exact Or.inr ⟨Or.inl rfl, event, rfl, frame_release⟩
  | published | duplicate | unseen | refused | unlogged | persisted | listed => exact Or.inl rfl

/-- A call goes on with the event it began with, and comes to hold the id only where nobody does. -/
theorem act_claimed (acted : config.act state stage taken = some (state', stage')) (claimed : stage'.claimed = true) :
    stage'.event = stage.event ∧ Takes state stage := by
  cases act_inv acted with
  | granted granted => exact ⟨rfl, takes_granted granted⟩
  | unlogged | persisted | listed | completed | aborted | failed => exact ⟨rfl, Or.inl rfl⟩
  | published | duplicate | unseen | refused | committed | released | raised => cases claimed

/-- The id of a call that another one may not touch. -/
theorem Takes.apart (takes : Takes state stage) (excluded : Exclude stage other)
    (held : Dispatches config eventTypes state other) (claimed : other.claimed = true) {mine theirs : PublishedEvent}
    (mineHere : mine ∈ stage.event) (theirsThere : theirs ∈ other.event) :
    theirs.eventId = mine.eventId → theirs.eventId = "" := by
  intro same
  by_contra named
  have mineNamed : mine.eventId ≠ "" := same ▸ named
  rcases takes with mineClaimed | free
  · exact excluded mineClaimed claimed mine mineHere theirs theirsThere mineNamed same.symm
  · exact free mine mineHere mineNamed (same ▸ held.holds claimed theirs theirsThere named)

/-- A step of one call leaves what another call relies on. -/
theorem act_other (acted : config.act state stage taken = some (state', stage'))
    (held : Dispatches config eventTypes state other) (excluded : Exclude stage other) (mirrored : Exclude other stage) :
    Dispatches config eventTypes state' other ∧ Exclude stage' other ∧ Exclude other stage' := by
  refine ⟨?_, fun claimed otherClaimed mine mineHere theirs theirsThere named same => ?_,
    fun otherClaimed claimed theirs theirsThere mine mineHere named same => ?_⟩
  · rcases act_frame acted with rfl | ⟨takes, mine, mineHere, frame⟩
    · exact held
    · refine ⟨held.typed, fun claimed theirs theirsThere named => ?_,
        fun event called waiting failures at_ => ?_, held.raised⟩
      · exact frame.flying _ (takes.apart excluded held claimed mineHere theirsThere)
          (held.holds claimed theirs theirsThere named)
      · obtain ⟨order, kept⟩ := held.order event called waiting failures at_
        refine ⟨order, fun none handler member failed => kept none handler member ?_⟩
        subst at_
        exact frame.failed _ _ (takes.apart excluded held rfl mineHere rfl) failed
  · obtain ⟨sameEvent, takes⟩ := act_claimed acted claimed
    rw [sameEvent] at mineHere
    exact named (same.trans (takes.apart excluded held otherClaimed mineHere theirsThere same.symm))
  · obtain ⟨sameEvent, takes⟩ := act_claimed acted claimed
    rw [sameEvent] at mineHere
    exact named (takes.apart excluded held otherClaimed mineHere theirsThere same)

theorem dispatches_idle : Dispatches config eventTypes state .idle where
  typed := by
    rintro event ⟨⟩
  holds := by
    rintro ⟨⟩
  order := by
    rintro event called waiting failures ⟨⟩
  raised := by
    rintro event ⟨⟩

theorem Retries.complete (retries : Retries config eventTypes state) :
    Retries config eventTypes (state.complete handler eventId) := by
  unfold BusState.complete
  split
  · exact retries
  · exact ⟨retries.guard, fun caller id member => retries.failed caller id (Finset.mem_of_mem_erase member)⟩

theorem Retries.fail (retries : Retries config eventTypes state)
    (flying : eventId ≠ "" → eventId ∈ state.guard.inFlightEventIds)
    (called : eventId ≠ "" → handler ∈ config.handlers (eventTypes eventId)) :
    Retries config eventTypes (state.fail handler eventId) := by
  unfold BusState.fail
  split
  · exact retries
  · next named =>
    refine ⟨retries.guard, fun caller id member => ?_⟩
    rcases Finset.mem_insert.mp member with same | earlier
    · cases same
      exact ⟨named, retries.guard.apart _ (flying named), called named⟩
    · exact retries.failed caller id earlier

theorem Retries.commit (retries : Retries config eventTypes state)
    (flying : eventId ≠ "" → eventId ∈ state.guard.inFlightEventIds)
    (succeeded : eventId ≠ "" → ∀ handler ∈ config.handlers (eventTypes eventId), (handler, eventId) ∉ state.failed) :
    Retries config eventTypes (state.commit eventId) := by
  refine ⟨retries.guard.commit flying, fun caller id member => ?_⟩
  obtain ⟨named, unprocessed, called⟩ := retries.failed caller id member
  refine ⟨named, fun processed => ?_, called⟩
  rcases (state.guard.commit_frame eventId).2 id processed with ⟨rfl, named⟩ | before
  · exact succeeded named caller called member
  · exact unprocessed before

theorem Retries.release (retries : Retries config eventTypes state) :
    Retries config eventTypes (state.release eventId) := by
  have processed : (state.guard.release eventId).processedEventIds = state.guard.processedEventIds := by
    unfold EventIdempotencyGuard.release
    split <;> rfl
  refine ⟨retries.guard.release, fun caller id member => ?_⟩
  obtain ⟨named, unprocessed, called⟩ := retries.failed caller id member
  exact ⟨named, processed.symm ▸ unprocessed, called⟩

theorem Retries.claim (retries : Retries config eventTypes state) :
    Retries config eventTypes { state with guard := (state.guard.tryClaim eventId).1 } := by
  have processed : (state.guard.tryClaim eventId).1.processedEventIds = state.guard.processedEventIds := by
    unfold EventIdempotencyGuard.tryClaim
    split
    · rfl
    · split <;> rfl
  refine ⟨retries.guard.claim, fun caller id member => ?_⟩
  obtain ⟨named, unprocessed, called⟩ := retries.failed caller id member
  exact ⟨named, processed.symm ▸ unprocessed, called⟩

/-- A stage between the claim and the dispatch. -/
theorem Dispatches.advance (held : Dispatches config eventTypes state stage) (same : stage'.event = stage.event)
    (claimed : stage.claimed = true)
    (order : ∀ event called waiting failures, stage' ≠ .dispatching event called waiting failures)
    (raised : ∀ event, stage' = .raising event → config.failFast = true) :
    Dispatches config eventTypes state stage' where
  typed event here := held.typed event (same ▸ here)
  holds _ event here := held.holds claimed event (same ▸ here)
  order event called waiting failures at_ := absurd at_ (order event called waiting failures)
  raised := raised

/-- Before the claim a call knows its event only. -/
theorem dispatches_unclaimed (here : stage.event = some event) (unclaimed : stage.claimed = false)
    (typed : event.eventId ≠ "" → event.eventType = eventTypes event.eventId) :
    Dispatches config eventTypes state stage where
  typed other member := by
    rw [here] at member
    cases member
    exact typed
  holds claimed := by
    rw [unclaimed] at claimed
    cases claimed
  order other called waiting failures at_ := by
    subst at_
    cases unclaimed
  raised other at_ := by
    subst at_
    cases unclaimed

/-- The call goes on holding its id when one of its handlers fails. -/
theorem Dispatches.flying_fail (held : Dispatches config eventTypes state stage) (claimed : stage.claimed = true)
    (here : stage.event = some event) (named : event.eventId ≠ "") :
    event.eventId ∈ (state.fail handler event.eventId).guard.inFlightEventIds := by
  have flying := held.holds claimed event here named
  unfold BusState.fail
  split <;> exact flying

/-- The dispatch moves on to the next handler in their order. -/
theorem Dispatches.regrouped {called waiting : List String} {failures : Nat}
    (held : Dispatches config eventTypes state (.dispatching event called (handler :: waiting) failures)) :
    (called ++ [handler]) ++ waiting = config.handlers event.eventType := by
  rw [List.append_assoc, List.singleton_append, (held.order event called (handler :: waiting) failures rfl).1]

theorem Retries.failed_call {called waiting : List String} {failures : Nat} (retries : Retries config eventTypes state)
    (held : Dispatches config eventTypes state (.dispatching event called (handler :: waiting) failures)) :
    Retries config eventTypes (state.fail handler event.eventId) := by
  refine retries.fail (held.holds rfl event rfl) fun named => ?_
  rw [← held.typed event rfl named, ← (held.order event called (handler :: waiting) failures rfl).1]
  exact List.mem_append_right _ List.mem_cons_self

/-- A handler that returns has not failed, and neither have those before it. -/
theorem Dispatches.complete {called waiting : List String} {failures : Nat} (retries : Retries config eventTypes state)
    (held : Dispatches config eventTypes state (.dispatching event called (handler :: waiting) failures)) :
    Dispatches config eventTypes (state.complete handler event.eventId)
      (.dispatching event (called ++ [handler]) waiting failures) := by
  refine ⟨held.typed, fun _ other here named => ?_, ?_, fun _ at_ => nomatch at_⟩
  · have flying := held.holds rfl other here named
    unfold BusState.complete
    split <;> exact flying
  · rintro other now rest count ⟨⟩
    refine ⟨held.regrouped, fun none caller member failed => ?_⟩
    rcases List.mem_append.mp member with earlier | last
    · refine (held.order event called (handler :: waiting) failures rfl).2 none caller earlier ?_
      unfold BusState.complete at failed
      split at failed
      · exact failed
      · exact Finset.mem_of_mem_erase failed
    · obtain rfl := List.mem_singleton.mp last
      unfold BusState.complete at failed
      split at failed
      · next unnamed => exact (retries.failed _ _ failed).1 unnamed
      · exact absurd rfl (Finset.mem_erase.mp failed).1

theorem act_own (retries : Retries config eventTypes state) (held : Dispatches config eventTypes state stage)
    (same : SameEvent eventTypes state stage taken) (acted : config.act state stage taken = some (state', stage')) :
    Retries config eventTypes state' ∧ Dispatches config eventTypes state' stage' := by
  cases act_inv acted with
  | published => exact ⟨retries, dispatches_unclaimed rfl rfl same⟩
  | duplicate | refused => exact ⟨retries, dispatches_idle⟩
  | @unseen event => exact ⟨retries, dispatches_unclaimed rfl rfl (held.typed event rfl)⟩
  | granted granted =>
    refine ⟨retries.claim, held.typed, fun _ other here named => ?_, (fun _ _ _ _ at_ => nomatch at_),
      fun _ at_ => nomatch at_⟩
    cases here
    rw [(EventIdempotencyGuard.tryClaim_granted granted named).2]
    exact Finset.mem_insert_self _ _
  | unlogged raises =>
    exact ⟨retries, held.advance rfl rfl (fun _ _ _ _ => nofun) fun _ _ => (Bool.and_eq_true_iff.mp raises).2⟩
  | persisted => exact ⟨retries, held.advance rfl rfl (fun _ _ _ _ => nofun) nofun⟩
  | listed =>
    refine ⟨retries, held.typed, fun _ => held.holds rfl, ?_, fun _ at_ => nomatch at_⟩
    rintro other called waiting failures ⟨⟩
    exact ⟨rfl, fun _ handler member => nomatch member⟩
  | completed => exact ⟨retries.complete, held.complete retries⟩
  | aborted fast =>
    refine ⟨retries.failed_call held, held.typed, fun _ other here named => ?_, (fun _ _ _ _ at_ => nomatch at_),
      fun _ _ => fast⟩
    cases here
    exact held.flying_fail rfl rfl named
  | failed =>
    refine ⟨retries.failed_call held, held.typed, fun _ other here named => ?_, ?_, fun _ at_ => nomatch at_⟩
    · cases here
      exact held.flying_fail rfl rfl named
    · rintro other now rest count ⟨⟩
      exact ⟨held.regrouped, fun none => nomatch none⟩
  | @committed event called =>
    obtain ⟨order, kept⟩ := held.order event called [] 0 rfl
    rw [List.append_nil] at order
    refine ⟨retries.commit (held.holds rfl event rfl) fun named handler member => ?_, dispatches_idle⟩
    rw [← held.typed event rfl named, ← order] at member
    exact kept rfl handler member
  | released | raised => exact ⟨retries.release, dispatches_idle⟩

theorem preserves_retries : Pool.Preserves config.act (SameEvent eventTypes) (Retries config eventTypes)
    (Dispatches config eventTypes) Exclude where
  own retries held same acted := act_own retries held same acted
  other _ _ held excluded mirrored _ acted := act_other acted held excluded mirrored

/-- No handler has completed twice for an id since the guard last forgot it. -/
structure Once (state : BusState) : Prop where
  nodup : state.completed.Nodup
  named : ∀ call ∈ state.completed, call.2 ≠ ""

/-- The handlers that a call still has to call have not completed for its id. -/
def Fresh (state : BusState) : PublishStage → Prop
  | .persisting event | .listing event => ∀ handler, (handler, event.eventId) ∉ state.completed
  | .dispatching event _ waiting _ => waiting.Nodup ∧ ∀ handler ∈ waiting, (handler, event.eventId) ∉ state.completed
  | _ => True

theorem handlers_nodup (config : EventBusConfig) (eventType : String) : (config.handlers eventType).Nodup := by
  unfold handlers
  split
  · exact List.nodup_nil
  · exact config.nodup eventType

theorem Fresh.keeps (fresh : Fresh state other)
    (frame : other.claimed = true → ∀ event ∈ other.event, ∀ handler,
      (handler, event.eventId) ∈ state'.completed → (handler, event.eventId) ∈ state.completed) :
    Fresh state' other := by
  cases other with
  | persisting event => exact fun handler member => fresh handler (frame rfl event rfl handler member)
  | listing event => exact fun handler member => fresh handler (frame rfl event rfl handler member)
  | dispatching event called waiting failures =>
    exact ⟨fresh.1, fun handler here member => fresh.2 handler here (frame rfl event rfl handler member)⟩
  | _ => trivial

theorem Once.complete (once : Once state) (fresh : (handler, eventId) ∉ state.completed) :
    Once (state.complete handler eventId) := by
  unfold BusState.complete
  split
  · exact once
  · next named =>
    refine ⟨?_, fun call member => ?_⟩
    · rw [List.nodup_append]
      refine ⟨once.nodup, List.nodup_singleton _, ?_⟩
      rintro call earlier other last rfl
      obtain rfl := List.mem_singleton.mp last
      exact fresh earlier
    · rcases List.mem_append.mp member with earlier | last
      · exact once.named call earlier
      · obtain rfl := List.mem_singleton.mp last
        exact named

@[simp] theorem completed_fail : (state.fail handler eventId).completed = state.completed := by
  unfold BusState.fail
  split <;> rfl

theorem Once.fail (once : Once state) : Once (state.fail handler eventId) := by
  constructor
  · rw [completed_fail]
    exact once.nodup
  · rw [completed_fail]
    exact once.named

/-- An untouched step of a call leaves each handler completed once. -/
theorem act_once (once : Once state) (fresh : Fresh state stage) (untouched : Untouched state stage taken)
    (acted : config.act state stage taken = some (state', stage')) : Once state' ∧ Fresh state' stage' := by
  cases act_inv acted with
  | published | duplicate | unseen | refused | unlogged => exact ⟨once, trivial⟩
  | granted granted =>
    exact ⟨⟨once.nodup, once.named⟩, fun handler member => untouched granted _ member rfl⟩
  | persisted => exact ⟨once, fresh⟩
  | listed => exact ⟨once, handlers_nodup config _, fun handler _ => fresh handler⟩
  | @completed event handler called waiting failures =>
    obtain ⟨distinct, uncalled⟩ := fresh
    obtain ⟨first, rest⟩ := List.nodup_cons.mp distinct
    refine ⟨once.complete (uncalled handler List.mem_cons_self), rest, fun later here member => ?_⟩
    unfold BusState.complete at member
    split at member
    · exact uncalled later (List.mem_cons_of_mem _ here) member
    · rcases List.mem_append.mp member with earlier | last
      · exact uncalled later (List.mem_cons_of_mem _ here) earlier
      · cases List.mem_singleton.mp last
        exact first here
  | aborted => exact ⟨once.fail, trivial⟩
  | failed =>
    obtain ⟨distinct, uncalled⟩ := fresh
    refine ⟨once.fail, (List.nodup_cons.mp distinct).2, fun later here => ?_⟩
    rw [completed_fail]
    exact uncalled later (List.mem_cons_of_mem _ here)
  | committed =>
    exact ⟨⟨once.nodup.filter _, fun call member => once.named call (List.mem_of_mem_filter member)⟩, trivial⟩
  | released | raised => exact ⟨⟨once.nodup, once.named⟩, trivial⟩

theorem preserves_once : Pool.Preserves config.act
    (fun state stage taken => SameEvent eventTypes state stage taken ∧ Untouched state stage taken)
    (fun state => Retries config eventTypes state ∧ Once state)
    (fun state stage => Dispatches config eventTypes state stage ∧ Fresh state stage) Exclude where
  own := by
    rintro state stage taken state' stage' ⟨retries, once⟩ ⟨held, fresh⟩ ⟨same, untouched⟩ acted
    obtain ⟨retriesAfter, heldAfter⟩ := act_own retries held same acted
    obtain ⟨onceAfter, freshAfter⟩ := act_once once fresh untouched acted
    exact ⟨⟨retriesAfter, onceAfter⟩, heldAfter, freshAfter⟩
  other := by
    rintro state stage taken state' stage' other ⟨-, once⟩ - ⟨held, fresh⟩ excluded mirrored - acted
    obtain ⟨heldAfter, excludedAfter, mirroredAfter⟩ := act_other acted held excluded mirrored
    refine ⟨⟨heldAfter, ?_⟩, excludedAfter, mirroredAfter⟩
    rcases act_frame acted with rfl | ⟨takes, mine, mineHere, frame⟩
    · exact fresh
    · refine fresh.keeps fun claimed theirs theirsThere handler member => ?_
      exact frame.completed handler _ (takes.apart excluded held claimed mineHere theirsThere) member

variable {ι : Type v} [DecidableEq ι]

/-- The bus with the calls of `publish` that run on it. -/
abbrev step (config : EventBusConfig) :
    Pool ι BusState PublishStage → ι × PublishStep → Option (Pool ι BusState PublishStage) := Pool.step config.act

def opened (ι : Type v) (maxProcessedEvents : Nat) : Pool ι BusState PublishStage :=
  ⟨{ guard := { maxProcessedEvents } }, fun _ => .idle⟩

omit [DecidableEq ι] in
theorem retries_opened {maxProcessedEvents : Nat} (room : maxProcessedEvents ≠ 0) :
    Pool.Holds (Retries config eventTypes) (Dispatches config eventTypes) Exclude (opened ι maxProcessedEvents) where
  common := ⟨EventIdempotencyGuard.consistent_new room, fun _ _ member => nomatch member⟩
  each _ := dispatches_idle
  pair _ _ _ := by
    rintro ⟨⟩

/-- A handler whose last call on the id has failed: once no publication of the id is in progress, the id is
neither skipped as a duplicate nor refused. -/
theorem Retries.claims (retries : Retries config eventTypes state) (failed : (handler, eventId) ∈ state.failed)
    (landed : eventId ∉ state.guard.inFlightEventIds) :
    state.guard.isDuplicate eventId = false ∧ (state.guard.tryClaim eventId).2 = true := by
  obtain ⟨named, unprocessed, -⟩ := retries.failed handler eventId failed
  refine ⟨decide_eq_false fun duplicate => unprocessed duplicate.2, ?_⟩
  unfold EventIdempotencyGuard.tryClaim
  rw [if_neg named, if_neg (not_or.mpr ⟨unprocessed, landed⟩)]

/-- Along every run of a guard with room: its set and its queue hold the same ids, none of them in flight;
a handler whose last call on an id has failed does not keep the id from being claimed again when no
publication of it is in progress, and a publication at the end of its dispatch has called every handler, and
does not end before unless `fail_fast` is set; and where no publication claims an id that was released with
handlers that had completed, no handler completes twice for an id the guard has not forgotten since. -/
theorem publish_once {maxProcessedEvents : Nat} {steps : List (ι × PublishStep)} {after : Pool ι BusState PublishStage}
    (room : maxProcessedEvents ≠ 0)
    (same : Meets (step config) (fun p taken => SameEvent eventTypes p.shared (p.thread taken.1) taken.2)
      (opened ι maxProcessedEvents) steps)
    (ran : exec (step config) (opened ι maxProcessedEvents) steps = some after) :
    after.shared.guard.Consistent ∧
    (∀ handler id, (handler, id) ∈ after.shared.failed → id ∉ after.shared.guard.inFlightEventIds →
      after.shared.guard.isDuplicate id = false ∧ (after.shared.guard.tryClaim id).2 = true) ∧
    (∀ i event called failures, after.thread i = .dispatching event called [] failures →
      called = config.handlers event.eventType) ∧
    (∀ i event, after.thread i = .raising event → config.failFast = true) ∧
    (Meets (step config) (fun p taken => Untouched p.shared (p.thread taken.1) taken.2)
      (opened ι maxProcessedEvents) steps → after.shared.completed.Nodup) := by
  have new : Pool.Holds (Retries config eventTypes) (Dispatches config eventTypes) Exclude
      (opened ι maxProcessedEvents) := retries_opened room
  have held := preserves_retries.exec new same ran
  refine ⟨held.common.guard, fun handler id => held.common.claims, fun i event called failures at_ => ?_,
    fun i event => (held.each i).raised event, fun untouched => ?_⟩
  · have order := ((held.each i).order event called [] failures at_).1
    rwa [List.append_nil] at order
  · have start : Pool.Holds (fun state => Retries config eventTypes state ∧ Once state)
        (fun state stage => Dispatches config eventTypes state stage ∧ Fresh state stage) Exclude
        (opened ι maxProcessedEvents) :=
      ⟨⟨new.common, List.nodup_nil, fun _ member => nomatch member⟩, fun i => ⟨new.each i, trivial⟩, new.pair⟩
    exact (preserves_once.exec start (same.and untouched) ran).common.2.nodup

/-- Two handlers of trades. -/
def twoHandlers : EventBusConfig where
  subscribers eventType := if eventType = "TRADE" then ["positions", "journal"] else []
  nodup eventType := by
    split <;> decide

def trade : PublishedEvent := ⟨"e1", "TRADE"⟩

/-- A publication of the trade with what its two handlers do. -/
def publication (call : Fin 2) (first second : Bool) : List (Fin 2 × PublishStep) :=
  [(call, .publish trade), (call, .check), (call, .claim), (call, .persist false), (call, .list),
    (call, .handle first), (call, .handle second), (call, .settle)]

instance (eventTypes : String → String) (state : BusState) (stage : PublishStage) :
    (taken : PublishStep) → Decidable (SameEvent eventTypes state stage taken)
  | .publish _ => inferInstanceAs (Decidable (_ → _))
  | .check | .claim | .persist _ | .list | .handle _ | .settle => isTrue trivial

instance (state : BusState) : (stage : PublishStage) → (taken : PublishStep) → Decidable (Untouched state stage taken)
  | .claiming _, .claim => inferInstanceAs (Decidable (_ → _))
  | .claiming _, .publish _ | .claiming _, .check | .claiming _, .persist _ | .claiming _, .list
  | .claiming _, .handle _ | .claiming _, .settle => isTrue trivial
  | .idle, _ | .checking _, _ | .persisting _, _ | .listing _, _ | .dispatching _ _ _ _, _ | .raising _, _ =>
    isTrue trivial

/-- Both handlers fail, and complete when the trade comes again. -/
theorem publish_once_retried : ∃ after,
    exec (step twoHandlers) (opened (Fin 2) 10000) (publication 0 false false ++ publication 1 true true) = some after ∧
      after.shared.completed = [("positions", "e1"), ("journal", "e1")] ∧ after.shared.completed.Nodup := by
  obtain ⟨after, ran, completed⟩ := Option.map_eq_some_iff.mp
    (show (exec (step twoHandlers) (opened (Fin 2) 10000) (publication 0 false false ++ publication 1 true true)).map
      (fun after => after.shared.completed) = some [("positions", "e1"), ("journal", "e1")] by decide +kernel)
  have sound := @publish_once twoHandlers (fun _ => "TRADE") (Fin 2) _ 10000 _ after (by decide) (by decide +kernel) ran
  exact ⟨after, ran, completed, sound.2.2.2.2 (by decide +kernel)⟩

/-- The first handler completes, the second fails; when the trade comes again both complete, and the guard
remembers the trade. A guard with room for no id keeps it in the set and not in the queue. -/
theorem handler_completes_twice :
    (exec (step twoHandlers) (opened (Fin 2) 10000) (publication 0 true false ++ publication 1 true true)).map
        (fun after => (after.shared.completed, after.shared.guard.processedEvents)) =
      some ([("positions", "e1"), ("positions", "e1"), ("journal", "e1")], ["e1"]) ∧
    (exec (step twoHandlers) (opened (Fin 2) 0) (publication 0 true true)).map
        (fun after => (after.shared.guard.processedEventIds, after.shared.guard.processedEvents)) =
      some ({"e1"}, []) := by
  decide +kernel

end EventBusConfig

end TradeX.V1
