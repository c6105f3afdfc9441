import TradeX.Lib.Text
import TradeX.V1.EventBus

/-! The asynchronous event bus: its queue, the worker threads that drain it, and `start` and `stop` step by
step. `publish` and the popping of a batch each hold the lock; the events of a batch are handed to the
synchronous bus outside it. -/

namespace TradeX.V1

open Lib TwoThreads

/-- `is_capital_event`. -/
def isCapitalEvent (eventType : String) : Bool :=
  let et := Text.upper eventType
  decide (et ∈ ["TRADE", "TRADE_APPLIED", "TRADE_FILLED", "ORDER_PLACED", "ORDER_UPDATED", "ORDER_CANCELLED",
    "ORDER_REJECTED", "ORDER_SUBMITTED"].map String.toList) ||
    Text.startsWith et "ORDER_" || Text.startsWith et "TRADE_" || Text.startsWith et "POSITION_"

/-- The queue, and beside it the events that `publish` has accepted, those handed to the synchronous
bus, and those dropped, in their orders. -/
structure Traffic where
  queue : List PublishedEvent := []
  accepted : List PublishedEvent := []
  handed : List PublishedEvent := []
  dropped : List PublishedEvent := []
  deriving DecidableEq, Repr

namespace Traffic

variable (traffic : Traffic) (event : PublishedEvent)

/-- `AsyncEventBus.publish`. -/
def publish (maxQueueSize : Nat) : Traffic :=
  if traffic.queue.length ≥ maxQueueSize ∧ isCapitalEvent event.eventType = false then
    { traffic with dropped := traffic.dropped ++ [event] }
  else { traffic with queue := traffic.queue ++ [event], accepted := traffic.accepted ++ [event] }

def batchSize : Nat := 64

/-- The batch of the next section of a drain. -/
def batch : List PublishedEvent := traffic.queue.take batchSize

def take : Traffic := { traffic with queue := traffic.queue.drop batchSize }

/-- The synchronous bus is called with the event. Its exception is logged. -/
def hand : Traffic := { traffic with handed := traffic.handed ++ [event] }

end Traffic

structure AsyncBusState (ι : Type u) where
  traffic : Traffic := {}
  /-- `_stop_event`. -/
  stopSet : Bool := false
  /-- `_worker`. -/
  worker : Option ι := none
  /-- The threads that have not been created, have been started, and are alive. -/
  fresh : Finset ι
  started : Finset ι := ∅
  alive : Finset ι := ∅

/-- Where a thread stands: a caller of `start` and `stop`, or a worker, which knows which one it is. -/
inductive BusThread (ι : Type u) where
  | idle
  | starting
  | cleared
  | assigned
  | stopping
  | entering
  | joining (worker : ι)
  | joined
  | clearing
  | unborn (self : ι)
  | looping (self : ι)
  | waiting (self : ι)
  /-- In `_drain_batch`, called by the worker or by `stop`, between two batches or with the events of one
  that have not been handed over yet. -/
  | draining (self : Option ι)
  | handing (self : Option ι) (batch : List PublishedEvent)
  | ended
  deriving DecidableEq, Repr

inductive BusStep (ι : Type u) where
  | publish (event : PublishedEvent)
  /-- `start`: the look at the worker, the stop event, the new thread, its start. -/
  | start
  | clear
  | assign (worker : ι)
  | launch
  /-- `stop`: the stop event, the look at the worker, the join and its end, the look at the
  worker again, and the worker set to `None`. -/
  | stop
  | look
  | join
  | wake (timedOut : Bool)
  | lookAgain
  | forget
  /-- A worker begins, looks at the stop event, and wakes from its wait. -/
  | begin
  | poll
  | tick
  /-- A section of `_drain_batch` under the lock, and a call of the synchronous bus. -/
  | take
  | hand (raises : Bool)
  deriving DecidableEq, Repr

namespace AsyncBusState

variable {ι : Type u} [DecidableEq ι]

def act (maxQueueSize : Nat) (bus : AsyncBusState ι) (thread : BusThread ι) :
    BusStep ι → Option (AsyncBusState ι × BusThread ι)
  | .publish event => some ({ bus with traffic := bus.traffic.publish event maxQueueSize }, thread)
  | .start =>
    match thread with
    | .idle => some (bus, if ∃ worker ∈ bus.worker, worker ∈ bus.alive then .idle else .starting)
    | _ => none
  | .clear =>
    match thread with
    | .starting => some ({ bus with stopSet := false }, .cleared)
    | _ => none
  | .assign worker =>
    match thread with
    | .cleared =>
      if worker ∈ bus.fresh then
        some ({ bus with worker := some worker, fresh := bus.fresh.erase worker }, .assigned)
      else none
    | _ => none
  | .launch =>
    match thread with
    | .assigned =>
      match bus.worker with
      | none => some (bus, .idle)
      | some worker =>
        -- a thread is started once only
        if worker ∈ bus.started then some (bus, .idle)
        else some ({ bus with started := insert worker bus.started, alive := insert worker bus.alive }, .idle)
    | _ => none
  | .stop =>
    match thread with
    | .idle => some ({ bus with stopSet := true }, .stopping)
    | _ => none
  | .look =>
    match thread with
    | .stopping => some (bus, if bus.worker.isSome then .entering else .draining none)
    | _ => none
  | .join =>
    match thread with
    | .entering =>
      match bus.worker with
      | none => some (bus, .idle)
      | some worker => some (bus, if worker ∈ bus.started then .joining worker else .idle)
    | _ => none
  | .wake timedOut =>
    match thread with
    | .joining worker => if timedOut = true ∨ worker ∉ bus.alive then some (bus, .joined) else none
    | _ => none
  | .lookAgain =>
    match thread with
    | .joined => some (bus, if bus.worker.isSome then .clearing else .idle)
    | _ => none
  | .forget =>
    match thread with
    | .clearing => some ({ bus with worker := none }, .draining none)
    | _ => none
  | .begin =>
    match thread with
    | .unborn self => if self ∈ bus.alive then some (bus, .looping self) else none
    | _ => none
  | .poll =>
    match thread with
    | .looping self =>
      if bus.stopSet then some ({ bus with alive := bus.alive.erase self }, .ended)
      else some (bus, .draining (some self))
    | _ => none
  | .tick =>
    match thread with
    | .waiting self => some (bus, .looping self)
    | _ => none
  | .take =>
    match thread with
    | .draining self =>
      if bus.traffic.queue = [] then
        some (bus, match self with
          | none => .idle
          | some worker => .waiting worker)
      else some ({ bus with traffic := bus.traffic.take }, .handing self bus.traffic.batch)
    | _ => none
  | .hand _ =>
    match thread with
    | .handing self (event :: rest) =>
      some ({ bus with traffic := bus.traffic.hand event }, if rest = [] then .draining self else .handing self rest)
    | _ => none

end AsyncBusState

/-- The events that a thread has taken out of the queue and not handed over yet. -/
def BusThread.inHand {ι : Type u} : BusThread ι → List PublishedEvent
  | .handing _ batch => batch
  | _ => []

/-- The section of a drain that takes events out of the queue. -/
def BusStep.takes {ι : Type u} : BusStep ι → Bool
  | .take => true
  | _ => false

/-- What a step does to the traffic and to the events in the hand of its thread. -/
inductive Flow (maxQueueSize : Nat) (takes : Bool) :
    Traffic → List PublishedEvent → Traffic → List PublishedEvent → Prop where
  | quiet (traffic hand) : Flow maxQueueSize takes traffic hand traffic hand
  | publish (traffic hand event) : Flow maxQueueSize takes traffic hand (traffic.publish event maxQueueSize) hand
  | take (traffic) : takes = true → traffic.queue ≠ [] →
      Flow maxQueueSize takes traffic [] traffic.take traffic.batch
  | hand (traffic event rest) : Flow maxQueueSize takes traffic (event :: rest) (traffic.hand event) rest

namespace AsyncBusState

variable {ι : Type u} [DecidableEq ι] {maxQueueSize : Nat} {bus bus' : AsyncBusState ι} {thread thread' : BusThread ι}
  {taken : BusStep ι}

theorem act_flow (acted : act maxQueueSize bus thread taken = some (bus', thread')) :
    Flow maxQueueSize taken.takes bus.traffic thread.inHand bus'.traffic thread'.inHand := by
  have quiet : bus'.traffic = bus.traffic → thread.inHand = [] → thread'.inHand = [] →
      Flow maxQueueSize taken.takes bus.traffic thread.inHand bus'.traffic thread'.inHand := by
    intro traffic before after
    rw [traffic, before, after]
    exact Flow.quiet _ _
  cases taken with
  | publish event =>
    simp only [act] at acted
    cases acted
    exact Flow.publish _ _ event
  | start =>
    simp only [act] at acted
    split at acted
    · cases acted
      refine quiet rfl rfl ?_
      split <;> rfl
    · cases acted
  | assign worker =>
    simp only [act] at acted
    split at acted
    · split at acted
      · cases acted
        exact quiet rfl rfl rfl
      · cases acted
    · cases acted
  | launch =>
    simp only [act] at acted
    split at acted
    · split at acted
      · cases acted
        exact quiet rfl rfl rfl
      · split at acted <;> cases acted <;> exact quiet rfl rfl rfl
    · cases acted
  | look =>
    simp only [act] at acted
    split at acted
    · cases acted
      refine quiet rfl rfl ?_
      split <;> rfl
    · cases acted
  | join =>
    simp only [act] at acted
    split at acted
    · split at acted
      · cases acted
        exact quiet rfl rfl rfl
      · cases acted
        refine quiet rfl rfl ?_
        split <;> rfl
    · cases acted
  | wake timedOut =>
    simp only [act] at acted
    split at acted
    · split at acted
      · cases acted
        exact quiet rfl rfl rfl
      · cases acted
    · cases acted
  | lookAgain =>
    simp only [act] at acted
    split at acted
    · cases acted
      refine quiet rfl rfl ?_
      split <;> rfl
    · cases acted
  | begin =>
    simp only [act] at acted
    split at acted
    · split at acted
      · cases acted
        exact quiet rfl rfl rfl
      · cases acted
    · cases acted
  | poll =>
    simp only [act] at acted
    split at acted
    · split at acted <;> cases acted <;> exact quiet rfl rfl rfl
    · cases acted
  | take =>
    simp only [act] at acted
    split at acted
    · next self =>
      split at acted
      · cases acted
        refine quiet rfl rfl ?_
        cases self <;> rfl
      · next queued =>
        cases acted
        exact Flow.take _ rfl queued
    · cases acted
  | hand raises =>
    simp only [act] at acted
    split at acted
    · next self event rest =>
      cases acted
      have left : (if rest = [] then BusThread.draining self else .handing self rest).inHand = rest := by
        split
        · next empty => exact empty.symm
        · rfl
      rw [left]
      exact Flow.hand _ event rest
    · cases acted
  | _ =>
    simp only [act] at acted
    split at acted
    · cases acted
      exact quiet rfl rfl rfl
    · cases acted

end AsyncBusState

namespace Flow

variable {maxQueueSize : Nat} {takes : Bool} {traffic traffic' : Traffic} {hand hand' : List PublishedEvent}

/-- What a step accepts it queues, what it takes out it has in hand, what it hands over it had. -/
theorem balance (flow : Flow maxQueueSize takes traffic hand traffic' hand') :
    (traffic'.accepted : Multiset PublishedEvent) + (traffic.handed + hand + traffic.queue) =
      traffic.accepted + (traffic'.handed + hand' + traffic'.queue) := by
  cases flow with
  | quiet => rfl
  | publish event =>
    unfold Traffic.publish
    split
    · rfl
    · simp only [← Multiset.coe_add]
      abel
  | take queued =>
    have cut : (traffic.batch : Multiset PublishedEvent) + traffic.take.queue = traffic.queue := by
      rw [Multiset.coe_add]
      exact congrArg _ (List.take_append_drop _ _)
    change (traffic.accepted : Multiset PublishedEvent) + (traffic.handed + ([] : List PublishedEvent) + traffic.queue) =
      traffic.accepted + (traffic.handed + traffic.batch + traffic.take.queue)
    rw [← cut, Multiset.coe_nil, add_zero, add_assoc]
  | hand event =>
    change (traffic.accepted : Multiset PublishedEvent) + (traffic.handed + (event :: hand' : List PublishedEvent) + traffic.queue) =
      traffic.accepted + ((traffic.handed ++ [event] : List PublishedEvent) + hand' + traffic.queue)
    rw [← Multiset.coe_add, ← Multiset.cons_coe, ← Multiset.singleton_add, Multiset.coe_singleton,
      ← add_assoc (traffic.handed : Multiset PublishedEvent)]

/-- No step drops a capital event. -/
theorem dropped (flow : Flow maxQueueSize takes traffic hand traffic' hand')
    (before : ∀ event ∈ traffic.dropped, isCapitalEvent event.eventType = false) :
    ∀ event ∈ traffic'.dropped, isCapitalEvent event.eventType = false := by
  cases flow with
  | publish event =>
    unfold Traffic.publish
    split
    · next refused =>
      intro other member
      rcases List.mem_append.mp member with earlier | last
      · exact before other earlier
      · obtain rfl := List.mem_singleton.mp last
        exact refused.2
    · exact before
  | _ => exact before

/-- Where the step's thread is the only one with events in hand, the order is kept. -/
theorem order (flow : Flow maxQueueSize takes traffic hand traffic' hand')
    (before : traffic.accepted = traffic.handed ++ hand ++ traffic.queue) :
    traffic'.accepted = traffic'.handed ++ hand' ++ traffic'.queue := by
  cases flow with
  | quiet => exact before
  | publish _ event =>
    unfold Traffic.publish
    split
    · exact before
    · change traffic.accepted ++ [event] = _ ++ (traffic.queue ++ [event])
      rw [before, List.append_assoc]
  | take queued =>
    change traffic.accepted = traffic.handed ++ traffic.queue.take _ ++ traffic.queue.drop _
    rw [before, List.append_nil, List.append_assoc, List.take_append_drop]
  | hand event =>
    change traffic.accepted = traffic.handed ++ [event] ++ hand' ++ traffic.queue
    rw [before]
    simp only [List.append_assoc, List.cons_append, List.nil_append]

/-- A step of a thread that has nothing in hand and takes nothing suits every thread that has. -/
theorem suits (flow : Flow maxQueueSize takes traffic [] traffic' hand') (refrains : takes = true → traffic.queue = []) :
    hand' = [] ∧ ∀ other, Flow maxQueueSize takes traffic other traffic' other := by
  cases flow with
  | quiet => exact ⟨rfl, fun other => Flow.quiet _ other⟩
  | publish _ event => exact ⟨rfl, fun other => Flow.publish _ other event⟩
  | take taking queued => exact absurd (refrains taking) queued

end Flow

namespace AsyncBusState

variable {ι : Type u} [DecidableEq ι]

/-- The bus with the threads that call it and work for it. -/
abbrev step (maxQueueSize : Nat) :
    Pool ι (AsyncBusState ι) (BusThread ι) → ι × BusStep ι → Option (Pool ι (AsyncBusState ι) (BusThread ι)) :=
  Pool.step (act maxQueueSize)

/-- A new bus: the fresh threads can become workers, the others call it. -/
def opened (fresh : Finset ι) : Pool ι (AsyncBusState ι) (BusThread ι) :=
  ⟨{ fresh }, fun i => if i ∈ fresh then .unborn i else .idle⟩

/-- Every event that was accepted has been handed over, is in the hand of a thread, or is in the queue. -/
def Balanced [Fintype ι] (p : Pool ι (AsyncBusState ι) (BusThread ι)) : Prop :=
  (p.shared.traffic.accepted : Multiset PublishedEvent) =
    p.shared.traffic.handed + (∑ i, (p.thread i).inHand : Multiset PublishedEvent) + p.shared.traffic.queue

/-- One thread at most has events in hand, and they come between those handed over and those in the queue. -/
def InTurn (p : Pool ι (AsyncBusState ι) (BusThread ι)) : Prop :=
  (∀ i, (p.thread i).inHand = []) ∧ p.shared.traffic.accepted = p.shared.traffic.handed ++ p.shared.traffic.queue ∨
    ∃ i, (∀ j, j ≠ i → (p.thread j).inHand = []) ∧
      p.shared.traffic.accepted = p.shared.traffic.handed ++ (p.thread i).inHand ++ p.shared.traffic.queue

/-- No events are taken out of the queue while another thread still has some in hand. -/
def Alone (p : Pool ι (AsyncBusState ι) (BusThread ι)) (taken : ι × BusStep ι) : Prop :=
  taken.2.takes = true → p.shared.traffic.queue ≠ [] → ∀ j, j ≠ taken.1 → (p.thread j).inHand = []

variable {maxQueueSize : Nat} {p q : Pool ι (AsyncBusState ι) (BusThread ι)} {taken : ι × BusStep ι}

theorem Balanced.step [Fintype ι] (balanced : Balanced p) (stepped : step maxQueueSize p taken = some q) :
    Balanced q := by
  obtain ⟨shared, thread, acted, rfl⟩ := Pool.step_some stepped
  have flow := (act_flow acted).balance
  have before := Finset.add_sum_erase Finset.univ
    (fun i => ((p.thread i).inHand : Multiset PublishedEvent)) (Finset.mem_univ taken.1)
  have after := Finset.add_sum_erase Finset.univ
    (fun i => ((Function.update p.thread taken.1 thread i).inHand : Multiset PublishedEvent)) (Finset.mem_univ taken.1)
  have others : ∑ i ∈ Finset.univ.erase taken.1,
        ((Function.update p.thread taken.1 thread i).inHand : Multiset PublishedEvent) =
      ∑ i ∈ Finset.univ.erase taken.1, ((p.thread i).inHand : Multiset PublishedEvent) := by
    refine Finset.sum_congr rfl fun i member => ?_
    rw [Function.update_of_ne (Finset.ne_of_mem_erase member)]
  rw [others, Function.update_self] at after
  unfold Balanced at balanced ⊢
  rw [← before] at balanced
  change (shared.traffic.accepted : Multiset PublishedEvent) = shared.traffic.handed + _ + shared.traffic.queue
  rw [← after]
  rw [balanced] at flow
  generalize (∑ i ∈ Finset.univ.erase taken.1, ((p.thread i).inHand : Multiset PublishedEvent)) = rest at flow ⊢
  have cancelled := @add_right_cancel (Multiset PublishedEvent) _ _
    (shared.traffic.accepted : Multiset PublishedEvent)
    (p.shared.traffic.handed + (p.thread taken.1).inHand + p.shared.traffic.queue : Multiset PublishedEvent)
    (shared.traffic.handed + (thread.inHand + rest) + shared.traffic.queue : Multiset PublishedEvent)
  refine cancelled ?_
  rw [flow]
  abel

theorem InTurn.step (inTurn : InTurn p) (alone : Alone p taken) (stepped : step maxQueueSize p taken = some q) :
    InTurn q := by
  obtain ⟨shared, thread, acted, rfl⟩ := Pool.step_some stepped
  have flow := act_flow acted
  have untouched : ∀ j, j ≠ taken.1 → (Function.update p.thread taken.1 thread j).inHand = (p.thread j).inHand := by
    intro j other
    rw [Function.update_of_ne other]
  have own : (Function.update p.thread taken.1 thread taken.1).inHand = thread.inHand := by
    rw [Function.update_self]
  -- the thread of the step is the only one that may have events in hand
  have mine : (∀ j, j ≠ taken.1 → (p.thread j).inHand = []) → p.shared.traffic.accepted =
        p.shared.traffic.handed ++ (p.thread taken.1).inHand ++ p.shared.traffic.queue →
      InTurn ⟨shared, Function.update p.thread taken.1 thread⟩ := by
    intro empty ordered
    refine Or.inr ⟨taken.1, fun j other => (untouched j other).trans (empty j other), ?_⟩
    change shared.traffic.accepted = shared.traffic.handed ++ BusThread.inHand _ ++ shared.traffic.queue
    rw [own]
    exact flow.order ordered
  rcases inTurn with ⟨empty, ordered⟩ | ⟨k, empty, ordered⟩
  · refine mine (fun j _ => empty j) ?_
    rw [empty taken.1, List.append_nil]
    exact ordered
  · by_cases same : k = taken.1
    · subst same
      exact mine empty ordered
    · have nothing := empty taken.1 fun equal => same equal.symm
      by_cases refrains : taken.2.takes = true → p.shared.traffic.queue = []
      · rw [nothing] at flow
        obtain ⟨still, suits⟩ := flow.suits refrains
        refine Or.inr ⟨k, fun j other => ?_, ?_⟩
        · by_cases acting : j = taken.1
          · subst acting
            exact own.trans still
          · exact (untouched j acting).trans (empty j other)
        · change shared.traffic.accepted = shared.traffic.handed ++ BusThread.inHand _ ++ shared.traffic.queue
          rw [untouched k same]
          exact (suits _).order ordered
      · obtain ⟨taking, queued⟩ := Classical.not_imp.mp refrains
        have alone := alone taking queued
        refine mine alone ?_
        rw [alone k same, List.append_nil] at ordered
        rw [nothing, List.append_nil]
        exact ordered

/-- The thread takes a step. -/
def Moves (maxQueueSize : Nat) (i : ι) (p q : Pool ι (AsyncBusState ι) (BusThread ι)) : Prop :=
  ∃ taken, step maxQueueSize p (i, taken) = some q

/-- A thread that is in a drain, or a worker that will come to one. -/
def Serves (bus : AsyncBusState ι) : BusThread ι → Prop
  | .draining _ => True
  | .handing _ batch => batch ≠ []
  | .looping _ | .waiting _ => bus.stopSet = false
  | .unborn self => self ∈ bus.alive ∧ bus.stopSet = false
  | _ => False

/-- By steps of the thread alone, all that it has in hand and all that is queued is handed over in order. -/
def Delivers (maxQueueSize : Nat) (i : ι) (p : Pool ι (AsyncBusState ι) (BusThread ι)) : Prop :=
  ∃ q, Relation.ReflTransGen (Moves maxQueueSize i) p q ∧ q.shared.traffic.queue = [] ∧ (q.thread i).inHand = [] ∧
    q.shared.traffic.handed = p.shared.traffic.handed ++ (p.thread i).inHand ++ p.shared.traffic.queue ∧
    q.shared.traffic.accepted = p.shared.traffic.accepted ∧ ∀ j, j ≠ i → q.thread j = p.thread j

section

variable {i : ι} {taken : BusStep ι} {bus : AsyncBusState ι} {thread : BusThread ι} {self : Option ι}
  {batch : List PublishedEvent}

theorem moves (acted : act maxQueueSize p.shared (p.thread i) taken = some (bus, thread)) :
    Moves maxQueueSize i p ⟨bus, Function.update p.thread i thread⟩ :=
  ⟨taken, Option.map_eq_some_iff.mpr ⟨(bus, thread), acted, rfl⟩⟩

/-- A step that hands over the front of what the thread owes leaves it to deliver the rest. -/
theorem Delivers.after (acted : act maxQueueSize p.shared (p.thread i) taken = some (bus, thread))
    (owed : bus.traffic.handed ++ thread.inHand ++ bus.traffic.queue =
      p.shared.traffic.handed ++ (p.thread i).inHand ++ p.shared.traffic.queue)
    (accepted : bus.traffic.accepted = p.shared.traffic.accepted)
    (delivers : Delivers maxQueueSize i ⟨bus, Function.update p.thread i thread⟩) : Delivers maxQueueSize i p := by
  obtain ⟨q, run, queue, hand, handed, kept, others⟩ := delivers
  refine ⟨q, Relation.ReflTransGen.head (moves acted) run, queue, hand, ?_, kept.trans accepted, fun j other => ?_⟩
  · rw [handed, ← owed]
    change bus.traffic.handed ++ (Function.update p.thread i thread i).inHand ++ bus.traffic.queue = _
    rw [Function.update_self]
  · rw [others j other]
    exact Function.update_of_ne other _ _

theorem delivers_handing (later : ∀ q : Pool ι (AsyncBusState ι) (BusThread ι),
      q.shared.traffic.queue.length ≤ p.shared.traffic.queue.length → q.thread i = .draining self →
      Delivers maxQueueSize i q)
    (here : p.thread i = .handing self batch) (some_ : batch ≠ []) : Delivers maxQueueSize i p := by
  induction batch generalizing p with
  | nil => exact absurd rfl some_
  | cons event rest ih =>
    have acted : act maxQueueSize p.shared (p.thread i) (.hand false) =
        some ({ p.shared with traffic := p.shared.traffic.hand event },
          if rest = [] then .draining self else .handing self rest) := by
      rw [here]
      rfl
    by_cases last : rest = []
    · subst last
      refine Delivers.after acted ?_ rfl (later _ le_rfl (Function.update_self ..))
      rw [here, if_pos rfl]
      change p.shared.traffic.handed ++ [event] ++ [] ++ p.shared.traffic.queue = _ ++ [event] ++ _
      rw [List.append_nil]
    · rw [if_neg last] at acted
      refine Delivers.after acted ?_ rfl (ih later (Function.update_self ..) last)
      rw [here]
      change p.shared.traffic.handed ++ [event] ++ rest ++ p.shared.traffic.queue = _ ++ (event :: rest) ++ _
      rw [List.append_assoc _ [event], List.singleton_append]

theorem delivers_draining (here : p.thread i = .draining self) : Delivers maxQueueSize i p := by
  induction size : p.shared.traffic.queue.length using Nat.strong_induction_on generalizing p with
  | _ n ih =>
    by_cases empty : p.shared.traffic.queue = []
    · have nothing : (p.thread i).inHand = [] := by rw [here]; rfl
      refine ⟨p, Relation.ReflTransGen.refl, empty, nothing, ?_, rfl, fun _ _ => rfl⟩
      rw [empty, nothing, List.append_nil, List.append_nil]
    · have acted : act maxQueueSize p.shared (p.thread i) .take =
          some ({ p.shared with traffic := p.shared.traffic.take }, .handing self p.shared.traffic.batch) := by
        rw [here]
        exact if_neg empty
      have shorter : p.shared.traffic.take.queue.length < n := by
        have positive := List.length_pos_of_ne_nil empty
        change (p.shared.traffic.queue.drop 64).length < n
        rw [List.length_drop]
        omega
      have some_ : p.shared.traffic.batch ≠ [] := by
        intro none
        rcases List.take_eq_nil_iff.mp none with zero | nil
        · cases zero
        · exact empty nil
      refine Delivers.after acted ?_ rfl (delivers_handing (fun q fewer there => ?_) (Function.update_self ..) some_)
      · rw [here]
        change p.shared.traffic.handed ++ p.shared.traffic.queue.take 64 ++ p.shared.traffic.queue.drop 64 = _ ++ [] ++ _
        rw [List.append_assoc, List.take_append_drop, List.append_nil]
      · exact ih _ (fewer.trans_lt shorter) there rfl

theorem delivers_looping {worker : ι} (here : p.thread i = .looping worker) (going : p.shared.stopSet = false) :
    Delivers maxQueueSize i p := by
  have acted : act maxQueueSize p.shared (p.thread i) .poll = some (p.shared, .draining (some worker)) := by
    rw [here]
    exact if_neg (by rw [going]; decide)
  refine Delivers.after acted ?_ rfl (delivers_draining (Function.update_self ..))
  rw [here]
  rfl

theorem Serves.delivers (serves : Serves p.shared (p.thread i)) : Delivers maxQueueSize i p := by
  cases here : p.thread i with
  | draining self => exact delivers_draining here
  | handing self batch =>
    rw [here] at serves
    exact delivers_handing (fun q _ there => delivers_draining there) here serves
  | looping worker =>
    rw [here] at serves
    exact delivers_looping here serves
  | waiting worker =>
    rw [here] at serves
    have acted : act maxQueueSize p.shared (p.thread i) .tick = some (p.shared, .looping worker) := by
      rw [here]
      rfl
    refine Delivers.after acted ?_ rfl (delivers_looping (Function.update_self ..) serves)
    rw [here]
    rfl
  | unborn worker =>
    rw [here] at serves
    have acted : act maxQueueSize p.shared (p.thread i) .begin = some (p.shared, .looping worker) := by
      rw [here]
      exact if_pos serves.1
    refine Delivers.after acted ?_ rfl (delivers_looping (Function.update_self ..) serves.2)
    rw [here]
    rfl
  | _ =>
    rw [here] at serves
    exact serves.elim

end

theorem opened_inHand (fresh : Finset ι) (i : ι) : ((opened fresh).thread i).inHand = [] := by
  unfold opened
  dsimp only
  split <;> rfl

/-- Along every run from a new bus: each event accepted is handed over once, in the hand of one thread once, or
in the queue once; no capital event is dropped; a worker that has not been stopped, and every drain that
has begun, can deliver by steps of its own all that it has in hand and all that is queued. Where no events are
taken out of the queue while another thread has some in hand, what has been handed over are the first
of the events accepted, in their order. -/
theorem async_delivery [Fintype ι] {fresh : Finset ι} {taken : List (ι × BusStep ι)}
    {after : Pool ι (AsyncBusState ι) (BusThread ι)}
    (ran : exec (step maxQueueSize) (opened fresh) taken = some after) :
    Balanced after ∧
    (∀ event ∈ after.shared.traffic.dropped, isCapitalEvent event.eventType = false) ∧
    (∀ i, Serves after.shared (after.thread i) → Delivers maxQueueSize i after) ∧
    (Meets (step maxQueueSize) Alone (opened fresh) taken → InTurn after) := by
  have all : Meets (step maxQueueSize) (fun _ _ => True) (opened fresh) taken := meets_of_forall fun _ _ => trivial
  have balanced : ∀ p (event : ι × BusStep ι) q, Balanced p → True → step maxQueueSize p event = some q →
      Balanced q := fun _ _ _ held _ stepped => held.step stepped
  have kept : ∀ (p : Pool ι (AsyncBusState ι) (BusThread ι)) (event : ι × BusStep ι) q,
      (∀ event ∈ p.shared.traffic.dropped, isCapitalEvent event.eventType = false) → True →
      step maxQueueSize p event = some q →
      ∀ event ∈ q.shared.traffic.dropped, isCapitalEvent event.eventType = false := by
    intro p event q held _ stepped
    obtain ⟨shared, thread, acted, rfl⟩ := Pool.step_some stepped
    exact (act_flow acted).dropped held
  have turns : ∀ p (event : ι × BusStep ι) q, InTurn p → Alone p event → step maxQueueSize p event = some q →
      InTurn q := fun _ _ _ held alone stepped => held.step alone stepped
  have start : Balanced (opened fresh) := by
    unfold Balanced
    rw [Finset.sum_congr rfl fun i _ => congrArg _ (opened_inHand fresh i), Finset.sum_const]
    simp [opened]
  refine ⟨exec_invariant balanced start all ran, exec_invariant kept (fun _ member => absurd member List.not_mem_nil) all ran,
    fun i => Serves.delivers, fun alone => exec_invariant turns (Or.inl ⟨opened_inHand fresh, rfl⟩) alone ran⟩

instance [Fintype ι] (p : Pool ι (AsyncBusState ι) (BusThread ι)) (taken : ι × BusStep ι) : Decidable (Alone p taken) :=
  inferInstanceAs (Decidable (_ → _ → _))

/-- Two trades and a tick. -/
def firstTrade : PublishedEvent := ⟨"e1", "TRADE"⟩

def secondTrade : PublishedEvent := ⟨"e2", "TRADE"⟩

def tick : PublishedEvent := ⟨"e3", "TICK"⟩

/-- The caller publishes two trades and starts a worker, which takes both and hands over the first. -/
def midBatch : List (Fin 2 × BusStep (Fin 2)) :=
  [(0, .publish firstTrade), (0, .publish secondTrade), (0, .start), (0, .clear), (0, .assign 1), (0, .launch),
    (1, .begin), (1, .poll), (1, .take), (1, .hand true)]

/-- The caller publishes a tick and stops the bus; its join times out, or it waits for the worker. -/
def stopped (timedOut : Bool) : List (Fin 2 × BusStep (Fin 2)) :=
  [(0, .publish tick), (0, .stop), (0, .look), (0, .join)] ++
    (if timedOut then [] else [(1, .hand false), (1, .take), (1, .hand false), (1, .take), (1, .tick), (1, .poll)]) ++
    [(0, .wake timedOut), (0, .lookAgain), (0, .forget), (0, .take)]

/-- The caller waits until the worker has ended: all is handed over in order, though the first trade raises. -/
theorem async_delivery_stopped : ∃ after,
    exec (step 10000) (opened {1}) (midBatch ++ stopped false) = some after ∧
      after.shared.traffic.handed = [firstTrade, secondTrade, tick] ∧ Balanced after ∧ InTurn after := by
  obtain ⟨after, ran, handed⟩ := Option.map_eq_some_iff.mp
    (show (exec (step 10000) (opened {1}) (midBatch ++ stopped false)).map (fun after => after.shared.traffic.handed) =
      some [firstTrade, secondTrade, tick] by decide +kernel)
  obtain ⟨balanced, -, -, inTurn⟩ := async_delivery ran
  exact ⟨after, ran, handed, balanced, inTurn (by decide +kernel)⟩

/-- The join times out: the caller takes the tick out and hands it over before the worker hands over the
second trade of its batch. -/
theorem overtaken : (exec (step 10000) (opened {1}) (midBatch ++ stopped true ++ [(0, .hand false), (1, .hand false)])).map
      (fun after => (after.shared.traffic.accepted, after.shared.traffic.handed)) =
    some ([firstTrade, secondTrade, tick], [firstTrade, tick, secondTrade]) := by
  decide +kernel

end AsyncBusState

end TradeX.V1
