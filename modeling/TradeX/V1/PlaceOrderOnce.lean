import TradeX.Lib.Interleaving
import TradeX.V1.Placement

/-! Any number of calls of `place_order` on one order manager, interleaved section by
section. A reservation excludes other calls of its id until the stub is registered, and
from then on the index answers them. -/

namespace TradeX.V1

open Lib TwoThreads

/-- A call of `submit_fn` that has returned an order. -/
structure ReturnedOrder where
  correlationId : String
  stub : Order
  placed : Order
  deriving DecidableEq

/-- The order of an outcome is the stub that stands for the submission, the order that
`submit_fn` returned, or that order with an unknown outcome. -/
def ReturnedOrder.refers (returned : ReturnedOrder) (order : Order) : Prop :=
  order = returned.stub ∨ order = returned.placed ∨ order = { returned.placed with status := .UNKNOWN }

/-- The order manager, with the correlation id of every call of `submit_fn` and the
orders those calls have returned, the latest first. -/
structure OrderDesk (cache : TTLCache.{0, v} Nat) where
  manager : OrderManager cache
  submitted : List String := []
  returned : List ReturnedOrder := []

structure PlaceCall where
  request : OmsOrderCommand
  stage : PlaceStage := .start

def PlaceCall.cid (call : PlaceCall) : String := call.request.correlationId

/-- `submit_fn` has been called and has not returned. -/
def PlaceStage.inFlight : PlaceStage → Bool
  | .submitting _ => true
  | _ => false

/-- Between the reservation and the end of the call. -/
def PlaceStage.active : PlaceStage → Bool
  | .start | .ended _ => false
  | _ => true

namespace OrderDesk

variable {cache : TTLCache.{0, v} Nat} (desk : OrderDesk cache)

def filed (cid : String) : Option Order := desk.manager.book.byCorrelation.get cid

def pending (cid : String) : Option ℚ := desk.manager.pending.get cid

def noted (call : PlaceCall) (step : PlaceStep) : OrderDesk cache :=
  match call.stage, step with
  | .registered _, .intent none => { desk with submitted := call.cid :: desk.submitted }
  | .submitting stub, .returns placed =>
    { desk with returned := ⟨call.cid, stub, placed⟩ :: desk.returned }
  | _, _ => desk

/-- One step of a call. -/
def act (call : PlaceCall) (step : PlaceStep) : Option (OrderDesk cache × PlaceCall) :=
  (OrderManager.act call.request desk.manager call.stage step).map fun after =>
    ({ desk.noted call step with manager := after.1 }, { call with stage := after.2 })

/-- A check that finds no order for its id does not find an expired reservation either. -/
def unexpired (call : PlaceCall) : PlaceStep → Prop
  | .check now _ => desk.filed call.cid = none → ∀ expires ∈ desk.pending call.cid, ¬ expires < now
  | _ => True

instance (call : PlaceCall) : (step : PlaceStep) → Decidable (desk.unexpired call step)
  | .check .. => inferInstanceAs (Decidable (_ → _))
  | .register .. | .intent _ | .returns _ | .raises _ | .outcome _ | .markUnknown | .record | .release =>
    isTrue trivial

/-- No submission of the id has returned. -/
def Unreturned (cid : String) : Prop := ∀ returned ∈ desk.returned, returned.correlationId ≠ cid

/-- The id has an order or a reservation. -/
def Held (cid : String) : Prop := desk.filed cid ≠ none ∨ desk.pending cid ≠ none

/-- Every submission that returned for the id returned this order. -/
def ReturnedOnly (cid : String) (placed : Order) : Prop :=
  ∀ returned ∈ desk.returned, returned.correlationId = cid → returned.placed = placed

/-- No id was submitted twice, every submitted id has an order, and this order refers to
the one that its submission returned. -/
structure Common (desk : OrderDesk cache) : Prop where
  once : desk.submitted.Nodup
  known : ∀ cid ∈ desk.submitted, desk.filed cid ≠ none
  sent : ∀ returned ∈ desk.returned, returned.correlationId ∈ desk.submitted
  refers : ∀ returned ∈ desk.returned, ∃ existing,
    desk.filed returned.correlationId = some existing ∧ returned.refers existing

/-- What the desk holds for a call at its stage. -/
def Each (desk : OrderDesk cache) (call : PlaceCall) : Prop :=
  match call.stage with
  | .start | .ended _ => True
  | .reserved => desk.pending call.cid ≠ none ∧ call.cid ∉ desk.submitted
  | .registered stub => desk.filed call.cid = some stub ∧ call.cid ∉ desk.submitted
  | .submitting stub =>
    desk.filed call.cid = some stub ∧ call.cid ∈ desk.submitted ∧ desk.Unreturned call.cid
  | .failing _ _ => desk.Held call.cid ∧ desk.Unreturned call.cid
  | .answered placed | .unrecorded placed _ | .recording placed =>
    desk.Held call.cid ∧ desk.ReturnedOnly call.cid placed
  | .marked _ | .releasing _ => desk.Held call.cid

/-- No two active calls have the same id. -/
def Pair (first second : PlaceCall) : Prop :=
  first.cid = second.cid → first.stage.active = true → second.stage.active = false

/-- For this id the desk stays as it was, or it gains an order where it had none. -/
structure Steady (cid : String) (desk after : OrderDesk cache) : Prop where
  filed : ∀ order, desk.filed cid = some order → after.filed cid = some order
  pending : after.pending cid = desk.pending cid
  submitted : cid ∈ after.submitted ↔ cid ∈ desk.submitted
  returned : ∀ returned ∈ after.returned, returned.correlationId = cid → returned ∈ desk.returned

variable {desk after : OrderDesk cache} {call other : PlaceCall} {cid : String}

theorem Steady.held (steady : Steady cid desk after) (held : desk.Held cid) : after.Held cid := by
  rcases held with filed | pending
  · obtain ⟨order, found⟩ := Option.ne_none_iff_exists'.mp filed
    refine .inl ?_
    rw [steady.filed order found]
    rintro ⟨⟩
  · refine .inr ?_
    rw [steady.pending]
    exact pending

theorem Steady.unreturned (steady : Steady cid desk after) (unreturned : desk.Unreturned cid) :
    after.Unreturned cid := fun returned member same =>
  unreturned returned (steady.returned returned member same) same

theorem Steady.returnedOnly {placed : Order} (steady : Steady cid desk after)
    (only : desk.ReturnedOnly cid placed) : after.ReturnedOnly cid placed := fun returned member same =>
  only returned (steady.returned returned member same) same

/-- What the desk holds for a call stays, where the desk is steady for its id. -/
theorem Each.steady (each : Each desk call) (steady : Steady call.cid desk after) : Each after call := by
  unfold Each at each ⊢
  split
  · trivial
  · trivial
  · next stage =>
    rw [stage] at each
    refine ⟨?_, mt steady.submitted.mp each.2⟩
    rw [steady.pending]
    exact each.1
  · next stub stage =>
    rw [stage] at each
    exact ⟨steady.filed stub each.1, mt steady.submitted.mp each.2⟩
  · next stub stage =>
    rw [stage] at each
    exact ⟨steady.filed stub each.1, steady.submitted.mpr each.2.1, steady.unreturned each.2.2⟩
  · next stage =>
    rw [stage] at each
    exact ⟨steady.held each.1, steady.unreturned each.2⟩
  · next placed stage =>
    rw [stage] at each
    exact ⟨steady.held each.1, steady.returnedOnly each.2⟩
  · next placed _ stage =>
    rw [stage] at each
    exact ⟨steady.held each.1, steady.returnedOnly each.2⟩
  · next placed stage =>
    rw [stage] at each
    exact ⟨steady.held each.1, steady.returnedOnly each.2⟩
  · next stage =>
    rw [stage] at each
    exact steady.held each
  · next stage =>
    rw [stage] at each
    exact steady.held each

/-- The invariant stays where no submission is noted and the index only grows. -/
theorem Common.grow {manager : OrderManager cache} (common : Common desk)
    (grows : ∀ cid order, desk.filed cid = some order → manager.book.byCorrelation.get cid = some order) :
    Common { desk with manager := manager } where
  once := common.once
  known cid member := by
    obtain ⟨order, found⟩ := Option.ne_none_iff_exists'.mp (common.known cid member)
    rw [filed, grows cid order found]
    rintro ⟨⟩
  sent := common.sent
  refers returned member := by
    obtain ⟨existing, found, refers⟩ := common.refers returned member
    exact ⟨existing, grows _ _ found, refers⟩

/-- The invariant stays where an order is filed that refers to what was returned for its id. -/
theorem Common.file {manager : OrderManager cache} {order : Order} (common : Common desk)
    (index : manager.book.byCorrelation = desk.manager.book.byCorrelation.set cid order)
    (refers : ∀ returned ∈ desk.returned, returned.correlationId = cid → returned.refers order) :
    Common { desk with manager := manager } where
  once := common.once
  known id member := by
    rw [filed, index, Dict.get_set]
    split
    · rintro ⟨⟩
    · exact common.known id member
  sent := common.sent
  refers returned member := by
    rw [filed, index, Dict.get_set]
    split
    · next same => exact ⟨order, rfl, refers returned member same⟩
    · exact common.refers returned member

theorem Common.unreturned (common : Common desk) (unsent : cid ∉ desk.submitted) : desk.Unreturned cid := by
  rintro returned member rfl
  exact unsent (common.sent returned member)

theorem Unreturned.only {placed : Order} (unreturned : desk.Unreturned cid) : desk.ReturnedOnly cid placed :=
  fun returned member same => absurd same (unreturned returned member)

theorem act_some {step : PlaceStep} {call' : PlaceCall} (taken : desk.act call step = some (after, call')) :
    ∃ manager stage, OrderManager.Acts call.request desk.manager call.stage step manager stage ∧
      after = { desk.noted call step with manager := manager } ∧ call' = { call with stage := stage } := by
  obtain ⟨⟨manager, stage⟩, acted, same⟩ := Option.map_eq_some_iff.mp taken
  cases same
  exact ⟨manager, stage, OrderManager.act_acts acted, rfl, rfl⟩

/-- What a step does keeps the invariant, and the desk holds what the call owes at its new stage. -/
theorem act_own {step : PlaceStep} {call' : PlaceCall} (common : Common desk) (each : Each desk call)
    (taken : desk.act call step = some (after, call')) : Common after ∧ Each after call' := by
  obtain ⟨manager, stage, acts, rfl, rfl⟩ := act_some taken
  obtain ⟨request, stage⟩ := call
  have same : ∀ cid order, desk.filed cid = some order →
      desk.manager.book.byCorrelation.get cid = some order := fun _ _ found => found
  have registered : ∀ order, Held { desk with manager := desk.manager.register order request.correlationId }
      request.correlationId := by
    intro order
    refine .inl ?_
    rw [filed, OrderManager.register_filed]
    rintro ⟨⟩
  cases acts with
  | early now durable ending ends => exact ⟨common.grow (OrderManager.checkAndReserve_early ends).2, trivial⟩
  | reserve now durable missed idle =>
    refine ⟨common.grow same, ?_, fun sent => common.known _ sent missed⟩
    rw [pending]
    dsimp only [PlaceCall.cid]
    rw [Dict.get_set_self]
    rintro ⟨⟩
  | refuse step result => exact ⟨common, .inr each.1⟩
  | direct step order => exact ⟨common, .inr each.1, (common.unreturned each.2).only⟩
  | register step order =>
    have unreturned := common.unreturned each.2
    exact ⟨common.file rfl fun returned member same => absurd same (unreturned returned member),
      OrderManager.register_filed, each.2⟩
  | submit stub =>
    obtain ⟨found, unsent⟩ := each
    refine ⟨⟨List.nodup_cons.mpr ⟨unsent, common.once⟩, ?_, ?_, common.refers⟩, found, List.mem_cons_self,
      common.unreturned unsent⟩
    · refine List.forall_mem_cons.mpr ⟨?_, common.known⟩
      exact fun missed => Option.some_ne_none stub (found.symm.trans missed)
    · exact fun returned member => List.mem_cons_of_mem _ (common.sent returned member)
  | unintended stub failure =>
    refine ⟨common, .inl fun missed => ?_, common.unreturned each.2⟩
    exact Option.some_ne_none stub (each.1.symm.trans missed)
  | returns stub placed =>
    obtain ⟨found, sent, unreturned⟩ := each
    refine ⟨⟨common.once, common.known, List.forall_mem_cons.mpr ⟨sent, common.sent⟩,
      List.forall_mem_cons.mpr ⟨⟨stub, found, .inl rfl⟩, common.refers⟩⟩, .inl fun missed => ?_,
      List.forall_mem_cons.mpr ⟨fun _ => rfl, unreturned.only⟩⟩
    exact Option.some_ne_none stub (found.symm.trans missed)
  | raises stub message =>
    refine ⟨common, .inl fun missed => ?_, each.2.2⟩
    exact Option.some_ne_none stub (each.1.symm.trans missed)
  | unmarkable stage error failing =>
    obtain ⟨order, message, rfl | rfl⟩ := failing
    · exact ⟨common, each.1⟩
    · exact ⟨common, each.1⟩
  | mark order message marks =>
    exact ⟨common.file rfl fun returned member same => absurd same (each.2 returned member), registered _⟩
  | markPlaced placed failure error marks =>
    refine ⟨common.file rfl fun returned member same => ?_, registered _⟩
    rw [← each.2 returned member same]
    exact .inr (.inr rfl)
  | outcome result failure ending ends => exact ⟨common, each⟩
  | accept placed => exact ⟨common, each⟩
  | unrecord placed failure => exact ⟨common, each⟩
  | record order =>
    refine ⟨common.file OrderManager.recordAndPublish_filed fun returned member same => ?_, trivial⟩
    rw [← each.2 returned member same]
    exact .inr (.inl rfl)
  | release ending => exact ⟨common.grow same, trivial⟩

/-- A step leaves the desk steady for every other id, and so does a check that ends its call. -/
theorem act_steady {step : PlaceStep} {call' : PlaceCall} (taken : desk.act call step = some (after, call'))
    (apart : cid ≠ call.cid ∨ call.stage.active = false ∧ call'.stage.active = false) :
    Steady cid desk after := by
  obtain ⟨manager, stage, acts, rfl, rfl⟩ := act_some taken
  obtain ⟨request, stage⟩ := call
  rcases apart with other | ⟨idle, idle'⟩
  · obtain ⟨index, pending⟩ := acts.others other
    refine ⟨index, pending, ?_, ?_⟩
    · unfold noted
      split
      · exact List.mem_cons.trans (or_iff_right other)
      · exact Iff.rfl
      · exact Iff.rfl
    · unfold noted
      split
      · exact fun _ member _ => member
      · intro returned member same
        rcases List.mem_cons.mp member with rfl | member
        · exact absurd same.symm other
        · exact member
      · exact fun _ member _ => member
  · cases acts with
    | early now durable ending ends =>
      obtain ⟨pending, index⟩ := OrderManager.checkAndReserve_early ends
      exact ⟨index cid, congrArg (Dict.get · cid) pending, Iff.rfl, fun _ member _ => member⟩
    | unmarkable stage error failing =>
      obtain ⟨order, message, rfl | rfl⟩ := failing
      · cases idle
      · cases idle
    | reserve now durable missed free => cases idle'
    | _ => cases idle

/-- A call becomes active only with a reservation that nobody has. -/
theorem act_activates {step : PlaceStep} {call' : PlaceCall} (taken : desk.act call step = some (after, call'))
    (unexpired : desk.unexpired call step) (idle : call.stage.active = false)
    (active : call'.stage.active = true) : ¬ desk.Held call.cid := by
  obtain ⟨manager, stage, acts, rfl, rfl⟩ := act_some taken
  obtain ⟨request, stage⟩ := call
  cases acts with
  | early now durable ending ends => cases active
  | reserve now durable missed free =>
    rintro (filed | reserved)
    · exact filed missed
    · obtain ⟨expires, found⟩ := Option.ne_none_iff_exists'.mp reserved
      have late := unexpired missed expires found
      rw [OrderManager.inFlight] at free
      rw [show desk.manager.pending.get request.correlationId = some expires from found] at free
      exact late (not_not.mp (of_decide_eq_false free))
  | unmarkable stage error failing =>
    obtain ⟨order, message, rfl | rfl⟩ := failing
    · cases idle
    · cases idle
  | _ => cases idle

/-- The desk holds the id of an active call. -/
theorem Each.active (each : Each desk call) (active : call.stage.active = true) : desk.Held call.cid := by
  obtain ⟨request, stage⟩ := call
  cases stage with
  | start => cases active
  | ended ending => cases active
  | reserved => exact .inr each.1
  | registered stub => exact .inl fun missed => Option.some_ne_none stub (each.1.symm.trans missed)
  | submitting stub => exact .inl fun missed => Option.some_ne_none stub (each.1.symm.trans missed)
  | failing order message => exact each.1
  | answered placed => exact each.1
  | unrecorded placed failure => exact each.1
  | recording order => exact each.1
  | marked result => exact each
  | releasing ending => exact each

theorem Pair.idle {first second : PlaceCall} (idle : first.stage.active = false) : Pair first second := by
  intro _ active
  rw [idle] at active
  cases active

/-- What a step does to a call that does not act. -/
theorem act_other {step : PlaceStep} {call' : PlaceCall} (their : Each desk other)
    (mine : Pair call other) (unexpired : desk.unexpired call step)
    (taken : desk.act call step = some (after, call')) :
    Each after other ∧ Pair call' other ∧ Pair other call' := by
  have sameId : call'.cid = call.cid := by
    obtain ⟨_, _, -, -, rfl⟩ := act_some taken
    rfl
  -- an active bystander with the id of the call finds the call idle before and behind the step
  have idle : other.cid = call.cid → other.stage.active = true →
      call.stage.active = false ∧ call'.stage.active = false := by
    intro same active
    have before : call.stage.active = false := by
      rw [← Bool.not_eq_true]
      exact fun acting => Bool.false_ne_true ((mine same.symm acting).symm.trans active)
    refine ⟨before, ?_⟩
    rw [← Bool.not_eq_true]
    intro activated
    have held := their.active active
    rw [same] at held
    exact act_activates taken unexpired before activated held
  refine ⟨?_, fun same activated => ?_, fun same active => ?_⟩
  · by_cases active : other.stage.active = true
    · refine their.steady (act_steady taken ?_)
      by_cases same : other.cid = call.cid
      · exact .inr (idle same active)
      · exact .inl same
    · obtain ⟨request, stage⟩ := other
      cases stage with
      | start => trivial
      | ended ending => trivial
      | _ => exact absurd rfl active
  · rw [← Bool.not_eq_true]
    intro active
    exact Bool.false_ne_true ((idle (same.symm.trans sameId) active).2.symm.trans activated)
  · exact (idle (same.trans sameId) active).2

theorem preserves : Pool.Preserves (@act cache) unexpired Common Each Pair where
  own common each _ taken := act_own common each taken
  other _ _ their mine _ unexpired taken := act_other their mine unexpired taken

/-- Any number of calls, none of which has started, on one order manager. -/
def started {ι : Type} (manager : OrderManager cache) (requests : ι → OmsOrderCommand) :
    Pool ι (OrderDesk cache) PlaceCall where
  shared := { manager := manager }
  thread i := { request := requests i }

/-- No two submissions of an id are in flight, an id whose submission has returned is
submitted once and never again, and a call that comes later ends at once with an outcome
that refers to the order. -/
structure PlacedOnce {ι : Type} (pool : Pool ι (OrderDesk cache) PlaceCall) : Prop where
  alone : ∀ i j, i ≠ j → (pool.thread i).stage.inFlight = true → (pool.thread j).stage.inFlight = true →
    (pool.thread i).cid ≠ (pool.thread j).cid
  once : ∀ returned ∈ pool.shared.returned, pool.shared.submitted.count returned.correlationId = 1
  refers : ∀ returned ∈ pool.shared.returned, ∀ now durable, ∃ existing, returned.refers existing ∧
    (pool.shared.manager.checkAndReserve returned.correlationId now durable).2 =
      some (.returned (OrderManager.earlyResult existing))

theorem active_of_inFlight {stage : PlaceStage} (inFlight : stage.inFlight = true) : stage.active = true := by
  cases stage with
  | submitting stub => rfl
  | _ => cases inFlight

/-- Over every interleaving of any number of calls, each correlation id is placed once, as
long as no check finds an expired reservation. -/
theorem placed_once {ι : Type} [DecidableEq ι] (manager : OrderManager cache) (requests : ι → OmsOrderCommand)
    (steps : List (ι × PlaceStep)) (pool : Pool ι (OrderDesk cache) PlaceCall)
    (run : exec (Pool.step act) (started manager requests) steps = some pool)
    (met : Meets (Pool.step act) (fun p (event : ι × PlaceStep) => p.shared.unexpired (p.thread event.1) event.2)
      (started manager requests) steps) :
    PlacedOnce pool := by
  have initial : Pool.Holds Common Each Pair (started manager requests) := by
    refine ⟨⟨List.nodup_nil, ?_, ?_, ?_⟩, fun _ => trivial, fun _ _ _ => Pair.idle rfl⟩
    · rintro cid ⟨⟩
    · rintro returned ⟨⟩
    · rintro returned ⟨⟩
  have holds := preserves.exec initial met run
  refine ⟨fun i j ne first second same => ?_, fun returned member => ?_, fun returned member now durable => ?_⟩
  · have idle := holds.pair i j ne same (active_of_inFlight first)
    rw [active_of_inFlight second] at idle
    cases idle
  · exact List.count_eq_one_of_mem holds.common.once (holds.common.sent returned member)
  · obtain ⟨existing, found, refers⟩ := holds.common.refers returned member
    refine ⟨existing, refers, ?_⟩
    rw [OrderManager.checkAndReserve_filed found]

/-- An order manager as the process starts it. -/
def freshManager : OrderManager (leastRecentlyUsed Nat 10000 86400) := {}

def twoCalls : Fin 2 → OmsOrderCommand := fun _ => {
  symbol := "RELIANCE"
  exchange := "NSE"
  side := .BUY
  quantity := 10
  correlationId := "6f1c"
  correlationId_present := sampleId_present }

def brokerOrder (orderId : String) : Order where
  orderId := orderId
  symbol := "RELIANCE"
  exchange := "NSE"
  side := .BUY
  orderType := .MARKET
  quantity := 10

/-- The second call checks after the first one's submission has returned and before it is recorded. -/
def secondMeetsFirst : List (Fin 2 × PlaceStep) := [
  (0, .check 0 .nothing), (0, .register "OM-1" none none none true), (0, .intent none),
  (0, .returns (brokerOrder "220901")), (1, .check 1 .nothing), (0, .outcome none), (0, .record)]

theorem placed_once_two_calls :
    ∃ pool, exec (Pool.step act) (started freshManager twoCalls) secondMeetsFirst = some pool ∧
      pool.shared.returned.length = 1 ∧ PlacedOnce pool := by
  have runs : (exec (Pool.step act) (started freshManager twoCalls) secondMeetsFirst).map
      (·.shared.returned.length) = some 1 := by decide +kernel
  obtain ⟨pool, run, returned⟩ := Option.map_eq_some_iff.mp runs
  exact ⟨pool, run, returned, placed_once freshManager twoCalls _ pool run (by decide +kernel)⟩

/-- A call pauses for more than a day between its reservation and its registration, and
another one reserves the id meanwhile. Then both submit. -/
def pausedForADay : List (Fin 2 × PlaceStep) := [
  (0, .check 0 .nothing), (1, .check 86401 .nothing), (0, .register "OM-1" none none none true),
  (1, .register "OM-2" none none none true), (0, .intent none), (1, .intent none)]

/-- The same pause, and the second call submits after the first one's submission has returned. -/
def pausedAndResent : List (Fin 2 × PlaceStep) := [
  (0, .check 0 .nothing), (1, .check 86401 .nothing), (0, .register "OM-1" none none none true), (0, .intent none),
  (0, .returns (brokerOrder "220901")), (1, .register "OM-2" none none none true), (1, .intent none)]

theorem placed_twice :
    (exec (Pool.step act) (started freshManager twoCalls) pausedForADay).map
      (fun pool => ((pool.thread 0).stage.inFlight, (pool.thread 1).stage.inFlight)) = some (true, true) ∧
    (exec (Pool.step act) (started freshManager twoCalls) pausedAndResent).map
      (fun pool => (pool.shared.returned.length, pool.shared.submitted)) = some (1, ["6f1c", "6f1c"]) ∧
    ¬ ∀ (manager : OrderManager (leastRecentlyUsed Nat 10000 86400)) (requests : Fin 2 → OmsOrderCommand)
        (steps : List (Fin 2 × PlaceStep))
        (pool : Pool (Fin 2) (OrderDesk (leastRecentlyUsed Nat 10000 86400)) PlaceCall),
      exec (Pool.step act) (started manager requests) steps = some pool → PlacedOnce pool := by
  have paused : (exec (Pool.step act) (started freshManager twoCalls) pausedForADay).map
      (fun pool => ((pool.thread 0).stage.inFlight, (pool.thread 1).stage.inFlight)) = some (true, true) := by
    decide +kernel
  have sameId : (exec (Pool.step act) (started freshManager twoCalls) pausedForADay).map
      (fun pool => decide ((pool.thread 0).cid = (pool.thread 1).cid)) = some true := by decide +kernel
  refine ⟨paused, by decide +kernel, fun claim => ?_⟩
  obtain ⟨pool, run, ends⟩ := Option.map_eq_some_iff.mp paused
  have first : (pool.thread 0).stage.inFlight = true := congrArg Prod.fst ends
  have second : (pool.thread 1).stage.inFlight = true := congrArg Prod.snd ends
  have placed := claim freshManager twoCalls pausedForADay pool run
  rw [run] at sameId
  exact placed.alone 0 1 (by decide) first second (of_decide_eq_true (Option.some.inj sameId))

end OrderDesk

end TradeX.V1
