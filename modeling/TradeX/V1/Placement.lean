import TradeX.Lib.Runs
import TradeX.V1.OrderManager

/-! `place_order` section by section. Between two sections under the lock of the book
other callers may act. What a collaborator outside the book answers comes with the step. -/

namespace TradeX.V1

open Lib

/-- Where a call of `place_order` stands between two sections. -/
inductive PlaceStage where
  | start
  | reserved
  | registered (order : Order)
  | submitting (order : Order)
  | failing (order : Order) (message : String)
  | marked (result : OrderResult)
  | answered (placed : Order)
  | unrecorded (placed : Order) (failure : String)
  | recording (order : Order)
  | releasing (ending : OperationEnd)
  | ended (ending : OperationEnd)
  deriving DecidableEq

inductive PlaceStep where
  | check (now : ℚ) (durable : DurableAnswer)
  | register (orderId : String) (gate risk blocked : Option String) (submits : Bool)
  /-- `record_intent`; behind it `submit_fn` is called. -/
  | intent (failure : Option String)
  | returns (placed : Order)
  | raises (message : String)
  | outcome (failure : Option String)
  | markUnknown
  | record
  | release
  deriving DecidableEq

namespace OrderManager

variable {cache : TTLCache.{0, v} Nat}

/-- The section that marks the order of a failed submission, if its status lets it. -/
def markUnknown (manager : OrderManager cache) (order : Order) (correlationId : String)
    (next : Order → PlaceStage) : OrderManager cache × PlaceStage :=
  match order.withStatus .UNKNOWN with
  | .error error => (manager, .releasing (.raised error))
  | .ok unknown => (manager.register unknown correlationId, next unknown)

/-- One step of `place_order`. -/
def act (request : OmsOrderCommand) (manager : OrderManager cache) :
    PlaceStage → PlaceStep → Option (OrderManager cache × PlaceStage)
  | .start, .check now durable =>
    let checked := manager.checkAndReserve request.correlationId now durable
    some (checked.1, checked.2.elim .reserved .ended)
  | .reserved, .register orderId gate risk blocked submits =>
    match buildAndValidate gate risk orderId request with
    | .error rejection => some (manager, .releasing (.returned rejection))
    | .ok order =>
      match blocked with
      | some reason => some (manager, .releasing (.returned { success := false, error := some reason }))
      | none =>
        if submits = true then some (manager.register order request.correlationId, .registered order)
        else some (manager, .recording order)
  | .registered order, .intent none => some (manager, .submitting order)
  | .registered order, .intent (some failure) => some (manager, .failing order failure)
  | .submitting _, .returns placed => some (manager, .answered placed)
  | .submitting order, .raises message => some (manager, .failing order message)
  | .failing order message, .markUnknown =>
    some (manager.markUnknown order request.correlationId fun unknown => .marked (unknownResult unknown message))
  | .marked result, .outcome none => some (manager, .releasing (.returned result))
  | .marked _, .outcome (some failure) => some (manager, .releasing (.raised (.ledger failure)))
  | .answered placed, .outcome none => some (manager, .recording placed)
  | .answered placed, .outcome (some failure) => some (manager, .unrecorded placed failure)
  | .unrecorded placed failure, .markUnknown =>
    some (manager.markUnknown placed request.correlationId fun unknown => .releasing (.returned
      (unknownResult unknown ("accepted broker order could not be durably recorded: " ++ failure))))
  | .recording order, .record =>
    some (manager.recordAndPublish order request.correlationId,
      .ended (.returned { success := true, order := some order, state := some .ACCEPTED }))
  | .releasing ending, .release => some (manager.releasePending request.correlationId, .ended ending)
  | _, _ => none

/-- The step of a call that nobody disturbs. -/
def actAlone (request : OmsOrderCommand) (state : OrderManager cache × PlaceStage) (step : PlaceStep) :
    Option (OrderManager cache × PlaceStage) := act request state.1 state.2 step

/-- What a step does to the manager and to the stage of the call. -/
inductive Acts (request : OmsOrderCommand) (manager : OrderManager cache) :
    PlaceStage → PlaceStep → OrderManager cache → PlaceStage → Prop where
  | early (now : ℚ) (durable : DurableAnswer) (ending : OperationEnd) :
      (manager.checkAndReserve request.correlationId now durable).2 = some ending →
      Acts request manager .start (.check now durable)
        (manager.checkAndReserve request.correlationId now durable).1 (.ended ending)
  | reserve (now : ℚ) (durable : DurableAnswer) :
      manager.book.byCorrelation.get request.correlationId = none →
      manager.inFlight request.correlationId now = false →
      Acts request manager .start (.check now durable)
        { manager with pending := manager.pending.set request.correlationId (now + pendingTtl) } .reserved
  | refuse (step : PlaceStep) (result : OrderResult) :
      Acts request manager .reserved step manager (.releasing (.returned result))
  | direct (step : PlaceStep) (order : Order) : Acts request manager .reserved step manager (.recording order)
  | register (step : PlaceStep) (order : Order) :
      Acts request manager .reserved step (manager.register order request.correlationId) (.registered order)
  | submit (order : Order) : Acts request manager (.registered order) (.intent none) manager (.submitting order)
  | unintended (order : Order) (failure : String) :
      Acts request manager (.registered order) (.intent (some failure)) manager (.failing order failure)
  | returns (order placed : Order) :
      Acts request manager (.submitting order) (.returns placed) manager (.answered placed)
  | raises (order : Order) (message : String) :
      Acts request manager (.submitting order) (.raises message) manager (.failing order message)
  | unmarkable (stage : PlaceStage) (error : OmsError) :
      (∃ order message, stage = .failing order message ∨ stage = .unrecorded order message) →
      Acts request manager stage .markUnknown manager (.releasing (.raised error))
  | mark (order : Order) (message : String) :
      order.withStatus .UNKNOWN = .ok { order with status := .UNKNOWN } →
      Acts request manager (.failing order message) .markUnknown
        (manager.register { order with status := .UNKNOWN } request.correlationId)
        (.marked (unknownResult { order with status := .UNKNOWN } message))
  | markPlaced (placed : Order) (failure error : String) :
      placed.withStatus .UNKNOWN = .ok { placed with status := .UNKNOWN } →
      Acts request manager (.unrecorded placed failure) .markUnknown
        (manager.register { placed with status := .UNKNOWN } request.correlationId)
        (.releasing (.returned (unknownResult { placed with status := .UNKNOWN } error)))
  | outcome (result : OrderResult) (failure : Option String) (ending : OperationEnd) :
      ending = .returned result ∨ (∃ error, ending = .raised error) →
      Acts request manager (.marked result) (.outcome failure) manager (.releasing ending)
  | accept (placed : Order) : Acts request manager (.answered placed) (.outcome none) manager (.recording placed)
  | unrecord (placed : Order) (failure : String) :
      Acts request manager (.answered placed) (.outcome (some failure)) manager (.unrecorded placed failure)
  | record (order : Order) :
      Acts request manager (.recording order) .record (manager.recordAndPublish order request.correlationId)
        (.ended (.returned { success := true, order := some order, state := some .ACCEPTED }))
  | release (ending : OperationEnd) :
      Acts request manager (.releasing ending) .release (manager.releasePending request.correlationId)
        (.ended ending)

variable {request : OmsOrderCommand} {manager after : OrderManager cache} {stage next : PlaceStage}
  {step : PlaceStep}

/-- A step does one of these things. -/
theorem act_acts (taken : act request manager stage step = some (after, next)) :
    Acts request manager stage step after next := by
  unfold act at taken
  split at taken
  · next now durable =>
    cases taken
    cases ends : (manager.checkAndReserve request.correlationId now durable).2 with
    | some ending => exact .early now durable ending ends
    | none =>
      obtain ⟨reserves, missed, idle⟩ := checkAndReserve_none ends
      rw [reserves]
      exact .reserve now durable missed idle
  · split at taken
    · cases taken
      exact .refuse _ _
    · split at taken
      · cases taken
        exact .refuse _ _
      · split at taken
        · cases taken
          exact .register _ _
        · cases taken
          exact .direct _ _
  · cases taken
    exact .submit _
  · cases taken
    exact .unintended _ _
  · cases taken
    exact .returns _ _
  · cases taken
    exact .raises _ _
  · next order message =>
    unfold markUnknown at taken
    split at taken
    · cases taken
      exact .unmarkable _ _ ⟨order, message, .inl rfl⟩
    · next unknown changed =>
      obtain ⟨rfl, -⟩ := Order.withStatus_ok changed
      cases taken
      exact .mark _ _ changed
  · cases taken
    exact .outcome _ _ _ (.inl rfl)
  · cases taken
    exact .outcome _ _ _ (.inr ⟨_, rfl⟩)
  · cases taken
    exact .accept _
  · cases taken
    exact .unrecord _ _
  · next placed failure =>
    unfold markUnknown at taken
    split at taken
    · cases taken
      exact .unmarkable _ _ ⟨placed, failure, .inr rfl⟩
    · next unknown changed =>
      obtain ⟨rfl, -⟩ := Order.withStatus_ok changed
      cases taken
      exact .markPlaced _ _ _ changed
  · cases taken
    exact .record _
  · cases taken
    exact .release _
  · cases taken

/-- A step keeps the order and the reservation of every other id. -/
theorem Acts.others {id : String} (acts : Acts request manager stage step after next)
    (other : id ≠ request.correlationId) :
    (∀ order, manager.book.byCorrelation.get id = some order →
      after.book.byCorrelation.get id = some order) ∧ after.pending.get id = manager.pending.get id := by
  have registered : ∀ order, (manager.register order request.correlationId).book.byCorrelation.get id =
      manager.book.byCorrelation.get id := fun _ => Dict.get_set_other _ _ _ _ other
  cases acts with
  | early now durable ending ends =>
    obtain ⟨pending, index⟩ := checkAndReserve_early ends
    exact ⟨index id, congrArg (Dict.get · id) pending⟩
  | reserve now durable missed idle => exact ⟨fun _ found => found, Dict.get_set_other _ _ _ _ other⟩
  | register step order => exact ⟨fun _ found => (registered _).trans found, rfl⟩
  | mark order message marks => exact ⟨fun _ found => (registered _).trans found, rfl⟩
  | markPlaced placed failure error marks => exact ⟨fun _ found => (registered _).trans found, rfl⟩
  | record order =>
    refine ⟨fun _ found => ?_, Dict.get_pop_other _ _ _ other⟩
    rw [recordAndPublish_filed, Dict.get_set_other _ _ _ _ other]
    exact found
  | release ending => exact ⟨fun _ found => found, Dict.get_pop_other _ _ _ other⟩
  | _ => exact ⟨fun _ found => found, rfl⟩

/-- What `place_order` does behind `submit_to_broker`. -/
def afterSubmission (request : OmsOrderCommand) (manager : OrderManager cache) :
    SubmitEnd → OrderManager cache × OperationEnd
  | .rejected result => (manager.releasePending request.correlationId, .returned result)
  | .raised error => (manager.releasePending request.correlationId, .raised error)
  | .placed order => (manager.recordAndPublish order request.correlationId,
      .returned { success := true, order := some order, state := some .ACCEPTED })

/-- From a validated order on, the steps of a call that nobody disturbs end as
`submit_to_broker` and what follows it. -/
theorem submitToBroker_sections (reserved : OrderManager cache) (answers : PlaceAnswers) (order : Order)
    (built : buildAndValidate answers.gate answers.risk answers.orderId request = .ok order) :
    ∃ steps last, exec (actAlone request) (reserved, .reserved) steps = some (last.1, .ended last.2) ∧
      last = afterSubmission request
        (reserved.submitToBroker order request answers.blocked answers.submission).1
        (reserved.submitToBroker order request answers.blocked answers.submission).2 := by
  let register := PlaceStep.register answers.orderId answers.gate answers.risk answers.blocked
    answers.submission.isSome
  unfold submitToBroker
  cases guarded : answers.blocked with
  | some reason =>
    refine ⟨[register, .release], _, ?_, rfl⟩
    simp only [register, exec, actAlone, act, built, guarded, Option.bind_some, afterSubmission]
  | none =>
    cases submits : answers.submission with
    | none =>
      refine ⟨[register, .record], _, ?_, rfl⟩
      simp only [register, exec, actAlone, act, built, guarded, submits, Option.isSome_none,
        Bool.false_eq_true, if_false, Option.bind_some, afterSubmission]
    | some submission =>
      have registered : actAlone request (reserved, .reserved) register =
          some (reserved.register order request.correlationId, .registered order) := by
        simp only [register, actAlone, act, built, guarded, submits, Option.isSome_some, if_true]
      suffices behind : ∃ steps last, exec (actAlone request)
          (reserved.register order request.correlationId, .registered order) steps = some _ ∧ last = _ by
        obtain ⟨steps, last, rest, ends⟩ := behind
        exact ⟨register :: steps, last, (exec_cons registered).trans rest, ends⟩
      cases called : submission.brokerCall with
      | error message =>
        cases marks : order.withStatus .UNKNOWN with
        | error error =>
          refine ⟨[.intent none, .raises message, .markUnknown, .release], _, ?_, rfl⟩
          simp only [exec, actAlone, act, markUnknown, marks, Option.bind_some, afterSubmission, called]
        | ok unknown =>
          refine ⟨[.intent none, .raises message, .markUnknown, .outcome submission.outcomeFails, .release],
            _, ?_, rfl⟩
          cases recorded : submission.outcomeFails with
          | none => simp only [exec, actAlone, act, markUnknown, marks, Option.bind_some, afterSubmission, called, recorded]
          | some failure => simp only [exec, actAlone, act, markUnknown, marks, Option.bind_some, afterSubmission, called, recorded]
      | ok placed =>
        cases recorded : submission.outcomeFails with
        | none =>
          refine ⟨[.intent none, .returns placed, .outcome none, .record], _, ?_, rfl⟩
          simp only [exec, actAlone, act, Option.bind_some, afterSubmission, called, recorded]
        | some failure =>
          refine ⟨[.intent none, .returns placed, .outcome (some failure), .markUnknown, .release], _, ?_, rfl⟩
          cases marks : placed.withStatus .UNKNOWN with
          | error error => simp only [exec, actAlone, act, markUnknown, marks, Option.bind_some, afterSubmission, called, recorded]
          | ok unknown => simp only [exec, actAlone, act, markUnknown, marks, Option.bind_some, afterSubmission, called, recorded]

/-- A call that nobody disturbs ends as `place_order`. -/
theorem placeOrder_sections (manager : OrderManager cache) (request : OmsOrderCommand) (answers : PlaceAnswers) :
    ∃ steps, exec (actAlone request) (manager, .start) steps =
      some ((manager.placeOrder request answers).1, .ended (manager.placeOrder request answers).2) := by
  have checked : actAlone request (manager, .start) (.check answers.now answers.durable) =
      some ((manager.checkAndReserve request.correlationId answers.now answers.durable).1,
        (manager.checkAndReserve request.correlationId answers.now answers.durable).2.elim .reserved .ended) := rfl
  unfold placeOrder
  dsimp only
  generalize manager.checkAndReserve request.correlationId answers.now answers.durable = reservation at checked ⊢
  obtain ⟨reserved, early⟩ := reservation
  cases early with
  | some ending => exact ⟨[.check answers.now answers.durable], exec_cons checked⟩
  | none =>
    cases built : buildAndValidate answers.gate answers.risk answers.orderId request with
    | error rejection =>
      refine ⟨[.check answers.now answers.durable,
        .register answers.orderId answers.gate answers.risk answers.blocked true, .release], ?_⟩
      rw [exec_cons checked]
      simp only [exec, actAlone, act, built, Option.bind_some, Option.elim_none]
    | ok order =>
      obtain ⟨steps, last, rest, ends⟩ := submitToBroker_sections reserved answers order built
      refine ⟨.check answers.now answers.durable :: steps, (exec_cons checked).trans (rest.trans ?_)⟩
      rw [ends]
      dsimp only
      cases (reserved.submitToBroker order request answers.blocked answers.submission).2 with
      | rejected result => rfl
      | raised error => rfl
      | placed order => rfl

end OrderManager

end TradeX.V1
