import TradeX.V1.TerminalStatus

/-! What one placement makes of the book, and the order that it records at its end. -/

namespace TradeX.V1

open Lib

namespace OrderManager

variable {cache : TTLCache.{0, v} Nat} {manager after : OrderManager cache} {request : OmsOrderCommand}
  {answers : PlaceAnswers} {order : Order} {id correlationId : String}

theorem checkAndReserve_get (manager : OrderManager cache) (now : ℚ) (durable : DurableAnswer)
    (correlationId id : String) :
    (manager.checkAndReserve correlationId now durable).1.book.orders.get id = manager.book.orders.get id ∨
      ∃ recovered, durable = .recovered recovered ∧ manager.book.orders.get id = none ∧ recovered.orderId = id ∧
        (manager.checkAndReserve correlationId now durable).1.book.orders.get id = some recovered := by
  have looked : (manager.lookupDurableOrder durable).1.book.orders.get id = manager.book.orders.get id ∨
      ∃ recovered, durable = .recovered recovered ∧ manager.book.orders.get id = none ∧ recovered.orderId = id ∧
        (manager.lookupDurableOrder durable).1.book.orders.get id = some recovered := by
    unfold lookupDurableOrder
    split
    · exact .inl rfl
    · exact .inl rfl
    · next recovered =>
      split
      · exact .inl rfl
      · next absent =>
        by_cases same : id = recovered.orderId
        · right
          refine ⟨recovered, rfl, same ▸ absent, same.symm, ?_⟩
          exact (Dict.get_set ..).trans (if_pos same)
        · left
          exact (Dict.get_set ..).trans (if_neg same)
  unfold checkAndReserve
  split
  · exact .inl rfl
  · dsimp only
    split
    · exact looked
    · exact looked
    · split
      · exact looked
      · exact looked

theorem register_get : (manager.register order correlationId).book.orders.get id =
    if id = order.orderId then some order else manager.book.orders.get id :=
  Dict.get_set ..

theorem recordAndPublish_get_other (other : id ≠ order.orderId) :
    (manager.recordAndPublish order correlationId).book.orders.get id =
        manager.book.orders.get id ∨
      ∃ prior, manager.book.byCorrelation.get correlationId = some prior ∧ prior.orderId = id ∧
        (manager.recordAndPublish order correlationId).book.orders.get id = none := by
  have written : (manager.recordAndPublish order correlationId).book.orders.get id =
      ((manager.releasePending correlationId).afterPrior order correlationId).orders.get id :=
    (Dict.get_set ..).trans (if_neg other)
  rw [written]
  unfold afterPrior
  split
  · exact .inl rfl
  · next prior filed =>
    split
    · exact .inl rfl
    · by_cases same : id = prior.orderId
      · right
        exact ⟨prior, filed, same.symm, (Dict.get_pop ..).trans (if_pos same)⟩
      · left
        exact Dict.get_pop_other _ _ _ same

/-- The order that `place_order` hands to `_persist_order`, when the placement gets that far. -/
def placedOrder (manager : OrderManager cache) (request : OmsOrderCommand) (answers : PlaceAnswers) : Option Order :=
  let checked := manager.checkAndReserve request.correlationId answers.now answers.durable
  match checked.2 with
  | some _ => none
  | none =>
    match buildAndValidate answers.gate answers.risk answers.orderId request with
    | .error _ => none
    | .ok order =>
      match (checked.1.submitToBroker order request answers.blocked answers.submission).2 with
      | .placed order => some order
      | _ => none

/-- The placement gets behind the guards: nothing answers for its correlation id, and neither the
gate nor the risk manager nor the mutation guard refuses it. -/
structure Admits (manager : OrderManager cache) (request : OmsOrderCommand) (answers : PlaceAnswers) : Prop where
  unfiled : manager.book.byCorrelation.get request.correlationId = none
  durable : answers.durable = .nothing
  idle : manager.inFlight request.correlationId answers.now = false
  gate : answers.gate = none
  risk : answers.risk = none
  unblocked : answers.blocked = none

instance (manager : OrderManager cache) (request : OmsOrderCommand) (answers : PlaceAnswers) :
    Decidable (manager.Admits request answers) :=
  decidable_of_iff (manager.book.byCorrelation.get request.correlationId = none ∧ answers.durable = .nothing ∧
      manager.inFlight request.correlationId answers.now = false ∧ answers.gate = none ∧ answers.risk = none ∧
      answers.blocked = none)
    ⟨fun ⟨unfiled, durable, idle, gate, risk, unblocked⟩ => ⟨unfiled, durable, idle, gate, risk, unblocked⟩,
      fun admitted => ⟨admitted.unfiled, admitted.durable, admitted.idle, admitted.gate, admitted.risk,
        admitted.unblocked⟩⟩

/-- The order that `build_and_validate` builds. -/
def builtOrder (request : OmsOrderCommand) (orderId : String) : Order where
  orderId := orderId
  symbol := request.symbol
  exchange := request.exchange
  side := request.side
  orderType := request.orderType
  quantity := request.quantity
  price := request.price
  productType := request.productType
  status := .OPEN
  correlationId := some request.correlationId

/-- The order of a submission whose outcome is recorded: the broker's, or the built one. -/
def PlaceAnswers.accepted (answers : PlaceAnswers) (request : OmsOrderCommand) : Option Order :=
  match answers.submission with
  | none => some (builtOrder request answers.orderId)
  | some submission => if submission.outcomeFails = none then submission.brokerCall.toOption else none

/-- What a placement does to the book: nothing, file an order that the lookup recovered, leave the
order of a submission that was not recorded, or record the accepted order. -/
inductive Places (manager : OrderManager cache) (request : OmsOrderCommand) (answers : PlaceAnswers) :
    OrderManager cache → Option Order → Prop where
  | kept (after : OrderManager cache) : after.book = manager.book → Places manager request answers after none
  | known (after : OrderManager cache) (order existing : Order) :
      manager.book.byCorrelation.get request.correlationId = none → answers.durable = .recovered order →
      manager.book.orders.get order.orderId = some existing →
      after.book = manager.book.fileUnder request.correlationId existing →
      Places manager request answers after none
  | recovered (after : OrderManager cache) (order : Order) :
      manager.book.byCorrelation.get request.correlationId = none → answers.durable = .recovered order →
      manager.book.orders.get order.orderId = none →
      after.book = (manager.book.put order).fileUnder request.correlationId order →
      Places manager request answers after none
  | left (after : OrderManager cache) : manager.Admits request answers → answers.accepted request = none →
      Places manager request answers after none
  | recorded (after : OrderManager cache) (order : Order) : manager.Admits request answers →
      answers.accepted request = some order →
      (∀ id, after.book.orders.get id = if id = order.orderId then some order else manager.book.orders.get id) →
      (∀ id, after.book.byCorrelation.get id =
        if id = request.correlationId then some order else manager.book.byCorrelation.get id) →
      Places manager request answers after (some order)

/-- A check that ends the placement keeps the book, or files an order that the lookup recovered. -/
theorem checkAndReserve_places {answers : PlaceAnswers} :
    (manager.checkAndReserve request.correlationId answers.now answers.durable).1.book = manager.book ∨
      Places manager request answers
        (manager.checkAndReserve request.correlationId answers.now answers.durable).1 none := by
  unfold checkAndReserve
  split
  · exact .inl rfl
  · next missed =>
    cases durable : answers.durable with
    | nothing =>
      rw [lookupDurableOrder_nothing]
      dsimp only
      left
      split <;> rfl
    | raises message => exact .inl rfl
    | recovered order =>
      right
      unfold lookupDurableOrder
      dsimp only
      cases found : manager.book.orders.get order.orderId with
      | some existing => exact .known _ order existing missed durable found rfl
      | none => exact .recovered _ order missed durable found rfl

theorem buildAndValidate_passes {gate risk : Option String} {orderId : String}
    (built : buildAndValidate gate risk orderId request = .ok order) :
    gate = none ∧ risk = none ∧ order = builtOrder request orderId := by
  unfold buildAndValidate at built
  split at built
  · cases built
  · split at built
    · cases built
    · cases built
      exact ⟨rfl, rfl, rfl⟩

/-- Without an early end nothing answered for the correlation id. -/
theorem checkAndReserve_free {now : ℚ} {durable : DurableAnswer}
    (free : (manager.checkAndReserve correlationId now durable).2 = none) :
    (manager.checkAndReserve correlationId now durable).1.book = manager.book ∧
      manager.book.byCorrelation.get correlationId = none ∧ manager.inFlight correlationId now = false ∧
      durable = .nothing := by
  obtain ⟨reserved, missed, idle⟩ := checkAndReserve_none free
  refine ⟨by rw [reserved], missed, idle, ?_⟩
  unfold checkAndReserve at free
  rw [missed] at free
  cases durable with
  | nothing => rfl
  | raises message => cases free
  | recovered order =>
    dsimp only at free
    rw [lookupDurableOrder_recovered] at free
    cases free

/-- Where the guard lets the placement pass, the check ends without an early answer. -/
theorem Admits.free (admitted : manager.Admits request answers) :
    (manager.checkAndReserve request.correlationId answers.now answers.durable).2 = none := by
  unfold checkAndReserve
  rw [admitted.unfiled, admitted.durable, lookupDurableOrder_nothing]
  dsimp only
  rw [admitted.idle, if_neg Bool.false_ne_true]

theorem recordAndPublish_get_unfiled (unfiled : manager.book.byCorrelation.get correlationId = none) (id : String) :
    (manager.recordAndPublish order correlationId).book.orders.get id =
      if id = order.orderId then some order else manager.book.orders.get id := by
  unfold recordAndPublish afterPrior
  dsimp only
  rw [show (manager.releasePending correlationId).book.byCorrelation.get correlationId = none from unfiled]
  exact Dict.get_set ..

/-- The order filed under the id before is dropped, if it is another one. -/
theorem recordAndPublish_get_prior {prior : Order}
    (filed : manager.book.byCorrelation.get correlationId = some prior) (id : String) :
    (manager.recordAndPublish order correlationId).book.orders.get id =
      if id = order.orderId then some order
      else if id = prior.orderId then none else manager.book.orders.get id := by
  unfold recordAndPublish afterPrior
  dsimp only
  rw [show (manager.releasePending correlationId).book.byCorrelation.get correlationId = some prior from filed]
  dsimp only
  refine (Dict.get_set ..).trans ?_
  by_cases written : id = order.orderId
  · rw [if_pos written, if_pos written]
  · rw [if_neg written, if_neg written]
    by_cases same : prior.orderId = order.orderId
    · rw [if_pos same, same, if_neg written]
      rfl
    · rw [if_neg same]
      exact Dict.get_pop ..

theorem recordAndPublish_get_filed (id : String) :
    (manager.recordAndPublish order correlationId).book.byCorrelation.get id =
      if id = correlationId then some order else manager.book.byCorrelation.get id := by
  rw [recordAndPublish_filed, Dict.get_set]

/-- Every placement is one of these. -/
theorem placeOrder_places (fresh : manager.book.orders.get answers.orderId = none) :
    Places manager request answers (manager.placeOrder request answers).1 (manager.placedOrder request answers) := by
  have looked := @checkAndReserve_places _ manager request answers
  have freed := @checkAndReserve_free _ manager request.correlationId answers.now answers.durable
  unfold placeOrder placedOrder
  dsimp only
  generalize manager.checkAndReserve request.correlationId answers.now answers.durable = check at looked freed ⊢
  obtain ⟨reserved, ending⟩ := check
  cases ending with
  | some ending =>
    rcases looked with kept | places
    · exact .kept _ kept
    · exact places
  | none =>
    obtain ⟨same, missed, idle, durable⟩ := freed rfl
    dsimp only at same ⊢
    cases validated : buildAndValidate answers.gate answers.risk answers.orderId request with
    | error rejection => exact .kept _ same
    | ok stub =>
      obtain ⟨gate, risk, stubbed⟩ := buildAndValidate_passes validated
      have stubId := buildAndValidate_ok validated
      cases blocks : answers.blocked with
      | some reason => exact .kept _ same
      | none =>
        have admitted : manager.Admits request answers := ⟨missed, durable, idle, gate, risk, blocks⟩
        have submits := submitToBroker_submits reserved stub request none answers.submission
        dsimp only
        generalize reserved.submitToBroker stub request none answers.submission = submitted at submits ⊢
        obtain ⟨after, ends⟩ := submitted
        have accepts := PlaceAnswers.accepted.eq_def answers request
        generalize answers.submission = submission at submits accepts
        cases submits with
        | blocked => exact .kept _ same
        | direct =>
          have accepted : answers.accepted request = some stub := accepts.trans (congrArg some stubbed.symm)
          have unfiled : after.book.byCorrelation.get request.correlationId = none := by rw [same, missed]
          refine .recorded _ stub admitted accepted (fun id => ?_) fun id => ?_
          · rw [← same]
            exact recordAndPublish_get_unfiled unfiled id
          · rw [← same]
            exact recordAndPublish_get_filed id
        | failed submission _ _ failed unplaced =>
          have unaccepted : answers.accepted request = none := by
            rw [accepts]
            dsimp only
            split
            · next recorded =>
              cases called : submission.brokerCall with
              | error message => rfl
              | ok placed => exact absurd recorded (failed placed called)
            · rfl
          cases ends with
          | placed order => exact absurd rfl (unplaced order)
          | rejected result => exact .left _ admitted unaccepted
          | raised error => exact .left _ admitted unaccepted
        | placed submission placed called recorded =>
          have accepted : answers.accepted request = some placed := by
            rw [accepts]
            dsimp only
            rw [if_pos recorded, called]
            rfl
          have written : ∀ id, ((reserved.register stub request.correlationId).recordAndPublish placed
              request.correlationId).book.orders.get id =
              if id = placed.orderId then some placed else manager.book.orders.get id := by
            intro id
            rw [recordAndPublish_get_prior register_filed, register_get, same, stubId]
            by_cases drawn : id = answers.orderId
            · rw [if_pos drawn, drawn, fresh]
            · rw [if_neg drawn, if_neg drawn]
          refine .recorded _ placed admitted accepted written fun id => (recordAndPublish_get_filed id).trans ?_
          rw [← same]
          split
          · rfl
          · next other => exact Dict.get_set_other _ _ _ _ other
        | unrecorded submission placed result called fails =>
          refine .left _ admitted ?_
          rw [accepts]
          exact if_neg fails

end OrderManager

end TradeX.V1
