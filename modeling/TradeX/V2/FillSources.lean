import TradeX.V2.Domain

/-! The fill sources: simulated, paper, broker and replay. Fresh order ids and the
venue behind the paper and broker sources are parameters. -/

namespace TradeX.V2

open Lib

/-- `_filled_from_command`. -/
def filledFromCommand (command : PlaceOrderCommand) (orderId : OrderId)
    (fillPrice : Option ℚ := none) : Except Failure Order := do
  match fillPrice.or command.price with
  | none => throw .fillRequiresPrice
  | some _ =>
    let order : Order := {
      orderId := orderId
      instrumentId := command.instrumentId
      side := command.side
      orderType := command.orderType
      quantity := command.quantity
      price := command.price
      timeInForce := command.timeInForce
      status := .PENDING
      correlationId := command.correlationId }
    let order ← order.transitionTo .SUBMITTED
    let order ← order.transitionTo .FILLED
    return { order with filledQuantity := command.quantity }

/-- `_submitted_from_command`. -/
def submittedFromCommand (command : PlaceOrderCommand) (orderId : OrderId) : Except Failure Order :=
  let order : Order := {
    orderId := orderId
    instrumentId := command.instrumentId
    side := command.side
    orderType := command.orderType
    quantity := command.quantity
    price := command.price
    timeInForce := command.timeInForce
    status := .PENDING
    correlationId := command.correlationId }
  order.transitionTo .SUBMITTED

/-- What a gateway or an adapter answers a placement with. -/
inductive PlaceAnswer where
  | order (order : Order)
  | orderId (orderId : OrderId)
  | nothing
  deriving DecidableEq, Repr

/-- A paper gateway or broker adapter: its first placement method and, where it
has one, its order lookup. -/
structure Venue where
  place : Option (PlaceOrderCommand → Except Failure PlaceAnswer)
  getOrder : Option (Option OrderId → Except Failure (Option Order))

namespace SimulatedFillSource

def submit (fresh : OrderId) (command : PlaceOrderCommand) : Except Failure (Option Order) :=
  some <$> filledFromCommand command fresh

end SimulatedFillSource

namespace PaperFillSource

def submit (gateway : Option Venue) (fresh : OrderId) (command : PlaceOrderCommand) :
    Except Failure (Option Order) :=
  match gateway with
  | none => SimulatedFillSource.submit fresh command
  | some venue => do
    let place ← match venue.place with
      | none => throw (.venue "paper gateway missing submit_order/place_order")
      | some place => pure place
    let oid ← match ← place command with
      | .order order => return some order
      | .orderId oid => pure (some oid)
      | .nothing => pure none
    match venue.getOrder with
    | some get => get oid
    | none => some <$> filledFromCommand command (oid.getD fresh)

end PaperFillSource

namespace BrokerFillSource

def submit (adapter : Option Venue) (command : PlaceOrderCommand) : Except Failure (Option Order) :=
  match adapter with
  | none => .error .adapterRequired
  | some venue => do
    let answer ← match venue.place with
      | none => pure .nothing
      | some place => place command
    match answer with
    | .nothing => throw (.venue "broker adapter missing submit_order/place_order")
    | .order order => return some order
    | .orderId oid =>
      match venue.getOrder with
      | some get => get (some oid)
      | none => some <$> submittedFromCommand command oid

end BrokerFillSource

namespace ReplayFillSource

def submit (recorded : Dict CorrelationId Order) (command : PlaceOrderCommand) :
    Except Failure (Option Order) :=
  match recorded.get command.correlationId with
  | none => .error (.noRecordedFill command.correlationId)
  | some order => .ok (some order)

end ReplayFillSource

/-- The quantity of an order that `_apply_oms` books at once. -/
def Order.booked (order : Order) : ℚ := if order.status = .FILLED then order.filledQuantity else 0

/-- The order is the command's own, and what it books lies between nothing and
the command's quantity. -/
structure PlaceOrderCommand.Answers (command : PlaceOrderCommand) (order : Order) : Prop where
  instrument : order.instrumentId = command.instrumentId
  side : order.side = command.side
  quantity : order.quantity = command.quantity
  least : min 0 command.quantity ≤ order.booked
  most : order.booked ≤ max 0 command.quantity

instance (command : PlaceOrderCommand) (order : Order) : Decidable (command.Answers order) :=
  decidable_of_iff (order.instrumentId = command.instrumentId ∧ order.side = command.side ∧
      order.quantity = command.quantity ∧ min 0 command.quantity ≤ order.booked ∧
      order.booked ≤ max 0 command.quantity)
    ⟨fun ⟨instrument, side, quantity, least, most⟩ => ⟨instrument, side, quantity, least, most⟩,
      fun answers => ⟨answers.instrument, answers.side, answers.quantity, answers.least, answers.most⟩⟩

variable {command : PlaceOrderCommand} {order : Order} {orderId : OrderId}

theorem filledFromCommand_ok {fillPrice : Option ℚ}
    (filled : filledFromCommand command orderId fillPrice = .ok order) :
    order = {
      orderId := orderId
      instrumentId := command.instrumentId
      side := command.side
      orderType := command.orderType
      quantity := command.quantity
      price := command.price
      timeInForce := command.timeInForce
      status := .FILLED
      correlationId := command.correlationId
      filledQuantity := command.quantity } := by
  unfold filledFromCommand at filled
  cases priced : fillPrice.or command.price with
  | none => simp only [priced, throw, throwThe, MonadExceptOf.throw, reduceCtorEq] at filled
  | some price =>
    simp only [priced] at filled
    exact (Except.ok.inj filled).symm

theorem submittedFromCommand_ok :
    submittedFromCommand command orderId = .ok {
      orderId := orderId
      instrumentId := command.instrumentId
      side := command.side
      orderType := command.orderType
      quantity := command.quantity
      price := command.price
      timeInForce := command.timeInForce
      status := .SUBMITTED
      correlationId := command.correlationId } := rfl

theorem filledFromCommand_answers {fillPrice : Option ℚ}
    (filled : filledFromCommand command orderId fillPrice = .ok order) : command.Answers order := by
  rw [filledFromCommand_ok filled]
  exact ⟨rfl, rfl, rfl, min_le_right _ _, le_max_right _ _⟩

theorem submittedFromCommand_answers (submitted : submittedFromCommand command orderId = .ok order) :
    command.Answers order := by
  rw [submittedFromCommand_ok] at submitted
  cases submitted
  exact ⟨rfl, rfl, rfl, min_le_left _ _, le_max_left _ _⟩

theorem SimulatedFillSource.submit_answers
    (submitted : SimulatedFillSource.submit orderId command = .ok (some order)) :
    command.Answers order := by
  unfold SimulatedFillSource.submit at submitted
  cases filled : filledFromCommand command orderId with
  | error failure => simp only [filled, Functor.map, Except.map, reduceCtorEq] at submitted
  | ok answer =>
    simp only [filled, Functor.map, Except.map, Except.ok.injEq, Option.some.injEq] at submitted
    exact submitted ▸ filledFromCommand_answers filled

/-- The orders a venue reports for the command are the command's own. -/
structure Venue.Honest (venue : Venue) (command : PlaceOrderCommand) : Prop where
  placed : ∀ place order, venue.place = some place → place command = .ok (.order order) →
    command.Answers order
  found : ∀ get orderId order, venue.getOrder = some get → get orderId = .ok (some order) →
    command.Answers order

theorem BrokerFillSource.submit_answers {venue : Venue} (honest : venue.Honest command)
    (submitted : BrokerFillSource.submit (some venue) command = .ok (some order)) :
    command.Answers order := by
  unfold BrokerFillSource.submit at submitted
  cases places : venue.place with
  | none => simp [places, bind, Except.bind, pure, Except.pure, throw, throwThe, MonadExceptOf.throw] at submitted
  | some place =>
    cases answered : place command with
    | error failure => simp [places, answered, bind, Except.bind] at submitted
    | ok answer =>
      cases answer with
      | nothing =>
        simp [places, answered, bind, Except.bind, throw, throwThe, MonadExceptOf.throw] at submitted
      | order placed =>
        simp only [places, answered, bind, Except.bind, pure, Except.pure, Except.ok.injEq,
          Option.some.injEq] at submitted
        exact submitted ▸ honest.placed place placed places answered
      | orderId oid =>
        cases gets : venue.getOrder with
        | some get =>
          simp only [places, answered, gets, bind, Except.bind] at submitted
          exact honest.found get _ order gets submitted
        | none =>
          simp only [places, answered, gets, bind, Except.bind, submittedFromCommand_ok, Functor.map,
            Except.map, Except.ok.injEq, Option.some.injEq] at submitted
          exact submitted ▸ submittedFromCommand_answers submittedFromCommand_ok

end TradeX.V2
