import TradeX.V2.PaperGateway

/-! The order book of the paper gateway: orders that are placed, filled at once or left open, modified and
cancelled, and the positions that the fills build up. -/

namespace TradeX.V2

open Lib

def OrderStatus.terminal (status : OrderStatus) : Bool :=
  status ∈ [OrderStatus.FILLED, .CANCELLED, .REJECTED]

/-- What the order adapter raises, with the values its messages show. -/
inductive BookFailure where
  | unknownOrder (orderId : OrderId)
  | cannotCancel (status : OrderStatus)
  | order (failure : Failure)
  deriving DecidableEq, Repr

namespace PaperConnection

/-- `cancel_order`. -/
def cancelOrder (connection : PaperConnection) (orderId : OrderId) : Except BookFailure PaperConnection :=
  match connection.orders.get orderId with
  | none => .error (.unknownOrder orderId)
  | some order =>
    if order.status.terminal then .error (.cannotCancel order.status)
    else
      match order.transitionTo .CANCELLED with
      | .error failure => .error (.order failure)
      | .ok cancelled => .ok { connection with orders := connection.orders.set orderId cancelled }

/-- `modify_order`. -/
def modifyOrder (connection : PaperConnection) (orderId : OrderId) (command : PlaceOrderCommand) :
    Except BookFailure PaperConnection :=
  match connection.orders.get orderId with
  | none => .error (.unknownOrder orderId)
  | some order =>
    .ok { connection with
      orders := connection.orders.set orderId { order with price := command.price, quantity := command.quantity } }

/-- `get_orderbook`. -/
def getOrderbook (connection : PaperConnection) : List Order := connection.orders.values

end PaperConnection

inductive BookEvent where
  /-- The id is the one that `uuid4` draws. -/
  | placeOrder (orderId : OrderId) (command : PlaceOrderCommand)
  | modifyOrder (orderId : OrderId) (command : PlaceOrderCommand)
  | cancelOrder (orderId : OrderId)
  | setQuote (instrumentId : InstrumentId) (bid ask : ℚ)
  | setAutoFill (autoFill : Bool)
  deriving DecidableEq, Repr

namespace PaperBook

/-- What raises leaves the connection as it is. -/
def next (s : PaperConnection) : BookEvent → PaperConnection
  | .placeOrder orderId command =>
    match s.placeOrder orderId command with
    | .error _ => s
    | .ok placed => placed.1
  | .modifyOrder orderId command =>
    match s.modifyOrder orderId command with
    | .error _ => s
    | .ok modified => modified
  | .cancelOrder orderId =>
    match s.cancelOrder orderId with
    | .error _ => s
    | .ok cancelled => cancelled
  | .setQuote instrumentId bid ask => s.setQuote instrumentId bid ask
  | .setAutoFill autoFill => { s with autoFill := autoFill }

def step (s : PaperConnection) (event : BookEvent) : Option PaperConnection := some (next s event)

/-- The draw of `uuid4` is not the id of an order in the book. -/
def FreshId (s : PaperConnection) : BookEvent → Prop
  | .placeOrder orderId _ => s.orders.get orderId = none
  | _ => True

/-- The quantity of the position in an instrument; an absent position is flat. -/
def positionQuantity (s : PaperConnection) (instrumentId : InstrumentId) : ℚ :=
  ((s.positions.get instrumentId).map Position.quantity).getD 0

/-- What an order adds to the position in an instrument. -/
def signedFilled (instrumentId : InstrumentId) (order : Order) : ℚ :=
  if order.instrumentId = instrumentId then order.side.signed order.filledQuantity else 0

/-- Each instrument's position is the sum of the signed filled quantities of the orders on it. -/
def Balanced (s : PaperConnection) : Prop :=
  ∀ instrumentId, positionQuantity s instrumentId = (s.getOrderbook.map (signedFilled instrumentId)).sum

/-- Every order's filled quantity is between nought and its quantity. -/
def WithinQuantity (s : PaperConnection) : Prop :=
  ∀ orderId order, s.orders.get orderId = some order → 0 ≤ order.filledQuantity ∧ order.filledQuantity ≤ order.quantity

/-- Every order that is done in the first book is the same in the second. -/
def KeepsTerminal (s t : PaperConnection) : Prop :=
  ∀ orderId order, s.orders.get orderId = some order → order.status.terminal = true → t.orders.get orderId = some order

/-- No order is placed for a negative quantity, a modification does not go below what is filled, and one of an
order that is done changes nothing. -/
def Respects (s : PaperConnection) : BookEvent → Prop
  | .placeOrder _ command => 0 ≤ command.quantity
  | .modifyOrder orderId command => ∀ order, s.orders.get orderId = some order →
      order.filledQuantity ≤ command.quantity ∧
        (order.status.terminal = true → command.price = order.price ∧ command.quantity = order.quantity)
  | _ => True

variable {s t : PaperConnection} {event : BookEvent} {events : List BookEvent} {orderId : OrderId}
  {command : PlaceOrderCommand} {instrumentId : InstrumentId} {order written : Order}

theorem fillPosition_quantity (delta price : ℚ) (held : Option Position) :
    ((PaperConnection.fillPosition instrumentId delta price held).map Position.quantity).getD 0 =
      (held.map Position.quantity).getD 0 + delta := by
  cases held with
  | none => exact (zero_add delta).symm
  | some pos =>
    simp only [PaperConnection.fillPosition]
    split
    · next flat => exact flat.symm
    · split
      · rfl
      · split <;> rfl

theorem applyFill_quantity (side : OrderSide) (qty price : ℚ) (other : InstrumentId) :
    positionQuantity (s.applyFill side instrumentId qty price) other =
      positionQuantity s other + if instrumentId = other then side.signed qty else 0 := by
  simp only [positionQuantity, PaperConnection.applyFill_positions]
  by_cases same : other = instrumentId
  · rw [if_pos same, if_pos same.symm, fillPosition_quantity, same]
  · rw [if_neg same, if_neg fun equal => same equal.symm, add_zero]

/-- A placement writes one order of the command's quantity, filled or open, and books what is filled of it. -/
theorem next_placeOrder (s : PaperConnection) (orderId : OrderId) (command : PlaceOrderCommand) :
    ∃ order : Order, (next s (.placeOrder orderId command)).orders = s.orders.set orderId order ∧
      order.quantity = command.quantity ∧ (order.filledQuantity = 0 ∨ order.filledQuantity = command.quantity) ∧
      ∀ instrumentId, positionQuantity (next s (.placeOrder orderId command)) instrumentId =
        positionQuantity s instrumentId + signedFilled instrumentId order := by
  simp only [next, PaperConnection.placeOrder, submittedFromCommand_ok, bind, Except.bind]
  by_cases auto : s.autoFill = true
  · rw [if_pos auto]
    dsimp only [Order.transitionTo]
    rw [if_pos (by decide)]
    refine ⟨command.filledOrder orderId, rfl, rfl, .inr rfl, fun instrumentId => ?_⟩
    exact applyFill_quantity command.side command.quantity (s.fillPrice command) instrumentId
  · rw [if_neg auto]
    refine ⟨_, rfl, rfl, .inl rfl, fun instrumentId => ?_⟩
    simp only [signedFilled, OrderSide.signed_zero, ite_self, add_zero]
    rfl

theorem next_modifyOrder_unknown (missing : s.orders.get orderId = none) :
    next s (.modifyOrder orderId command) = s := by
  simp only [next, PaperConnection.modifyOrder, missing]

theorem next_modifyOrder (found : s.orders.get orderId = some order) :
    next s (.modifyOrder orderId command) = { s with
      orders := s.orders.set orderId { order with price := command.price, quantity := command.quantity } } := by
  simp only [next, PaperConnection.modifyOrder, found]

/-- A cancellation writes the status of an order that is not done, or nothing. -/
theorem next_cancelOrder (s : PaperConnection) (orderId : OrderId) : next s (.cancelOrder orderId) = s ∨
    ∃ order, s.orders.get orderId = some order ∧ order.status.terminal = false ∧
      next s (.cancelOrder orderId) = { s with
        orders := s.orders.set orderId { order with status := .CANCELLED } } := by
  simp only [next, PaperConnection.cancelOrder]
  cases found : s.orders.get orderId with
  | none => exact .inl rfl
  | some order =>
    dsimp only
    by_cases done : order.status.terminal = true
    · rw [if_pos done]
      exact .inl rfl
    · rw [if_neg done]
      dsimp only [Order.transitionTo]
      by_cases legal : OrderStatus.CANCELLED ∈ order.status.legal
      · rw [if_pos legal]
        exact .inr ⟨order, rfl, Bool.eq_false_of_not_eq_true done, rfl⟩
      · rw [if_neg legal]
        exact .inl rfl

/-- A write that leaves what an order adds keeps the positions balanced. -/
theorem Balanced.rewrite (balanced : Balanced s) (found : s.orders.get orderId = some order)
    (same : ∀ instrumentId, signedFilled instrumentId written = signedFilled instrumentId order) :
    Balanced { s with orders := s.orders.set orderId written } := by
  intro instrumentId
  have before := balanced instrumentId
  simp only [PaperConnection.getOrderbook] at before ⊢
  rw [Dict.sum_values_set, found, Option.map_some, Option.getD_some, same, sub_add_cancel]
  exact before

theorem next_balanced (balanced : Balanced s) (fresh : FreshId s event) : Balanced (next s event) := by
  cases event with
  | placeOrder orderId command =>
    obtain ⟨order, orders, -, -, positions⟩ := next_placeOrder s orderId command
    intro instrumentId
    have missing : s.orders.get orderId = none := fresh
    have before := balanced instrumentId
    simp only [PaperConnection.getOrderbook] at before ⊢
    rw [positions, orders, Dict.sum_values_set, missing, Option.map_none, Option.getD_none, sub_zero, before]
  | modifyOrder orderId command =>
    cases found : s.orders.get orderId with
    | none =>
      rw [next_modifyOrder_unknown found]
      exact balanced
    | some order =>
      rw [next_modifyOrder found]
      exact balanced.rewrite found fun _ => rfl
  | cancelOrder orderId =>
    rcases next_cancelOrder s orderId with same | ⟨order, found, -, written⟩
    · rw [same]
      exact balanced
    · rw [written]
      exact balanced.rewrite found fun _ => rfl
  | setQuote => exact balanced
  | setAutoFill => exact balanced

theorem KeepsTerminal.refl (s : PaperConnection) : KeepsTerminal s s := fun _ _ found _ => found

/-- A write of an order that is not done leaves those that are. -/
theorem keepsTerminal_set (open_ : ∀ order, s.orders.get orderId = some order → order.status.terminal = false)
    (orders : t.orders = s.orders.set orderId written) : KeepsTerminal s t := by
  intro other done found terminal
  rw [orders, Dict.get_set, if_neg, found]
  rintro rfl
  rw [open_ done found] at terminal
  cases terminal

theorem withinQuantity_set (within : WithinQuantity s) (orders : t.orders = s.orders.set orderId written) :
    WithinQuantity t ↔ 0 ≤ written.filledQuantity ∧ written.filledQuantity ≤ written.quantity := by
  constructor
  · intro all
    apply all orderId written
    rw [orders, Dict.get_set_self]
  · intro here other order found
    rw [orders, Dict.get_set] at found
    split at found
    · rw [← Option.some.inj found]
      exact here
    · exact within other order found

/-- A step keeps the book exactly where it respects it. -/
theorem next_keeps_iff (within : WithinQuantity s) (fresh : FreshId s event) :
    KeepsTerminal s (next s event) ∧ WithinQuantity (next s event) ↔ Respects s event := by
  cases event with
  | placeOrder orderId command =>
    obtain ⟨order, orders, quantity, filled, -⟩ := next_placeOrder s orderId command
    have missing : s.orders.get orderId = none := fresh
    rw [and_iff_right (keepsTerminal_set (fun order found => by rw [missing] at found; cases found) orders),
      withinQuantity_set within orders, quantity, Respects]
    rcases filled with open_ | whole
    · rw [open_]
      exact and_iff_right le_rfl
    · rw [whole]
      exact and_iff_left le_rfl
  | modifyOrder orderId command =>
    cases found : s.orders.get orderId with
    | none =>
      rw [next_modifyOrder_unknown found]
      refine iff_of_true ⟨.refl s, within⟩ fun order there => ?_
      rw [found] at there
      cases there
    | some order =>
      have orders : (next s (.modifyOrder orderId command)).orders = s.orders.set orderId
          { order with price := command.price, quantity := command.quantity } := by rw [next_modifyOrder found]
      have nonneg := (within orderId order found).1
      rw [withinQuantity_set within orders]
      constructor
      · rintro ⟨keeps, -, room⟩ other there
        obtain rfl := Option.some.inj (found.symm.trans there)
        refine ⟨room, fun terminal => ?_⟩
        have same := keeps orderId order found terminal
        rw [orders, Dict.get_set_self] at same
        have written := Option.some.inj same
        exact ⟨congrArg Order.price written, congrArg Order.quantity written⟩
      · intro respects
        obtain ⟨room, repeats⟩ := respects order found
        refine ⟨?_, nonneg, room⟩
        cases done : order.status.terminal with
        | false =>
          exact keepsTerminal_set (fun other there => Option.some.inj (found.symm.trans there) ▸ done) orders
        | true =>
          obtain ⟨price, quantity⟩ := repeats done
          intro other held there _
          rw [orders, Dict.get_set]
          split
          · next same =>
            rw [same, found] at there
            rw [← Option.some.inj there, price, quantity]
          · exact there
  | cancelOrder orderId =>
    refine iff_of_true ?_ trivial
    rcases next_cancelOrder s orderId with same | ⟨order, found, done, written⟩
    · rw [same]
      exact ⟨.refl s, within⟩
    · have orders := congrArg PaperConnection.orders written
      refine ⟨keepsTerminal_set (fun other there => ?_) orders, (withinQuantity_set within orders).mpr ?_⟩
      · exact Option.some.inj (found.symm.trans there) ▸ done
      · exact within orderId order found
  | setQuote => exact iff_of_true ⟨.refl s, within⟩ trivial
  | setAutoFill => exact iff_of_true ⟨.refl s, within⟩ trivial

/-- A book without orders and positions. -/
def empty (cash : ℚ) (autoFill : Bool) : PaperConnection where
  cash := cash
  autoFill := autoFill

/-- In every run the positions stay balanced; and the orders that are done stay as they are and every filled
quantity stays within its order's, exactly where every event respects the book. -/
theorem book_keeps_iff (cash : ℚ) (autoFill : Bool) (fresh : Meets step FreshId (empty cash autoFill) events) :
    Meets step (fun s event => Balanced (next s event)) (empty cash autoFill) events ∧
      (Meets step (fun s event => KeepsTerminal s (next s event) ∧ WithinQuantity (next s event))
          (empty cash autoFill) events ↔
        Meets step Respects (empty cash autoFill) events) := by
  have within : WithinQuantity (empty cash autoFill) := by
    intro orderId order found
    cases found
  constructor
  · have preserved : ∀ s event t, Balanced s → FreshId s event → step s event = some t → Balanced t := by
      intro s event t balanced fresh taken
      rw [← Option.some.inj taken]
      exact next_balanced balanced fresh
    have initial : Balanced (empty cash autoFill) := fun _ => rfl
    exact (meets_invariant preserved initial fresh).mono fun s event held => next_balanced held.1 held.2
  · have agree : ∀ s event, WithinQuantity s →
        ((KeepsTerminal s (next s event) ∧ WithinQuantity (next s event)) ∧ FreshId s event ↔
          Respects s event ∧ FreshId s event) :=
      fun s event within => and_congr_left fun fresh => next_keeps_iff within fresh
    have preserved : ∀ s event t, WithinQuantity s →
        (KeepsTerminal s (next s event) ∧ WithinQuantity (next s event)) ∧ FreshId s event → step s event = some t →
        WithinQuantity t := by
      intro s event t _ keeps taken
      rw [← Option.some.inj taken]
      exact keeps.1.2
    have both : Meets step (fun s event =>
        (KeepsTerminal s (next s event) ∧ WithinQuantity (next s event)) ∧ FreshId s event) _ events ↔
        Meets step (fun s event => Respects s event ∧ FreshId s event) _ events := meets_iff agree preserved within
    exact ⟨fun keeps => (both.mp (keeps.and fresh)).mono fun _ _ held => held.1,
      fun respects => (both.mpr (respects.and fresh)).mono fun _ _ held => held.1⟩

/-- A bought order is filled at once, and then modified to a smaller quantity. -/
def modifiedFilled : List BookEvent :=
  [.placeOrder ⟨"paper-1"⟩ PaperSession.marketBuy,
    .modifyOrder ⟨"paper-1"⟩ { PaperSession.marketBuy with quantity := 4 }]

theorem modifiedFilled_fresh : Meets step FreshId (empty paperStartingCash true) modifiedFilled :=
  ⟨rfl, trivial, trivial⟩

theorem modifiedFilled_order : (exec step (empty paperStartingCash true) modifiedFilled).map (fun t =>
    (t.orders.get ⟨"paper-1"⟩).map fun order => (order.status, order.filledQuantity, order.quantity)) =
      some (some (.FILLED, 10, 4)) := by
  decide +kernel

/-- An order that is filled is changed, and its filled quantity is above its quantity. -/
theorem filled_order_modified : ¬ ∀ (cash : ℚ) (autoFill : Bool) (events : List BookEvent),
    Meets step FreshId (empty cash autoFill) events →
      Meets step (fun s event => KeepsTerminal s (next s event) ∧ WithinQuantity (next s event)) (empty cash autoFill)
        events := by
  intro claim
  have met := claim paperStartingCash true modifiedFilled modifiedFilled_fresh
  obtain ⟨t, run, seen⟩ := Option.map_eq_some_iff.mp modifiedFilled_order
  have within : WithinQuantity t := Option.some.inj run ▸ met.2.1.2
  obtain ⟨order, found, parts⟩ := Option.map_eq_some_iff.mp seen
  obtain ⟨filled, quantity⟩ := Prod.mk.inj (Prod.mk.inj parts).2
  have below := (within ⟨"paper-1"⟩ order found).2
  rw [filled, quantity] at below
  exact absurd below (by decide +kernel)

theorem modifiedFilled_keeps_iff :
    Meets step (fun s event => Balanced (next s event)) (empty paperStartingCash true) modifiedFilled ∧
      (Meets step (fun s event => KeepsTerminal s (next s event) ∧ WithinQuantity (next s event))
          (empty paperStartingCash true) modifiedFilled ↔
        Meets step Respects (empty paperStartingCash true) modifiedFilled) :=
  book_keeps_iff paperStartingCash true modifiedFilled_fresh

end PaperBook

end TradeX.V2
