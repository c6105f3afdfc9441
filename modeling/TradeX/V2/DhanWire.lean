import TradeX.V2.BrokerWire

/-! The Dhan wire: the body of a place request and the order that a row of the order book decodes to. -/

namespace TradeX.V2

open Lib

structure DhanWire where
  resolver : InMemoryInstrumentResolver := {}
  clientId : String := ""

namespace DhanWire

/-- `_STATUS`. -/
def statuses : List (String × OrderStatus) := [
  ("TRANSIT", .SUBMITTED), ("PENDING", .PENDING), ("TRADED", .FILLED), ("PART_TRADED", .PARTIALLY_FILLED),
  ("REJECTED", .REJECTED), ("CANCELLED", .CANCELLED), ("TRIGGER_PENDING", .SUBMITTED),
  ("AFTER_MARKET_ORDER", .SUBMITTED), ("AMO_CANCELLED", .CANCELLED), ("OPEN_PENDING", .SUBMITTED)]

/-- `_SIDE`. -/
def sides : List (String × OrderSide) := [("BUY", .BUY), ("SELL", .SELL)]

/-- `_OTYPE`. -/
def orderTypes : List (String × OrderType) := [
  ("MARKET", .MARKET), ("LIMIT", .LIMIT), ("STOP_LOSS", .STOP), ("STOP_LOSS_MARKET", .STOP)]

/-- `_PRODUCT_TYPE_DHAN`. -/
def productTypes : List (ProductType × String) := [
  (.INTRADAY, "INTRADAY"), (.DELIVERY, "CNC"), (.MARGIN, "MARGIN"), (.MTF, "MTF"), (.COVER_ORDER, "CO")]

/-- `_DHAN_SEGMENT`. -/
def segments : List (String × String) := [
  ("NSE", "NSE_EQ"), ("NFO", "NSE_FNO"), ("BFO", "BSE_FNO"), ("MCX", "MCX_COMM"), ("NSE_COMM", "NSE_COMM"),
  ("BSE", "BSE_EQ"), ("CDS", "NSE_CURRENCY"), ("BCD", "BSE_CURRENCY"), ("IDX", "IDX_I"), ("INDEX", "IDX_I")]

/-- `get_segment`. -/
def getSegment (instrumentId : InstrumentId) : String :=
  let mapped := (segments.lookup (segmentExchange instrumentId)).getD "NSE_EQ"
  if isPureIndex instrumentId then
    match getIndexEntry instrumentId.underlying with
    | some entry => if entry.dhanSegment = "" then mapped else entry.dhanSegment
    | none => mapped
  else mapped

/-- The security id of the shared registry, for the index itself. -/
def indexSecurityId (instrumentId : InstrumentId) : Option String :=
  if isPureIndex instrumentId then (getIndexEntry instrumentId.underlying).bind IndexEntry.dhanSecurityId else none

variable (wire : DhanWire)

/-- `security_id`. -/
def securityId (instrumentId : InstrumentId) : Except WireError WireValue :=
  match indexSecurityId instrumentId with
  | some id => .ok (.text id)
  | none => match wire.resolver.resolveRef instrumentId with
    | .ok ref => require ref "security_id"
    | .error raised => .error (.resolver raised)

/-- The product of a command, intraday where it names none. -/
def productOf : Option ProductType → Except WireError String
  | none => .ok "INTRADAY"
  | some productType => match productTypes.lookup productType with
    | some product => .ok product
    | none => .error (.unsupportedProduct productType)

/-- The members of the body for a product and a security id. -/
def members (command : BrokerCommand) (product : String) (securityId : WireValue) : List (String × Option Native) := [
  ("dhanClientId", some (.text wire.clientId)),
  ("exchangeSegment", some (.text (getSegment command.instrumentId))),
  ("securityId", some securityId.native),
  ("transactionType", some (.text command.side.value)),
  ("quantity", some (.number (Decimal.toInt command.quantity))),
  ("orderType", some (.text command.orderType.value)),
  ("productType", some (.text product)),
  ("validity", some (.text command.timeInForce.value)),
  ("correlationId", some (.text command.correlationId.value)),
  ("price", command.price.map Native.ofDecimal),
  ("triggerPrice", command.triggerPrice.map Native.ofDecimal),
  ("disclosedQuantity", (command.disclosedQuantity.filter fun disclosed => 0 < disclosed).map fun disclosed =>
    .number (Decimal.toInt disclosed))]

def body (command : BrokerCommand) (product : String) (securityId : WireValue) : Row :=
  Row.ofMembers (wire.members command product securityId)

/-- `from_place_command`. -/
def fromPlaceCommand (command : BrokerCommand) : Except WireError Row := do
  let product ← productOf command.productType
  let securityId ← wire.securityId command.instrumentId
  return wire.body command product securityId

/-- `to_order_status`. -/
def toOrderStatus (native : String) : OrderStatus := (statuses.lookup (InstrumentKeys.upper native)).getD .UNKNOWN

/-- The rows of the order book. -/
def format : OrderFormat where
  wireKey := "security_id"
  unknown := "dhan-unknown"
  orderId row := (Row.either row "orderId" "order_id").str
  rawInstrument row := (Row.getOr row "securityId" (Row.getOr row "symbol" (.text ""))).str
  side row := (sides.lookup (InstrumentKeys.upper (Row.getOr row "transactionType" (.text "BUY")).str)).getD .BUY
  orderType row :=
    (orderTypes.lookup (InstrumentKeys.upper (Row.getOr row "orderType" (.text "MARKET")).str)).getD .MARKET
  status row := toOrderStatus (Row.getOr row "orderStatus" (Row.getOr row "status" (.text "PENDING"))).str
  correlation row := Row.either row "correlationId" "orderId"
  filled row := Row.getOr row "filledQty" (Row.getOr row "tradedQuantity" (.number 0))

/-- `to_order`. -/
def toOrder (uuid5 : String → Uuid) (native : OrderPayload) : Except WireError DecodedOrder :=
  format.toOrder wire.resolver uuid5 native

/-- A body with an order id and a status, as the order book returns it. -/
def acknowledged (body : Row) (orderId status : String) : OrderPayload :=
  { fields := Dict.set (Dict.set body "orderId" (.text orderId)) "orderStatus" (.text status) }

/-- What the body of a command decodes to, completed with an order id and a status, is what the
command asked for; a product that the wire does not support gives no body. -/
def RoundTrips (uuid5 : String → Uuid) (command : BrokerCommand) : Prop :=
  ∀ body, wire.fromPlaceCommand command = .ok body → ∀ orderId status,
    ∃ order, wire.toOrder uuid5 (acknowledged body orderId status) = .ok order ∧ command.Matches order

/-- The security id that is sent for an instrument with a security id of its own. -/
def sentId (instrumentId : InstrumentId) (own : WireValue) : WireValue :=
  ((indexSecurityId instrumentId).map WireValue.text).getD own

section

variable {wire : DhanWire} {command : BrokerCommand} {ref : BrokerWireRef} {own : WireValue}

/-- A member of the body, as the completed row has it. -/
theorem acknowledged_get (product : String) (securityId : WireValue) (orderId status : String) {key : String}
    (notId : key ≠ "orderId") (notStatus : key ≠ "orderStatus") :
    Dict.get (acknowledged (wire.body command product securityId) orderId status).fields key =
      ((wire.members command product securityId).lookup key).getD none := by
  have nodup : ((wire.members command product securityId).map Prod.fst).Nodup := by
    simp [members]
  unfold acknowledged body
  rw [Dict.get_set_other _ _ _ _ notStatus, Dict.get_set_other _ _ _ _ notId, Row.get_ofMembers nodup]

theorem fromPlaceCommand_registered (registered : wire.resolver.resolveRef command.instrumentId = .ok ref)
    (carried : Dict.get ref.wire "security_id" = some own) :
    wire.fromPlaceCommand command = (productOf command.productType).map fun product =>
      wire.body command product (sentId command.instrumentId own) := by
  have sent : wire.securityId command.instrumentId = .ok (sentId command.instrumentId own) := by
    unfold securityId sentId
    cases indexSecurityId command.instrumentId with
    | some id => rfl
    | none =>
      dsimp only
      rw [registered]
      dsimp only [require]
      rw [carried]
      rfl
  unfold fromPlaceCommand
  rw [sent]
  cases productOf command.productType <;> rfl

/-- The side is read from its name. -/
theorem sides_value (side : OrderSide) : (sides.lookup (InstrumentKeys.upper side.value)).getD .BUY = side := by
  cases side <;> decide

/-- Of the names of the order types, only two are in the table. -/
theorem orderTypes_value (orderType : OrderType) :
    (orderTypes.lookup (InstrumentKeys.upper orderType.value)).getD .MARKET = orderType ↔
      orderType = .MARKET ∨ orderType = .LIMIT := by
  cases orderType <;> decide

theorem acknowledged_spells (product : String) (securityId : WireValue) (orderId status : String) :
    format.Spells (acknowledged (wire.body command product securityId) orderId status).fields command securityId.str := by
  have get := fun (key : String) notId notStatus =>
    @acknowledged_get wire command product securityId orderId status key notId notStatus
  have sent := get "securityId" (by decide) (by decide)
  have side := get "transactionType" (by decide) (by decide)
  have correlation := get "correlationId" (by decide) (by decide)
  have filled := get "filledQty" (by decide) (by decide)
  have traded := get "tradedQuantity" (by decide) (by decide)
  simp only [members, List.lookup, String.reduceBEq, Option.getD_some, Option.getD_none]
    at sent side correlation filled traded
  have truthy : (Native.text command.uuid.text).truthy = true := by
    simpa [Native.truthy] using command.uuid.text_ne_empty
  have same : command.correlationId.value = command.uuid.text := congrArg CorrelationId.value command.correlated
  rw [same] at correlation
  refine ⟨?_, ?_, get "quantity" (by decide) (by decide), get "price" (by decide) (by decide),
    Row.either_first correlation truthy, ?_⟩
  · simp only [format, Row.getOr, sent, Option.getD_some, WireValue.native_str]
  · simp only [format, Row.getOr, side, Option.getD_some, Native.str_text, sides_value]
  · simp only [format, Row.getOr, filled, traded, Option.getD_none]

theorem acknowledged_orderType (product : String) (securityId : WireValue) (orderId status : String) :
    format.orderType (acknowledged (wire.body command product securityId) orderId status).fields = command.orderType ↔
      command.orderType = .MARKET ∨ command.orderType = .LIMIT := by
  have orderType := @acknowledged_get wire command product securityId orderId status "orderType" (by decide) (by decide)
  simp only [members, List.lookup, String.reduceBEq, Option.getD_some] at orderType
  simp only [format, Row.getOr, orderType, Option.getD_some, Native.str_text]
  exact orderTypes_value command.orderType

/-- The wire carries the command where its fields survive the encoding and the security id that is
sent is filed under the instrument. -/
theorem roundTrips_iff (uuid5 : String → Uuid) (registered : wire.resolver.resolveRef command.instrumentId = .ok ref)
    (carried : Dict.get ref.wire "security_id" = some own) :
    wire.RoundTrips uuid5 command ↔ command.Carried ∧
      wire.resolver.reverse "security_id" (sentId command.instrumentId own).str = some command.instrumentId := by
  obtain ⟨product, produced⟩ : ∃ product, productOf command.productType = .ok product := by
    cases command.productType with
    | none => exact ⟨_, rfl⟩
    | some productType => cases productType <;> exact ⟨_, rfl⟩
  have encoded := fromPlaceCommand_registered registered carried
  rw [produced] at encoded
  have decoded := fun orderId status => (@acknowledged_spells wire command product
    (sentId command.instrumentId own) orderId status).matches_iff wire.resolver uuid5
  constructor
  · intro trips
    obtain ⟨filed, orderType, timeInForce, whole, price⟩ := (decoded "1" "TRANSIT").mp (trips _ encoded "1" "TRANSIT")
    exact ⟨⟨(acknowledged_orderType ..).mp orderType, timeInForce, whole, price⟩, filed⟩
  · rintro ⟨fields, filed⟩ body isBody orderId status
    rw [encoded] at isBody
    obtain rfl := Except.ok.inj isBody
    exact (decoded orderId status).mpr ⟨filed, (acknowledged_orderType ..).mpr fields.orderType, fields.timeInForce,
      fields.quantity, fields.price⟩

end

end DhanWire

end TradeX.V2
