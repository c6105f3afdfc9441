import TradeX.V2.DhanWire

/-! The Upstox wire, and what a command keeps on the way through either wire. -/

namespace TradeX.V2

open Lib

structure UpstoxWire where
  resolver : InMemoryInstrumentResolver := {}

namespace UpstoxWire

/-- `_UPSTOX_SEGMENT`. -/
def segments : List (String × String) := [
  ("NSE", "NSE_EQ"), ("NFO", "NSE_FO"), ("BFO", "BSE_FO"), ("MCX", "MCX_FO"), ("BSE", "BSE_EQ"), ("CDS", "NCD_FO"),
  ("BCD", "BCD_FO"), ("IDX", "NSE_INDEX")]

/-- `_PRODUCT_TYPE_UPSTOX`: there is no margin product beyond MTF. -/
def productTypes : List (ProductType × String) := [
  (.INTRADAY, "I"), (.DELIVERY, "D"), (.MTF, "MTF"), (.COVER_ORDER, "CO")]

/-- `_STATUS`. -/
def statuses : List (String × OrderStatus) := [
  ("open", .SUBMITTED), ("complete", .FILLED), ("rejected", .REJECTED), ("cancelled", .CANCELLED),
  ("trigger pending", .SUBMITTED), ("after_market_order_req_received", .SUBMITTED), ("queued", .SUBMITTED),
  ("pending", .PENDING), ("expired", .CANCELLED)]

/-- The instrument key of the shared registry, for the index itself. -/
def indexKey (instrumentId : InstrumentId) : Option String :=
  if isPureIndex instrumentId then indexUpstoxKey instrumentId.underlying else none

variable (wire : UpstoxWire)

/-- `instrument_key`. -/
def instrumentKey (instrumentId : InstrumentId) : Except WireError WireValue :=
  match indexKey instrumentId with
  | some key => .ok (.text key)
  | none => match wire.resolver.resolveRef instrumentId with
    | .ok ref => require ref "instrument_key"
    | .error raised => .error (.resolver raised)

/-- The product of a command, intraday where it names none. -/
def productOf : Option ProductType → Except WireError String
  | none => .ok "I"
  | some productType => match productTypes.lookup productType with
    | some product => .ok product
    | none => .error (.unsupportedProduct productType)

/-- The members of the body for a product and an instrument key. -/
def members (command : BrokerCommand) (product : String) (instrumentKey : WireValue) : List (String × Option Native) := [
  ("instrument_token", some instrumentKey.native),
  ("transaction_type", some (.text command.side.value)),
  ("quantity", some (.number (Decimal.toInt command.quantity))),
  ("order_type", some (.text command.orderType.value)),
  ("product", some (.text product)),
  ("validity", some (.text command.timeInForce.value)),
  ("disclosed_quantity", some (.number ((command.disclosedQuantity.map Decimal.toInt).getD 0))),
  ("market_protection", some (.number (command.marketProtection.getD (-1)))),
  ("tag", some (.text command.correlationId.value)),
  ("price", command.price.map Native.ofDecimal),
  ("trigger_price", command.triggerPrice.map Native.ofDecimal)]

def body (command : BrokerCommand) (product : String) (instrumentKey : WireValue) : Row :=
  Row.ofMembers (members command product instrumentKey)

/-- `from_place_command`. -/
def fromPlaceCommand (command : BrokerCommand) : Except WireError Row := do
  let product ← productOf command.productType
  let instrumentKey ← wire.instrumentKey command.instrumentId
  return body command product instrumentKey

/-- `to_order_status`. -/
def toOrderStatus (native : String) : OrderStatus :=
  (statuses.lookup (String.ofList (Text.lower native))).getD .UNKNOWN

/-- The rows of the order book. -/
def format : OrderFormat where
  wireKey := "instrument_key"
  unknown := "upstox-unknown"
  orderId row := (Row.getOr row "order_id" .none).str
  rawInstrument row := (Row.getOr row "instrument_token" (Row.getOr row "tradingsymbol" (.text ""))).str
  side row :=
    if InstrumentKeys.upper (Row.getOr row "transaction_type" (.text "BUY")).str = "BUY" then .BUY else .SELL
  orderType row := if InstrumentKeys.upper (Row.getOr row "order_type" (.text "")).str = "LIMIT" then .LIMIT else .MARKET
  status row := toOrderStatus (Row.getOr row "status" (.text "open")).str
  correlation row := Row.either row "tag" "order_id"
  filled row := Row.getOr row "filled_quantity" (.number 0)

/-- `to_order`. -/
def toOrder (uuid5 : String → Uuid) (native : OrderPayload) : Except WireError DecodedOrder :=
  format.toOrder wire.resolver uuid5 native

/-- A body with an order id and a status, as the order book returns it. -/
def acknowledged (body : Row) (orderId status : String) : OrderPayload :=
  { fields := Dict.set (Dict.set body "order_id" (.text orderId)) "status" (.text status) }

/-- What the body of a command decodes to, completed with an order id and a status, is what the
command asked for; a product that the wire does not support gives no body. -/
def RoundTrips (uuid5 : String → Uuid) (command : BrokerCommand) : Prop :=
  ∀ body, wire.fromPlaceCommand command = .ok body → ∀ orderId status,
    ∃ order, wire.toOrder uuid5 (acknowledged body orderId status) = .ok order ∧ command.Matches order

/-- The key that is sent for an instrument with a key of its own. -/
def sentKey (instrumentId : InstrumentId) (own : WireValue) : WireValue :=
  ((indexKey instrumentId).map WireValue.text).getD own

section

variable {wire : UpstoxWire} {command : BrokerCommand} {ref : BrokerWireRef} {own : WireValue}

/-- A member of the body, as the completed row has it. -/
theorem acknowledged_get (product : String) (instrumentKey : WireValue) (orderId status : String) {key : String}
    (notId : key ≠ "order_id") (notStatus : key ≠ "status") :
    Dict.get (acknowledged (body command product instrumentKey) orderId status).fields key =
      ((members command product instrumentKey).lookup key).getD none := by
  have nodup : ((members command product instrumentKey).map Prod.fst).Nodup := by
    simp [members]
  unfold acknowledged body
  rw [Dict.get_set_other _ _ _ _ notStatus, Dict.get_set_other _ _ _ _ notId, Row.get_ofMembers nodup]

theorem fromPlaceCommand_registered (registered : wire.resolver.resolveRef command.instrumentId = .ok ref)
    (carried : Dict.get ref.wire "instrument_key" = some own) :
    wire.fromPlaceCommand command = (productOf command.productType).map fun product =>
      body command product (sentKey command.instrumentId own) := by
  have sent : wire.instrumentKey command.instrumentId = .ok (sentKey command.instrumentId own) := by
    unfold instrumentKey sentKey
    cases indexKey command.instrumentId with
    | some key => rfl
    | none =>
      dsimp only
      rw [registered]
      dsimp only [require]
      rw [carried]
      rfl
  unfold fromPlaceCommand
  rw [sent]
  cases productOf command.productType <;> rfl

/-- All products but margin are supported. -/
theorem productOf_margin (productType : Option ProductType) :
    (∃ product, productOf productType = .ok product) ↔ productType ≠ some .MARGIN := by
  cases productType with
  | none => exact ⟨fun _ => nofun, fun _ => ⟨_, rfl⟩⟩
  | some productType =>
    cases productType with
    | MARGIN =>
      constructor
      · rintro ⟨product, produced⟩
        cases produced
      · exact fun differs => absurd rfl differs
    | INTRADAY | DELIVERY | MTF | COVER_ORDER => exact ⟨fun _ => nofun, fun _ => ⟨_, rfl⟩⟩

/-- The side is read from its name. -/
theorem side_value (side : OrderSide) :
    (if InstrumentKeys.upper side.value = "BUY" then OrderSide.BUY else .SELL) = side := by
  cases side <;> decide

/-- A name other than that of a limit order is read as a market order. -/
theorem orderType_value (orderType : OrderType) :
    (if InstrumentKeys.upper orderType.value = "LIMIT" then OrderType.LIMIT else .MARKET) = orderType ↔
      orderType = .MARKET ∨ orderType = .LIMIT := by
  cases orderType <;> decide

theorem acknowledged_spells (product : String) (instrumentKey : WireValue) (orderId status : String) :
    format.Spells (acknowledged (body command product instrumentKey) orderId status).fields command
      instrumentKey.str := by
  have get := fun (key : String) notId notStatus =>
    @acknowledged_get command product instrumentKey orderId status key notId notStatus
  have sent := get "instrument_token" (by decide) (by decide)
  have side := get "transaction_type" (by decide) (by decide)
  have correlation := get "tag" (by decide) (by decide)
  have filled := get "filled_quantity" (by decide) (by decide)
  simp only [members, List.lookup, String.reduceBEq, Option.getD_some, Option.getD_none]
    at sent side correlation filled
  have truthy : (Native.text command.uuid.text).truthy = true := by
    simpa [Native.truthy] using command.uuid.text_ne_empty
  have same : command.correlationId.value = command.uuid.text := congrArg CorrelationId.value command.correlated
  rw [same] at correlation
  refine ⟨?_, ?_, get "quantity" (by decide) (by decide), get "price" (by decide) (by decide),
    Row.either_first correlation truthy, ?_⟩
  · simp only [format, Row.getOr, sent, Option.getD_some, WireValue.native_str]
  · simp only [format, Row.getOr, side, Option.getD_some, Native.str_text, side_value]
  · simp only [format, Row.getOr, filled, Option.getD_none]

theorem acknowledged_orderType (product : String) (instrumentKey : WireValue) (orderId status : String) :
    format.orderType (acknowledged (body command product instrumentKey) orderId status).fields = command.orderType ↔
      command.orderType = .MARKET ∨ command.orderType = .LIMIT := by
  have orderType := @acknowledged_get command product instrumentKey orderId status "order_type" (by decide) (by decide)
  simp only [members, List.lookup, String.reduceBEq, Option.getD_some] at orderType
  simp only [format, Row.getOr, orderType, Option.getD_some, Native.str_text]
  exact orderType_value command.orderType

/-- The wire carries the command where its fields survive the encoding and the key that is sent is
filed under the instrument, or where there is no body. -/
theorem roundTrips_iff (uuid5 : String → Uuid) (registered : wire.resolver.resolveRef command.instrumentId = .ok ref)
    (carried : Dict.get ref.wire "instrument_key" = some own) :
    wire.RoundTrips uuid5 command ↔ (command.productType ≠ some .MARGIN → command.Carried ∧
      wire.resolver.reverse "instrument_key" (sentKey command.instrumentId own).str = some command.instrumentId) := by
  have encoded := fromPlaceCommand_registered registered carried
  have decoded := fun product orderId status => (@acknowledged_spells command product
    (sentKey command.instrumentId own) orderId status).matches_iff wire.resolver uuid5
  constructor
  · intro trips supported
    obtain ⟨product, produced⟩ := (productOf_margin command.productType).mpr supported
    rw [produced] at encoded
    obtain ⟨filed, orderType, timeInForce, whole, price⟩ :=
      (decoded product "1" "open").mp (trips _ encoded "1" "open")
    exact ⟨⟨(acknowledged_orderType ..).mp orderType, timeInForce, whole, price⟩, filed⟩
  · intro carries body isBody orderId status
    rw [encoded] at isBody
    cases produced : productOf command.productType with
    | error raised =>
      rw [produced] at isBody
      cases isBody
    | ok product =>
      rw [produced] at isBody
      obtain rfl := Except.ok.inj isBody
      obtain ⟨fields, filed⟩ := carries ((productOf_margin command.productType).mp ⟨product, produced⟩)
      exact (decoded product orderId status).mpr ⟨filed, (acknowledged_orderType ..).mpr fields.orderType,
        fields.timeInForce, fields.quantity, fields.price⟩

end

end UpstoxWire

namespace BrokerCommand

/-- What both wires carry of the commands: when each decodes the body of a command on an instrument
that is registered with it to what the command asked for. -/
theorem wires_carry_iff (dhan : DhanWire) (upstox : UpstoxWire) (uuid5 : String → Uuid) (command : BrokerCommand)
    {dhanRef upstoxRef : BrokerWireRef} {securityId instrumentKey : WireValue}
    (dhanRegistered : dhan.resolver.resolveRef command.instrumentId = .ok dhanRef)
    (hasSecurityId : Dict.get dhanRef.wire "security_id" = some securityId)
    (upstoxRegistered : upstox.resolver.resolveRef command.instrumentId = .ok upstoxRef)
    (hasInstrumentKey : Dict.get upstoxRef.wire "instrument_key" = some instrumentKey) :
    (dhan.RoundTrips uuid5 command ↔ command.Carried ∧ dhan.resolver.reverse "security_id"
      (DhanWire.sentId command.instrumentId securityId).str = some command.instrumentId) ∧
    (upstox.RoundTrips uuid5 command ↔ (command.productType ≠ some .MARGIN → command.Carried ∧
      upstox.resolver.reverse "instrument_key"
        (UpstoxWire.sentKey command.instrumentId instrumentKey).str = some command.instrumentId)) :=
  ⟨DhanWire.roundTrips_iff uuid5 dhanRegistered hasSecurityId,
    UpstoxWire.roundTrips_iff uuid5 upstoxRegistered hasInstrumentKey⟩

def tcs : InstrumentId := ⟨"NSE:TCS"⟩

def tcsSecurity : Wire := Dict.set ∅ "security_id" (.text "11536")

def tcsKey : Wire := Dict.set ∅ "instrument_key" (.text "NSE_EQ|INE467B01029")

/-- A wire of each broker that knows one equity. -/
def tcsDhan : DhanWire where
  resolver := ({} : InMemoryInstrumentResolver).register tcs tcsSecurity {}
  clientId := "1100"

def tcsUpstox : UpstoxWire where
  resolver := ({} : InMemoryInstrumentResolver).register tcs tcsKey {}

/-- Ten shares at a price of two places. -/
def tcsOrder (orderType : OrderType) : BrokerCommand where
  instrumentId := tcs
  side := .BUY
  orderType := orderType
  quantity := 10
  price := some 3500.55
  timeInForce := .DAY
  correlationId := ⟨(7 : Uuid).text⟩
  uuid := 7
  correlated := rfl

theorem resolveRef_registered (wire : Wire) (fields : AliasFields) (instrumentId : InstrumentId) :
    (({} : InMemoryInstrumentResolver).register instrumentId wire fields).resolveRef instrumentId =
      .ok ⟨instrumentId, wire⟩ :=
  InstrumentMaster.register_takes_over {} instrumentId instrumentId wire fields
    (InMemoryInstrumentResolver.value_mem_registeredKeys instrumentId fields)

theorem tcsDhan_registered (orderType : OrderType) :
    tcsDhan.resolver.resolveRef (tcsOrder orderType).instrumentId = .ok ⟨tcs, tcsSecurity⟩ := by
  simp only [tcsDhan, tcsOrder]
  exact resolveRef_registered tcsSecurity {} tcs

theorem tcsUpstox_registered (orderType : OrderType) :
    tcsUpstox.resolver.resolveRef (tcsOrder orderType).instrumentId = .ok ⟨tcs, tcsKey⟩ := by
  simp only [tcsUpstox, tcsOrder]
  exact resolveRef_registered tcsKey {} tcs

theorem tcs_carried : tcsDhan.RoundTrips (fun _ => 0) (tcsOrder .LIMIT) ∧
    tcsUpstox.RoundTrips (fun _ => 0) (tcsOrder .LIMIT) := by
  have survives : SurvivesFloat 3500.55 := by decide +kernel
  have fields : (tcsOrder .LIMIT).Carried := by
    refine ⟨.inr rfl, rfl, by decide +kernel, ?_⟩
    intro price isPrice
    obtain rfl := Option.some.inj isPrice
    exact survives
  obtain ⟨dhan, upstox⟩ := wires_carry_iff tcsDhan tcsUpstox (fun _ => 0) (tcsOrder .LIMIT)
    (tcsDhan_registered .LIMIT) rfl (tcsUpstox_registered .LIMIT) rfl
  exact ⟨dhan.mpr ⟨fields, by decide +kernel⟩, upstox.mpr fun _ => ⟨fields, by decide +kernel⟩⟩

/-- A stop order comes back from either wire as a market order. -/
theorem stop_order_lost : ¬tcsDhan.RoundTrips (fun _ => 0) (tcsOrder .STOP) ∧
    ¬tcsUpstox.RoundTrips (fun _ => 0) (tcsOrder .STOP) := by
  have lost : ¬(tcsOrder .STOP).Carried := by
    intro fields
    exact absurd fields.orderType (by decide)
  constructor
  · intro trips
    exact lost ((DhanWire.roundTrips_iff _ (tcsDhan_registered .STOP) rfl).mp trips).1
  · intro trips
    exact lost ((UpstoxWire.roundTrips_iff _ (tcsUpstox_registered .STOP) rfl).mp trips nofun).1

end BrokerCommand

end TradeX.V2
