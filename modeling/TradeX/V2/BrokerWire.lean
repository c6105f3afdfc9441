import TradeX.Lib.Binary64
import TradeX.Lib.Decimal
import TradeX.Lib.Uuid
import TradeX.V2.InstrumentMaster

/-! What the wires of the brokers share: the command with all its fields, the table of the indices,
and the native values of an order row. -/

namespace TradeX.V2

open Lib

inductive ProductType where
  | INTRADAY
  | DELIVERY
  | MARGIN
  | MTF
  | COVER_ORDER
  deriving DecidableEq, Repr

/-- A place command with the fields that only the brokers read. Its correlation id is a UUID. -/
structure BrokerCommand extends PlaceOrderCommand where
  productType : Option ProductType := none
  triggerPrice : Option ℚ := none
  disclosedQuantity : Option ℚ := none
  marketProtection : Option ℤ := none
  uuid : Uuid
  correlated : correlationId = ⟨uuid.text⟩

/-- The value of the enumeration, as `enum_value` gives it. -/
def OrderSide.value : OrderSide → String
  | BUY => "BUY"
  | SELL => "SELL"

def OrderType.value : OrderType → String
  | MARKET => "MARKET"
  | LIMIT => "LIMIT"
  | STOP => "STOP"
  | STOP_LIMIT => "STOP_LIMIT"

def TimeInForce.value : TimeInForce → String
  | DAY => "DAY"
  | IOC => "IOC"
  | GTC => "GTC"

structure IndexEntry where
  dhanSegment : String := "IDX_I"
  dhanSecurityId : Option String := none
  upstoxSegment : String
  upstoxName : String
  deriving DecidableEq, Repr

/-- `_INDEX_MAP`. -/
def indexMap : List (String × IndexEntry) := [
  ("NIFTY", { upstoxSegment := "NSE_INDEX", upstoxName := "Nifty 50", dhanSecurityId := some "13" }),
  ("NIFTY50", { upstoxSegment := "NSE_INDEX", upstoxName := "Nifty 50", dhanSecurityId := some "13" }),
  ("BANKNIFTY", { upstoxSegment := "NSE_INDEX", upstoxName := "Nifty Bank", dhanSecurityId := some "25" }),
  ("NIFTYBANK", { upstoxSegment := "NSE_INDEX", upstoxName := "Nifty Bank", dhanSecurityId := some "25" }),
  ("FINNIFTY", { upstoxSegment := "NSE_INDEX", upstoxName := "Nifty Fin Service", dhanSecurityId := some "27" }),
  ("NIFTYFIN", { upstoxSegment := "NSE_INDEX", upstoxName := "Nifty Fin Service", dhanSecurityId := some "27" }),
  ("MIDCAPNIFTY", { upstoxSegment := "NSE_INDEX", upstoxName := "Nifty Midcap 100" }),
  ("NIFTYMIDCAP", { upstoxSegment := "NSE_INDEX", upstoxName := "Nifty Midcap 100" }),
  ("NIFTYIT", { upstoxSegment := "NSE_INDEX", upstoxName := "Nifty IT" }),
  ("NIFTYPHARMA", { upstoxSegment := "NSE_INDEX", upstoxName := "Nifty Pharma" }),
  ("NIFTYAUTO", { upstoxSegment := "NSE_INDEX", upstoxName := "Nifty Auto" }),
  ("NIFTYFMCG", { upstoxSegment := "NSE_INDEX", upstoxName := "Nifty FMCG" }),
  ("NIFTYMETAL", { upstoxSegment := "NSE_INDEX", upstoxName := "Nifty Metal" }),
  ("NIFTYREALTY", { upstoxSegment := "NSE_INDEX", upstoxName := "Nifty Realty" }),
  ("NIFTYENERGY", { upstoxSegment := "NSE_INDEX", upstoxName := "Nifty Energy" }),
  ("NIFTYMEDIA", { upstoxSegment := "NSE_INDEX", upstoxName := "Nifty Media" }),
  ("NIFTYPSB", { upstoxSegment := "NSE_INDEX", upstoxName := "Nifty PSU Bank" }),
  ("NIFTYPVTBANK", { upstoxSegment := "NSE_INDEX", upstoxName := "Nifty Pvt Bank" }),
  ("NIFTYCONS", { upstoxSegment := "NSE_INDEX", upstoxName := "Nifty Consumer Durables" }),
  ("NIFTYOILGAS", { upstoxSegment := "NSE_INDEX", upstoxName := "Nifty Oil and Gas" }),
  ("NIFTYCOMM", { upstoxSegment := "NSE_INDEX", upstoxName := "Nifty Commodities" }),
  ("NIFTYIND", { upstoxSegment := "NSE_INDEX", upstoxName := "Nifty Industrials" }),
  ("NIFTYMNC", { upstoxSegment := "NSE_INDEX", upstoxName := "Nifty MNC" }),
  ("NIFTYSMALL", { upstoxSegment := "NSE_INDEX", upstoxName := "Nifty Smallcap 250" }),
  ("NIFTYMICRO", { upstoxSegment := "NSE_INDEX", upstoxName := "Nifty Microcap 250" }),
  ("NIFTYNEXT50", { upstoxSegment := "NSE_INDEX", upstoxName := "Nifty Next 50" }),
  ("NIFTY100", { upstoxSegment := "NSE_INDEX", upstoxName := "Nifty 100" }),
  ("NIFTY200", { upstoxSegment := "NSE_INDEX", upstoxName := "Nifty 200" }),
  ("NIFTY500", { upstoxSegment := "NSE_INDEX", upstoxName := "Nifty 500" }),
  ("VXNIFTY", { upstoxSegment := "NSE_INDEX", upstoxName := "India VIX" }),
  ("INDIAVIX", { upstoxSegment := "NSE_INDEX", upstoxName := "India VIX" }),
  ("SENSEX", { upstoxSegment := "BSE_INDEX", upstoxName := "SENSEX" }),
  ("BSESENSEX", { upstoxSegment := "BSE_INDEX", upstoxName := "SENSEX" }),
  ("BSE100", { upstoxSegment := "BSE_INDEX", upstoxName := "BSE 100" }),
  ("BSE500", { upstoxSegment := "BSE_INDEX", upstoxName := "BSE 500" }),
  ("BSEMIDCAP", { upstoxSegment := "BSE_INDEX", upstoxName := "BSE Midcap" }),
  ("BSESMALLCAP", { upstoxSegment := "BSE_INDEX", upstoxName := "BSE Smallcap" }),
  ("DOW", { upstoxSegment := "GLOBAL_INDEX", upstoxName := "DOW JONES" }),
  ("NASDAQ", { upstoxSegment := "GLOBAL_INDEX", upstoxName := "NASDAQ" }),
  ("S&P500", { upstoxSegment := "GLOBAL_INDEX", upstoxName := "S&P 500" })]

namespace InstrumentId

/-- The parts of a canonical id. -/
def parts (instrumentId : InstrumentId) : List String := (instrumentId.value.toList.splitOn ':').map String.ofList

def exchange (instrumentId : InstrumentId) : String := instrumentId.parts.getD 0 ""

def underlying (instrumentId : InstrumentId) : String := instrumentId.parts.getD 1 ""

end InstrumentId

/-- `get_index_entry`. -/
def getIndexEntry (symbol : String) : Option IndexEntry :=
  indexMap.lookup (Text.strip (InstrumentKeys.upper symbol))

/-- `is_pure_index`: the id has no expiry, strike or right behind an index of the two exchanges. -/
def isPureIndex (instrumentId : InstrumentId) : Bool :=
  if instrumentId.exchange = "IDX" ∨ instrumentId.exchange = "INDEX" then true
  else (instrumentId.exchange = "NSE" || instrumentId.exchange = "BSE") &&
    (getIndexEntry instrumentId.underlying).isSome && instrumentId.parts.length == 2

/-- `index_upstox_key`. -/
def indexUpstoxKey (symbol : String) : Option String :=
  (getIndexEntry symbol).bind fun entry =>
    if entry.upstoxSegment ≠ "" ∧ entry.upstoxName ≠ "" then some (entry.upstoxSegment ++ "|" ++ entry.upstoxName) else none

/-- The exchange in front of the first colon, NSE where there is none. -/
def segmentExchange (instrumentId : InstrumentId) : String :=
  if InstrumentKeys.has instrumentId.value ":" then instrumentId.exchange else "NSE"

/-- A value of a native order row. -/
inductive Native where
  | none
  | text (value : String)
  | number (value : ℤ)
  | float (value : Extended)
  deriving DecidableEq, Repr

abbrev Row := Dict String Native

/-- The rows of a broker: the members of the payload, and those of its `data` where that is a mapping. -/
structure OrderPayload where
  fields : Row
  data : Option Row := none

/-- What the wires raise. -/
inductive WireError where
  | unsupportedProduct (productType : ProductType)
  | resolver (raised : ResolverError)
  | noCanonical (raw : String)
  | invalidDecimal (text : String)
  deriving DecidableEq, Repr

namespace Native

def str : Native → String
  | none => "None"
  | text value => value
  | number value => toString value
  | float value => Binary64.text value

def truthy : Native → Bool
  | none => false
  | text value => value != ""
  | number value => value != 0
  | float value => value != .finite 0

/-- `Decimal(text)`. -/
def readDecimal (text : String) : Except WireError Extended :=
  match Extended.ofText text with
  | some value => .ok value
  | Option.none => .error (.invalidDecimal text)

/-- `Decimal(str(value))`. -/
def decimal : Native → Except WireError Extended
  | none => readDecimal "None"
  | text value => readDecimal value
  | number value => .ok (.finite value)
  | float value => .ok (Binary64.shown value)

/-- The value is `None`, zero or the text of zero. -/
def unpriced (value : Native) : Bool :=
  match value with
  | none => true
  | text value => value == "0"
  | number value => value == 0
  | float value => value == .finite 0

/-- The price of a row. -/
def price (value : Native) : Except WireError (Option Extended) :=
  if value.unpriced then .ok Option.none else value.decimal.map some

@[simp] theorem str_text (value : String) : (text value).str = value := rfl

@[simp] theorem decimal_number (value : ℤ) : (number value).decimal = .ok (.finite value) := rfl

/-- `float(decimal)`. -/
def ofDecimal (value : ℚ) : Native := .float (Binary64.round value)

end Native

/-- A wire value in a row. -/
def WireValue.native : WireValue → Native
  | text value => .text value
  | number value => .number value

@[simp] theorem WireValue.native_str (value : WireValue) : value.native.str = value.str := by
  cases value <;> rfl

namespace Row

/-- `row.get(key, default)`. -/
def getOr (row : Row) (key : String) (default : Native) : Native := (Dict.get row key).getD default

/-- `row.get(first) or row.get(second)`. -/
def either (row : Row) (first second : String) : Native :=
  if (getOr row first .none).truthy then getOr row first .none else getOr row second .none

theorem either_first {row : Row} {first second : String} {value : Native} (held : Dict.get row first = some value)
    (truthy : value.truthy = true) : either row first second = value := by
  unfold either getOr
  rw [held, Option.getD_some, if_pos truthy]

/-- The members of a dictionary literal, with those that have a value. -/
def ofMembers (members : List (String × Option Native)) : Row :=
  members.foldl (fun row member => match member.2 with
    | some value => Dict.set row member.1 value
    | none => row) ∅

private theorem get_foldl (members : List (String × Option Native)) (nodup : (members.map Prod.fst).Nodup) (row : Row)
    (key : String) : Dict.get (members.foldl (fun row member => match member.2 with
      | some value => Dict.set row member.1 value
      | none => row) row) key = ((members.lookup key).getD none).or (Dict.get row key) := by
  induction members generalizing row with
  | nil => rfl
  | cons member rest ih =>
    obtain ⟨name, value⟩ := member
    obtain ⟨fresh, later⟩ := List.nodup_cons.mp nodup
    rw [List.foldl_cons, ih later]
    by_cases same : key = name
    · subst same
      have absent : rest.lookup key = none := by
        refine List.lookup_eq_none_iff.mpr fun other member => ?_
        simpa using fun same : key = other.1 => fresh (List.mem_map.mpr ⟨other, member, same.symm⟩)
      rw [absent, List.lookup_cons_self, Option.getD_none, Option.none_or, Option.getD_some]
      cases value with
      | none => rfl
      | some value => exact Dict.get_set_self ..
    · rw [List.lookup_cons, beq_false_of_ne same]
      cases value with
      | none => rfl
      | some value =>
        dsimp only
        rw [Dict.get_set_other _ _ _ _ same]

/-- A member of the literal is read back. -/
theorem get_ofMembers {members : List (String × Option Native)} (nodup : (members.map Prod.fst).Nodup) (key : String) :
    Dict.get (ofMembers members) key = (members.lookup key).getD none := by
  unfold ofMembers
  rw [get_foldl members nodup, Dict.get_empty, Option.or_none]

end Row

/-- An order as a wire decodes it. -/
structure DecodedOrder where
  orderId : OrderId
  instrumentId : InstrumentId
  side : OrderSide
  orderType : OrderType
  quantity : Extended
  price : Option Extended
  timeInForce : TimeInForce
  status : OrderStatus
  correlationId : CorrelationId
  filledQuantity : Extended
  deriving DecidableEq, Repr

/-- The order has what the command asked for. -/
structure BrokerCommand.Matches (command : BrokerCommand) (order : DecodedOrder) : Prop where
  instrumentId : order.instrumentId = command.instrumentId
  side : order.side = command.side
  orderType : order.orderType = command.orderType
  quantity : order.quantity = .finite command.quantity
  price : order.price = command.price.map .finite
  timeInForce : order.timeInForce = command.timeInForce
  correlationId : order.correlationId = command.correlationId

/-- `_corr`; `uuid5` is the name-based UUID of a text, and `unknown` stands for a missing one. -/
def corr (uuid5 : String → Uuid) (unknown : String) (raw : Native) : CorrelationId :=
  let text := if raw.truthy then raw.str else ""
  match Uuid.ofText text with
  | some uuid => ⟨uuid.text⟩
  | none => ⟨(uuid5 (if text = "" then unknown else text)).text⟩

/-- The status of an order just decoded: a pending one is submitted. -/
def openStatus (status : OrderStatus) : OrderStatus := if status ≠ .PENDING then status else .SUBMITTED

/-- The decimal survives the float and its text. -/
def SurvivesFloat (price : ℚ) : Prop := price ≠ 0 ∧ Binary64.shown (Binary64.round price) = .finite price

instance (price : ℚ) : Decidable (SurvivesFloat price) := inferInstanceAs (Decidable (_ ∧ _))

/-- The fields of a command that both wires carry: a market or limit order for the day, of a whole
quantity, at a price that a float holds. -/
structure BrokerCommand.Carried (command : BrokerCommand) : Prop where
  orderType : command.orderType = .MARKET ∨ command.orderType = .LIMIT
  timeInForce : command.timeInForce = .DAY
  quantity : Decimal.Whole command.quantity
  price : ∀ price, command.price = some price → SurvivesFloat price

/-- The price that is decoded from an encoded one. -/
theorem price_ofDecimal (price : Option ℚ) :
    ∃ decoded, Native.price ((price.map Native.ofDecimal).getD .none) = .ok decoded ∧
      (decoded = price.map .finite ↔ ∀ value, price = some value → SurvivesFloat value) := by
  cases price with
  | none => exact ⟨none, rfl, by simp⟩
  | some value =>
    by_cases zero : Binary64.round value = .finite 0
    · refine ⟨none, ?_, ?_⟩
      · simp [Native.price, Native.unpriced, Native.ofDecimal, zero]
      · constructor
        · intro same
          cases same
        · intro survives
          obtain ⟨nonzero, shown⟩ := survives value rfl
          rw [zero, Binary64.shown_zero] at shown
          exact absurd (Extended.finite.inj shown).symm nonzero
    · refine ⟨some (Binary64.shown (Binary64.round value)), ?_, ?_⟩
      · simp [Native.price, Native.unpriced, Native.ofDecimal, zero, Native.decimal, Except.map]
      · constructor
        · intro same other isIt
          obtain rfl := Option.some.inj isIt
          have shown : Binary64.shown (Binary64.round value) = .finite value := Option.some.inj same
          refine ⟨?_, shown⟩
          rintro rfl
          exact zero (by decide +kernel)
        · intro survives
          rw [(survives value rfl).2]
          rfl

/-- A text that is a UUID is the correlation id. -/
theorem corr_text (uuid5 : String → Uuid) (unknown : String) (uuid : Uuid) :
    corr uuid5 unknown (.text uuid.text) = ⟨uuid.text⟩ := by
  have truthy : (Native.text uuid.text).truthy = true := by
    simpa [Native.truthy] using uuid.text_ne_empty
  unfold corr
  rw [if_pos truthy, Native.str]
  dsimp only
  rw [Uuid.ofText_text]

/-- `require`. -/
def require (ref : BrokerWireRef) (key : String) : Except WireError WireValue :=
  match Dict.get ref.wire key with
  | some value => .ok value
  | none => .error (.resolver (.missingKey key))

/-- `_canon_iid`, for the wire key of the broker. -/
def canonIid (resolver : InMemoryInstrumentResolver) (key raw : String) : Except WireError InstrumentId :=
  match resolver.reverse key raw with
  | some instrumentId => .ok instrumentId
  | none => .error (.noCanonical raw)

/-- How a broker's rows spell an order. -/
structure OrderFormat where
  wireKey : String
  unknown : String
  orderId : Row → String
  rawInstrument : Row → String
  side : Row → OrderSide
  orderType : Row → OrderType
  status : Row → OrderStatus
  correlation : Row → Native
  filled : Row → Native

namespace OrderFormat

/-- `to_order`, for rows of the format. -/
def toOrder (format : OrderFormat) (resolver : InMemoryInstrumentResolver) (uuid5 : String → Uuid)
    (native : OrderPayload) : Except WireError DecodedOrder := do
  let row := native.data.getD native.fields
  let instrumentId ← canonIid resolver format.wireKey (format.rawInstrument row)
  let quantity ← (Row.getOr row "quantity" (.number 0)).decimal
  let price ← (Row.getOr row "price" .none).price
  let filledQuantity ← (format.filled row).decimal
  return {
    orderId := ⟨format.orderId row⟩
    instrumentId := instrumentId
    side := format.side row
    orderType := format.orderType row
    quantity := quantity
    price := price
    timeInForce := .DAY
    status := openStatus (format.status row)
    correlationId := corr uuid5 format.unknown (format.correlation row)
    filledQuantity := filledQuantity }

/-- The row has the members of a command that is sent for the raw instrument. -/
structure Spells (format : OrderFormat) (row : Row) (command : BrokerCommand) (sent : String) : Prop where
  rawInstrument : format.rawInstrument row = sent
  side : format.side row = command.side
  quantity : Dict.get row "quantity" = some (.number (Decimal.toInt command.quantity))
  price : Dict.get row "price" = command.price.map Native.ofDecimal
  correlation : format.correlation row = .text command.uuid.text
  filled : format.filled row = .number 0

variable {format : OrderFormat} {row : Row} {command : BrokerCommand} {sent : String}

/-- When the row decodes to what the command asked for. -/
theorem Spells.matches_iff (spells : format.Spells row command sent) (resolver : InMemoryInstrumentResolver)
    (uuid5 : String → Uuid) :
    (∃ order, format.toOrder resolver uuid5 { fields := row } = .ok order ∧ command.Matches order) ↔
      resolver.reverse format.wireKey sent = some command.instrumentId ∧ format.orderType row = command.orderType ∧
        command.timeInForce = .DAY ∧ Decimal.Whole command.quantity ∧
        ∀ price, command.price = some price → SurvivesFloat price := by
  obtain ⟨price, priced, survives⟩ := price_ofDecimal command.price
  have quantity : (Row.getOr row "quantity" (.number 0)).decimal = .ok (.finite (Decimal.toInt command.quantity)) := by
    unfold Row.getOr
    rw [spells.quantity]
    rfl
  have pricing : (Row.getOr row "price" .none).price = .ok price := by
    unfold Row.getOr
    rw [spells.price]
    exact priced
  unfold toOrder canonIid
  dsimp only [Option.getD_none]
  rw [spells.rawInstrument, quantity, pricing, spells.filled, spells.correlation, corr_text]
  cases found : resolver.reverse format.wireKey sent with
  | none =>
    constructor
    · rintro ⟨order, decoded, -⟩
      cases decoded
    · rintro ⟨filed, -⟩
      cases filed
  | some instrumentId =>
    constructor
    · rintro ⟨order, decoded, fields⟩
      obtain rfl := Except.ok.inj decoded
      exact ⟨congrArg some fields.instrumentId, fields.orderType, fields.timeInForce.symm,
        Extended.finite.inj fields.quantity, survives.mp fields.price⟩
    · rintro ⟨filed, orderType, timeInForce, whole, price⟩
      refine ⟨_, rfl, Option.some.inj filed, spells.side, orderType, ?_, survives.mpr price, timeInForce.symm, ?_⟩
      · exact congrArg Extended.finite whole
      · exact command.correlated.symm

end OrderFormat

end TradeX.V2
