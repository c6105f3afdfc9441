import TradeX.Lib.Decimal
import TradeX.Lib.IsoTime

/-! Option and future chains, what `to_dict` writes of them, and what `from_dict` reads of any dict. Decimals
are exact rationals; a text of no number or of an infinity is not read as one. -/

namespace TradeX.V1

open Lib

/-- What stands in a dict. -/
inductive Value where
  | null
  | decimal (value : ℚ)
  | int (value : ℤ)
  | text (content : String)
  | moment (value : DateTime)
  | list (items : List Value)
  | dict (entries : List (String × Value))

namespace Value

/-- The truth of a value. -/
def truthy : Value → Bool
  | null => false
  | decimal value => decide (value ≠ 0)
  | int value => decide (value ≠ 0)
  | text content => decide (content ≠ "")
  | moment _ => true
  | list items => !items.isEmpty
  | dict entries => !entries.isEmpty

/-- `value or other`. -/
def orElse (value other : Value) : Value := if value.truthy then value else other

/-- `data.get(key)`. -/
def field (entries : List (String × Value)) (key : String) : Value := (entries.lookup key).getD null

/-- `data.get(key, default)`. -/
def fieldOr (entries : List (String × Value)) (key : String) (default_ : Value) : Value :=
  (entries.lookup key).getD default_

/-- What an iteration goes over; none where it raises. -/
def iterate : Value → Option (List Value)
  | list items => some items
  | dict entries => some (entries.map fun entry => text entry.1)
  | text content => some (content.toList.map fun c => text (String.singleton c))
  | _ => none

def ofDecimal (value : Option ℚ) : Value := value.elim null decimal

def ofInt (value : Option ℤ) : Value := value.elim null int

end Value

/-- What the readings take from outside: the text that `str` makes of a value, the conversion of a Unix time,
and the clock. -/
structure ChainRuntime where
  str : Value → String
  str_text : ∀ text, str (.text text) = text
  fromTimestamp : ℤ → Option DateTime
  now : DateTime

/-- `parse_decimal` -/
def parseDecimal : Value → ℚ
  | .decimal value => value
  | .int value => value
  | .text text => (Decimal.ofText text).getD 0
  | _ => 0

/-- `int(value)`; none where it raises. -/
def toInteger : Value → Option ℤ
  | .decimal value => some (Decimal.toInt value)
  | .int value => some value
  | .text text => Decimal.readInteger ((Text.strip text).toList.filter fun c => c ≠ '_')
  | _ => none

/-- `parse_int` -/
def parseInt (value : Value) : ℤ := (toInteger value).getD 0

/-- `text.replace("Z", "+00:00")` -/
def replaceZ (text : String) : String :=
  String.ofList (text.toList.flatMap fun c => if c = 'Z' then "+00:00".toList else [c])

/-- `parse_timestamp` -/
def parseTimestamp (runtime : ChainRuntime) (value : Value) : Option DateTime :=
  if !value.truthy then none
  else
    match value with
    | .int seconds => runtime.fromTimestamp seconds
    | .text text => DateTime.fromisoformat (replaceZ text)
    | _ => none

/-- `_chain_fetched_at` -/
def chainFetchedAt (runtime : ChainRuntime) (data : List (String × Value)) : DateTime :=
  match Value.field data "fetched_at" with
  | .null => runtime.now
  | .moment moment => moment
  | raw => (parseTimestamp runtime raw).getD runtime.now

structure OptionLeg where
  ltp : Option ℚ := none
  oi : Option ℤ := none
  volume : Option ℤ := none
  iv : Option ℚ := none
  bid : Option ℚ := none
  ask : Option ℚ := none
  symbol : Value := .null
  instrumentKey : Value := .null
  tradingSymbol : Value := .null
  instrumentId : Option String := none
  greeks : Option (List (String × Value)) := none

namespace OptionLeg

def toDict (leg : OptionLeg) : List (String × Value) :=
  [("ltp", .ofDecimal leg.ltp), ("oi", .ofInt leg.oi), ("volume", .ofInt leg.volume), ("iv", .ofDecimal leg.iv),
    ("bid", .ofDecimal leg.bid), ("ask", .ofDecimal leg.ask), ("symbol", leg.symbol),
    ("instrument_key", leg.instrumentKey), ("trading_symbol", leg.tradingSymbol)] ++
  match leg.greeks with
  | some (greek :: greeks) => [("greeks", .dict (greek :: greeks))]
  | _ => []

/-- The greeks of a leg: those nested in it, or those beside its prices. -/
def readGreeks (data : List (String × Value)) : Option (List (String × Value)) :=
  match Value.field data "greeks" with
  | .dict (greek :: greeks) => some (greek :: greeks)
  | _ =>
    let flat := ["delta", "theta", "gamma", "vega", "rho"].filterMap fun key =>
      match Value.field data key with
      | .null => none
      | value => some (key, value)
    if flat.isEmpty then none else some flat

/-- `option_leg_from_dict` of a dict. -/
def fromDict (data : List (String × Value)) : OptionLeg where
  ltp := some (parseDecimal (.field data "ltp"))
  oi := some (parseInt (.field data "oi"))
  volume := some (parseInt (.field data "volume"))
  iv := some (parseDecimal (.field data "iv"))
  bid := some (parseDecimal (.field data "bid"))
  ask := some (parseDecimal (.field data "ask"))
  symbol := .field data "symbol"
  instrumentKey := (Value.field data "instrument_key").orElse (.field data "security_id")
  tradingSymbol := (Value.field data "trading_symbol").orElse (.field data "tradingSymbol")
  greeks := readGreeks data

end OptionLeg

structure OptionStrike where
  strike : ℚ
  call : OptionLeg := {}
  put : OptionLeg := {}

namespace OptionStrike

def toDict (row : OptionStrike) : List (String × Value) :=
  [("strike", .decimal row.strike), ("call", .dict row.call.toDict), ("put", .dict row.put.toDict)]

/-- The dict of a leg under either of its keys, an empty one where there is none. -/
def legOf (data : List (String × Value)) (key other : String) : List (String × Value) :=
  match (Value.field data key).orElse (.field data other) with
  | .dict leg => leg
  | _ => []

/-- `option_strike_from_dict` -/
def fromDict (data : List (String × Value)) : OptionStrike where
  strike := parseDecimal ((Value.field data "strike").orElse (.field data "strikePrice"))
  call := .fromDict (legOf data "call" "CE")
  put := .fromDict (legOf data "put" "PE")

end OptionStrike

/-- The rows of an iteration that are dicts. -/
def dictRows (rows : List Value) : List (List (String × Value)) :=
  rows.filterMap fun
    | .dict row => some row
    | _ => none

structure OptionChain where
  underlying : String
  exchange : String
  expiry : String
  strikes : List OptionStrike := []
  spot : Option ℚ := none
  fetchedAt : Option DateTime := none

/-- The moment of a chain in its dict, where it has one. -/
def fetchedEntry (fetchedAt : Option DateTime) : List (String × Value) :=
  (fetchedAt.map fun moment => ("fetched_at", Value.text moment.isoformat)).toList

namespace OptionChain

def toDict (chain : OptionChain) : List (String × Value) :=
  [("underlying", .text chain.underlying), ("exchange", .text chain.exchange), ("expiry", .text chain.expiry),
    ("strikes", .list (chain.strikes.map fun row => .dict row.toDict)), ("spot", .ofDecimal chain.spot)] ++
  fetchedEntry chain.fetchedAt

/-- `option_chain_from_dict`; none where it raises. -/
def fromDict (runtime : ChainRuntime) (data : List (String × Value)) : Option OptionChain :=
  if data.isEmpty then
    some { underlying := "", exchange := "", expiry := "", fetchedAt := some (chainFetchedAt runtime data) }
  else
    (Value.fieldOr data "strikes" (.list [])).iterate.map fun rows =>
      { underlying := runtime.str (.fieldOr data "underlying" (.text ""))
        exchange := runtime.str (.fieldOr data "exchange" (.text ""))
        expiry := runtime.str (.fieldOr data "expiry" (.text ""))
        strikes := (dictRows rows).map .fromDict
        spot := some (parseDecimal (.field data "spot"))
        fetchedAt := some (chainFetchedAt runtime data) }

end OptionChain

structure FutureContract where
  symbol : String := ""
  expiry : String := ""
  ltp : Option ℚ := none
  oi : Option ℤ := none
  lotSize : ℤ := 1
  underlying : String := ""
  instrumentId : Option String := none

namespace FutureContract

def toDict (contract : FutureContract) : List (String × Value) :=
  [("symbol", .text contract.symbol), ("expiry", .text contract.expiry), ("ltp", .ofDecimal contract.ltp),
    ("oi", .ofInt contract.oi), ("lot_size", .int contract.lotSize), ("underlying", .text contract.underlying)]

/-- `FutureContract.from_dict`; none where the lot size raises. -/
def fromDict (runtime : ChainRuntime) (data : List (String × Value)) : Option FutureContract :=
  (toInteger ((Value.fieldOr data "lot_size" (.int 1)).orElse (.int 1))).map fun lotSize =>
    { symbol := runtime.str (.fieldOr data "symbol" (.text ""))
      expiry := runtime.str (.fieldOr data "expiry" (.text ""))
      ltp := some (parseDecimal (.field data "ltp"))
      oi := some (parseInt (.field data "oi"))
      lotSize := lotSize
      underlying := runtime.str (.fieldOr data "underlying" (.text "")) }

end FutureContract

structure FutureChain where
  underlying : String
  exchange : String
  expiries : List String := []
  contracts : List FutureContract := []
  fetchedAt : Option DateTime := none

namespace FutureChain

def toDict (chain : FutureChain) : List (String × Value) :=
  [("underlying", .text chain.underlying), ("exchange", .text chain.exchange),
    ("expiries", .list (chain.expiries.map .text)),
    ("contracts", .list (chain.contracts.map fun contract => .dict contract.toDict))] ++
  fetchedEntry chain.fetchedAt

/-- The expiries of a dict, where they are a list. -/
def readExpiries (runtime : ChainRuntime) : Value → List String
  | .list expiries => expiries.map runtime.str
  | _ => []

/-- `future_chain_from_dict`; none where it raises. -/
def fromDict (runtime : ChainRuntime) (data : List (String × Value)) : Option FutureChain :=
  if data.isEmpty then
    some { underlying := "", exchange := "", fetchedAt := some (chainFetchedAt runtime data) }
  else
    (Value.fieldOr data "contracts" (.list [])).iterate.bind fun rows =>
      ((dictRows rows).mapM (FutureContract.fromDict runtime)).map fun contracts =>
        { underlying := runtime.str (.fieldOr data "underlying" (.text ""))
          exchange := runtime.str (.fieldOr data "exchange" (.text ""))
          expiries := readExpiries runtime (.fieldOr data "expiries" (.list []))
          contracts := contracts
          fetchedAt := some (chainFetchedAt runtime data) }

end FutureChain

end TradeX.V1
