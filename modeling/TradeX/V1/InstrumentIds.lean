import TradeX.Lib.Decimal
import TradeX.V2.InstrumentIdParse

/-! The instrument id of v1: its factories, its text and the parser of that, and the key behind equality and hash. The
text and the key have the whole part of a strike only. Reading a date, a strike and a right from the components of a
text is as in v2. -/

namespace TradeX.V1.Instruments

open Lib
open V2.ValueObjects (Runtime norm norm_norm norm_upperText FUT validRights IdError)
open V2.ValueObjects.InstrumentId (Key strftime readThird readFourth readFifth)

inductive AssetKind where
  | EQUITY
  | INDEX
  | FUTURES
  | OPTIONS
  | ETF
  | CURRENCY
  | COMMODITY
  | SPOT
  | CRYPTO
  | BOND
  | SYNTHETIC
  deriving DecidableEq, Repr

namespace AssetKind

def value : AssetKind → List Char
  | EQUITY => "EQUITY".toList
  | INDEX => "INDEX".toList
  | FUTURES => "FUTURES".toList
  | OPTIONS => "OPTIONS".toList
  | ETF => "ETF".toList
  | CURRENCY => "CURRENCY".toList
  | COMMODITY => "COMMODITY".toList
  | SPOT => "SPOT".toList
  | CRYPTO => "CRYPTO".toList
  | BOND => "BOND".toList
  | SYNTHETIC => "SYNTHETIC".toList

def all : List AssetKind :=
  [EQUITY, INDEX, FUTURES, OPTIONS, ETF, CURRENCY, COMMODITY, SPOT, CRYPTO, BOND, SYNTHETIC]

/-- `AssetKind.parse` -/
def parse (table : CharTable) (text : List Char) : Option AssetKind :=
  let key := table.upperText (table.strip text)
  if key = "FUTURE".toList then some FUTURES
  else if key = "OPTION".toList then some OPTIONS
  else all.find? fun kind => kind.value = key

end AssetKind

/-- `VALID_EXCHANGES` -/
def validExchanges : List (List Char) :=
  ["NSE".toList, "BSE".toList, "NFO".toList, "MCX".toList, "CDS".toList]

/-- A table of the characters, and the codes for which `register_exchange` was called. -/
structure Registry extends Runtime where
  extras : List (List Char)

/-- `allowed_exchanges` -/
def allowedExchanges (registry : Registry) : List (List Char) :=
  validExchanges ++ registry.extras.map (norm registry.toRuntime)

structure InstrumentId (registry : Registry) where
  exchange : List Char
  underlying : List Char
  expiry : Option Date
  strike : Option Lib.PyDecimal
  right : Option (List Char)
  kind : Option AssetKind
  exchange_allowed : norm registry.toRuntime exchange ∈ allowedExchanges registry
  right_valid : ∀ r ∈ right, r = [] ∨ registry.upperText r ∈ validRights
  deriving DecidableEq

namespace InstrumentId

section

variable (registry : Registry)

/-- `InstrumentId(...)`: the checks of `__post_init__`, which leave the components as they are. -/
def build (exchange underlying : List Char) (expiry : Option Date) (strike : Option Lib.PyDecimal)
    (right kind : Option (List Char)) : Except IdError (InstrumentId registry) :=
  let parsed := kind.map (AssetKind.parse registry.toCharTable)
  if parsed = some none then .error (.invalidKind (kind.getD []))
  else if allowed : norm registry.toRuntime exchange ∈ allowedExchanges registry then
    if valid : ∀ r ∈ right, r = [] ∨ registry.upperText r ∈ validRights then
      .ok {
        exchange
        underlying
        expiry
        strike
        right
        kind := parsed.join
        exchange_allowed := allowed
        right_valid := valid }
    else .error (.invalidRight (right.getD []))
  else .error (.invalidExchange exchange)

/-- An id of an exchange and a name. -/
def cash (kind : AssetKind) (exchange symbol : List Char) : Except IdError (InstrumentId registry) :=
  build registry (norm registry.toRuntime exchange) (norm registry.toRuntime symbol) none none none (some kind.value)

def equity (exchange symbol : List Char) : Except IdError (InstrumentId registry) :=
  cash registry .EQUITY exchange symbol

def index (exchange name : List Char) : Except IdError (InstrumentId registry) := cash registry .INDEX exchange name

def etf (exchange symbol : List Char) : Except IdError (InstrumentId registry) := cash registry .ETF exchange symbol

def spot (exchange symbol : List Char) : Except IdError (InstrumentId registry) := cash registry .SPOT exchange symbol

def currency (exchange symbol : List Char) : Except IdError (InstrumentId registry) :=
  cash registry .CURRENCY exchange symbol

/-- The kind of a future: of a commodity on MCX, where it is not given as another. -/
def futureKind (exchange : List Char) (kind : Option (List Char)) : AssetKind :=
  let parsed := kind.elim (some .FUTURES) (AssetKind.parse registry.toCharTable)
  if parsed = some .FUTURES ∧ norm registry.toRuntime exchange = "MCX".toList then .COMMODITY
  else parsed.getD .FUTURES

def future (exchange underlying : List Char) (expiry : Date) (kind : Option (List Char)) :
    Except IdError (InstrumentId registry) :=
  build registry (norm registry.toRuntime exchange) (norm registry.toRuntime underlying) (some expiry) none (some FUT)
    (some (futureKind registry exchange kind).value)

def commodity (exchange underlying : List Char) (expiry : Date) : Except IdError (InstrumentId registry) :=
  future registry exchange underlying expiry (some AssetKind.COMMODITY.value)

/-- The `option` factory, of a strike with the text that `str` writes of it. -/
def option (exchange underlying : List Char) (expiry : Date) (strike right : List Char) :
    Except IdError (InstrumentId registry) :=
  match registry.decimal strike with
  | none => .error (.invalidStrike strike)
  | some strike =>
    build registry (norm registry.toRuntime exchange) (norm registry.toRuntime underlying) (some expiry) (some strike)
      (some (norm registry.toRuntime right)) (some AssetKind.OPTIONS.value)

/-- What `parse` makes of the components. -/
def ofParts (exchange underlying : List Char) (rest : List (List Char)) : Except IdError (InstrumentId registry) :=
  match readThird registry.toRuntime (rest[0]?.getD []) with
  | .error error => .error error
  | .ok (expiry, third) =>
    let (strike, fourth) := readFourth registry.toRuntime (rest[1]?.getD []) third
    build registry (registry.upperText exchange) (registry.upperText underlying) expiry strike
      (readFifth registry.toRuntime (rest[2]?.getD []) expiry fourth) none

/-- `InstrumentId.parse` -/
def parse (text : List Char) : Except IdError (InstrumentId registry) :=
  match (registry.strip text).splitOn ':' with
  | exchange :: underlying :: rest => ofParts registry exchange underlying rest
  | _ => .error (.invalidFormat text)

end

/-- What `int` raises of a strike. -/
inductive StrikeError where
  | overflow
  | notANumber
  deriving DecidableEq, Repr

/-- `int(self.strike)` -/
def whole : Lib.PyDecimal → Except StrikeError ℤ
  | .infinity _ => .error .overflow
  | .nan _ _ _ => .error .notANumber
  | .finite negative coefficient exponent =>
    .ok (Decimal.toInt (Lib.PyDecimal.sign negative * coefficient * (10 : ℚ) ^ exponent))

/-- `str(int(self.strike))`, where there is a strike. -/
def strikeText (strike : Option Lib.PyDecimal) : Except StrikeError (Option (List Char)) :=
  match strike with
  | none => .ok none
  | some strike => (whole strike).map fun n => some (toString n).toList

variable {registry : Registry} (id other : InstrumentId registry)

/-- `__str__` -/
def str : Except StrikeError (List Char) :=
  (strikeText id.strike).map fun strike =>
    [':'].intercalate ([id.exchange, id.underlying] ++ (id.expiry.map (strftime registry.toRuntime)).toList ++
      strike.toList ++ (id.right.filter (· ≠ [])).toList)

/-- `key` -/
def key : Except StrikeError Key :=
  (strikeText id.strike).map fun strike => (id.exchange, id.underlying, id.expiry.map Date.write, strike, id.right)

/-- `__eq__` -/
def eq : Except StrikeError Bool :=
  match id.key with
  | .error error => .error error
  | .ok mine => other.key.map fun theirs => decide (mine = theirs)

/-- `__hash__`, over a hash of tuples. -/
def hash (hashOf : Key → ℤ) : Except StrikeError ℤ := id.key.map hashOf

end InstrumentId

end TradeX.V1.Instruments
