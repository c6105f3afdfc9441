import TradeX.Lib.PairIndex
import TradeX.Lib.Runs
import TradeX.V2.InstrumentKeys

/-! The shared instrument resolver of the brokers. All keys of all instruments, canonical ids and
aliases, are entries of one map, so the registration of an instrument can take the entry of another
instrument whose canonical id is one of its aliases. -/

namespace TradeX.V2

open Lib

/-- A value of a wire reference. -/
inductive WireValue where
  | text (value : String)
  | number (value : ℤ)
  deriving DecidableEq, Repr

def WireValue.str : WireValue → String
  | text value => value
  | number value => toString value

/-- A broker's own reference to an instrument, under its keys. -/
abbrev Wire := Dict String WireValue

namespace Wire

/-- The pairs under which a wire reference is filed. -/
def pairs (wire : Wire) : List (String × String) := (Dict.entries wire).map fun entry => (entry.1, entry.2.str)

/-- The wire has the value under the key. -/
def carries (wire : Wire) (key value : String) : Prop := (key, value) ∈ wire.pairs

end Wire

structure ResolvedInstrument where
  instrumentId : InstrumentId
  exchange : String
  symbol : String
  fields : AliasFields

structure BrokerWireRef where
  instrumentId : InstrumentId
  wire : Wire

structure LoadStats where
  total : Nat := 0
  source : String := "manual"
  deriving DecidableEq, Repr

/-- What the resolver raises. -/
inductive ResolverError where
  | noWireRef (instrumentId : String)
  | missingKey (key : String)
  | invalidId (text : String)
  deriving DecidableEq, Repr

structure InMemoryInstrumentResolver where
  wire : Dict String Wire := ∅
  reverseIndex : PairIndex String String InstrumentId := ∅
  metadata : Dict String ResolvedInstrument := ∅
  stats : LoadStats := {}

/-- The instrument id of a row: missing, an id, or a text to parse. -/
inductive RowId where
  | missing
  | id (instrumentId : InstrumentId)
  | text (text : String)
  deriving DecidableEq, Repr

structure InstrumentRow where
  instrumentId : RowId
  wire : Option Wire
  aliasFields : AliasFields := {}

/-- The text in front of the first colon and the text behind it. -/
def splitColon (text : String) : Option (String × String) :=
  match text.toList.dropWhile (fun c => c ≠ ':') with
  | [] => none
  | _ :: rest => some (String.ofList (text.toList.takeWhile fun c => c ≠ ':'), String.ofList rest)

/-- The series of `_SUFFIX`. -/
def seriesSuffixes : List String := ["EQ", "BE", "BL", "BZ", "MC", "NC", "NZ", "SM", "SO", "TT"]

/-- `_strip_symbol_suffix`. -/
def stripSymbolSuffix (symbol : String) : String :=
  let sym := InstrumentKeys.normalizeSymbol symbol
  if seriesSuffixes.any fun series => InstrumentKeys.endsWith sym ("-" ++ series) || InstrumentKeys.endsWith sym ("_" ++ series)
  then InstrumentKeys.dropEnd 3 sym
  else sym

namespace InstrumentId

/-- The canonical id without the series of its symbol. -/
def stripped (instrumentId : InstrumentId) : String :=
  match splitColon instrumentId.value with
  | some (exch, sym) => exch ++ ":" ++ stripSymbolSuffix sym
  | none => stripSymbolSuffix instrumentId.value

/-- The exchange that a canonical id begins with. -/
def exchangePart (instrumentId : InstrumentId) : String := ((splitColon instrumentId.value).map Prod.fst).getD ""

/-- The symbol behind the exchange. -/
def symbolPart (instrumentId : InstrumentId) : String :=
  ((splitColon instrumentId.value).map Prod.snd).getD instrumentId.value

end InstrumentId

/-- `f"{exch}:" if exch else ""`, in front of an alias. -/
def underExchange (exchange key : String) : String := if exchange = "" then key else exchange ++ ":" ++ key

/-- The instrument and the wire of a row that is not skipped; `parse` is `InstrumentId.parse`, where the
text is one of an instrument. -/
def InstrumentRow.entry (parse : String → Option InstrumentId) (row : InstrumentRow) :
    Except ResolverError (Option (InstrumentId × Wire)) :=
  match row.instrumentId, row.wire with
  | .missing, _ => .ok none
  | _, none => .ok none
  | .id instrumentId, some wire => .ok (some (instrumentId, wire))
  | .text text, some wire =>
    if text = "" then .ok none
    else match parse text with
      | some instrumentId => .ok (some (instrumentId, wire))
      | none => .error (.invalidId text)

namespace InMemoryInstrumentResolver

/-- `_alias_keys`, for the metadata that `register` has just stored. -/
def aliasKeys (instrumentId : InstrumentId) (record : ResolvedInstrument) : List String :=
  let canonical := if instrumentId.stripped ≠ instrumentId.value then [instrumentId.value, instrumentId.stripped]
    else [instrumentId.value]
  if record.symbol = "" then canonical
  else
    let variants := [stripSymbolSuffix record.symbol, record.symbol].flatMap fun symbol =>
      InstrumentKeys.generateAlternateKeys symbol record.fields
    canonical ++ (variants.foldl (fun alt a => if a ∈ alt then alt else alt ++ [a]) []).map (underExchange record.exchange)

/-- The metadata that `register` stores. -/
def registeredMeta (instrumentId : InstrumentId) (fields : AliasFields) : ResolvedInstrument where
  instrumentId := instrumentId
  exchange := fields.exchange.getD instrumentId.exchangePart
  symbol := stripSymbolSuffix (fields.symbol.getD instrumentId.symbolPart)
  fields := fields

/-- The keys under which a registration files the instrument. -/
def registeredKeys (instrumentId : InstrumentId) (fields : AliasFields) : List String :=
  aliasKeys instrumentId (registeredMeta instrumentId fields)

/-- The entries under which the resolver files a wire for an instrument. -/
def fileUnder (resolver : InMemoryInstrumentResolver) (instrumentId : InstrumentId) (wire : Wire) (keys : List String) :
    InMemoryInstrumentResolver :=
  keys.foldl (fun filed key => { filed with
    wire := filed.wire.set key wire
    reverseIndex := PairIndex.fileAll filed.reverseIndex instrumentId wire.pairs }) resolver

/-- `register`. -/
def register (resolver : InMemoryInstrumentResolver) (instrumentId : InstrumentId) (wire : Wire) (fields : AliasFields) :
    InMemoryInstrumentResolver :=
  let record := registeredMeta instrumentId fields
  let old := ((resolver.wire.get instrumentId.value).map Wire.pairs).getD []
  let dropped := { resolver with
    metadata := resolver.metadata.set instrumentId.value record
    reverseIndex := PairIndex.unfileAll resolver.reverseIndex instrumentId old }
  dropped.fileUnder instrumentId wire (aliasKeys instrumentId record)

/-- The keys under which a row of a bulk load files its instrument. -/
def rowKeys (instrumentId : InstrumentId) (fields : AliasFields) : List String :=
  let given := fields.exchange.getD ""
  let exchange := if given = "" then instrumentId.exchangePart else given
  let symbol := fields.symbol.getD instrumentId.symbolPart
  instrumentId.value :: (InstrumentKeys.generateAlternateKeys symbol fields).map (underExchange exchange)

/-- The metadata of a row. -/
def rowMeta (instrumentId : InstrumentId) (fields : AliasFields) : ResolvedInstrument where
  instrumentId := instrumentId
  exchange := if fields.exchange.getD "" = "" then instrumentId.exchangePart else fields.exchange.getD ""
  symbol := fields.symbol.getD instrumentId.symbolPart
  fields := fields

section

-- `InstrumentId.parse`, where the text is one of an instrument
variable (parse : String → Option InstrumentId)

/-- One row of a bulk load, on the fresh maps. -/
def loadRow (fresh : InMemoryInstrumentResolver) (instrumentId : InstrumentId) (wire : Wire) (fields : AliasFields) :
    InMemoryInstrumentResolver :=
  { fresh with metadata := fresh.metadata.set instrumentId.value (rowMeta instrumentId fields) }.fileUnder
    instrumentId wire (rowKeys instrumentId fields)

/-- The rows in turn; an id that is none ends the load. -/
def loadRows : InMemoryInstrumentResolver → List InstrumentRow → Except ResolverError InMemoryInstrumentResolver
  | fresh, [] => .ok fresh
  | fresh, row :: rest => do
    match ← InstrumentRow.entry parse row with
    | none => loadRows fresh rest
    | some (instrumentId, wire) => loadRows (fresh.loadRow instrumentId wire row.aliasFields) rest

/-- `load_from_rows`: the fresh maps take the place of the old ones. -/
def loadFromRows (rows : List InstrumentRow) (source : String) : Except ResolverError InMemoryInstrumentResolver := do
  let fresh ← loadRows parse {} rows
  return { fresh with stats := { total := fresh.wire.size, source := source } }

end

/-- `resolve_ref`. -/
def resolveRef (resolver : InMemoryInstrumentResolver) (instrumentId : InstrumentId) :
    Except ResolverError BrokerWireRef :=
  match (resolver.wire.get instrumentId.value).or (resolver.wire.get instrumentId.stripped) with
  | some wire => .ok ⟨instrumentId, wire⟩
  | none => .error (.noWireRef instrumentId.value)

/-- `reverse`. -/
def reverse (resolver : InMemoryInstrumentResolver) (key value : String) : Option InstrumentId :=
  PairIndex.find resolver.reverseIndex key value

end InMemoryInstrumentResolver

end TradeX.V2
