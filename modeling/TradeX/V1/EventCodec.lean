import TradeX.Lib.Binary64
import TradeX.Lib.Dict
import TradeX.Lib.IsoTime
import TradeX.Lib.Json

/-! The codec of the v1 event log: domain events as records of JSON, and the events that a process
reads back. The values of a payload are tagged by type where JSON has no form for them, and what a
tag stands for is looked up in a registry that only the encoder fills. -/

namespace TradeX.V1

open Lib

/-- A value of one of the types that JSON has. -/
inductive Scalar where
  | bool (value : Bool)
  | int (value : ℤ)
  | float (numeral : String)
  | str (text : String)
  deriving DecidableEq, Repr

/-- A decimal, with the text that spells it. -/
structure PyDecimal where
  text : String
  value : Extended
  spells : Extended.ofText text = some value

/-- A key of a dictionary: a text, or another object with the text that JSON has for it. -/
inductive PyKey where
  | text (text : String)
  | object (identity : String) (json : Option String)
  deriving DecidableEq, Repr

/-- A Python value as a payload holds it. A member of an enumeration that is a text or a number too
is `mixed`; another one is `enum`, with the form of its value in JSON where it has one. -/
inductive PyValue where
  | none
  | scalar (value : Scalar)
  | mixed (enumeration : String) (value : Scalar)
  | enum (enumeration member : String) (json : Option Json) (text : String)
  | decimal (value : PyDecimal)
  | datetime (moment : DateTime)
  | date (day : Date)
  | dataclass (name : String) (fields : List (String × PyValue))
  | list (items : List PyValue)
  | tuple (items : List PyValue)
  | mapping (entries : List (PyKey × PyValue))
  | object (text : String)

/-- What `append` raises. -/
inductive AppendError where
  | typeError (text : String)
  deriving DecidableEq, Repr

/-- What `replay` raises. -/
inductive ReplayError where
  | keyError (name : String)
  | valueError (text : String)
  | typeError (text : String)
  deriving DecidableEq, Repr

/-- The type of a field, where it is an enumeration: what it makes of a value. -/
abbrev EnumHint := Json → Option PyValue

/-- A registered dataclass. -/
structure DataclassType where
  fields : List (String × Option EnumHint)
  build : List (String × PyValue) → Except ReplayError PyValue

/-- `_DOMAIN_TYPES`. -/
abbrev DomainTypes := String → Option DataclassType

/-- The registry of a process that has serialized nothing. -/
def freshProcess : DomainTypes := fun _ => none

def Scalar.toJson : Scalar → Json
  | bool value => .bool value
  | int value => .int value
  | float numeral => .float numeral
  | str text => .str text

/-- The names of JSON for the value of a type. -/
def tagged (type value : String) : Json := .obj [("__type__", .str type), ("value", .str value)]

section

-- `json.dumps(..., default=str)`: what JSON has no form for is written as its text
variable (defaultStr : Bool)

mutual

/-- `_serialize_value`, and what `json.dumps` makes of it. -/
def serializeValue : PyValue → Except AppendError Json
  | .none => .ok .null
  | .scalar value => .ok value.toJson
  | .mixed _ value => .ok value.toJson
  | .enum _ _ (some json) _ => .ok json
  | .enum _ _ none text => if defaultStr then .ok (.str text) else .error (.typeError text)
  | .decimal value => .ok (tagged "decimal" value.text)
  | .datetime moment => .ok (tagged "datetime" moment.isoformat)
  | .date day => .ok (tagged "date" day.isoformat)
  | .dataclass name fields => do
    let members ← serializeFields fields
    return .obj (("__type__", .str name) :: members)
  | .list items => do return .arr (← serializeItems items)
  | .tuple items => do return .arr (← serializeItems items)
  | .mapping entries => do return .obj (← serializeEntries entries)
  | .object text => .ok (.str text)

def serializeItems : List PyValue → Except AppendError (List Json)
  | [] => .ok []
  | item :: rest => do
    let json ← serializeValue item
    return json :: (← serializeItems rest)

def serializeFields : List (String × PyValue) → Except AppendError (List (String × Json))
  | [] => .ok []
  | (name, value) :: rest => do
    let json ← serializeValue value
    return (name, json) :: (← serializeFields rest)

def serializeEntries : List (PyKey × PyValue) → Except AppendError (List (String × Json))
  | [] => .ok []
  | (.text name, value) :: rest => do
    let json ← serializeValue value
    return (name, json) :: (← serializeEntries rest)
  | (.object _ (some name), value) :: rest => do
    let json ← serializeValue value
    return (name, json) :: (← serializeEntries rest)
  | (.object identity none, _) :: _ => .error (.typeError identity)

end

end

/-- The members of an object, a repeated name with its last value. -/
def lastWins (members : List (String × Json)) : List (String × Json) :=
  Dict.entries (members.foldl (fun filed member => Dict.set filed member.1 member.2) ∅)

mutual

/-- `json.loads` of the text of a value. -/
def loads : Json → Json
  | .arr items => .arr (loadsItems items)
  | .obj members => .obj (lastWins (loadsMembers members))
  | .null => .null
  | .bool value => .bool value
  | .int value => .int value
  | .float numeral => .float numeral
  | .str text => .str text

def loadsItems : List Json → List Json
  | [] => []
  | item :: rest => loads item :: loadsItems rest

def loadsMembers : List (String × Json) → List (String × Json)
  | [] => []
  | (name, value) :: rest => (name, loads value) :: loadsMembers rest

end

/-- What the member `__type__` of an object says. -/
inductive TypeTag where
  | plain
  | decimal
  | datetime
  | date
  | unhashable
  | dataclass (type : DataclassType)

/-- The branch that `_deserialize_value` takes on an object. -/
def typeTag (domainTypes : DomainTypes) (members : List (String × Json)) : TypeTag :=
  match Json.get members "__type__" with
  | some (.str name) =>
    if name = "decimal" then .decimal
    else if name = "datetime" then .datetime
    else if name = "date" then .date
    else match domainTypes name with
      | some type => .dataclass type
      | none => .plain
  | some (.arr _) => .unhashable
  | some (.obj _) => .unhashable
  | _ => .plain

/-- `value["value"]`, of an object that is tagged. -/
def taggedText (members : List (String × Json)) : Except ReplayError String :=
  match Json.get members "value" with
  | some (.str text) => .ok text
  | some _ => .error (.typeError "value")
  | none => .error (.keyError "value")

/-- The float that a numeral spells. -/
def floatValue (numeral : String) : Extended :=
  match Extended.ofText numeral with
  | some (.finite value) => Binary64.round value
  | some other => other
  | none => .nan

/-- `Decimal(text)`. -/
def spelledDecimal (text : String) : Except ReplayError PyValue :=
  match spells : Extended.ofText text with
  | some value => .ok (.decimal ⟨text, value, spells⟩)
  | none => .error (.valueError text)

/-- `Decimal(value["value"])`. -/
def readDecimal (members : List (String × Json)) : Except ReplayError PyValue :=
  match Json.get members "value" with
  | some (.int value) => spelledDecimal (toString value)
  | some (.bool value) => spelledDecimal (if value then "1" else "0")
  | some (.float numeral) => spelledDecimal (Binary64.exactText (floatValue numeral))
  | _ => (taggedText members).bind spelledDecimal

/-- The values that are all decoded, or the first error. -/
def collect {ε α β : Type} : List (α × Except ε β) → Except ε (List (α × β))
  | [] => .ok []
  | (name, value) :: rest => do
    let value ← value
    return (name, value) :: (← collect rest)

/-- The arguments of a dataclass: its fields, and none for those that are missing. -/
def fieldValues (type : DataclassType) (decoded : List (String × Except ReplayError PyValue)) :
    List (String × Except ReplayError PyValue) :=
  type.fields.map fun field =>
    (field.1, (decoded.lookup field.1).getD (.ok ((field.2.bind fun hint => hint .null).getD .none)))

section

variable (domainTypes : DomainTypes)

mutual

/-- `_deserialize_value`, for a value without an expected type. -/
def deserializeValue : Json → Except ReplayError PyValue
  | .null => .ok .none
  | .bool value => .ok (.scalar (.bool value))
  | .int value => .ok (.scalar (.int value))
  | .float numeral => .ok (.scalar (.float numeral))
  | .str text => .ok (.scalar (.str text))
  | .arr items => do return .list (← deserializeItems items)
  | .obj members =>
    match typeTag domainTypes members with
    | .plain => do
      let entries ← collect (deserializeMembers (fun _ => none) members)
      return .mapping (entries.map fun entry => (.text entry.1, entry.2))
    | .decimal => readDecimal members
    | .datetime => (taggedText members).bind fun text => match DateTime.fromisoformat text with
      | some moment => .ok (.datetime moment)
      | none => .error (.valueError text)
    | .date => (taggedText members).bind fun text => match Date.fromisoformat text with
      | some day => .ok (.date day)
      | none => .error (.valueError text)
    | .unhashable => .error (.typeError "__type__")
    | .dataclass type => do
      let hints (name : String) := (type.fields.lookup name).bind id
      let arguments ← collect (fieldValues type (deserializeMembers hints members))
      type.build arguments

def deserializeItems : List Json → Except ReplayError (List PyValue)
  | [] => .ok []
  | item :: rest => do
    let value ← deserializeValue item
    return value :: (← deserializeItems rest)

/-- The members, each under the type that is expected of it. -/
def deserializeMembers (hints : String → Option EnumHint) :
    List (String × Json) → List (String × Except ReplayError PyValue)
  | [] => []
  | (name, value) :: rest =>
    (name, match (hints name).bind fun hint => hint value with
      | some member => .ok member
      | none => deserializeValue value) :: deserializeMembers hints rest

end

end

def Scalar.isNan : Scalar → Bool
  | float numeral => numeral == "NaN"
  | _ => false

namespace Scalar

/-- `==` of two scalars of one type. -/
def eq (first second : Scalar) : Bool := first == second && !first.isNan

end Scalar

/-- `==` of decimals. -/
def PyDecimal.eq (first second : PyDecimal) : Bool := first.value == second.value && first.value != .nan

def PyKey.isText : PyKey → Bool
  | .text _ => true
  | .object _ _ => false

namespace PyValue

mutual

/-- `==`, of values whose numbers have the same types and whose entries the same order. -/
def eq : PyValue → PyValue → Bool
  | .none, .none => true
  | .scalar a, .scalar b => a.eq b
  | .scalar a, .mixed _ b => a.eq b
  | .mixed _ a, .scalar b => a.eq b
  | .mixed _ a, .mixed _ b => a.eq b
  | .enum a m _ _, .enum b n _ _ => a == b && m == n
  | .decimal a, .decimal b => a.eq b
  | .datetime a, .datetime b => a == b
  | .date a, .date b => a == b
  | .dataclass a fields, .dataclass b others => a == b && eqFields fields others
  | .list items, .list others => eqItems items others
  | .tuple items, .tuple others => eqItems items others
  | .mapping entries, .mapping others => eqEntries entries others
  | .object a, .object b => a == b
  | _, _ => false

def eqItems : List PyValue → List PyValue → Bool
  | [], [] => true
  | a :: rest, b :: others => eq a b && eqItems rest others
  | _, _ => false

def eqFields : List (String × PyValue) → List (String × PyValue) → Bool
  | [], [] => true
  | (a, v) :: rest, (b, w) :: others => a == b && eq v w && eqFields rest others
  | _, _ => false

def eqEntries : List (PyKey × PyValue) → List (PyKey × PyValue) → Bool
  | [], [] => true
  | (a, v) :: rest, (b, w) :: others => a == b && eq v w && eqEntries rest others
  | _, _ => false

end

/-- A value under `__type__` that the reader passes over: its form in JSON is hashable and none of the
three names. -/
def tagIgnored : PyValue → Bool
  | .none => true
  | .scalar (.str name) => name ∉ ["decimal", "datetime", "date"]
  | .scalar _ => true
  | .mixed _ (.str name) => name ∉ ["decimal", "datetime", "date"]
  | .mixed _ _ => true
  | _ => false

mutual

/-- The value is of types that the codec keeps: no dataclass, no tuple, no plain enumeration, no other
object and no NaN, and dictionaries of texts without a tag of the codec. -/
def faithful : PyValue → Bool
  | .none => true
  | .scalar value => !value.isNan
  | .mixed _ value => !value.isNan
  | .enum .. => false
  | .decimal value => value.value != .nan
  | .datetime _ => true
  | .date _ => true
  | .dataclass .. => false
  | .list items => faithfulItems items
  | .tuple _ => false
  | .mapping entries => faithfulEntries entries && decide (entries.map Prod.fst).Nodup &&
      ((entries.lookup (.text "__type__")).all tagIgnored)
  | .object _ => false

def faithfulItems : List PyValue → Bool
  | [] => true
  | item :: rest => faithful item && faithfulItems rest

def faithfulEntries : List (PyKey × PyValue) → Bool
  | [] => true
  | (key, value) :: rest => PyKey.isText key && faithful value && faithfulEntries rest

end

end PyValue

end TradeX.V1
