import TradeX.Lib.IsoTime
import TradeX.V2.Domain

/-! Lookup aliases of an instrument: the texts under which a broker's resolver files it beside its
canonical id. -/

namespace TradeX.V2

open Lib

/-- A strike as it is passed: a number with the numeral of its float, or a text. -/
inductive Strike where
  | number (value : ℚ) (numeral : String)
  | text (text : String)
  deriving DecidableEq, Repr

/-- The alias metadata of an instrument. -/
structure AliasFields where
  symbol : Option String := none
  exchange : Option String := none
  instrumentType : Option String := none
  underlying : Option String := none
  expiry : Option String := none
  strike : Option Strike := none
  optionType : Option String := none
  canonicalSymbol : Option String := none
  deriving DecidableEq, Repr

namespace InstrumentKeys

def upper (text : String) : String := String.ofList (Text.upper text)

/-- `normalize_symbol`. -/
def normalizeSymbol (symbol : String) : String := upper (Text.strip symbol)

/-- The characters of the text without the given ones. -/
def without (dropped : List Char) (text : String) : String := String.ofList (text.toList.filter fun c => c ∉ dropped)

def endsWith (text ending : String) : Bool := ending.toList.isSuffixOf text.toList

/-- `text[:-n]`. -/
def dropEnd (n : Nat) (text : String) : String := String.ofList (text.toList.take (text.toList.length - n))

def has (text part : String) : Bool := Text.contains text.toList part

/-- The numeral of a number in a fixed width, as `strftime` writes it. -/
def padded (width n : Nat) : String := String.ofList (digits width n)

/-- A numeral of one to `width` digits. -/
def numeral (width : Nat) (text : List Char) : Option Nat :=
  if text ≠ [] ∧ text.length ≤ width ∧ text.all Char.isDigit then some (Decimal.digitsValue text) else none

structure ExpiryDate where
  year : Nat
  month : Nat
  day : Nat
  deriving DecidableEq, Repr

/-- `datetime.strptime(expiry[:10], "%Y-%m-%d")`. -/
def expiryDate (expiry : String) : Option ExpiryDate :=
  match (expiry.toList.take 10).splitOn '-' with
  | [yyyy, mm, dd] =>
    if yyyy.length = 4 then do
      let year ← numeral 4 yyyy
      let month ← numeral 2 mm
      let day ← numeral 2 dd
      if 0 < year ∧ 0 < month ∧ month ≤ 12 ∧ 0 < day ∧ day ≤ daysIn year month then some ⟨year, month, day⟩ else none
    else none
  | _ => none

/-- `%b`, in upper case. -/
def monthNames : List String :=
  ["JAN", "FEB", "MAR", "APR", "MAY", "JUN", "JUL", "AUG", "SEP", "OCT", "NOV", "DEC"]

def monthChars : List String := ["1", "2", "3", "4", "5", "6", "7", "8", "9", "O", "N", "D"]

def strikeText : Option Strike → String
  | none => ""
  | some (.number value numeral) => if value.den = 1 then toString value.num else numeral
  | some (.text text) => text

/-- The option and future forms of a contract of a known expiry. -/
def contractKeys (isOption : Bool) (date : ExpiryDate) (underlying : String) (strike : Option Strike)
    (optionType : Option String) : List String :=
  let dd := padded 2 date.day
  let ddStrip := toString date.day
  let mmm := monthNames.getD (date.month - 1) ""
  let yy := padded 2 (date.year % 100)
  let yyyy := padded 4 date.year
  let monthChar := monthChars.getD (date.month - 1) ""
  let undUp := normalizeSymbol underlying
  if isOption then
    let optStr := upper (optionType.getD "None")
    let cePe := if has optStr "CALL" || has optStr "CE" || has optStr "C" then "CE" else "PE"
    let callPut := if cePe = "CE" then "CALL" else "PUT"
    let strikeStr := strikeText strike
    [ undUp ++ " " ++ dd ++ " " ++ mmm ++ " " ++ yy ++ " " ++ strikeStr ++ " " ++ cePe,
      undUp ++ " " ++ ddStrip ++ " " ++ mmm ++ " " ++ yy ++ " " ++ strikeStr ++ " " ++ cePe,
      undUp ++ " " ++ dd ++ " " ++ mmm ++ " " ++ yyyy ++ " " ++ strikeStr ++ " " ++ cePe,
      undUp ++ " " ++ ddStrip ++ " " ++ mmm ++ " " ++ yyyy ++ " " ++ strikeStr ++ " " ++ cePe,
      undUp ++ " " ++ dd ++ " " ++ mmm ++ " " ++ strikeStr ++ " " ++ cePe,
      undUp ++ " " ++ ddStrip ++ " " ++ mmm ++ " " ++ strikeStr ++ " " ++ cePe,
      undUp ++ " " ++ dd ++ " " ++ mmm ++ " " ++ strikeStr ++ " " ++ callPut,
      undUp ++ " " ++ ddStrip ++ " " ++ mmm ++ " " ++ strikeStr ++ " " ++ callPut,
      undUp ++ dd ++ mmm ++ yy ++ strikeStr ++ cePe,
      undUp ++ ddStrip ++ mmm ++ yy ++ strikeStr ++ cePe,
      undUp ++ dd ++ mmm ++ yyyy ++ strikeStr ++ cePe,
      undUp ++ ddStrip ++ mmm ++ yyyy ++ strikeStr ++ cePe,
      undUp ++ dd ++ mmm ++ strikeStr ++ cePe,
      undUp ++ ddStrip ++ mmm ++ strikeStr ++ cePe,
      undUp ++ yy ++ monthChar ++ dd ++ strikeStr ++ cePe,
      undUp ++ yy ++ monthChar ++ ddStrip ++ strikeStr ++ cePe ]
  else
    [ undUp ++ " " ++ mmm ++ " FUT",
      undUp ++ " " ++ yy ++ " " ++ mmm ++ " FUT",
      undUp ++ " " ++ yyyy ++ " " ++ mmm ++ " FUT",
      undUp ++ " " ++ dd ++ " " ++ mmm ++ " FUT",
      undUp ++ " FUT",
      undUp ++ mmm ++ "FUT",
      undUp ++ yy ++ mmm ++ "FUT",
      undUp ++ yyyy ++ mmm ++ "FUT",
      undUp ++ dd ++ mmm ++ "FUT",
      undUp ++ "FUT" ]

/-- The forms of the canonical symbol, with the short names of calls and puts. -/
def canonicalKeys : Option String → List String
  | none => []
  | some canonical =>
    if canonical = "" then []
    else
      let canonUp := normalizeSymbol canonical
      canonUp ::
        (if endsWith canonUp " CALL" then [dropEnd 5 canonUp ++ " CE"]
        else if endsWith canonUp " PUT" then [dropEnd 4 canonUp ++ " PE"]
        else [])

/-- The keys that are not blank, each once. -/
def distinctKeys (keys : List String) : List String :=
  keys.foldl (fun res key =>
    let clean := normalizeSymbol key
    if clean = "" ∨ clean ∈ res then res else res ++ [clean]) []

/-- `generate_alternate_keys`, for the given symbol and the other fields. -/
def generateAlternateKeys (symbol : String) (fields : AliasFields) : List String :=
  let symUp := normalizeSymbol symbol
  let typeStr := upper (fields.instrumentType.getD "")
  let isOption := has typeStr "OPT" || has typeStr "OPTION"
  let isFuture := has typeStr "FUT" || has typeStr "FUTURE"
  let contract := match fields.expiry, fields.underlying with
    | some expiry, some underlying =>
      if (isOption || isFuture) && expiry != "" && underlying != "" then
        match expiryDate expiry with
        | some date => contractKeys isOption date underlying fields.strike fields.optionType
        | none => []
      else []
    | _, _ => []
  distinctKeys (symUp :: canonicalKeys fields.canonicalSymbol ++ without [' ', '-', '_'] symUp :: contract)

end InstrumentKeys

end TradeX.V2
