import TradeX.Lib.CharTable

/-! The exchange segments, and the spellings of them that brokers and users give. Capitals and blanks are those of
a table of the characters. -/

namespace TradeX.V1

open Lib

inductive ExchangeSegment where
  | NSE
  | BSE
  | NSE_FNO
  | BSE_FNO
  | MCX
  | NSE_CURRENCY
  | BSE_CURRENCY
  | IDX_I
  deriving DecidableEq, Repr

namespace ExchangeSegment

def all : List ExchangeSegment := [NSE, BSE, NSE_FNO, BSE_FNO, MCX, NSE_CURRENCY, BSE_CURRENCY, IDX_I]

def value : ExchangeSegment → String
  | NSE => "NSE_EQ"
  | BSE => "BSE_EQ"
  | NSE_FNO => "NSE_FNO"
  | BSE_FNO => "BSE_FNO"
  | MCX => "MCXCOMM"
  | NSE_CURRENCY => "NSE_CURRENCY"
  | BSE_CURRENCY => "BSE_CURRENCY"
  | IDX_I => "IDX_I"

def aliases : List (String × ExchangeSegment) := [
  ("NSE", NSE),
  ("NSE_EQ", NSE),
  ("BSE", BSE),
  ("BSE_EQ", BSE),
  ("MCX", MCX),
  ("MCXCOMM", MCX),
  ("MCX_COMM", MCX),
  ("NSE_FNO", NSE_FNO),
  ("NFO", NSE_FNO),
  ("BSE_FNO", BSE_FNO),
  ("BFO", BSE_FNO),
  ("NSE_CURRENCY", NSE_CURRENCY),
  ("CDS", NSE_CURRENCY),
  ("BSE_CURRENCY", BSE_CURRENCY),
  ("BCD", BSE_CURRENCY),
  ("IDX_I", IDX_I),
  ("INDEX", IDX_I)]

/-- `canonical_exchange_short`. -/
def canonicalExchangeShort : ExchangeSegment → String
  | NSE => "NSE"
  | BSE => "BSE"
  | NSE_FNO => "NFO"
  | BSE_FNO => "BFO"
  | MCX => "MCX"
  | NSE_CURRENCY => "CDS"
  | BSE_CURRENCY => "BCD"
  | IDX_I => "IDX"

/-- `_DHAN_WIRE`. -/
def dhanWire : ExchangeSegment → String
  | NSE => "NSE_EQ"
  | BSE => "BSE_EQ"
  | NSE_FNO => "NSE_FNO"
  | BSE_FNO => "BSE_FNO"
  | MCX => "MCX_COMM"
  | NSE_CURRENCY => "NSE_CURRENCY"
  | BSE_CURRENCY => "BSE_CURRENCY"
  | IDX_I => "IDX_I"

end ExchangeSegment

variable (table : CharTable)

/-- `str.upper`. -/
def Symbols.upper (text : String) : String := String.ofList (table.upperText text.toList)

/-- `normalize_symbol`, which `normalize_exchange` is, too. -/
def Symbols.normalize (text : String) : String := String.ofList (table.upperText (table.strip text.toList))

/-- `parse_segment`: by the aliases, and else by the values. -/
def parseSegment (text : String) : Option ExchangeSegment :=
  let key := Symbols.normalize table text
  (ExchangeSegment.aliases.lookup key).or (ExchangeSegment.all.find? fun segment => segment.value = key)

/-- `SEGMENT_TO_NUMERIC`. -/
def segmentToNumeric : List (String × ℤ) := [
  ("IDX_I", 0),
  ("NSE_EQ", 1),
  ("NSE_FNO", 2),
  ("NSE_CURRENCY", 3),
  ("BSE_EQ", 4),
  ("MCX_COMM", 5),
  ("BSE_CURRENCY", 7),
  ("BSE_FNO", 8)]

/-- `to_sdk_int`, none where it raises. -/
def toSdkInt (segment : String) : Option ℤ :=
  (parseSegment table segment).bind fun parsed => segmentToNumeric.lookup parsed.dhanWire

/-- Every segment has a code. -/
theorem toSdkInt_isSome (segment : String) : (toSdkInt table segment).isSome = (parseSegment table segment).isSome := by
  rw [toSdkInt]
  cases parseSegment table segment with
  | none => rfl
  | some parsed => cases parsed <;> rfl

end TradeX.V1
