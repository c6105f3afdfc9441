import TradeX.Lib.Binary64
import TradeX.V1.ExchangeSegments
import TradeX.V2.InstrumentKeys

/-! The lookup aliases of an instrument, which the resolvers of both brokers generate, and the forms of a symbol that
both try in turn. Reading the date of an expiry and cutting texts is as in v2. -/

namespace TradeX.V1

open Lib
open V2.InstrumentKeys (ExpiryDate without endsWith dropEnd has padded expiryDate monthNames monthChars)

/-- A strike, as Dhan has it and as Upstox has it. -/
inductive Strike where
  | decimal (value : Lib.PyDecimal)
  | float (value : Extended)
  deriving DecidableEq

namespace Strike

/-- `float(strike)`, none where it raises. -/
def toFloat : Strike → Option Extended
  | decimal (.finite negative coefficient exponent) =>
    some (Binary64.round (Lib.PyDecimal.sign negative * coefficient * (10 : ℚ) ^ exponent))
  | decimal (.infinity negative) => some (.infinite negative)
  | decimal (.nan _ signaling _) => if signaling then none else some .nan
  | float value => some value

def text : Strike → String
  | decimal value => String.ofList value.text
  | float value => Binary64.text value

end Strike

/-- `strike_str`: a whole number without its point. -/
def strikeStr : Option Strike → String
  | none => ""
  | some strike =>
    match strike.toFloat with
    | some (.finite value) => if value.den = 1 then toString value.num else Binary64.finiteText value
    | some other => Binary64.text other
    | none => strike.text

/-- The arguments of `generate_alternate_keys`; the kinds of the instrument and of the option are texts. -/
structure KeyFields where
  symbol : String
  instType : String
  expiry : Option String
  strike : Option Strike
  optionType : String
  underlying : Option String
  canonicalSymbol : Option String
  smSymbolName : Option String := none

namespace Symbols

variable (table : CharTable)

/-- A text without blanks, dashes and underscores. -/
def compact (text : String) : String := without [' ', '-', '_'] text

/-- The keys of an option. -/
def optionKeys (date : ExpiryDate) (undUp strike cePe callPut : String) : List String :=
  let dd := padded 2 date.day
  let ddStrip := toString date.day
  let mmm := monthNames.getD (date.month - 1) ""
  let yy := padded 2 (date.year % 100)
  let yyyy := padded 4 date.year
  let monthChar := monthChars.getD (date.month - 1) ""
  [ undUp ++ " " ++ dd ++ " " ++ mmm ++ " " ++ yy ++ " " ++ strike ++ " " ++ cePe,
    undUp ++ " " ++ ddStrip ++ " " ++ mmm ++ " " ++ yy ++ " " ++ strike ++ " " ++ cePe,
    undUp ++ " " ++ dd ++ " " ++ mmm ++ " " ++ yyyy ++ " " ++ strike ++ " " ++ cePe,
    undUp ++ " " ++ ddStrip ++ " " ++ mmm ++ " " ++ yyyy ++ " " ++ strike ++ " " ++ cePe,
    undUp ++ " " ++ dd ++ " " ++ mmm ++ " " ++ strike ++ " " ++ cePe,
    undUp ++ " " ++ ddStrip ++ " " ++ mmm ++ " " ++ strike ++ " " ++ cePe,
    undUp ++ " " ++ dd ++ " " ++ mmm ++ " " ++ strike ++ " " ++ callPut,
    undUp ++ " " ++ ddStrip ++ " " ++ mmm ++ " " ++ strike ++ " " ++ callPut,
    undUp ++ dd ++ mmm ++ yy ++ strike ++ cePe,
    undUp ++ ddStrip ++ mmm ++ yy ++ strike ++ cePe,
    undUp ++ dd ++ mmm ++ yyyy ++ strike ++ cePe,
    undUp ++ ddStrip ++ mmm ++ yyyy ++ strike ++ cePe,
    undUp ++ dd ++ mmm ++ strike ++ cePe,
    undUp ++ ddStrip ++ mmm ++ strike ++ cePe,
    undUp ++ yy ++ monthChar ++ dd ++ strike ++ cePe,
    undUp ++ yy ++ monthChar ++ ddStrip ++ strike ++ cePe ]

/-- The keys of a future. -/
def futureKeys (date : ExpiryDate) (undUp : String) : List String :=
  let dd := padded 2 date.day
  let mmm := monthNames.getD (date.month - 1) ""
  let yy := padded 2 (date.year % 100)
  let yyyy := padded 4 date.year
  [ undUp ++ " " ++ mmm ++ " FUT",
    undUp ++ " " ++ yy ++ " " ++ mmm ++ " FUT",
    undUp ++ " " ++ yyyy ++ " " ++ mmm ++ " FUT",
    undUp ++ " " ++ dd ++ " " ++ mmm ++ " FUT",
    undUp ++ " FUT",
    undUp ++ mmm ++ "FUT",
    undUp ++ yy ++ mmm ++ "FUT",
    undUp ++ yyyy ++ mmm ++ "FUT",
    undUp ++ dd ++ mmm ++ "FUT",
    undUp ++ "FUT" ]

/-- The keys by expiry and underlying; there are none where the expiry is no date. -/
def contractKeys (fields : KeyFields) : List String :=
  let typeStr := upper table fields.instType
  let isOption := has typeStr "OPT" || has typeStr "OPTION"
  let isFuture := has typeStr "FUT" || has typeStr "FUTURE"
  let expiry := fields.expiry.getD ""
  let underlying := fields.underlying.getD ""
  if (isOption || isFuture) && expiry != "" && underlying != "" then
    match expiryDate expiry with
    | none => []
    | some date =>
      let undUp := normalize table underlying
      if isOption then
        let optStr := upper table fields.optionType
        let cePe := if has optStr "CALL" || has optStr "CE" || has optStr "C" then "CE" else "PE"
        optionKeys date undUp (strikeStr fields.strike) cePe (if cePe = "CE" then "CALL" else "PUT")
      else futureKeys date undUp
  else []

/-- The keys by the canonical symbol, with the short names of calls and puts. -/
def canonicalKeys (canonicalSymbol : Option String) : List String :=
  let canonical := canonicalSymbol.getD ""
  if canonical = "" then []
  else
    let canonUp := normalize table canonical
    canonUp ::
      (if endsWith canonUp " CALL" then [dropEnd 5 canonUp ++ " CE"]
      else if endsWith canonUp " PUT" then [dropEnd 4 canonUp ++ " PE"]
      else [])

/-- The keys in normal form that are not blank, each once. -/
def distinctKeys (keys : List String) : List String :=
  keys.foldl (fun res key =>
    let clean := normalize table key
    if clean = "" ∨ clean ∈ res then res else res ++ [clean]) []

/-- `generate_alternate_keys`. -/
def generateAlternateKeys (fields : KeyFields) : List String :=
  let symUp := normalize table fields.symbol
  let smName := fields.smSymbolName.getD ""
  distinctKeys table (symUp :: (canonicalKeys table fields.canonicalSymbol ++
    compact symUp :: (if smName = "" then [] else [normalize table smName]) ++ contractKeys table fields))

/-- The short name of a call or a put at the end of a symbol. -/
def shortRight (clean : String) : String :=
  if endsWith clean "CALL" then dropEnd 4 clean ++ "CE"
  else if endsWith clean "PUT" then dropEnd 3 clean ++ "PE"
  else clean

/-- The forms of a symbol that a lookup tries in turn. -/
def lookupForms (symbol : String) : List String :=
  let clean := normalize table symbol
  [clean, compact clean, shortRight clean, compact (shortRight clean)]

variable {table} {keys : List String} {key text : String} {fields : KeyFields}

theorem normalize_normalize (text : String) : normalize table (normalize table text) = normalize table text := by
  unfold normalize
  rw [String.toList_ofList, CharTable.strip_upperText, CharTable.strip_strip, CharTable.upperText_upperText]

theorem normalize_upper (text : String) : normalize table (upper table text) = normalize table text := by
  unfold normalize upper
  rw [String.toList_ofList, CharTable.strip_upperText, CharTable.upperText_upperText]

/-- Only the empty text has no capitals. -/
theorem upper_ne_empty (some_ : text ≠ "") : upper table text ≠ "" := by
  intro nothing
  have none_ : table.upperText text.toList = [] := by
    have chars := congrArg String.toList nothing
    rwa [upper, String.toList_ofList] at chars
  cases chars : text.toList with
  | nil => exact some_ (String.toList_injective chars)
  | cons c rest =>
    rw [chars, CharTable.upperText, List.flatMap_cons] at none_
    exact table.upper_ne_nil c (List.append_eq_nil_iff.mp none_).1

/-- A text of capitals is in normal form. -/
theorem normalize_capitals (capitals : ∀ c ∈ text.toList, c.isUpper = true) : normalize table text = text := by
  have plain : ∀ c ∈ text.toList, CharTable.Plain c := fun c member =>
    .inl (by simp only [Char.isAlphanum, Char.isAlpha, capitals c member, Bool.true_or])
  have same : ∀ c ∈ text.toList, table.upper c = [c] := by
    intro c member
    rw [table.upper_ascii c (plain c member).range.2, Char.toUpper_eq_of_not_isLower]
    intro small
    have low := (CharTable.isLower_range small).1
    have high := capitals c member
    simp only [Char.isUpper, decide_eq_true_eq, UInt32.le_iff_toNat_le, ge_iff_le] at high
    simp only [Char.reduceVal, UInt32.reduceToNat, Char.toNat_val] at high
    omega
  have solid : table.strip text.toList = text.toList := CharTable.strip_of_solid
    (fun c first => (plain c (List.mem_of_mem_head? first)).solid)
    (fun c last => (plain c (List.mem_of_mem_getLast? last)).solid)
  rw [normalize, solid, CharTable.upperText, List.flatMap_congr same, List.flatMap_singleton', String.ofList_toList]

theorem mem_distinctKeys : key ∈ distinctKeys table keys ↔ key ≠ "" ∧ ∃ given ∈ keys, normalize table given = key := by
  unfold distinctKeys
  induction keys using List.reverseRecOn with
  | nil => exact ⟨nofun, fun found => nomatch found.2⟩
  | append_singleton keys last ih =>
    rw [List.foldl_concat]
    generalize keys.foldl _ [] = res at ih ⊢
    have both : (∃ given ∈ keys ++ [last], normalize table given = key) ↔
        (∃ given ∈ keys, normalize table given = key) ∨ normalize table last = key := by
      simp only [List.mem_append, List.mem_singleton, or_and_right, exists_or, exists_eq_left]
    rw [both, and_or_left, ← ih]
    by_cases held : normalize table last = "" ∨ normalize table last ∈ res
    · rw [if_pos held]
      refine ⟨.inl, fun found => found.elim id ?_⟩
      rintro ⟨some_, rfl⟩
      exact held.resolve_left some_
    · rw [if_neg held, List.mem_append, List.mem_singleton]
      refine or_congr_right ⟨?_, fun found => found.2.symm⟩
      rintro rfl
      exact ⟨fun blank => held (.inl blank), rfl⟩

theorem normalize_of_mem (member : key ∈ generateAlternateKeys table fields) :
    normalize table key = key ∧ key ≠ "" := by
  obtain ⟨some_, given, -, rfl⟩ := mem_distinctKeys.mp member
  exact ⟨normalize_normalize given, some_⟩

/-- The symbol itself is a key. -/
theorem normalize_symbol_mem (some_ : normalize table fields.symbol ≠ "") :
    normalize table fields.symbol ∈ generateAlternateKeys table fields :=
  mem_distinctKeys.mpr ⟨some_, _, List.mem_cons_self, normalize_normalize _⟩

/-- The empty symbol has no other form. -/
theorem lookupForms_empty {form : String} (member : form ∈ lookupForms table "") : form = "" := by
  have clean : normalize table "" = "" := rfl
  have blanks : compact "" = "" ∧ shortRight "" = "" := by decide
  simp only [lookupForms, clean, blanks.1, blanks.2, List.mem_cons, List.not_mem_nil, or_false, or_self] at member
  exact member

end Symbols

end TradeX.V1
