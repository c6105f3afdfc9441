import TradeX.Lib.Numerals

/-! Binary64 numbers as the rationals they are: rounding to the nearest, and the shortest decimal
that rounds to a given one. The sign of zero is not kept. -/

namespace TradeX.Lib

/-- A number as a decimal or a float has it. -/
inductive Extended where
  | finite (value : ℚ)
  | infinite (negative : Bool)
  | nan
  deriving DecidableEq, Repr

namespace Extended

/-- The texts of decimals that are no numbers. -/
def specials : List (String × Extended) := [
  ("inf", .infinite false), ("infinity", .infinite false), ("+inf", .infinite false), ("+infinity", .infinite false),
  ("-inf", .infinite true), ("-infinity", .infinite true), ("nan", .nan), ("+nan", .nan), ("-nan", .nan),
  ("snan", .nan), ("+snan", .nan), ("-snan", .nan)]

/-- The decimal that a text spells. -/
def ofText (text : String) : Option Extended :=
  match Decimal.ofText text with
  | some value => some (.finite value)
  | none => specials.lookup (String.ofList (Text.lower (Text.strip text)))

end Extended

namespace Binary64

/-- The distance of the binary64 numbers of the size of the value. -/
def spacing (value : ℚ) : ℚ := (2 : ℚ) ^ (max (Int.log 2 |value|) (-1022) - 52)

/-- The binary64 number nearest to the value, ties to even. -/
def round (value : ℚ) : Extended :=
  let rounded := (Decimal.roundHalfEven (value / spacing value) : ℚ) * spacing value
  if (2 : ℚ) ^ (1024 : ℤ) ≤ |rounded| then .infinite (decide (value < 0)) else .finite rounded

/-- The decimals of a number of digits next to the value. -/
def neighbours (digits : ℕ) (value : ℚ) : List ℚ :=
  let place := (10 : ℚ) ^ (Int.log 10 |value| - digits + 1)
  [⌊value / place⌋ * place, ⌈value / place⌉ * place]

/-- The one of the decimals that is nearest to the value. -/
def closest (value : ℚ) : List ℚ → Option ℚ
  | [] => none
  | first :: rest => some (rest.foldl (fun best other => if |other - value| < |best - value| then other else best) first)

/-- The shortest decimal that rounds to the binary64 number, of these the nearest. -/
def shortest (value : ℚ) : ℚ :=
  ((List.range 17).findSome? fun digits => closest value
    ((neighbours (digits + 1) value).filter fun decimal => round decimal = .finite value)).getD value

/-- The digits of a decimal without the zeros at its end. -/
def significand (decimal : ℚ) : String :=
  let place := Int.log 10 |decimal|
  let scaled := ((List.range 17).map fun digits => |decimal| * (10 : ℚ) ^ ((digits : ℤ) - place)).find? fun value =>
    value.den = 1
  toString ((scaled.map Rat.num).getD 0)

/-- `str` of a finite float: digits with a point, or with an exponent where they would be many. -/
def finiteText (value : ℚ) : String :=
  let decimal := shortest value
  let digits := (significand decimal).toList
  let point := Int.log 10 |decimal| + 1
  let zeros (n : ℤ) := List.replicate n.toNat '0'
  let unsigned :=
    if value = 0 then "0.0".toList
    else if -4 < point ∧ point ≤ 0 then "0.".toList ++ zeros (-point) ++ digits
    else if 0 < point ∧ point ≤ 16 then
      if (digits.length : ℤ) ≤ point then digits ++ zeros (point - digits.length) ++ ".0".toList
      else digits.take point.toNat ++ '.' :: digits.drop point.toNat
    else
      let exponent := (point - 1).natAbs
      digits.take 1 ++ (if digits.length = 1 then [] else '.' :: digits.drop 1) ++
        ['e', if point < 1 then '-' else '+'] ++ (if exponent < 10 then ['0'] else []) ++ (toString exponent).toList
  String.ofList (if value < 0 then '-' :: unsigned else unsigned)

/-- `str` of a float. -/
def text : Extended → String
  | .finite value => finiteText value
  | .infinite negative => if negative then "-inf" else "inf"
  | .nan => "nan"

/-- The decimal that the text of a float spells. -/
def shown : Extended → Extended
  | .finite value => .finite (shortest value)
  | other => other

/-- The text of the decimal that is exactly the float. -/
def exactText : Extended → String
  | .finite value =>
    let places := Nat.log2 value.den
    toString (value * (10 : ℚ) ^ places).num ++ "E-" ++ toString places
  | .infinite negative => if negative then "-Infinity" else "Infinity"
  | .nan => "NaN"

example : shown (round 2500.55) = .finite 2500.55 := by decide +kernel

example : text (round (1 / 3)) = "0.3333333333333333" ∧ text (round (10 ^ 16)) = "1e+16" := by decide +kernel

theorem shown_zero : shown (.finite 0) = .finite 0 := by decide +kernel

end Binary64

end TradeX.Lib
