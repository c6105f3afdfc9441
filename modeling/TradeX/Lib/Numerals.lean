import TradeX.Lib.Text

/-! Texts of decimals: formatting with two places or a width, and the reader of numerals. -/

namespace TradeX.Lib.Decimal

open Lib

/-- The nearest integer, ties to even. -/
def roundHalfEven (value : ℚ) : ℤ :=
  let low := ⌊value⌋
  let rest := value - low
  if rest < 1 / 2 then low
  else if 1 / 2 < rest then low + 1
  else if low % 2 = 0 then low
  else low + 1

/-- The value with two places, as the format `.2f` writes it. -/
def toFixed2 (value : ℚ) : String :=
  let cents := (roundHalfEven (|value| * 100)).toNat
  let sign := if value < 0 then "-" else ""
  let places := if cents % 100 < 10 then "0" ++ toString (cents % 100) else toString (cents % 100)
  sign ++ toString (cents / 100) ++ "." ++ places

/-- The digits of the number, with zeros in front up to the width. -/
def zeroPadded (width n : ℕ) : String :=
  String.ofList (List.replicate (width - (Nat.toDigits 10 n).length) '0' ++ Nat.toDigits 10 n)

theorem zeroPadded_value (width n : ℕ) : Nat.ofDigitChars 10 (zeroPadded width n).toList 0 = n := by
  unfold zeroPadded
  rw [String.toList_ofList, Nat.ofDigitChars_append, Nat.ofDigitChars_replicate_zero, Nat.mul_zero,
    Nat.ofDigitChars_ten_toDigits]

theorem zeroPadded_inj {width m n : ℕ} (same : zeroPadded width m = zeroPadded width n) : m = n := by
  rw [← zeroPadded_value width m, same, zeroPadded_value]

theorem zeroPadded_digits {width n : ℕ} {c : Char} (member : c ∈ (zeroPadded width n).toList) : c.isDigit = true := by
  unfold zeroPadded at member
  rw [String.toList_ofList, List.mem_append] at member
  rcases member with zero | digit
  · rw [List.eq_of_mem_replicate zero]
    rfl
  · exact Nat.isDigit_of_mem_toDigits (by decide) (by decide) digit

example : zeroPadded 6 42 = "000042" := by decide

/-- The value of a row of digits. -/
def digitsValue (digits : List Char) : ℕ := digits.foldl (fun value c => 10 * value + (c.toNat - '0'.toNat)) 0

/-- A row of digits with an optional sign. -/
def readInteger : List Char → Option ℤ
  | [] => none
  | c :: rest =>
    let digits := if c = '+' ∨ c = '-' then rest else c :: rest
    if digits = [] ∨ ¬ digits.all Char.isDigit then none
    else some (if c = '-' then -digitsValue digits else digitsValue digits)

/-- The exponent behind the digits, zero where the numeral ends with them. -/
def readExponent : List Char → Option ℤ
  | [] => some 0
  | c :: rest => if c = 'e' ∨ c = 'E' then readInteger rest else none

/-- The number of the digits in front of the point and behind it, with what stands behind them. -/
def readScaled (whole fraction behind : List Char) : Option ℚ :=
  if whole = [] ∧ fraction = [] then none
  else (readExponent behind).map fun exponent =>
    (digitsValue (whole ++ fraction) : ℚ) * (10 : ℚ) ^ (exponent - (fraction.length : ℤ))

/-- A numeral without its sign. -/
def readUnsigned (chars : List Char) : Option ℚ :=
  let whole := chars.takeWhile Char.isDigit
  match chars.dropWhile Char.isDigit with
  | '.' :: rest => readScaled whole (rest.takeWhile Char.isDigit) (rest.dropWhile Char.isDigit)
  | rest => readScaled whole [] rest

/-- The number that a text spells. Blanks at either end and underscores are passed over. The names
of infinities and of no number are not read. -/
def ofText (text : String) : Option ℚ :=
  match (Text.strip text).toList.filter fun c => c ≠ '_' with
  | '-' :: rest => (readUnsigned rest).map fun value => -value
  | '+' :: rest => readUnsigned rest
  | chars => readUnsigned chars

section

variable {chars : List Char} {text : String}

theorem blank_mem_dropWhile_digits (inner : ' ' ∈ chars) : ' ' ∈ chars.dropWhile Char.isDigit := by
  induction chars with
  | nil => cases inner
  | cons c rest ih =>
    rw [List.dropWhile_cons]
    split
    · next digit =>
      rcases List.mem_cons.mp inner with rfl | later
      · cases digit
      · exact ih later
    · exact inner

theorem readInteger_blank (inner : ' ' ∈ chars) : readInteger chars = none := by
  cases chars with
  | nil => rfl
  | cons c rest =>
    unfold readInteger
    dsimp only
    refine if_pos (.inr fun all => ?_)
    rw [List.all_eq_true] at all
    have digit := all ' '
    split at digit
    · next signed =>
      rcases List.mem_cons.mp inner with rfl | later
      · revert signed
        decide
      · cases digit later
    · cases digit inner

theorem readExponent_blank (inner : ' ' ∈ chars) : readExponent chars = none := by
  cases chars with
  | nil => cases inner
  | cons c rest =>
    unfold readExponent
    dsimp only
    split
    · next marked =>
      rcases List.mem_cons.mp inner with rfl | later
      · rcases marked with small | big
        · cases small
        · cases big
      · exact readInteger_blank later
    · rfl

theorem readScaled_blank {whole fraction : List Char} (inner : ' ' ∈ chars) :
    readScaled whole fraction chars = none := by
  unfold readScaled
  rw [readExponent_blank inner, Option.map_none, ite_self]

theorem readUnsigned_blank (inner : ' ' ∈ chars) : readUnsigned chars = none := by
  have rest := blank_mem_dropWhile_digits inner
  unfold readUnsigned
  dsimp only
  split
  · next after pointed =>
    rw [pointed] at rest
    rcases List.mem_cons.mp rest with point | later
    · cases point
    · exact readScaled_blank (blank_mem_dropWhile_digits later)
  · exact readScaled_blank rest

/-- No numeral has a blank inside. -/
theorem ofText_blank (inner : ' ' ∈ (Text.strip text).toList) : ofText text = none := by
  have kept : ' ' ∈ (Text.strip text).toList.filter fun c => c ≠ '_' :=
    List.mem_filter.mpr ⟨inner, by decide⟩
  unfold ofText
  split
  · next rest same =>
    rw [same] at kept
    rcases List.mem_cons.mp kept with sign | later
    · cases sign
    · rw [readUnsigned_blank later, Option.map_none]
  · next rest same =>
    rw [same] at kept
    rcases List.mem_cons.mp kept with sign | later
    · cases sign
    · exact readUnsigned_blank later
  · exact readUnsigned_blank kept

theorem point_mem_toFixed2 (value : ℚ) : '.' ∈ (toFixed2 value).toList := by
  unfold toFixed2
  simp only [String.toList_append, List.mem_append]
  exact .inl (.inr (List.mem_singleton_self _))

/-- An amount with its currency behind a blank is no numeral. -/
theorem ofText_amount {amount : ℚ} {currency : List Char}
    (spelled : text.toList = (toFixed2 amount).toList ++ ' ' :: currency)
    (named : ∃ c ∈ currency, c.isWhitespace = false) : ofText text = none :=
  ofText_blank (Text.mem_strip spelled ⟨'.', point_mem_toFixed2 amount, by decide⟩ named)

example : ofText " 2_500.50 " = some (5001 / 2) ∧ ofText "-2.5e3" = some (-2500) ∧ ofText "2500.00 INR" = none := by
  decide +kernel

end

end TradeX.Lib.Decimal
