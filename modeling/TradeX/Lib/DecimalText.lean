import Mathlib

/-! Decimals as they are written: a sign, the digits and an exponent, so that equal numbers may be written
apart. What `str` writes of a decimal is read back as the same one. -/

namespace TradeX.Lib

/-- A value of `decimal.Decimal`. -/
inductive PyDecimal where
  | finite (negative : Bool) (coefficient : Nat) (exponent : ℤ)
  | infinity (negative : Bool)
  | nan (negative signaling : Bool) (payload : Nat)
  deriving DecidableEq, Repr

namespace PyDecimal

/-- `"%+d"`. -/
def signedDigits (n : ℤ) : List Char := (if n < 0 then '-' else '+') :: Nat.toDigits 10 n.natAbs

/-- The digits with the point behind the first `places` of them; in front of all of them it follows a zero. -/
def pointed (digits : List Char) (places : ℤ) : List Char :=
  if places ≤ 0 then '0' :: '.' :: (List.replicate places.natAbs '0' ++ digits)
  else if digits.length ≤ places.natAbs then digits
  else digits.take places.natAbs ++ '.' :: digits.drop places.natAbs

/-- The number without its sign, as `Decimal.__str__` writes it: in scientific notation where the exponent
is positive or more than six places would stand in front of the first digit. -/
def numeral (coefficient : Nat) (exponent : ℤ) : List Char :=
  let digits := Nat.toDigits 10 coefficient
  let places := exponent + digits.length
  if exponent ≤ 0 ∧ -6 < places then pointed digits places
  else pointed digits 1 ++ 'E' :: signedDigits (places - 1)

def signText (negative : Bool) : List Char := if negative = true then ['-'] else []

/-- `str(decimal)`. -/
def text : PyDecimal → List Char
  | finite negative coefficient exponent => signText negative ++ numeral coefficient exponent
  | infinity negative => signText negative ++ ['I', 'n', 'f', 'i', 'n', 'i', 't', 'y']
  | nan negative signaling payload =>
    signText negative ++ ((if signaling = true then ['s'] else []) ++ 'N' :: 'a' :: 'N' ::
      if payload = 0 then [] else Nat.toDigits 10 payload)

/-- A row of digits. -/
def readDigits (chars : List Char) : Option Nat :=
  if chars.all Char.isDigit then some (Nat.ofDigitChars 10 chars 0) else none

/-- An exponent: digits behind a sign or none. -/
def readSigned : List Char → Option ℤ
  | [] => none
  | '-' :: digits => if digits = [] then none else (readDigits digits).map fun (n : Nat) => -(n : ℤ)
  | '+' :: digits => if digits = [] then none else (readDigits digits).map fun (n : Nat) => (n : ℤ)
  | digits => (readDigits digits).map fun (n : Nat) => (n : ℤ)

/-- The coefficient and the exponent of the digits on both sides of the point, with what stands behind them. -/
def readScaled (whole fraction behind : List Char) : Option (Nat × ℤ) :=
  if whole = [] ∧ fraction = [] then none
  else
    match behind with
    | [] => some (Nat.ofDigitChars 10 (whole ++ fraction) 0, -fraction.length)
    | 'e' :: exponent =>
      (readSigned exponent).map fun n => (Nat.ofDigitChars 10 (whole ++ fraction) 0, n - fraction.length)
    | _ => none

/-- A number without its sign. -/
def readNumeral (chars : List Char) : Option (Nat × ℤ) :=
  let whole := chars.takeWhile Char.isDigit
  match chars.dropWhile Char.isDigit with
  | '.' :: rest => readScaled whole (rest.takeWhile Char.isDigit) (rest.dropWhile Char.isDigit)
  | behind => readScaled whole [] behind

/-- A decimal without its sign; the letters are small. -/
def readUnsigned (negative : Bool) : List Char → Option PyDecimal
  | ['i', 'n', 'f'] => some (.infinity negative)
  | ['i', 'n', 'f', 'i', 'n', 'i', 't', 'y'] => some (.infinity negative)
  | 'n' :: 'a' :: 'n' :: payload => (readDigits payload).map (.nan negative false)
  | 's' :: 'n' :: 'a' :: 'n' :: payload => (readDigits payload).map (.nan negative true)
  | chars => (readNumeral chars).map fun number => .finite negative number.1 number.2

/-- The decimal that a text of small letters spells. -/
def read : List Char → Option PyDecimal
  | '-' :: chars => readUnsigned true chars
  | '+' :: chars => readUnsigned false chars
  | chars => readUnsigned false chars

section

variable {whole fraction behind digits chars : List Char}

theorem takeWhile_digits (all : ∀ c ∈ digits, c.isDigit = true) (stop : ∀ c ∈ behind.head?, c.isDigit = false) :
    (digits ++ behind).takeWhile Char.isDigit = digits ∧ (digits ++ behind).dropWhile Char.isDigit = behind := by
  have none_ : behind.takeWhile Char.isDigit = [] ∧ behind.dropWhile Char.isDigit = behind := by
    cases behind with
    | nil => exact ⟨rfl, rfl⟩
    | cons c rest =>
      have first := stop c rfl
      simp only [List.takeWhile_cons, List.dropWhile_cons, first, Bool.false_eq_true, if_false, and_self]
  rw [List.takeWhile_append_of_pos all, List.dropWhile_append_of_pos all, none_.1, none_.2, List.append_nil]
  exact ⟨rfl, rfl⟩

/-- Digits, a point and digits are read as such. -/
theorem readNumeral_pointed (wholes : ∀ c ∈ whole, c.isDigit = true) (fractions : ∀ c ∈ fraction, c.isDigit = true)
    (stop : ∀ c ∈ behind.head?, c.isDigit = false) :
    readNumeral (whole ++ '.' :: (fraction ++ behind)) = readScaled whole fraction behind := by
  have point : ∀ c ∈ ('.' :: (fraction ++ behind)).head?, c.isDigit = false := by simp
  obtain ⟨taken, left⟩ := takeWhile_digits wholes point
  obtain ⟨takenBehind, leftBehind⟩ := takeWhile_digits fractions stop
  simp only [readNumeral, taken, left, takenBehind, leftBehind]

theorem readNumeral_whole (wholes : ∀ c ∈ whole, c.isDigit = true)
    (stop : ∀ c ∈ behind.head?, c.isDigit = false ∧ c ≠ '.') :
    readNumeral (whole ++ behind) = readScaled whole [] behind := by
  obtain ⟨taken, left⟩ := takeWhile_digits wholes fun c first => (stop c first).1
  simp only [readNumeral, taken, left]
  split
  · next rest => exact absurd rfl (stop '.' rfl).2
  · rfl

theorem isDigit_toDigits {n : Nat} : ∀ c ∈ Nat.toDigits 10 n, c.isDigit = true :=
  fun _ member => Nat.isDigit_of_mem_toDigits (by decide) (by decide) member

theorem readDigits_toDigits (n : Nat) : readDigits (Nat.toDigits 10 n) = some n := by
  rw [readDigits, if_pos (List.all_eq_true.mpr isDigit_toDigits), Nat.ofDigitChars_ten_toDigits]

theorem readSigned_signedDigits (n : ℤ) : readSigned (signedDigits n) = some n := by
  simp only [signedDigits]
  split
  · next negative =>
    have value : -(n.natAbs : ℤ) = n := by omega
    simp only [readSigned, if_neg Nat.toDigits_ne_nil, readDigits_toDigits, Option.map_some, value]
  · next nonnegative =>
    have value : (n.natAbs : ℤ) = n := by omega
    simp only [readSigned, if_neg Nat.toDigits_ne_nil, readDigits_toDigits, Option.map_some, value]

/-- What is read of a point in a row of digits: their number, less an exponent for each place behind it. -/
theorem readNumeral_point {places : ℤ} (digit : ∀ c ∈ digits, c.isDigit = true) (some_ : digits ≠ [])
    (within : places ≤ digits.length) (stop : ∀ c ∈ behind.head?, c.isDigit = false ∧ c ≠ '.') :
    ∃ whole fraction, readNumeral (pointed digits places ++ behind) = readScaled whole fraction behind ∧
      ¬ (whole = [] ∧ fraction = []) ∧
      Nat.ofDigitChars 10 (whole ++ fraction) 0 = Nat.ofDigitChars 10 digits 0 ∧
      (fraction.length : ℤ) = digits.length - places := by
  have count : 0 < digits.length := List.length_pos_of_ne_nil some_
  rw [pointed]
  split
  · next front =>
    refine ⟨['0'], List.replicate places.natAbs '0' ++ digits, ?_, ?_, ?_, ?_⟩
    · rw [← readNumeral_pointed (by simp) _ fun c first => (stop c first).1]
      · simp only [List.cons_append, List.nil_append, List.append_assoc]
      · intro c member
        rcases List.mem_append.mp member with zero | member
        · rw [List.eq_of_mem_replicate zero]
          rfl
        · exact digit c member
    · rintro ⟨nothing, -⟩
      cases nothing
    · rw [← List.append_assoc, Nat.ofDigitChars_append, Nat.ofDigitChars_append, Nat.ofDigitChars_replicate_zero]
      rfl
    · rw [List.length_append, List.length_replicate]
      omega
  · next inside =>
    split
    · next end_ =>
      refine ⟨digits, [], readNumeral_whole digit stop, fun nothing => some_ nothing.1, by rw [List.append_nil], ?_⟩
      rw [List.length_nil]
      omega
    · next middle =>
      refine ⟨digits.take places.natAbs, digits.drop places.natAbs, ?_, ?_, ?_, ?_⟩
      · rw [← readNumeral_pointed (fun c member => digit c (List.mem_of_mem_take member))
          (fun c member => digit c (List.mem_of_mem_drop member)) fun c first => (stop c first).1]
        simp only [List.append_assoc, List.cons_append]
      · rintro ⟨-, nothing⟩
        rw [List.drop_eq_nil_iff] at nothing
        omega
      · rw [List.take_append_drop]
      · rw [List.length_drop]
        omega

theorem pointed_chars {places : ℤ} (digit : ∀ c ∈ digits, c.isDigit = true) :
    ∀ c ∈ pointed digits places, c.isDigit = true ∨ c = '.' := by
  intro c member
  rw [pointed] at member
  split at member
  · rcases List.mem_cons.mp member with rfl | member
    · exact .inl rfl
    · rcases List.mem_cons.mp member with rfl | member
      · exact .inr rfl
      · rcases List.mem_append.mp member with zero | member
        · rw [List.eq_of_mem_replicate zero]
          exact .inl rfl
        · exact .inl (digit c member)
  · split at member
    · exact .inl (digit c member)
    · rcases List.mem_append.mp member with member | member
      · exact .inl (digit c (List.mem_of_mem_take member))
      · rcases List.mem_cons.mp member with rfl | member
        · exact .inr rfl
        · exact .inl (digit c (List.mem_of_mem_drop member))

/-- Digits come first, whatever the place of the point. -/
theorem pointed_head {places : ℤ} (digit : ∀ c ∈ digits, c.isDigit = true) (some_ : digits ≠ []) :
    ∃ c rest, pointed digits places = c :: rest ∧ c.isDigit = true := by
  obtain ⟨first, others, rfl⟩ := List.exists_cons_of_ne_nil some_
  have leading := digit first List.mem_cons_self
  rw [pointed]
  split
  · exact ⟨_, _, rfl, rfl⟩
  · next inside =>
    split
    · exact ⟨_, _, rfl, leading⟩
    · obtain ⟨n, positive⟩ := Nat.exists_eq_succ_of_ne_zero (show places.natAbs ≠ 0 by omega)
      rw [positive, List.take_succ_cons, List.cons_append]
      exact ⟨_, _, rfl, leading⟩

theorem lower_digit {c : Char} (digit : c.isDigit = true ∨ c = '.' ∨ c = '-' ∨ c = '+') : c.toLower = c := by
  rcases digit with digit | rfl | rfl | rfl
  · apply Char.toLower_eq_of_not_isUpper
    simp only [Char.isDigit, Bool.and_eq_true, decide_eq_true_eq, UInt32.le_iff_toNat_le] at digit
    simp only [Char.isUpper, decide_eq_true_eq, UInt32.le_iff_toNat_le]
    intro big
    have small := digit.2
    have large := big.1
    simp only [Char.reduceVal, UInt32.reduceToNat] at small large
    omega
  all_goals rfl

theorem lower_eq (chars_ : ∀ c ∈ chars, c.isDigit = true ∨ c = '.' ∨ c = '-' ∨ c = '+') :
    chars.map Char.toLower = chars := by
  rw [List.map_congr_left fun c member => lower_digit (chars_ c member), List.map_id']

/-- What begins with a digit is read as a number. -/
theorem readUnsigned_digit {negative : Bool} {c : Char} (digit : c.isDigit = true) :
    readUnsigned negative (c :: chars) =
      (readNumeral (c :: chars)).map fun number => .finite negative number.1 number.2 := by
  unfold readUnsigned
  have differs : ∀ d rest, c :: chars = d :: rest → d.isDigit = true := by
    intro d rest same
    rw [← (List.cons.inj same).1]
    exact digit
  split
  · next same => exact absurd (differs _ _ same) (by decide)
  · next same => exact absurd (differs _ _ same) (by decide)
  · next payload same => exact absurd (differs _ _ same) (by decide)
  · next payload same => exact absurd (differs _ _ same) (by decide)
  · rfl

/-- The sign in front is read first. -/
theorem read_signText {negative : Bool} (unsigned : ∀ c ∈ chars.head?, c ≠ '-' ∧ c ≠ '+') :
    read (signText negative ++ chars) = readUnsigned negative chars := by
  cases negative with
  | true => rfl
  | false =>
    rw [signText, if_neg Bool.false_ne_true, List.nil_append]
    cases chars with
    | nil => rfl
    | cons c rest =>
      obtain ⟨minus, plus⟩ := unsigned c rfl
      rw [read]
      · rintro chars ⟨rfl, -⟩
        exact minus rfl
      · rintro chars ⟨rfl, -⟩
        exact plus rfl

theorem readNumeral_numeral (coefficient : Nat) (exponent : ℤ) :
    readNumeral ((numeral coefficient exponent).map Char.toLower) = some (coefficient, exponent) := by
  have digit : ∀ c ∈ Nat.toDigits 10 coefficient, c.isDigit = true := isDigit_toDigits
  have some_ : Nat.toDigits 10 coefficient ≠ [] := Nat.toDigits_ne_nil
  have count := List.length_pos_of_ne_nil some_
  have plain : ∀ places : ℤ, (pointed (Nat.toDigits 10 coefficient) places).map Char.toLower =
      pointed (Nat.toDigits 10 coefficient) places := by
    intro places
    apply lower_eq
    intro c member
    exact (pointed_chars digit c member).imp_right Or.inl
  simp only [numeral]
  split
  · next near =>
    have within : exponent + (Nat.toDigits 10 coefficient).length ≤ (Nat.toDigits 10 coefficient).length := by omega
    obtain ⟨whole, fraction, same, given, value, places⟩ := @readNumeral_point [] _ _ digit some_ within (by simp)
    rw [plain, ← List.append_nil (pointed _ _), same, readScaled, if_neg given, value, Nat.ofDigitChars_ten_toDigits]
    congr 2
    omega
  · have tail : (signedDigits (exponent + (Nat.toDigits 10 coefficient).length - 1)).map Char.toLower =
        signedDigits (exponent + (Nat.toDigits 10 coefficient).length - 1) := by
      apply lower_eq
      intro c member
      rcases List.mem_cons.mp member with rfl | member
      · split
        · exact .inr (.inr (.inl rfl))
        · exact .inr (.inr (.inr rfl))
      · exact .inl (isDigit_toDigits c member)
    have stop : ∀ c ∈ ('e' :: signedDigits (exponent + (Nat.toDigits 10 coefficient).length - 1)).head?,
        c.isDigit = false ∧ c ≠ '.' := by
      intro c first
      rw [← Option.some.inj first]
      decide
    obtain ⟨whole, fraction, same, given, value, places⟩ := @readNumeral_point _ _ 1 digit some_ (by omega) stop
    rw [List.map_append, plain, List.map_cons, tail]
    refine same.trans ?_
    rw [readScaled, if_neg given]
    simp only [readSigned_signedDigits, Option.map_some, value, Nat.ofDigitChars_ten_toDigits]
    congr 2
    omega

theorem numeral_head (coefficient : Nat) (exponent : ℤ) :
    ∃ c rest, (numeral coefficient exponent).map Char.toLower = c :: rest ∧ c.isDigit = true := by
  have head : ∀ places behind, ∃ c rest,
      (pointed (Nat.toDigits 10 coefficient) places ++ behind).map Char.toLower = c :: rest ∧ c.isDigit = true := by
    intro places behind
    obtain ⟨c, rest, same, digit⟩ := @pointed_head _ places isDigit_toDigits (@Nat.toDigits_ne_nil coefficient 10)
    rw [same, List.cons_append, List.map_cons, lower_digit (.inl digit)]
    exact ⟨c, _, rfl, digit⟩
  simp only [numeral]
  split
  · have front := head (exponent + (Nat.toDigits 10 coefficient).length) []
    rwa [List.append_nil] at front
  · exact head _ _

/-- What is written of a decimal, in small letters, is read back as the same one. -/
theorem read_text (decimal : PyDecimal) : read (decimal.text.map Char.toLower) = some decimal := by
  have sign : ∀ negative, (signText negative).map Char.toLower = signText negative := by
    intro negative
    cases negative <;> rfl
  cases decimal with
  | finite negative coefficient exponent =>
    obtain ⟨c, rest, front, digit⟩ := numeral_head coefficient exponent
    have number := readNumeral_numeral coefficient exponent
    rw [text, List.map_append, sign]
    rw [front] at number ⊢
    rw [read_signText, readUnsigned_digit digit, number, Option.map_some]
    intro d first
    rw [← Option.some.inj first]
    constructor
    · rintro rfl
      cases digit
    · rintro rfl
      cases digit
  | infinity negative =>
    rw [text, List.map_append, sign, read_signText]
    · rfl
    · intro c first
      rw [← Option.some.inj first]
      decide
  | nan negative signaling payload =>
    have digits : readDigits (if payload = 0 then [] else Nat.toDigits 10 payload) = some payload := by
      split
      · next zero =>
        rw [zero]
        rfl
      · exact readDigits_toDigits payload
    have small : (if payload = 0 then [] else Nat.toDigits 10 payload).map Char.toLower =
        if payload = 0 then [] else Nat.toDigits 10 payload := by
      apply lower_eq
      intro c member
      split at member
      · cases member
      · exact .inl (isDigit_toDigits c member)
    rw [text, List.map_append, sign]
    generalize (if payload = 0 then [] else Nat.toDigits 10 payload) = shown at digits small ⊢
    cases signaling with
    | true =>
      have lowered : (['s'] ++ 'N' :: 'a' :: 'N' :: shown).map Char.toLower = 's' :: 'n' :: 'a' :: 'n' :: shown := by
        simp [small]
      rw [if_pos rfl, lowered, read_signText (by simp), readUnsigned, digits, Option.map_some]
    | false =>
      have lowered : ([] ++ 'N' :: 'a' :: 'N' :: shown).map Char.toLower = 'n' :: 'a' :: 'n' :: shown := by
        simp [small]
      rw [if_neg Bool.false_ne_true, lowered, read_signText (by simp), readUnsigned, digits, Option.map_some]

/-- The characters that a decimal is written with. -/
theorem text_chars (decimal : PyDecimal) :
    ∀ c ∈ decimal.text, c.isAlphanum = true ∨ c = '.' ∨ c = '-' ∨ c = '+' := by
  have ofDigit : ∀ c : Char, c.isDigit = true → c.isAlphanum = true := by
    intro c digit
    simp only [Char.isAlphanum, digit, Bool.or_true]
  have sign : ∀ negative, ∀ c ∈ signText negative, c.isAlphanum = true ∨ c = '.' ∨ c = '-' ∨ c = '+' := by
    intro negative c member
    cases negative with
    | false => cases member
    | true => exact .inr (.inr (.inl (List.mem_singleton.mp member)))
  have point : ∀ coefficient places, ∀ c ∈ pointed (Nat.toDigits 10 coefficient) places,
      c.isAlphanum = true ∨ c = '.' ∨ c = '-' ∨ c = '+' := by
    intro coefficient places c member
    exact (pointed_chars isDigit_toDigits c member).imp (ofDigit c) .inl
  cases decimal with
  | finite negative coefficient exponent =>
    intro c member
    rcases List.mem_append.mp member with member | member
    · exact sign negative c member
    · simp only [numeral] at member
      split at member
      · exact point _ _ c member
      · rcases List.mem_append.mp member with member | member
        · exact point _ _ c member
        · rcases List.mem_cons.mp member with rfl | member
          · exact .inl rfl
          · rcases List.mem_cons.mp member with rfl | member
            · split
              · exact .inr (.inr (.inl rfl))
              · exact .inr (.inr (.inr rfl))
            · exact .inl (ofDigit c (isDigit_toDigits c member))
  | infinity negative =>
    intro c member
    rcases List.mem_append.mp member with member | member
    · exact sign negative c member
    · simp only [List.mem_cons, List.not_mem_nil, or_false] at member
      rcases member with rfl | rfl | rfl | rfl | rfl | rfl | rfl | rfl <;> exact .inl rfl
  | nan negative signaling payload =>
    intro c member
    rw [text, List.mem_append, List.mem_append, List.mem_cons, List.mem_cons, List.mem_cons] at member
    rcases member with member | member | rfl | rfl | rfl | member
    · exact sign negative c member
    · split at member
      · rw [List.mem_singleton.mp member]
        exact .inl rfl
      · cases member
    · exact .inl rfl
    · exact .inl rfl
    · exact .inl rfl
    · split at member
      · cases member
      · exact .inl (ofDigit c (isDigit_toDigits c member))

theorem text_injective : Function.Injective text := by
  intro a b same
  have readBack := read_text a
  rw [same, read_text b] at readBack
  exact (Option.some.inj readBack).symm

end

def sign (negative : Bool) : ℤ := if negative = true then -1 else 1

theorem sign_mul_self (negative : Bool) : sign negative * sign negative = 1 := by
  cases negative <;> rfl

/-- The number of a finite decimal. -/
def value : PyDecimal → Option ℚ
  | finite negative coefficient exponent =>
    some (sign negative * coefficient * (10 : ℚ) ^ exponent)
  | infinity _ | nan _ _ _ => none

/-- `==` of two decimals. -/
def numEq : PyDecimal → PyDecimal → Prop
  | infinity negative, other => other = infinity negative
  | decimal, other => decimal.value ≠ none ∧ decimal.value = other.value

instance : (decimal other : PyDecimal) → Decidable (decimal.numEq other)
  | infinity _, _ => inferInstanceAs (Decidable (_ = _))
  | finite _ _ _, _ => inferInstanceAs (Decidable (_ ∧ _))
  | nan _ _ _, _ => inferInstanceAs (Decidable (_ ∧ _))

/-- A finite decimal equals its `to_integral_value()`. -/
def Integral (coefficient : Nat) (exponent : ℤ) : Prop := 0 ≤ exponent ∨ 10 ^ exponent.natAbs ∣ coefficient

instance (coefficient : Nat) (exponent : ℤ) : Decidable (Integral coefficient exponent) :=
  inferInstanceAs (Decidable (_ ∨ _))

/-- `int(decimal)` of a finite decimal. -/
def toInt (negative : Bool) (coefficient : Nat) (exponent : ℤ) : ℤ :=
  sign negative *
    (if 0 ≤ exponent then coefficient * 10 ^ exponent.natAbs else coefficient / 10 ^ exponent.natAbs : Nat)

section

variable {negative : Bool} {coefficient : Nat} {exponent : ℤ}

/-- The number that stands behind the sign, where it has no fraction. -/
theorem magnitude_of_integral (integral : Integral coefficient exponent) : (coefficient : ℚ) * (10 : ℚ) ^ exponent =
    (if 0 ≤ exponent then coefficient * 10 ^ exponent.natAbs else coefficient / 10 ^ exponent.natAbs : Nat) := by
  split
  · next up =>
    obtain ⟨n, rfl⟩ := Int.eq_ofNat_of_zero_le up
    push_cast
    rw [Int.natAbs_natCast, zpow_natCast]
  · next down =>
    obtain ⟨whole, rfl⟩ := integral.resolve_left down
    obtain ⟨n, rfl⟩ : ∃ n : Nat, exponent = -(n : ℤ) := ⟨exponent.natAbs, by omega⟩
    have positive : 0 < 10 ^ n := by positivity
    rw [Int.natAbs_neg, Int.natAbs_natCast, Nat.mul_div_cancel_left whole positive, zpow_neg, zpow_natCast]
    push_cast
    field_simp

theorem toInt_of_integral (integral : Integral coefficient exponent) :
    (finite negative coefficient exponent).value = some ((toInt negative coefficient exponent : ℤ) : ℚ) := by
  rw [value, toInt, mul_assoc, magnitude_of_integral integral, Int.cast_mul, Int.cast_natCast]

/-- A decimal has no fraction exactly when its number is an integer. -/
theorem integral_iff :
    Integral coefficient exponent ↔ ∃ n : ℤ, (finite negative coefficient exponent).value = some (n : ℚ) := by
  constructor
  · exact fun integral => ⟨_, toInt_of_integral integral⟩
  · rintro ⟨n, same⟩
    by_cases up : 0 ≤ exponent
    · exact .inl up
    · right
      have number : (sign negative : ℚ) * coefficient * (10 : ℚ) ^ exponent = n := Option.some.inj same
      obtain ⟨k, rfl⟩ : ∃ k : Nat, exponent = -(k : ℤ) := ⟨exponent.natAbs, by omega⟩
      rw [zpow_neg, zpow_natCast, ← div_eq_mul_inv, div_eq_iff (by positivity)] at number
      have whole : sign negative * (coefficient : ℤ) = n * 10 ^ k := by exact_mod_cast number
      rw [Int.natAbs_neg, Int.natAbs_natCast, ← Int.natCast_dvd_natCast]
      refine ⟨sign negative * n, ?_⟩
      calc (coefficient : ℤ) = sign negative * sign negative * coefficient := by rw [sign_mul_self, one_mul]
        _ = sign negative * (n * 10 ^ k) := by rw [mul_assoc, whole]
        _ = ((10 ^ k : Nat) : ℤ) * (sign negative * n) := by
          push_cast
          ring

end

end PyDecimal

end TradeX.Lib
