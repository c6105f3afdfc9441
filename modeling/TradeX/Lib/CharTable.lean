import TradeX.Lib.DecimalText
import TradeX.Lib.Text

/-! Texts over a table of the characters: their capitals, the blanks and the decimal digits. A table is
known where the characters are ASCII, and elsewhere by what holds of every character of Unicode. -/

namespace TradeX.Lib

structure CharTable where
  upper : Char → List Char
  isSpace : Char → Bool
  digit : Char → Option Nat
  upper_ascii : ∀ c, c.toNat < 128 → upper c = [c.toUpper]
  isSpace_ascii : ∀ c, c.toNat < 128 →
    isSpace c = decide (9 ≤ c.toNat ∧ c.toNat ≤ 13 ∨ 28 ≤ c.toNat ∧ c.toNat ≤ 32)
  digit_ascii : ∀ c, c.toNat < 128 → digit c = if c.isDigit then some (c.toNat - '0'.toNat) else none
  /-- A capital is its own capital, and neither appears nor goes as a blank or as a colon. -/
  upper_upper : ∀ c, (upper c).flatMap upper = upper c
  upper_ne_nil : ∀ c, upper c ≠ []
  isSpace_upper : ∀ c, ∀ d ∈ upper c, isSpace d = isSpace c
  colon_upper : ∀ c, ':' ∈ upper c → c = ':'
  upper_digit : ∀ c n, digit c = some n → upper c = [c]
  isSpace_digit : ∀ c n, digit c = some n → isSpace c = false
  digit_lt : ∀ c n, digit c = some n → n < 10

namespace CharTable

variable (table : CharTable)

/-- `str.upper`. -/
def upperText (text : List Char) : List Char := text.flatMap table.upper

/-- `str.strip`. -/
def strip (text : List Char) : List Char := (text.dropWhile table.isSpace).rdropWhile table.isSpace

/-- A character of a numeral as an ASCII one. -/
def toAscii (c : Char) : Option Char := if c.toNat < 128 then some c else (table.digit c).map Nat.digitChar

/-- The numeral that a text spells, without blanks at either end and without underscores. -/
def numeral (text : List Char) : Option (List Char) := ((table.strip text).filter (· ≠ '_')).mapM table.toAscii

/-- `Decimal(text)`. -/
def decimal (text : List Char) : Option PyDecimal :=
  (table.numeral text).bind fun ascii => PyDecimal.read (ascii.map Char.toLower)

variable {table} {text : List Char} {c : Char}

theorem upperText_upperText (text : List Char) : table.upperText (table.upperText text) = table.upperText text := by
  induction text with
  | nil => rfl
  | cons c text ih =>
    simp only [upperText, List.flatMap_cons, List.flatMap_append] at ih ⊢
    rw [table.upper_upper, ih]

theorem colon_upperText (free : ':' ∉ text) : ':' ∉ table.upperText text := by
  intro member
  obtain ⟨c, found, colon⟩ := List.mem_flatMap.mp member
  exact free (table.colon_upper c colon ▸ found)

theorem dropWhile_upperText (text : List Char) :
    (table.upperText text).dropWhile table.isSpace = table.upperText (text.dropWhile table.isSpace) := by
  induction text with
  | nil => rfl
  | cons c text ih =>
    rw [upperText, List.flatMap_cons, List.dropWhile_cons]
    by_cases space : table.isSpace c = true
    · rw [if_pos space, List.dropWhile_append_of_pos fun d member => (table.isSpace_upper c d member).trans space]
      exact ih
    · obtain ⟨first, rest, capitals⟩ := List.exists_cons_of_ne_nil (table.upper_ne_nil c)
      have solid : ¬ table.isSpace first = true := by
        rwa [table.isSpace_upper c first (capitals ▸ List.mem_cons_self)]
      rw [if_neg space, capitals, List.cons_append, List.dropWhile_cons, if_neg solid, upperText, List.flatMap_cons,
        capitals, List.cons_append]

theorem rdropWhile_upperText (text : List Char) :
    (table.upperText text).rdropWhile table.isSpace = table.upperText (text.rdropWhile table.isSpace) := by
  induction text using List.reverseRecOn with
  | nil => rfl
  | append_singleton text c ih =>
    have ends : table.upperText (text ++ [c]) = table.upperText text ++ table.upper c := by
      rw [upperText, List.flatMap_append, List.flatMap_singleton]
      rfl
    by_cases space : table.isSpace c = true
    · rw [List.rdropWhile_concat_pos _ _ _ space, ← ih, ends]
      have dropped : ∀ capitals : List Char, (∀ d ∈ capitals, table.isSpace d = true) →
          (table.upperText text ++ capitals).rdropWhile table.isSpace =
            (table.upperText text).rdropWhile table.isSpace := by
        intro capitals spaces
        rw [List.rdropWhile, List.reverse_append, List.dropWhile_append_of_pos, List.rdropWhile]
        intro d member
        exact spaces d (List.mem_reverse.mp member)
      exact dropped _ fun d member => (table.isSpace_upper c d member).trans space
    · rw [List.rdropWhile_concat_neg _ _ _ space, ends]
      obtain ⟨front, last, capitals⟩ := List.eq_nil_or_concat (table.upper c) |>.resolve_left (table.upper_ne_nil c)
      rw [List.concat_eq_append] at capitals
      have solid : ¬ table.isSpace last = true := by
        rwa [table.isSpace_upper c last (by simp [capitals])]
      rw [capitals, ← List.append_assoc, List.rdropWhile_concat_neg _ _ _ solid]

theorem strip_upperText (text : List Char) :
    table.strip (table.upperText text) = table.upperText (table.strip text) := by
  rw [strip, dropWhile_upperText, rdropWhile_upperText, strip]

/-- A text with no blank at either end is stripped of nothing. -/
theorem strip_of_solid (first : ∀ c ∈ text.head?, table.isSpace c = false)
    (last : ∀ c ∈ text.getLast?, table.isSpace c = false) : table.strip text = text := by
  have front : text.dropWhile table.isSpace = text := by
    cases text with
    | nil => rfl
    | cons c rest => rw [List.dropWhile_cons, first c rfl, if_neg Bool.false_ne_true]
  rw [strip, front, List.rdropWhile_eq_self_iff]
  intro nonempty
  rw [last _ (List.getLast?_eq_some_getLast nonempty)]
  exact Bool.false_ne_true

theorem head_strip : ∀ c ∈ (table.strip text).head?, table.isSpace c = false := by
  intro c first
  have begins := List.rdropWhile_prefix table.isSpace (text.dropWhile table.isSpace)
  obtain ⟨rest, whole⟩ := begins
  cases front : table.strip text with
  | nil =>
    rw [front] at first
    cases first
  | cons d others =>
    rw [front] at first
    cases first
    rw [show (text.dropWhile table.isSpace).rdropWhile table.isSpace = c :: others from front] at whole
    have some_ : text.dropWhile table.isSpace ≠ [] := whole ▸ List.cons_ne_nil _ _
    have left := List.head_dropWhile_not table.isSpace some_
    simp only [← whole, List.cons_append, List.head_cons] at left
    exact left

theorem last_strip : ∀ c ∈ (table.strip text).getLast?, table.isSpace c = false := by
  intro c last
  have nonempty : table.strip text ≠ [] := by
    intro nothing
    rw [nothing] at last
    cases last
  rw [List.getLast?_eq_some_getLast nonempty, Option.mem_some_iff] at last
  have solid := List.rdropWhile_last_not table.isSpace (text.dropWhile table.isSpace) nonempty
  rw [← last]
  exact Bool.eq_false_iff.mpr solid

theorem strip_strip (text : List Char) : table.strip (table.strip text) = table.strip text :=
  strip_of_solid head_strip last_strip

/-- A character of a written decimal. -/
def Plain (c : Char) : Prop := c.isAlphanum = true ∨ c = '.' ∨ c = '-' ∨ c = '+'

theorem Plain.range (plain : Plain c) : 43 ≤ c.toNat ∧ c.toNat < 128 := by
  rcases plain with word | rfl | rfl | rfl
  · simp only [Char.isAlphanum, Char.isAlpha, Char.isUpper, Char.isLower, Char.isDigit, Bool.or_eq_true,
      Bool.and_eq_true, decide_eq_true_eq, UInt32.le_iff_toNat_le, ge_iff_le] at word
    simp only [Char.reduceVal, UInt32.reduceToNat, Char.toNat_val] at word
    omega
  all_goals decide

theorem Plain.solid (plain : Plain c) : table.isSpace c = false := by
  obtain ⟨low, high⟩ := plain.range
  rw [table.isSpace_ascii c high, decide_eq_false_iff_not]
  omega

theorem Plain.not_underscore (plain : Plain c) : c ≠ '_' := by
  rintro rfl
  revert plain
  simp only [Plain]
  decide

theorem numeral_plain (plain : ∀ c ∈ text, Plain c) : table.numeral text = some text := by
  have stripped : table.strip text = text := by
    apply strip_of_solid
    · exact fun c first => (plain c (List.mem_of_mem_head? first)).solid
    · exact fun c last => (plain c (List.mem_of_mem_getLast? last)).solid
  have kept : text.filter (· ≠ '_') = text :=
    List.filter_eq_self.mpr fun c member => decide_eq_true (plain c member).not_underscore
  rw [numeral, stripped, kept]
  clear stripped kept
  induction text with
  | nil => rfl
  | cons c text ih =>
    have ascii : table.toAscii c = some c := if_pos (plain c List.mem_cons_self).range.2
    rw [List.mapM_cons, ascii, ih fun d member => plain d (List.mem_cons_of_mem _ member)]
    rfl

/-- `Decimal(str(decimal))`. -/
theorem decimal_text (decimal : PyDecimal) : table.decimal decimal.text = some decimal := by
  rw [CharTable.decimal, numeral_plain (PyDecimal.text_chars decimal)]
  exact PyDecimal.read_text decimal

theorem toNat_toUpper (ascii : c.toNat < 128) : c.toUpper.toNat < 128 := by
  by_cases small : c.isLower = true
  · rw [Char.toUpper_eq_of_isLower small, Char.toNat_ofNat]
    split <;> omega
  · rwa [Char.toUpper_eq_of_not_isLower small]

/-- What a character of a numeral becomes as a capital. -/
theorem upper_toAscii {a : Char} (spelled : table.toAscii c = some a) (kept : c ≠ '_') :
    ∃ d, table.upper c = [d] ∧ d ≠ '_' ∧ ∃ b, table.toAscii d = some b ∧ b.toLower = a.toLower := by
  by_cases ascii : c.toNat < 128
  · rw [toAscii, if_pos ascii] at spelled
    cases spelled
    refine ⟨c.toUpper, table.upper_ascii c ascii, ?_, c.toUpper, if_pos (toNat_toUpper ascii),
      Char.toLower_toUpper_eq_toLower c⟩
    intro same
    have lowered := congrArg Char.toLower same
    rw [Char.toLower_toUpper_eq_toLower] at lowered
    by_cases big : c.isUpper = true
    · have small := congrArg Char.isLower lowered
      rw [Char.isLower_toLower_eq_isAlpha, Char.isAlpha, big, Bool.true_or] at small
      exact absurd small (by decide)
    · rw [Char.toLower_eq_of_not_isUpper big] at lowered
      exact kept lowered
  · have digit := spelled
    rw [toAscii, if_neg ascii] at digit
    obtain ⟨n, value, -⟩ := Option.map_eq_some_iff.mp digit
    exact ⟨c, table.upper_digit c n value, kept, a, spelled, rfl⟩

theorem numeral_upperText {ascii : List Char} (spelled : (text.filter (· ≠ '_')).mapM table.toAscii = some ascii) :
    ∃ capitals, ((table.upperText text).filter (· ≠ '_')).mapM table.toAscii = some capitals ∧
      capitals.map Char.toLower = ascii.map Char.toLower := by
  induction text generalizing ascii with
  | nil => exact ⟨ascii, spelled, rfl⟩
  | cons c text ih =>
    rw [upperText, List.flatMap_cons, List.filter_append]
    by_cases mark : c = '_'
    · have same : table.upper c = ['_'] := by
        rw [mark, table.upper_ascii '_' (by decide)]
        rfl
      have skipped : ((c :: text).filter (· ≠ '_')) = text.filter (· ≠ '_') := by simp [mark]
      rw [skipped] at spelled
      rw [same]
      exact ih spelled
    · have taken : ((c :: text).filter (· ≠ '_')) = c :: text.filter (· ≠ '_') := by simp [mark]
      rw [taken, List.mapM_cons] at spelled
      obtain ⟨a, first, rest⟩ := Option.bind_eq_some_iff.mp spelled
      obtain ⟨others, later, whole⟩ := Option.bind_eq_some_iff.mp rest
      cases whole
      obtain ⟨d, capital, keptCapital, b, read, same⟩ := upper_toAscii first mark
      obtain ⟨capitals, readLater, sameLater⟩ := ih later
      have kept : [d].filter (· ≠ '_') = [d] := by simp [keptCapital]
      refine ⟨b :: capitals, ?_, ?_⟩
      · rw [capital, kept, List.singleton_append, List.mapM_cons, read]
        simp only [upperText] at readLater
        rw [readLater]
        rfl
      · rw [List.map_cons, List.map_cons, same, sameLater]

/-- A numeral in capitals and without blanks around it spells the same decimal. -/
theorem decimal_upper {decimal : PyDecimal} (spelled : table.decimal text = some decimal) :
    table.decimal (table.upperText (table.strip text)) = some decimal := by
  obtain ⟨ascii, numeral, read⟩ := Option.bind_eq_some_iff.mp spelled
  obtain ⟨capitals, upper, same⟩ := numeral_upperText numeral
  rw [CharTable.decimal, CharTable.numeral, strip_upperText, strip_strip, upper, Option.bind_some, same, read]

theorem isDigit_range {c : Char} (digit : c.isDigit = true) : 48 ≤ c.toNat ∧ c.toNat ≤ 57 := by
  simp only [Char.isDigit, Bool.and_eq_true, decide_eq_true_eq, UInt32.le_iff_toNat_le, ge_iff_le] at digit
  simp only [Char.reduceVal, UInt32.reduceToNat, Char.toNat_val] at digit
  exact digit

theorem isLower_range {c : Char} (small : c.isLower = true) :
    97 ≤ c.toNat ∧ c.toNat ≤ 122 ∧ c.toUpper.toNat = c.toNat - 32 := by
  have range := small
  simp only [Char.isLower, Bool.and_eq_true, decide_eq_true_eq, UInt32.le_iff_toNat_le, ge_iff_le] at range
  simp only [Char.reduceVal, UInt32.reduceToNat, Char.toNat_val] at range
  refine ⟨range.1, range.2, ?_⟩
  rw [Char.toUpper_eq_of_isLower small, Char.toNat_ofNat, if_pos (.inl (by omega))]

/-- The table in which only the ASCII characters have capitals, are blanks or digits. -/
def ascii : CharTable where
  upper c := [c.toUpper]
  isSpace c := decide (9 ≤ c.toNat ∧ c.toNat ≤ 13 ∨ 28 ≤ c.toNat ∧ c.toNat ≤ 32)
  digit c := if c.isDigit then some (c.toNat - '0'.toNat) else none
  upper_ascii _ _ := rfl
  isSpace_ascii _ _ := rfl
  digit_ascii _ _ := rfl
  upper_upper c := congrArg List.singleton (Text.toUpper_toUpper c)
  upper_ne_nil c := List.cons_ne_nil _ _
  isSpace_upper c d member := by
    rw [List.mem_singleton.mp member]
    by_cases small : c.isLower = true
    · obtain ⟨low, high, image⟩ := isLower_range small
      rw [image]
      congr 1
      apply propext
      omega
    · rw [Char.toUpper_eq_of_not_isLower small]
  colon_upper c member := by
    by_cases small : c.isLower = true
    · obtain ⟨low, high, image⟩ := isLower_range small
      have colon := congrArg Char.toNat (List.mem_singleton.mp member)
      rw [image, show ':'.toNat = 58 from rfl] at colon
      omega
    · rw [Char.toUpper_eq_of_not_isLower small] at member
      exact (List.mem_singleton.mp member).symm
  upper_digit c n value := by
    by_cases digit : c.isDigit = true
    · have range := isDigit_range digit
      rw [Char.toUpper_eq_of_not_isLower]
      intro small
      have lower := (isLower_range small).1
      omega
    · rw [if_neg digit] at value
      cases value
  isSpace_digit c n value := by
    by_cases digit : c.isDigit = true
    · have range := isDigit_range digit
      exact decide_eq_false (by omega)
    · rw [if_neg digit] at value
      cases value
  digit_lt c n value := by
    by_cases digit : c.isDigit = true
    · have range := isDigit_range digit
      rw [if_pos digit] at value
      cases value
      have zero : '0'.toNat = 48 := rfl
      omega
    · rw [if_neg digit] at value
      cases value

end CharTable

end TradeX.Lib
