import TradeX.Lib.Text

/-! Universally unique identifiers and their texts: the 32 hexadecimal digits in five groups, and a
reader for which dashes, braces and the prefix of a URN are optional. -/

namespace TradeX.Lib

/-- The identifiers, as their numbers. -/
abbrev Uuid := Fin (2 ^ 128)

namespace Uuid

/-- The hexadecimal numeral of a number in a fixed width, from the least digit. -/
def hexNumeral : Nat → Nat → List Char
  | 0, _ => []
  | width + 1, n => hexNumeral width (n / 16) ++ [Nat.digitChar (n % 16)]

def hexDigit : Char → Option Nat
  | c => if c.isDigit then some (c.toNat - '0'.toNat)
    else if 'a' ≤ c.toLower ∧ c.toLower ≤ 'f' then some (c.toLower.toNat - 'a'.toNat + 10)
    else none

/-- The value of a row of hexadecimal digits. -/
def hexValue (chars : List Char) : Option Nat :=
  chars.foldl (fun value c => value.bind fun n => (hexDigit c).map fun d => 16 * n + d) (some 0)

/-- The characters in groups of the given widths, and the rest, with dashes between them. -/
def dashed : List Nat → List Char → List Char
  | [], chars => chars
  | width :: widths, chars => chars.take width ++ '-' :: dashed widths (chars.drop width)

/-- `str(uuid)`. -/
def text (uuid : Uuid) : String := String.ofList (dashed [8, 4, 4, 4] (hexNumeral 32 uuid.val))

/-- The characters without the occurrences of the part; `skip` of them belong to the last one. -/
def removeFrom (part : List Char) : Nat → List Char → List Char
  | _, [] => []
  | skip + 1, _ :: rest => removeFrom part skip rest
  | 0, c :: rest =>
    if part.isPrefixOf (c :: rest) then removeFrom part (part.length - 1) rest else c :: removeFrom part 0 rest

def remove (part : String) (chars : List Char) : List Char := removeFrom part.toList 0 chars

/-- The characters without braces at either end. -/
def stripBraces (chars : List Char) : List Char :=
  ((chars.dropWhile fun c => c = '{' ∨ c = '}').reverse.dropWhile fun c => c = '{' ∨ c = '}').reverse

/-- `UUID(text)`, where the text has the 32 digits. -/
def ofText (text : String) : Option Uuid :=
  let chars := (stripBraces (remove "uuid:" (remove "urn:" text.toList))).filter fun c => c ≠ '-'
  if chars.length = 32 then
    (hexValue chars).bind fun n => if fits : n < 2 ^ 128 then some ⟨n, fits⟩ else none
  else none

theorem hexNumeral_length (width n : Nat) : (hexNumeral width n).length = width := by
  induction width generalizing n with
  | zero => rfl
  | succ width ih => rw [hexNumeral, List.length_append, ih, List.length_singleton]

theorem digitChar_spec : ∀ d < 16, hexDigit (Nat.digitChar d) = some d ∧
    Nat.digitChar d ∉ ['-', 'u', '{', '}'] := by
  decide

theorem hexNumeral_char {width n : Nat} {c : Char} (member : c ∈ hexNumeral width n) : ∃ d < 16, c = Nat.digitChar d := by
  induction width generalizing n with
  | zero => cases member
  | succ width ih =>
    rw [hexNumeral, List.mem_append, List.mem_singleton] at member
    obtain inner | rfl := member
    · exact ih inner
    · exact ⟨n % 16, Nat.mod_lt n (by decide), rfl⟩

/-- The number that is written is read. -/
theorem hexValue_hexNumeral {width n : Nat} (fits : n < 16 ^ width) : hexValue (hexNumeral width n) = some n := by
  induction width generalizing n with
  | zero =>
    have zero : n = 0 := by simpa using fits
    subst zero
    rfl
  | succ width ih =>
    have less : n / 16 < 16 ^ width := by
      rw [pow_succ] at fits
      omega
    have rest := ih less
    unfold hexValue at rest ⊢
    rw [hexNumeral, List.foldl_append, rest, List.foldl_cons, List.foldl_nil, Option.bind_some,
      (digitChar_spec (n % 16) (Nat.mod_lt n (by decide))).1, Option.map_some, Option.some.injEq]
    omega

theorem mem_dashed {widths : List Nat} {chars : List Char} {c : Char} (member : c ∈ dashed widths chars) :
    c = '-' ∨ c ∈ chars := by
  induction widths generalizing chars with
  | nil => exact .inr member
  | cons width widths ih =>
    rw [dashed, List.mem_append, List.mem_cons] at member
    obtain first | rfl | later := member
    · exact .inr (List.mem_of_mem_take first)
    · exact .inl rfl
    · exact (ih later).imp_right List.mem_of_mem_drop

/-- Without the dashes, the characters are as they were. -/
theorem filter_dashed (widths : List Nat) {chars : List Char} (plain : '-' ∉ chars) :
    (dashed widths chars).filter (fun c => c ≠ '-') = chars := by
  have kept : ∀ {part : List Char}, '-' ∉ part → part.filter (fun c => c ≠ '-') = part := by
    intro part none_
    refine List.filter_eq_self.mpr fun c member => ?_
    simpa using fun same : c = '-' => none_ (same ▸ member)
  induction widths generalizing chars with
  | nil => exact kept plain
  | cons width widths ih =>
    have front : '-' ∉ chars.take width := fun member => plain (List.mem_of_mem_take member)
    have back : '-' ∉ chars.drop width := fun member => plain (List.mem_of_mem_drop member)
    rw [dashed, List.filter_append, List.filter_cons_of_neg (by simp), kept front, ih back, List.take_append_drop]

/-- A part that begins with a character the text lacks is not removed from it. -/
theorem removeFrom_absent {first : Char} {others chars : List Char} (absent : first ∉ chars) :
    removeFrom (first :: others) 0 chars = chars := by
  induction chars with
  | nil => rfl
  | cons c rest ih =>
    obtain ⟨differs, later⟩ := not_or.mp (List.mem_cons.not.mp absent)
    have no : ¬ (first :: others).isPrefixOf (c :: rest) = true := by
      simp [List.isPrefixOf, differs]
    rw [removeFrom, if_neg no, ih later]

theorem stripBraces_plain {chars : List Char} (plain : ∀ c ∈ chars, ¬ (c = '{' ∨ c = '}')) : stripBraces chars = chars := by
  have kept : ∀ part : List Char, (∀ c ∈ part, ¬ (c = '{' ∨ c = '}')) →
      part.dropWhile (fun c => c = '{' ∨ c = '}') = part := by
    intro part none_
    cases part with
    | nil => rfl
    | cons c rest => rw [List.dropWhile_cons_of_neg (by simpa using none_ c List.mem_cons_self)]
  unfold stripBraces
  rw [kept chars plain, kept chars.reverse (by simpa using plain), List.reverse_reverse]

/-- The text of an identifier is read as that identifier. -/
theorem ofText_text (uuid : Uuid) : ofText uuid.text = some uuid := by
  have chars : uuid.text.toList = dashed [8, 4, 4, 4] (hexNumeral 32 uuid.val) := String.toList_ofList
  have plain : ∀ c ∈ uuid.text.toList, c ∉ ['u', '{', '}'] := by
    intro c member
    rw [chars] at member
    obtain rfl | inner := mem_dashed member
    · decide
    · obtain ⟨d, small, rfl⟩ := hexNumeral_char inner
      have apart := (digitChar_spec d small).2
      simp only [List.mem_cons, List.not_mem_nil, or_false, not_or] at apart ⊢
      exact apart.2
  have noU : 'u' ∉ uuid.text.toList := fun member => plain 'u' member (by decide)
  have noBraces : ∀ c ∈ uuid.text.toList, ¬ (c = '{' ∨ c = '}') := by
    intro c member
    have apart := plain c member
    simp only [List.mem_cons, List.not_mem_nil, or_false, not_or] at apart ⊢
    exact apart.2
  have noDash : '-' ∉ hexNumeral 32 uuid.val := by
    intro member
    obtain ⟨d, small, same⟩ := hexNumeral_char member
    exact (digitChar_spec d small).2 (same ▸ List.mem_cons_self)
  have unprefixed : remove "uuid:" (remove "urn:" uuid.text.toList) = uuid.text.toList := by
    unfold remove
    rw [show "urn:".toList = 'u' :: ['r', 'n', ':'] from rfl, removeFrom_absent noU,
      show "uuid:".toList = 'u' :: ['u', 'i', 'd', ':'] from rfl, removeFrom_absent noU]
  have fits : uuid.val < 16 ^ 32 := by
    have bound := uuid.isLt
    omega
  unfold ofText
  dsimp only
  rw [unprefixed, stripBraces_plain noBraces, chars, filter_dashed _ noDash, if_pos (hexNumeral_length 32 _),
    hexValue_hexNumeral fits, Option.bind_some, dif_pos uuid.isLt]

/-- The text is not empty. -/
theorem text_ne_empty (uuid : Uuid) : uuid.text ≠ "" := by
  intro empty
  have read := ofText_text uuid
  have unread : ofText "" = none := by decide
  rw [empty, unread] at read
  cases read

end Uuid

end TradeX.Lib
