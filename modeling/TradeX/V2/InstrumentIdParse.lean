import TradeX.V2.InstrumentIdText

/-! What the parser makes of a text: which components the id that it gives accounts for, and exactly when
none of them is lost. -/

namespace TradeX.V2.ValueObjects.InstrumentId

open Lib

variable {runtime : Runtime}

section Digits

variable {text front back part : List Char} {c : Char} {m n : Nat} {expiry : Date}

/-- One more digit of a number. -/
def digitStep (runtime : Runtime) (value : Option Nat) (c : Char) : Option Nat :=
  value.bind fun n => (runtime.digit c).map fun d => 10 * n + d

theorem number_eq (text : List Char) : number runtime text = text.foldl (digitStep runtime) (some 0) := rfl

theorem foldl_digitStep (text : List Char) (v : Nat) :
    text.foldl (digitStep runtime) (some v) = (number runtime text).map (v * 10 ^ text.length + ·) := by
  induction text using List.reverseRecOn with
  | nil => simp [number_eq]
  | append_singleton text c ih =>
    rw [number_eq, List.foldl_concat, List.foldl_concat, ih, ← number_eq]
    cases number runtime text with
    | none => rfl
    | some n =>
      cases digit : runtime.digit c with
      | none => simp only [digitStep, digit, Option.map_some, Option.bind_some, Option.map_none]
      | some d =>
        simp only [digitStep, digit, Option.map_some, Option.bind_some, List.length_append, List.length_singleton,
          pow_succ]
        congr 1
        ring

/-- The number of digits behind others. -/
theorem number_append (first : number runtime front = some m) (second : number runtime back = some n) :
    number runtime (front ++ back) = some (m * 10 ^ back.length + n) := by
  rw [number_eq, List.foldl_append, ← number_eq, first, foldl_digitStep, second, Option.map_some]

/-- ASCII digits are those of the table. -/
theorem number_ascii (digit : ∀ c ∈ text, c.isDigit = true) :
    number runtime text = some (Nat.ofDigitChars 10 text 0) := by
  induction text using List.reverseRecOn with
  | nil => rfl
  | append_singleton text c ih =>
    have last := digit c (by simp)
    have front := ih fun d member => digit d (List.mem_append_left _ member)
    have range := CharTable.isDigit_range last
    rw [number_eq] at front ⊢
    rw [List.foldl_concat, front, Nat.ofDigitChars_append, digitStep, Option.bind_some,
      runtime.digit_ascii c (by omega), if_pos last]
    rfl

theorem number_readDigits (read : PyDecimal.readDigits text = some n) : number runtime text = some n := by
  rw [PyDecimal.readDigits] at read
  split at read
  · next digit => rw [number_ascii (List.all_eq_true.mp digit), read]
  · cases read

theorem digit_underscore : runtime.digit '_' = none := by
  rw [runtime.digit_ascii '_' (by decide)]
  rfl

/-- The ASCII digits that digits of the table stand for. -/
theorem mapM_toAscii (digit : ∀ c ∈ text, (runtime.digit c).isSome = true) : ∃ ascii,
    text.mapM runtime.toAscii = some ascii ∧ ascii.length = text.length ∧ (∀ c ∈ ascii, c.isDigit = true) ∧
      number runtime text = number runtime ascii := by
  induction text using List.reverseRecOn with
  | nil => exact ⟨[], rfl, rfl, by simp, rfl⟩
  | append_singleton text c ih =>
    obtain ⟨ascii, read, length, digits, same⟩ := ih fun d member => digit d (List.mem_append_left _ member)
    obtain ⟨d, value⟩ := Option.isSome_iff_exists.mp (digit c (by simp))
    have last : ∃ a, runtime.toAscii c = some a ∧ a.isDigit = true ∧ runtime.digit a = some d := by
      by_cases plain : c.toNat < 128
      · refine ⟨c, if_pos plain, ?_, value⟩
        by_contra other
        rw [runtime.digit_ascii c plain, if_neg other] at value
        cases value
      · have small := runtime.digit_lt c d value
        have digits : ∀ d < 10, (Nat.digitChar d).isDigit = true := by decide
        refine ⟨Nat.digitChar d, ?_, digits d small, digit_digitChar small⟩
        rw [CharTable.toAscii, if_neg plain, value, Option.map_some]
    obtain ⟨a, ascii_, isDigit, valueA⟩ := last
    refine ⟨ascii ++ [a], ?_, by simp [length], ?_, ?_⟩
    · rw [List.mapM_append, read, List.mapM_cons, ascii_]
      rfl
    · intro b member
      rcases List.mem_append.mp member with member | member
      · exact digits b member
      · rw [List.mem_singleton.mp member]
        exact isDigit
    · rw [number_eq, number_eq, List.foldl_concat, List.foldl_concat, ← number_eq, ← number_eq, same, digitStep,
        digitStep, value, valueA]

/-- Digits spell the decimal of their number. -/
theorem decimal_digits (some_ : text ≠ []) (digit : ∀ c ∈ text, (runtime.digit c).isSome = true) :
    ∃ n, number runtime text = some n ∧ runtime.decimal text = some (.finite false n 0) := by
  have solid : ∀ c ∈ text, runtime.isSpace c = false := by
    intro c member
    obtain ⟨d, value⟩ := Option.isSome_iff_exists.mp (digit c member)
    exact runtime.isSpace_digit c d value
  have stripped : runtime.strip text = text := CharTable.strip_of_solid
    (fun c first => solid c (List.mem_of_mem_head? first)) fun c last => solid c (List.mem_of_mem_getLast? last)
  have kept : text.filter (· ≠ '_') = text := by
    apply List.filter_eq_self.mpr
    intro c member
    apply decide_eq_true
    rintro rfl
    have value := digit '_' member
    rw [digit_underscore] at value
    cases value
  obtain ⟨ascii, read, length, digits, same⟩ := mapM_toAscii digit
  have first : ascii ≠ [] := List.length_pos_iff.mp (length ▸ List.length_pos_iff.mpr some_)
  refine ⟨Nat.ofDigitChars 10 ascii 0, by rw [same, number_ascii digits], ?_⟩
  obtain ⟨d, others, whole⟩ := List.exists_cons_of_ne_nil first
  have leading : d.isDigit = true := digits d (whole ▸ List.mem_cons_self)
  have numeral : PyDecimal.readNumeral ascii = some (Nat.ofDigitChars 10 ascii 0, 0) := by
    have all := @PyDecimal.readNumeral_whole ascii [] digits (by simp)
    rw [List.append_nil] at all
    rw [all, PyDecimal.readScaled, if_neg fun nothing => first nothing.1, List.append_nil]
    rfl
  rw [CharTable.decimal, CharTable.numeral, stripped, kept, read, Option.bind_some,
    PyDecimal.lower_eq fun c member => .inl (digits c member)]
  have unsigned : PyDecimal.read (PyDecimal.signText false ++ ascii) = PyDecimal.readUnsigned false ascii := by
    apply PyDecimal.read_signText
    intro c head
    rw [whole] at head
    cases head
    constructor
    · rintro rfl
      cases leading
    · rintro rfl
      cases leading
  refine unsigned.trans ?_
  rw [whole, PyDecimal.readUnsigned_digit leading, ← whole, numeral]
  rfl

theorem strftime_digits : ∀ c ∈ strftime runtime expiry, c.isDigit = true := by
  have digits : ∀ d < 10, (Nat.digitChar d).isDigit = true := by decide
  intro c member
  rw [strftime, List.mem_append, List.mem_append, List.mem_append] at member
  rcases member with (member | member) | member | member
  · rw [List.eq_of_mem_replicate member]
    rfl
  · exact PyDecimal.isDigit_toDigits c member
  all_goals
    obtain ⟨d, small, rfl⟩ := mem_digits member
    exact digits d small

/-- The number that the digits of a date make. -/
def dateNumber (expiry : Date) : Nat := expiry.year * 10 ^ 4 + (expiry.month * 10 ^ 2 + expiry.day)

theorem number_strftime : number runtime (strftime runtime expiry) = some (dateNumber expiry) := by
  obtain ⟨year, month, day, valid⟩ := expiry
  have short := daysIn_le year month
  have months : number runtime (digits 2 month) = some month := number_digits (by omega)
  have days : number runtime (digits 2 day) = some day := number_digits (by omega)
  have zeros : ∀ k, number runtime (List.replicate k '0') = some 0 := by
    intro k
    have zero : ∀ c ∈ List.replicate k '0', c.isDigit = true := by
      intro c member
      rw [List.eq_of_mem_replicate member]
      rfl
    rw [number_ascii zero, Nat.ofDigitChars_replicate_zero]
    rfl
  have years : number runtime (Nat.toDigits 10 year) = some year := by
    rw [number_ascii PyDecimal.isDigit_toDigits, Nat.ofDigitChars_ten_toDigits]
  have whole := number_append (number_append (zeros (runtime.yearZeros year)) years) (number_append months days)
  rw [strftime, whole, List.length_append, digits_length, digits_length, Nat.zero_mul, Nat.zero_add]
  rfl

/-- The digits of a text that is read as a date make the number of the date. -/
theorem number_strptime (matched : matchesDate runtime part = true) (read : strptime runtime part = some expiry) :
    (∀ c ∈ part, (runtime.digit c).isSome = true) ∧ part ≠ [] ∧ number runtime part = some (dateNumber expiry) := by
  unfold strptime at read
  split at read
  · next y1 y2 y3 y4 m1 m2 d1 d2 =>
    simp only [Option.bind_eq_bind] at read
    obtain ⟨year, years, read⟩ := Option.bind_eq_some_iff.mp read
    obtain ⟨month, months, read⟩ := Option.bind_eq_some_iff.mp read
    obtain ⟨tens, ten, read⟩ := Option.bind_eq_some_iff.mp read
    obtain ⟨ones, one, read⟩ := Option.bind_eq_some_iff.mp read
    split at read
    · next valid =>
      cases read
      have days : number runtime [d2] = some ones := by
        have digit : runtime.digit d2 = some ones := by
          rw [dayOnes] at one
          split at one
          · exact one
          · have single := @number_readDigits runtime _ _ one
            cases digit : runtime.digit d2 with
            | none => simp only [number, List.foldl_cons, List.foldl_nil, Option.bind_some, digit, Option.map_none,
                reduceCtorEq] at single
            | some d => simpa only [number, List.foldl_cons, List.foldl_nil, Option.bind_some, digit, Option.map_some,
                Nat.mul_zero, Nat.zero_add] using single
        simp only [number, List.foldl_cons, List.foldl_nil, Option.bind_some, digit, Option.map_some, Nat.mul_zero,
          Nat.zero_add]
      have whole := number_append years (number_append (number_readDigits months)
        (number_append (number_readDigits ten) days))
      refine ⟨?_, List.cons_ne_nil _ _, ?_⟩
      · simp only [matchesDate, Bool.and_eq_true, decide_eq_true_eq] at matched
        split at matched
        · cases matched.1
        · exact List.all_eq_true.mp matched.2
      · refine whole.trans ?_
        simp only [dateNumber, List.length_append, List.length_cons, List.length_nil]
        congr 1
        omega
    · cases read
  · cases read

end Digits

section Components

variable {part text exchange underlying : List Char} {decimal : PyDecimal} {expiry : Option Date}
  {strike : Option PyDecimal} {right third : Option (List Char)} {rest : List (List Char)}
  {id : InstrumentId runtime}

/-- A component up to case and the formatting of decimals. -/
inductive Component where
  | number (value : ℚ)
  | special (decimal : PyDecimal)
  | word (text : List Char)
  deriving DecidableEq

def Component.ofDecimal (decimal : PyDecimal) : Component := decimal.value.elim (.special decimal) .number

variable (runtime) in
def canon (part : List Char) : Component :=
  (runtime.decimal (norm runtime part)).elim (.word (norm runtime part)) .ofDecimal

variable (runtime) in
/-- The components that are not empty. -/
def components (parts : List (List Char)) : List Component := (parts.filter (· ≠ [])).map (canon runtime)

/-- The printed id gives back the components of the text. -/
def Reflected (text : List Char) (id : InstrumentId runtime) : Prop :=
  ∃ printed, id.str = .ok printed ∧
    (components runtime ((runtime.strip text).splitOn ':')).Subperm (components runtime (printed.splitOn ':'))

variable (runtime) in
/-- The components that do not name the contract on their own: the third that is no date, the fourth that is no
decimal, all from the fifth on, and a name that is only blanks. -/
def leftover (underlying : List Char) (rest : List (List Char)) : List Component :=
  components runtime ((if norm runtime underlying = [] then [underlying] else []) ++
    (if matchesDate runtime (rest[0]?.getD []) = true then [] else [rest[0]?.getD []]) ++
    (if (runtime.decimal (rest[1]?.getD [])).isSome = true then [] else [rest[1]?.getD []]) ++ rest.drop 2)

variable (runtime) in
/-- A text of a future without a fifth component. -/
def FutureText (rest : List (List Char)) : Prop :=
  matchesDate runtime (rest[0]?.getD []) = true ∨ runtime.upperText (rest[0]?.getD []) = FUT ∨
    runtime.upperText (rest[1]?.getD []) = FUT

/-- A strike that can be printed. -/
def Printable : PyDecimal → Prop
  | .finite _ _ _ | .nan _ false _ => True
  | .infinity _ | .nan _ true _ => False

variable (runtime) in
/-- The strike can be printed, and beside the date and the strike the text has nothing, or its fifth component
only, or only `FUT` where it is the text of a future. -/
def Interpreted : List (List Char) → Prop
  | _ :: underlying :: rest =>
    (∀ strike ∈ runtime.decimal (rest[1]?.getD []), Printable strike) ∧
      (leftover runtime underlying rest = [] ∨
        ∃ component, leftover runtime underlying rest = [component] ∧
          (rest[2]?.getD [] ≠ [] ∨ component = canon runtime FUT ∧ FutureText runtime rest))
  | _ => False

theorem canon_decimal (spelled : runtime.decimal part = some decimal) : canon runtime part = .ofDecimal decimal := by
  rw [canon, norm, CharTable.decimal_upper spelled]
  rfl

theorem canon_norm : canon runtime (norm runtime part) = canon runtime part := by
  rw [canon, canon, norm_norm]

theorem canon_upperText : canon runtime (runtime.upperText part) = canon runtime part := by
  rw [canon, canon, norm_upperText]

theorem components_append (front back : List (List Char)) :
    components runtime (front ++ back) = components runtime front ++ components runtime back := by
  rw [components, components, components, List.filter_append, List.map_append]

theorem components_single (some_ : part ≠ []) : components runtime [part] = [canon runtime part] := by
  simp [components, some_]

theorem components_nil : components runtime [[]] = [] := rfl

/-- The first, the second and the later ones of the components, where they are. -/
theorem components_rest : components runtime rest =
    components runtime [rest[0]?.getD []] ++ components runtime [rest[1]?.getD []] ++
      components runtime (rest.drop 2) := by
  match rest with
  | [] => rfl
  | [first] =>
    change _ = components runtime [first] ++ [] ++ []
    rw [List.append_nil, List.append_nil]
  | first :: second :: others =>
    rw [← components_append, ← components_append]
    rfl

theorem readThird_eq_ok (read : readThird runtime part = .ok (expiry, third)) :
    (∃ date, matchesDate runtime part = true ∧ strptime runtime part = some date ∧ expiry = some date ∧
        third = none) ∨
      (matchesDate runtime part = false ∧ expiry = none ∧
        third = if runtime.upperText part = FUT then some FUT else none) := by
  simp only [readThird] at read
  split at read
  · next empty =>
    cases read
    rw [empty]
    exact .inr ⟨rfl, rfl, rfl⟩
  · split at read
    · next matched =>
      split at read
      · cases read
      · next date spelled =>
        cases read
        exact .inl ⟨date, matched, spelled, rfl, rfl⟩
    · next other =>
      split at read
      · next future =>
        cases read
        exact .inr ⟨Bool.eq_false_iff.mpr other, rfl, (if_pos future).symm⟩
      · next other' =>
        cases read
        exact .inr ⟨Bool.eq_false_iff.mpr other, rfl, (if_neg other').symm⟩

theorem upperText_FUT : runtime.upperText FUT = FUT :=
  (norm_capitals (validRights_capitals FUT (by simp [validRights])).2.2).2

theorem decimal_FUT (future : runtime.upperText part = FUT) : runtime.decimal part = none := by
  cases spelled : runtime.decimal part with
  | none => rfl
  | some decimal =>
    have stripped : runtime.upperText (runtime.strip part) = FUT := by
      rw [← CharTable.strip_upperText, future]
      exact (norm_capitals (validRights_capitals FUT (by simp [validRights])).2.2).1
    have again := CharTable.decimal_upper spelled
    rw [stripped] at again
    have read := @readFourth_FUT runtime none
    simp only [readFourth, again] at read
    cases read

theorem readFourth_eq : readFourth runtime part right =
    (runtime.decimal part, if runtime.upperText part = FUT then some FUT else right) := by
  simp only [readFourth]
  split
  · next empty =>
    rw [empty]
    rfl
  · split
    · next decimal spelled =>
      have other : ¬ runtime.upperText part = FUT := by
        intro future
        rw [decimal_FUT future] at spelled
        cases spelled
      rw [spelled, if_neg other]
    · next spelled => rw [spelled]

/-- What a printable strike is printed as, which is the same component. -/
theorem strikeText_printable (printable : Printable decimal) : ∃ digits, strikeText decimal = .ok digits ∧
    (∀ c ∈ digits, CharTable.Plain c) ∧ digits ≠ [] ∧ canon runtime digits = .ofDecimal decimal := by
  have nonempty : ∀ {digits : List Char} {back : PyDecimal}, runtime.decimal digits = some back → digits ≠ [] := by
    rintro digits back spelled rfl
    cases spelled
  cases decimal with
  | infinity negative => cases printable
  | nan negative signaling payload =>
    cases signaling with
    | true => cases printable
    | false =>
      have spelled := @CharTable.decimal_text runtime.toCharTable (.nan negative false payload)
      exact ⟨_, rfl, PyDecimal.text_chars _, nonempty spelled, canon_decimal spelled⟩
  | finite negative coefficient exponent =>
    obtain ⟨digits, back, written, spelled, -, value, plain⟩ := @strikeText_finite negative coefficient exponent runtime
    refine ⟨digits, written, plain, nonempty spelled, (canon_decimal spelled).trans ?_⟩
    rw [Component.ofDecimal, Component.ofDecimal, value]
    rfl

theorem printable_of_strikeText {digits : List Char} (written : strikeText decimal = .ok digits) :
    Printable decimal := by
  cases decimal with
  | infinity negative => cases written
  | nan negative signaling payload =>
    cases signaling with
    | true => cases written
    | false => trivial
  | finite negative coefficient exponent => trivial

/-- The components of a printed id. -/
theorem str_split {shown : Option (List Char)} (free : ':' ∉ id.underlying)
    (plain : ∀ digits ∈ shown, ∀ c ∈ digits, CharTable.Plain c) (written : strikeTexts id.strike = .ok shown) :
    ∃ printed, id.str = .ok printed ∧ printed.splitOn ':' = [id.exchange, id.underlying] ++
      (id.expiry.map (strftime runtime)).toList ++ shown.toList ++ (id.right.filter (· ≠ [])).toList := by
  refine ⟨_, by rw [str, parts, written]; rfl, List.splitOn_intercalate ':' ?_ (by simp)⟩
  intro part member
  simp only [List.mem_append, List.mem_cons, List.not_mem_nil, or_false, Option.mem_toList] at member
  rcases member with (((rfl | rfl) | dated) | strike) | righted
  · exact (validExchanges_capitals _ id.exchange_valid).2.1
  · exact free
  · obtain ⟨expiry, -, rfl⟩ := Option.map_eq_some_iff.mp dated
    intro colon
    cases strftime_digits ':' colon
  · intro colon
    have visible := plain part strike ':' colon
    revert visible
    simp only [CharTable.Plain]
    decide
  · have right := (Option.filter_eq_some_iff.mp righted).1
    rcases id.right_valid part right with rfl | valid
    · exact List.not_mem_nil
    · exact (validRights_capitals part valid).2.1

theorem colon_splitOn (text : List Char) : ∀ part ∈ text.splitOn ':', ':' ∉ part := by
  induction text with
  | nil => simp
  | cons c text ih =>
    intro part member
    rw [List.splitOn_eq_splitOnP, List.splitOnP_cons_eq_if_modifyHead] at member
    split at member
    · rcases List.mem_cons.mp member with rfl | later
      · exact List.not_mem_nil
      · exact ih part later
    · next other =>
      obtain ⟨first, others, whole⟩ := List.exists_cons_of_ne_nil (List.splitOn_ne_nil ':' text)
      rw [List.splitOn_eq_splitOnP] at whole ih
      rw [whole, List.modifyHead_cons] at member
      rcases List.mem_cons.mp member with rfl | later
      · intro colon
        rcases List.mem_cons.mp colon with same | behind
        · exact other (beq_iff_eq.mpr same.symm)
        · exact ih first (whole ▸ List.mem_cons_self) behind
      · exact ih part (whole ▸ List.mem_cons_of_mem _ later)

/-- What is built of an accepted text. -/
theorem parse_eq_ok (parsed : parse runtime text = .ok id) : ∃ exchange underlying rest third,
    (runtime.strip text).splitOn ':' = exchange :: underlying :: rest ∧
      readThird runtime (rest[0]?.getD []) = .ok (id.expiry, third) ∧ norm runtime exchange = id.exchange ∧
      norm runtime underlying = id.underlying ∧ runtime.decimal (rest[1]?.getD []) = id.strike ∧
      id.right = (readFifth runtime (rest[2]?.getD []) id.expiry
        (if runtime.upperText (rest[1]?.getD []) = FUT then some FUT else third)).map runtime.upperText := by
  rw [parse] at parsed
  split at parsed
  · next exchange underlying rest split_ =>
    simp only [ofParts] at parsed
    split at parsed
    · cases parsed
    · next expiry third first =>
      rw [readFourth_eq] at parsed
      obtain ⟨-, sameExchange, sameUnderlying, sameExpiry, sameStrike, sameRight⟩ := build_eq_ok parsed
      refine ⟨exchange, underlying, rest, third, split_, ?_, ?_, ?_, sameStrike.symm, ?_⟩
      · rw [sameExpiry]
        exact first
      · rw [sameExchange, norm_upperText]
      · rw [sameUnderlying, norm_upperText]
      · rw [sameRight, sameExpiry]
  · cases parsed

theorem upperText_ne_nil (some_ : part ≠ []) : runtime.upperText part ≠ [] := by
  obtain ⟨c, others, rfl⟩ := List.exists_cons_of_ne_nil some_
  rw [CharTable.upperText, List.flatMap_cons]
  exact List.append_ne_nil_of_left_ne_nil (runtime.upper_ne_nil c) _

/-- A name stands in the printed id, unless it is only blanks. -/
theorem components_name : components runtime [part] =
    components runtime [norm runtime part] ++ components runtime (if norm runtime part = [] then [part] else []) := by
  by_cases blank : norm runtime part = []
  · rw [if_pos blank, blank, components_nil, List.nil_append]
  · have some_ : part ≠ [] := by
      rintro rfl
      exact blank rfl
    rw [if_neg blank, components_single some_, components_single blank, canon_norm]
    rfl

/-- A date stands in the printed id. -/
theorem components_third (read : readThird runtime part = .ok (expiry, third)) : components runtime [part] =
    components runtime (expiry.map (strftime runtime)).toList ++
      components runtime (if matchesDate runtime part = true then [] else [part]) := by
  rcases readThird_eq_ok read with ⟨date, matched, spelled, rfl, -⟩ | ⟨other, rfl, -⟩
  · obtain ⟨digit, some_, number⟩ := number_strptime matched spelled
    obtain ⟨n, value, decimal⟩ := decimal_digits some_ digit
    have printed : strftime runtime date ≠ [] := by
      intro nothing
      have shown := @number_strftime runtime date
      rw [nothing, ← number, value] at shown
      have positive := date.valid.1.1
      have zero : n = 0 := (Option.some.inj shown).symm
      rw [value, zero] at number
      have whole := Option.some.inj number
      rw [dateNumber] at whole
      omega
    have digits : ∀ c ∈ strftime runtime date, (runtime.digit c).isSome = true := by
      intro c member
      have digit := @strftime_digits runtime date c member
      have range := CharTable.isDigit_range digit
      rw [runtime.digit_ascii c (by omega), if_pos digit]
      rfl
    obtain ⟨m, valueBack, decimalBack⟩ := decimal_digits printed digits
    rw [number_strftime, ← number, value] at valueBack
    rw [if_pos matched, components_single some_, Option.map_some, Option.toList_some, components_single printed,
      canon_decimal decimal, canon_decimal decimalBack, Option.some.inj valueBack]
    rfl
  · rw [other, if_neg Bool.false_ne_true]
    rfl

/-- A strike stands in the printed id. -/
theorem components_fourth {shown : Option (List Char)} (written : strikeTexts (runtime.decimal part) = .ok shown) :
    components runtime [part] = components runtime shown.toList ++
      components runtime (if (runtime.decimal part).isSome = true then [] else [part]) := by
  cases spelled : runtime.decimal part with
  | none =>
    rw [spelled] at written
    cases written
    rfl
  | some decimal =>
    have some_ : part ≠ [] := by
      rintro rfl
      cases spelled
    rw [spelled] at written
    cases text : strikeText decimal with
    | error error =>
      rw [strikeTexts, text] at written
      cases written
    | ok digits =>
      rw [strikeTexts, text] at written
      cases written
      obtain ⟨digits', again, -, shown, same⟩ := @strikeText_printable runtime _ (printable_of_strikeText text)
      rw [text] at again
      cases again
      rw [components_single some_, Option.toList_some, components_single shown, canon_decimal spelled, same]
      rfl

/-- The right that is printed: the fifth component, or that of a future. -/
theorem components_right (first : readThird runtime (rest[0]?.getD []) = .ok (expiry, third))
    (given : right = (readFifth runtime (rest[2]?.getD []) expiry
      (if runtime.upperText (rest[1]?.getD []) = FUT then some FUT else third)).map runtime.upperText) :
    (rest[2]?.getD [] ≠ [] →
        components runtime (right.filter (· ≠ [])).toList = [canon runtime (rest[2]?.getD [])]) ∧
      (rest[2]?.getD [] = [] → (FutureText runtime rest →
          components runtime (right.filter (· ≠ [])).toList = [canon runtime FUT]) ∧
        (¬ FutureText runtime rest → components runtime (right.filter (· ≠ [])).toList = [])) := by
  constructor
  · intro some_
    have capitals := @upperText_ne_nil runtime _ some_
    have fifth : right = some (runtime.upperText (rest[2]?.getD [])) := by
      rw [given, readFifth]
      simp only [if_neg some_, Option.getD_some, capitals, and_false, if_false, Option.map_some,
        CharTable.upperText_upperText]
    rw [fifth, Option.filter_some, if_pos (decide_eq_true capitals), Option.toList_some, components_single capitals,
      canon_upperText]
  · intro empty
    have future : components runtime ((some FUT).filter (· ≠ [])).toList = [canon runtime FUT] := rfl
    rw [empty] at given
    simp only [readFifth, if_true] at given
    rcases readThird_eq_ok first with ⟨date, matched, -, rfl, rfl⟩ | ⟨other, rfl, rfl⟩
    · have fut : right = some FUT := by
        rw [given]
        by_cases named : runtime.upperText (rest[1]?.getD []) = FUT
        · rw [if_pos named, if_neg (by simp [FUT]), Option.map_some, upperText_FUT]
        · rw [if_neg named, if_pos ⟨rfl, rfl⟩, Option.map_some, upperText_FUT]
      exact ⟨fun _ => by rw [fut, future], fun plain => absurd (.inl matched) plain⟩
    · rw [if_neg (by simp)] at given
      constructor
      · rintro (matched | third | fourth)
        · rw [other] at matched
          cases matched
        · have fut : right = some FUT := by
            rw [given, if_pos third, ite_self, Option.map_some, upperText_FUT]
          rw [fut, future]
        · have fut : right = some FUT := by
            rw [given, if_pos fourth, Option.map_some, upperText_FUT]
          rw [fut, future]
      · intro plain
        have noFourth : ¬ runtime.upperText (rest[1]?.getD []) = FUT := fun fourth => plain (.inr (.inr fourth))
        have noThird : ¬ runtime.upperText (rest[0]?.getD []) = FUT := fun third => plain (.inr (.inl third))
        rw [given, if_neg noFourth, if_neg noThird]
        rfl

/-- The components of the text are in the printed id where the ones left over are in its right. -/
theorem subperm_printed {shown : Option (List Char)} (named : norm runtime exchange ≠ [])
    (first : readThird runtime (rest[0]?.getD []) = .ok (expiry, third))
    (written : strikeTexts (runtime.decimal (rest[1]?.getD [])) = .ok shown) :
    (components runtime (exchange :: underlying :: rest)).Subperm
        (components runtime ([norm runtime exchange, norm runtime underlying] ++
          (expiry.map (strftime runtime)).toList ++ shown.toList ++ (right.filter (· ≠ [])).toList)) ↔
      (leftover runtime underlying rest).Subperm (components runtime (right.filter (· ≠ [])).toList) := by
  have given : (components runtime (exchange :: underlying :: rest)).Perm
      (components runtime ([norm runtime exchange, norm runtime underlying] ++
          (expiry.map (strftime runtime)).toList ++ shown.toList) ++ leftover runtime underlying rest) := by
    have name := @components_name runtime exchange
    rw [if_neg named] at name
    have front : exchange :: underlying :: rest = [exchange] ++ ([underlying] ++ rest) := rfl
    have back : [norm runtime exchange, norm runtime underlying] =
        [norm runtime exchange] ++ [norm runtime underlying] := rfl
    rw [front, back, components_append, components_append, @components_rest runtime rest, name,
      @components_name runtime underlying, components_third first, components_fourth written, leftover]
    simp only [components_append]
    rw [List.perm_iff_count]
    intro component
    simp only [List.count_append]
    have none_ : (components runtime []).count component = 0 := rfl
    omega
  rw [given.subperm_right, components_append _ (right.filter (· ≠ [])).toList, List.subperm_append_left]

theorem strikeTexts_printable (printable : ∀ decimal ∈ strike, Printable decimal) :
    ∃ shown, strikeTexts strike = .ok shown ∧ ∀ digits ∈ shown, ∀ c ∈ digits, CharTable.Plain c := by
  cases strike with
  | none => exact ⟨none, rfl, nofun⟩
  | some decimal =>
    obtain ⟨digits, written, plain, -, -⟩ := @strikeText_printable posix _ (printable decimal rfl)
    refine ⟨some digits, by rw [strikeTexts, written]; rfl, ?_⟩
    rintro shown ⟨⟩
    exact plain

/-- The fifth component is left over. -/
theorem fifth_leftover (some_ : rest[2]?.getD [] ≠ []) :
    canon runtime (rest[2]?.getD []) ∈ leftover runtime underlying rest := by
  rw [leftover, components_append]
  apply List.mem_append_right
  match rest, some_ with
  | _ :: _ :: fifth :: others, some_ =>
    have fifth_ : fifth ≠ [] := some_
    change canon runtime fifth ∈ components runtime ([fifth] ++ others)
    rw [components_append, components_single fifth_]
    exact List.mem_cons_self

/-- The components left over are those of the right in these cases. -/
theorem leftover_right (first : readThird runtime (rest[0]?.getD []) = .ok (expiry, third))
    (given : right = (readFifth runtime (rest[2]?.getD []) expiry
      (if runtime.upperText (rest[1]?.getD []) = FUT then some FUT else third)).map runtime.upperText) :
    (leftover runtime underlying rest).Subperm (components runtime (right.filter (· ≠ [])).toList) ↔
      leftover runtime underlying rest = [] ∨
        ∃ component, leftover runtime underlying rest = [component] ∧
          (rest[2]?.getD [] ≠ [] ∨ component = canon runtime FUT ∧ FutureText runtime rest) := by
  obtain ⟨withFifth, withoutFifth⟩ := components_right first given
  by_cases fifth : rest[2]?.getD [] = []
  · by_cases future : FutureText runtime rest
    · rw [(withoutFifth fifth).1 future, List.subperm_singleton_iff]
      constructor
      · exact Or.imp_right fun single => ⟨_, single, .inr ⟨rfl, future⟩⟩
      · rintro (none_ | ⟨component, single, some_ | ⟨rfl, -⟩⟩)
        · exact .inl none_
        · exact absurd fifth some_
        · exact .inr single
    · rw [(withoutFifth fifth).2 future, List.subperm_nil]
      constructor
      · exact .inl
      · rintro (none_ | ⟨component, -, some_ | ⟨-, named⟩⟩)
        · exact none_
        · exact absurd fifth some_
        · exact absurd named future
  · have member := @fifth_leftover runtime underlying rest fifth
    rw [withFifth fifth, List.subperm_singleton_iff]
    constructor
    · exact Or.imp_right fun single => ⟨_, single, .inl fifth⟩
    · rintro (none_ | ⟨component, single, -⟩)
      · exact .inl none_
      · rw [single, List.mem_singleton] at member
        rw [member]
        exact .inr single

/-- An accepted text is reflected in its id exactly where all of its components are interpreted. -/
theorem reflected_iff (parsed : parse runtime text = .ok id) :
    Reflected text id ↔ Interpreted runtime ((runtime.strip text).splitOn ':') := by
  obtain ⟨exchange, underlying, rest, third, split_, first, sameExchange, sameUnderlying, sameStrike, sameRight⟩ :=
    parse_eq_ok parsed
  have free : ':' ∉ id.underlying := by
    rw [← sameUnderlying]
    exact colon_norm (colon_splitOn (runtime.strip text) underlying (by rw [split_]; simp))
  have named : norm runtime exchange ≠ [] := by
    rw [sameExchange]
    exact (validExchanges_capitals _ id.exchange_valid).1
  rw [Reflected, split_, Interpreted]
  by_cases printable : ∀ strike ∈ runtime.decimal (rest[1]?.getD []), Printable strike
  · obtain ⟨shown, written, plain⟩ := strikeTexts_printable printable
    obtain ⟨printed, shownText, parts⟩ := str_split free plain (sameStrike ▸ written)
    have sub := @subperm_printed _ _ underlying _ id.right _ _ _ named first written
    rw [sameExchange, sameUnderlying, ← parts] at sub
    rw [and_iff_right printable, ← leftover_right first sameRight, ← sub]
    constructor
    · rintro ⟨printed', text', within⟩
      rw [shownText] at text'
      cases text'
      exact within
    · exact fun within => ⟨printed, shownText, within⟩
  · constructor
    · rintro ⟨printed, text', -⟩
      exfalso
      apply printable
      intro decimal struck
      rw [str, InstrumentId.parts, ← sameStrike, struck] at text'
      cases written : strikeText decimal with
      | error error =>
        rw [strikeTexts, written] at text'
        cases text'
      | ok digits => exact printable_of_strikeText written
    · exact fun interpreted => absurd interpreted.1 printable

theorem reflected_option : ∃ id, parse posix "nfo:Nifty:20260730:25000.0:ce".toList = .ok id ∧
    Reflected "nfo:Nifty:20260730:25000.0:ce".toList id := by
  have accepted : (parse posix "nfo:Nifty:20260730:25000.0:ce".toList).toOption.isSome = true := by decide +kernel
  obtain ⟨given, found⟩ := Option.isSome_iff_exists.mp accepted
  cases parsed : parse posix "nfo:Nifty:20260730:25000.0:ce".toList with
  | error error =>
    rw [parsed] at found
    cases found
  | ok id =>
    refine ⟨id, rfl, (reflected_iff parsed).mpr ?_⟩
    have split_ : (posix.strip "nfo:Nifty:20260730:25000.0:ce".toList).splitOn ':' =
        ["nfo".toList, "Nifty".toList, "20260730".toList, "25000.0".toList, "ce".toList] := by
      decide +kernel
    have strike : posix.decimal "25000.0".toList = some (.finite false 250000 (-1)) := by decide +kernel
    have alone : leftover posix "Nifty".toList ["20260730".toList, "25000.0".toList, "ce".toList] =
        [.word "CE".toList] := by
      decide +kernel
    rw [split_]
    refine ⟨?_, .inr ⟨_, alone, .inl (by decide)⟩⟩
    intro decimal struck
    rw [List.getElem?_cons_succ, List.getElem?_cons_zero, Option.getD_some, strike] at struck
    cases struck
    trivial

/-- The strike 25OOO, with letters for zeros, is dropped, and the text is parsed as that of a future. -/
theorem parse_drops_strike : ∃ id, parse posix "NFO:NIFTY:20260730:25OOO".toList = .ok id ∧
    id.str = .ok "NFO:NIFTY:20260730:FUT".toList ∧ ¬ Reflected "NFO:NIFTY:20260730:25OOO".toList id := by
  have accepted : (parse posix "NFO:NIFTY:20260730:25OOO".toList).toOption.bind (fun id => id.str.toOption) =
      some "NFO:NIFTY:20260730:FUT".toList := by
    decide +kernel
  obtain ⟨id, found, printed⟩ := Option.bind_eq_some_iff.mp accepted
  cases parsed : parse posix "NFO:NIFTY:20260730:25OOO".toList with
  | error error =>
    rw [parsed] at found
    cases found
  | ok parsedId =>
    rw [parsed] at found
    cases found
    cases text : id.str with
    | error error =>
      rw [text] at printed
      cases printed
    | ok shown =>
      rw [text] at printed
      cases printed
      refine ⟨id, rfl, text, ?_⟩
      rintro ⟨again, text', within⟩
      rw [text] at text'
      cases text'
      have lost : Component.word "25OOO".toList ∈
          components posix ((posix.strip "NFO:NIFTY:20260730:25OOO".toList).splitOn ':') := by
        decide +kernel
      have absent : Component.word "25OOO".toList ∉
          components posix ("NFO:NIFTY:20260730:FUT".toList.splitOn ':') := by
        decide +kernel
      exact absent (within.subset lost)

end Components

end TradeX.V2.ValueObjects.InstrumentId
