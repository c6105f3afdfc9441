import Mathlib

/-! Text as lists of characters: lower case, prefixes, infixes and cuts. Case
folding is that of the ASCII letters. -/

namespace TradeX.Lib.Text

/-- One instance behind every look for a text among texts. -/
instance lawfulBEq_text : LawfulBEq (List Char) := inferInstance

def lower (s : String) : List Char := s.toList.map Char.toLower

def upper (s : String) : List Char := s.toList.map Char.toUpper

def startsWith (text : List Char) (start : String) : Bool := start.toList.isPrefixOf text

def contains (text : List Char) (part : String) : Bool := decide (part.toList <:+: text)

/-- The text before the first occurrence of the character. -/
def before (mark : Char) (text : List Char) : List Char := text.takeWhile fun c => c ≠ mark

/-- The text without blanks at either end. -/
def strip (s : String) : String :=
  String.ofList (((s.toList.dropWhile Char.isWhitespace).reverse.dropWhile Char.isWhitespace).reverse)

/-- Nothing is left to strip from a stripped text. -/
theorem strip_strip (s : String) : strip (strip s) = strip s := by
  have stripped : ∀ text : String, (strip text).toList =
      (text.toList.dropWhile Char.isWhitespace).rdropWhile Char.isWhitespace := by
    intro text
    exact String.toList_ofList
  -- what is dropped at the end leaves the start as it is
  have start : ∀ text : List Char, ((text.dropWhile Char.isWhitespace).rdropWhile Char.isWhitespace).dropWhile
      Char.isWhitespace = (text.dropWhile Char.isWhitespace).rdropWhile Char.isWhitespace := by
    intro text
    rw [List.dropWhile_eq_self_iff]
    intro nonempty
    have kept := List.rdropWhile_prefix Char.isWhitespace (text.dropWhile Char.isWhitespace)
    have first := List.dropWhile_get_zero_not Char.isWhitespace text
      (nonempty.trans_le kept.length_le)
    rw [List.get_eq_getElem, ← kept.getElem nonempty] at first
    exact first
  apply String.toList_injective
  rw [stripped, stripped, start, List.rdropWhile_idempotent]

theorem isWhitespace_of_isAlphanum {c : Char} (visible : c.isAlphanum = true) : c.isWhitespace = false := by
  rw [Bool.eq_false_iff]
  intro space
  simp only [Char.isWhitespace, Bool.or_eq_true, decide_eq_true_eq] at space
  rcases space with ((rfl | rfl) | rfl) | rfl
  all_goals exact absurd visible (by decide)

theorem isWhitespace_of_isAlpha {c : Char} (letter : c.isAlpha = true) : c.isWhitespace = false :=
  isWhitespace_of_isAlphanum (by simp only [Char.isAlphanum, letter, Bool.true_or])

theorem isWhitespace_of_isDigit {c : Char} (digit : c.isDigit = true) : c.isWhitespace = false :=
  isWhitespace_of_isAlphanum (by simp only [Char.isAlphanum, digit, Bool.or_true])

theorem isWhitespace_toUpper (c : Char) : c.toUpper.isWhitespace = c.isWhitespace := by
  by_cases small : c.isLower = true
  · have letter : c.isAlpha = true := by simp only [Char.isAlpha, small, Bool.or_true]
    have upper : c.toUpper.isUpper = true := by rw [Char.isUpper_toUpper_eq_isAlpha, letter]
    have image : c.toUpper.isAlpha = true := by simp only [Char.isAlpha, upper, Bool.true_or]
    rw [isWhitespace_of_isAlpha letter, isWhitespace_of_isAlpha image]
  · rw [Char.toUpper_eq_of_not_isLower small]

theorem toUpper_toUpper (c : Char) : c.toUpper.toUpper = c.toUpper := by
  apply Char.toUpper_eq_of_not_isLower
  rw [Char.isLower_toUpper_eq_false]
  exact Bool.false_ne_true

/-- A map of the characters that keeps the blanks commutes with stripping. -/
theorem strip_ofList_map {f : Char → Char} (blanks : ∀ c, (f c).isWhitespace = c.isWhitespace) (s : String) :
    strip (String.ofList (s.toList.map f)) = String.ofList ((strip s).toList.map f) := by
  have blank : Char.isWhitespace ∘ f = Char.isWhitespace := funext blanks
  unfold strip
  simp only [String.toList_ofList, List.dropWhile_map, ← List.map_reverse, blank]

/-- A stripped text in upper case stays as it is. -/
theorem upper_strip_again (s : String) :
    upper (strip (String.ofList (upper (strip s)))) = upper (strip s) := by
  unfold upper
  rw [strip_ofList_map isWhitespace_toUpper, strip_strip, String.toList_ofList, List.map_map]
  exact List.map_congr_left fun c _ => toUpper_toUpper c

theorem dropWhile_eq_of_forall {test : Char → Bool} {chars : List Char} (kept : ∀ c ∈ chars, test c = false) :
    chars.dropWhile test = chars := by
  cases chars with
  | nil => rfl
  | cons c rest => rw [List.dropWhile_cons, kept c List.mem_cons_self, if_neg Bool.false_ne_true]

/-- A text without blanks stays as it is. -/
theorem strip_of_solid {s : String} (solid : ∀ c ∈ s.toList, c.isWhitespace = false) : strip s = s := by
  have reversed : ∀ c ∈ s.toList.reverse, c.isWhitespace = false := by
    intro c member
    exact solid c (List.mem_reverse.mp member)
  unfold strip
  rw [dropWhile_eq_of_forall solid, dropWhile_eq_of_forall reversed, List.reverse_reverse, String.ofList_toList]

/-- Where something in front stays, all behind it stays. -/
theorem dropWhile_append_kept {test : Char → Bool} {start : List Char} (rest : List Char)
    (stays : ∃ c ∈ start, test c = false) : ∃ kept, (start ++ rest).dropWhile test = kept ++ rest := by
  induction start with
  | nil =>
    obtain ⟨c, absent, -⟩ := stays
    cases absent
  | cons first others ih =>
    rw [List.cons_append, List.dropWhile_cons]
    split
    · next dropped =>
      apply ih
      obtain ⟨c, member, stays⟩ := stays
      rcases List.mem_cons.mp member with rfl | later
      · rw [dropped] at stays
        cases stays
      · exact ⟨c, later, stays⟩
    · exact ⟨first :: others, rfl⟩

/-- A character between two that are no blanks stays. -/
theorem mem_strip {s : String} {start rest : List Char} {c : Char} (text : s.toList = start ++ c :: rest)
    (left : ∃ d ∈ start, d.isWhitespace = false) (right : ∃ d ∈ rest, d.isWhitespace = false) :
    c ∈ (strip s).toList := by
  obtain ⟨front, fromLeft⟩ := dropWhile_append_kept (c :: rest) left
  have mirrored : ∃ d ∈ rest.reverse, d.isWhitespace = false := by
    obtain ⟨d, member, stays⟩ := right
    exact ⟨d, List.mem_reverse.mpr member, stays⟩
  obtain ⟨back, fromRight⟩ := dropWhile_append_kept (c :: front.reverse) mirrored
  have reversed : (front ++ c :: rest).reverse = rest.reverse ++ c :: front.reverse := by
    rw [List.reverse_append, List.reverse_cons, List.append_assoc, List.singleton_append]
  unfold strip
  rw [text, fromLeft, reversed, fromRight, String.toList_ofList, List.mem_reverse]
  exact List.mem_append_right _ List.mem_cons_self

/-- A text with something that is no blank is not stripped away. -/
theorem strip_ne_empty {s : String} {c : Char} (member : c ∈ s.toList) (kept : c.isWhitespace = false) :
    strip s ≠ "" := by
  intro emptied
  have chars := congrArg String.toList emptied
  unfold strip at chars
  rw [String.toList_ofList, String.toList_empty, List.reverse_eq_nil_iff, List.dropWhile_eq_nil_iff] at chars
  have blankC : c.isWhitespace = true := by
    have parts : s.toList.takeWhile Char.isWhitespace ++ s.toList.dropWhile Char.isWhitespace = s.toList :=
      List.takeWhile_append_dropWhile
    rw [← parts] at member
    rcases List.mem_append.mp member with taken | left
    · exact List.mem_takeWhile_imp taken
    · exact chars c (List.mem_reverse.mpr left)
  rw [blankC] at kept
  cases kept

/-- The last occurrence of the mark splits a text in one way. -/
theorem append_mark_inj {mark : Char} {first second start other : List Char}
    (same : start ++ mark :: first = other ++ mark :: second) (absent : mark ∉ first) (missing : mark ∉ second) :
    start = other := by
  rcases List.append_eq_append_iff.mp same with ⟨between, longer, rest⟩ | ⟨between, longer, rest⟩
  · cases between with
    | nil => rw [longer, List.append_nil]
    | cons head tail =>
      obtain ⟨-, tailed⟩ := List.cons.inj rest
      exact absurd (tailed ▸ List.mem_append_right _ List.mem_cons_self) absent
  · cases between with
    | nil => rw [longer, List.append_nil]
    | cons head tail =>
      obtain ⟨-, tailed⟩ := List.cons.inj rest
      exact absurd (tailed ▸ List.mem_append_right _ List.mem_cons_self) missing

/-- Two texts with a mark are the same where their parts are, or where one of them is cut at another mark. -/
theorem append_mark_eq_iff {mark : Char} {start other first second : List Char} :
    start ++ mark :: first = other ++ mark :: second ↔ (start = other ∧ first = second) ∨
      (∃ between, other = start ++ mark :: between ∧ first = between ++ mark :: second) ∨
      ∃ between, start = other ++ mark :: between ∧ second = between ++ mark :: first := by
  constructor
  · intro same
    rcases List.append_eq_append_iff.mp same with ⟨between, longer, rest⟩ | ⟨between, longer, rest⟩
    · cases between with
      | nil =>
        rw [List.append_nil] at longer
        exact .inl ⟨longer.symm, (List.cons.inj rest).2⟩
      | cons head tail =>
        obtain ⟨rfl, tailed⟩ := List.cons.inj rest
        exact .inr (.inl ⟨tail, longer, tailed⟩)
    · cases between with
      | nil =>
        rw [List.append_nil] at longer
        exact .inl ⟨longer, (List.cons.inj rest).2.symm⟩
      | cons head tail =>
        obtain ⟨rfl, tailed⟩ := List.cons.inj rest
        exact .inr (.inr ⟨tail, longer, tailed⟩)
  · rintro (⟨rfl, rfl⟩ | ⟨between, rfl, rfl⟩ | ⟨between, rfl, rfl⟩)
    · rfl
    · rw [List.append_assoc, List.cons_append]
    · rw [List.append_assoc, List.cons_append]

end TradeX.Lib.Text
