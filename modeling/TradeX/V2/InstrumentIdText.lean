import TradeX.V2.InstrumentIds

/-! The text and the key of a v2 instrument id: what is parsed of a printed id equals it, and the ids of
one contract are one exactly when their strikes are whole or written alike. -/

namespace TradeX.V2.ValueObjects.InstrumentId

open Lib

variable {runtime : Runtime} {id other : InstrumentId runtime}

section Strikes

variable {negative : Bool} {coefficient : Nat} {exponent : ℤ} {strike : PyDecimal}

/-- An integer is written as the decimal of its digits. -/
theorem int_text (n : ℤ) : (toString n).toList = (PyDecimal.finite (decide (n < 0)) n.natAbs 0).text := by
  have whole : ∀ m : Nat, PyDecimal.numeral m 0 = Nat.toDigits 10 m := by
    intro m
    have count : 0 < (Nat.toDigits 10 m).length := List.length_pos_of_ne_nil Nat.toDigits_ne_nil
    simp only [PyDecimal.numeral, zero_add, le_refl, true_and]
    rw [if_pos (by omega), PyDecimal.pointed, if_neg (by omega), if_pos (by omega)]
  rw [PyDecimal.text, whole, Int.toString_eq_repr, Int.repr_eq_if]
  by_cases negative : n < 0
  · have value : (-n).toNat = n.natAbs := by omega
    rw [if_neg (by omega), String.toList_append, Nat.toList_repr, value, decide_eq_true negative]
    rfl
  · have value : n.toNat = n.natAbs := by omega
    rw [if_pos (by omega), Nat.toList_repr, value, decide_eq_false negative]
    rfl

theorem toInt_whole (n : ℤ) : PyDecimal.toInt (decide (n < 0)) n.natAbs 0 = n := by
  simp only [PyDecimal.toInt, PyDecimal.sign, le_refl, if_true, Int.natAbs_zero, pow_zero, mul_one, decide_eq_true_eq]
  split <;> omega

theorem strikeText_integral (integral : PyDecimal.Integral coefficient exponent) :
    strikeText (.finite negative coefficient exponent) =
      .ok (toString (PyDecimal.toInt negative coefficient exponent)).toList := by
  simp only [strikeText, if_pos integral]

theorem strikeText_fraction (fraction : ¬ PyDecimal.Integral coefficient exponent) :
    strikeText (.finite negative coefficient exponent) =
      .ok (PyDecimal.finite negative coefficient exponent).text := by
  simp only [strikeText, if_neg fraction]

/-- The text of a finite strike is read as a strike with the same number, which is written the same. -/
theorem strikeText_finite (runtime : Runtime) : ∃ text back,
    strikeText (.finite negative coefficient exponent) = .ok text ∧ runtime.decimal text = some back ∧
      strikeText back = .ok text ∧ back.value = (PyDecimal.finite negative coefficient exponent).value ∧
      ∀ c ∈ text, CharTable.Plain c := by
  by_cases integral : PyDecimal.Integral coefficient exponent
  · have text := int_text (PyDecimal.toInt negative coefficient exponent)
    refine ⟨_, .finite (decide (PyDecimal.toInt negative coefficient exponent < 0))
      (PyDecimal.toInt negative coefficient exponent).natAbs 0, strikeText_integral integral, ?_, ?_, ?_, ?_⟩
    · rw [text]
      exact CharTable.decimal_text _
    · rw [strikeText_integral (.inl le_rfl), toInt_whole]
    · rw [PyDecimal.toInt_of_integral integral, PyDecimal.toInt_of_integral (.inl le_rfl), toInt_whole]
    · rw [text]
      exact PyDecimal.text_chars _
  · have written := @strikeText_fraction negative _ _ integral
    exact ⟨_, _, written, CharTable.decimal_text _, written, rfl, PyDecimal.text_chars _⟩

end Strikes

section Parse

variable {exchange underlying last part : List Char} {rest : List (List Char)} {expiry : Date} {right : List Char}

theorem isSpace_colon : runtime.isSpace ':' = false := by
  rw [runtime.isSpace_ascii ':' (by decide)]
  rfl

/-- A text with components at both ends that are not blank there is stripped of nothing. -/
theorem strip_join {front : List Char} (head : ∀ c ∈ front.head?, runtime.isSpace c = false)
    (ends : ∀ c ∈ last.getLast?, runtime.isSpace c = false) :
    runtime.strip (front ++ ':' :: last) = front ++ ':' :: last := by
  apply CharTable.strip_of_solid
  · cases front with
    | nil =>
      intro c first
      rw [← Option.mem_some_iff.mp first]
      exact isSpace_colon
    | cons c others => exact head
  · cases last with
    | nil =>
      intro c last
      rw [List.getLast?_concat, Option.mem_some_iff] at last
      rw [← last]
      exact isSpace_colon
    | cons d others =>
      intro c last
      apply ends c
      rw [List.getLast?_append_cons, List.getLast?_cons_cons] at last
      exact last

theorem head_exchange (valid : exchange ∈ validExchanges) : ∀ c ∈ exchange.head?, runtime.isSpace c = false := by
  have stripped := (@norm_capitals runtime _ (validExchanges_capitals exchange valid).2.2).1
  rw [← stripped]
  exact CharTable.head_strip

theorem last_right (valid : right ∈ validRights) : ∀ c ∈ right.getLast?, runtime.isSpace c = false := by
  have stripped := (@norm_capitals runtime _ (validRights_capitals right valid).2.2).1
  rw [← stripped]
  exact CharTable.last_strip

theorem intercalate_concat {mark : Char} (first last : List Char) (rest : List (List Char)) :
    [mark].intercalate (first :: (rest ++ [last])) = [mark].intercalate (first :: rest) ++ mark :: last := by
  induction rest generalizing first with
  | nil => simp [List.intercalate]
  | cons second rest ih =>
    have cons : ∀ more, [mark].intercalate (first :: second :: more) =
        first ++ mark :: [mark].intercalate (second :: more) := by
      intro more
      simp [List.intercalate]
    rw [List.cons_append, cons, ih, cons, List.append_assoc, List.cons_append]

/-- A printed id is stripped of nothing where its first component starts and its last one ends with no blank. -/
theorem strip_printed (starts : ∀ c ∈ exchange.head?, runtime.isSpace c = false)
    (ends : ∀ c ∈ last.getLast?, runtime.isSpace c = false) :
    runtime.strip ([':'].intercalate (exchange :: (rest ++ [last]))) =
      [':'].intercalate (exchange :: (rest ++ [last])) := by
  rw [intercalate_concat]
  refine strip_join ?_ ends
  cases exchange with
  | nil =>
    cases rest with
    | nil => exact nofun
    | cons second rest =>
      have colon : [':'].intercalate ([] :: second :: rest) = ':' :: [':'].intercalate (second :: rest) := by
        simp [List.intercalate]
      intro c first
      rw [colon, List.head?_cons] at first
      rw [← Option.mem_some_iff.mp first]
      exact isSpace_colon
  | cons d others =>
    have head : ([':'].intercalate ((d :: others) :: rest)).head? = some d := by
      cases rest with
      | nil => simp [List.intercalate]
      | cons second rest => simp [List.intercalate]
    rw [head]
    exact starts

theorem strip_parts (valid : exchange ∈ validExchanges) (ends : ∀ c ∈ last.getLast?, runtime.isSpace c = false) :
    runtime.strip ([':'].intercalate (exchange :: (rest ++ [last]))) =
      [':'].intercalate (exchange :: (rest ++ [last])) :=
  strip_printed (head_exchange valid) ends

/-- Components without colons that are joined come apart again. -/
theorem parse_join (stripped : runtime.strip ([':'].intercalate (exchange :: underlying :: rest)) =
      [':'].intercalate (exchange :: underlying :: rest))
    (free : ∀ part ∈ exchange :: underlying :: rest, ':' ∉ part) :
    parse runtime ([':'].intercalate (exchange :: underlying :: rest)) = ofParts runtime exchange underlying rest := by
  rw [parse, stripped, List.splitOn_intercalate ':' free (List.cons_ne_nil _ _)]

/-- What is built of the components, where they are read as these. -/
theorem ofParts_read {expiry : Option Date} {strike : Option PyDecimal} {third fourth fifth : Option (List Char)}
    (first : readThird runtime (rest[0]?.getD []) = .ok (expiry, third))
    (second : readFourth runtime (rest[1]?.getD []) third = (strike, fourth))
    (last : readFifth runtime (rest[2]?.getD []) expiry fourth = fifth) :
    ofParts runtime exchange underlying rest =
      build runtime (runtime.upperText exchange) (runtime.upperText underlying) expiry strike fifth none := by
  simp only [ofParts, first, second, last]

theorem readFourth_FUT (right : Option (List Char)) : readFourth runtime FUT right = (none, some FUT) := by
  have word : runtime.decimal FUT = none := by
    rw [CharTable.decimal, CharTable.numeral_plain]
    · rfl
    · intro c member
      simp only [FUT, List.mem_cons, List.not_mem_nil, or_false] at member
      rcases member with rfl | rfl | rfl <;> exact .inl rfl
  have capitals : runtime.upperText FUT = FUT :=
    (norm_capitals (validRights_capitals FUT (by simp [validRights])).2.2).2
  simp only [readFourth, word, capitals, if_true]
  rfl

theorem readThird_strftime (eight : (strftime runtime expiry).length = 8) :
    readThird runtime (strftime runtime expiry) = .ok (some expiry, none) := by
  have some_ : strftime runtime expiry ≠ [] := by
    rw [strftime_eight eight]
    exact List.append_ne_nil_of_left_ne_nil (List.ne_nil_of_length_eq_add_one (digits_length 4 _)) _
  simp only [readThird, if_neg some_, matchesDate_strftime eight, if_true, strptime_strftime eight]

/-- The id that the components of a printed one are read as has its key. -/
theorem build_key {back : Option PyDecimal} {right : Option (List Char)}
    (sameStrike : strikeTexts back = strikeTexts id.strike) (sameRight : right.map runtime.upperText = id.right)
    (valid : ∀ r ∈ id.right, r ∈ validRights) :
    ∃ read, build runtime (runtime.upperText id.exchange) (runtime.upperText id.underlying) id.expiry back right none =
      .ok read ∧ read.key = id.key := by
  have exchange : norm runtime (runtime.upperText id.exchange) = id.exchange := by
    rw [norm_upperText, norm_exchange id.exchange_valid]
  have known : norm runtime (runtime.upperText id.exchange) ∈ validExchanges := by
    rw [exchange]
    exact id.exchange_valid
  have allowed : ∀ r ∈ right, r = [] ∨ runtime.upperText r ∈ validRights := by
    intro r given
    exact .inr (valid _ (sameRight ▸ Option.mem_map_of_mem runtime.upperText given))
  obtain ⟨read, built⟩ := @build_ok runtime _ (runtime.upperText id.underlying) id.expiry back right known allowed
  obtain ⟨-, readExchange, readUnderlying, readExpiry, readStrike, readRight⟩ := build_eq_ok built
  refine ⟨read, built, ?_⟩
  rw [key, key, readExchange, readUnderlying, readExpiry, readStrike, readRight, exchange, norm_upperText,
    id.underlying_norm, sameStrike, sameRight]

end Parse

/-- The printed id is parsed as an id that equals it and hashes to the same. -/
def RoundTrips (id : InstrumentId runtime) : Prop :=
  ∃ printed read, id.str = .ok printed ∧ parse runtime printed = .ok read ∧ read.eq id = .ok true ∧
    ∀ hashOf, ∃ hashed, read.hash hashOf = .ok hashed ∧ id.hash hashOf = .ok hashed

theorem roundTrips_of_key {printed : List Char} {read : InstrumentId runtime} {k : Key} (text : id.str = .ok printed)
    (parsed : parse runtime printed = .ok read) (same : read.key = id.key) (keyed : id.key = .ok k) :
    id.RoundTrips := by
  refine ⟨printed, read, text, parsed, ?_, fun hashOf => ⟨hashOf k, ?_, ?_⟩⟩
  · simp only [eq, same, keyed, Except.map, decide_true]
  · rw [hash, same, keyed]
    rfl
  · rw [hash, keyed]
    rfl

section

variable {expiry : Date} {right : List Char}

/-- The components that the printed text of an id with an expiry and a right is made of. -/
theorem str_dated {strike : Option (List Char)} (dated : id.expiry = some expiry) (righted : id.right = some right)
    (valid : right ∈ validRights) (written : strikeTexts id.strike = .ok strike) :
    id.str = .ok ([':'].intercalate
        (id.exchange :: ([id.underlying, strftime runtime expiry] ++ strike.toList ++ [right]))) ∧
      id.key = .ok (id.exchange, id.underlying, some expiry.write, strike, some right) := by
  have given : right ≠ [] := (validRights_capitals right valid).1
  constructor
  · simp only [str, parts, written, dated, righted, Except.map, Option.map_some, Option.toList_some,
      Option.filter_some, decide_eq_true given, ne_eq, if_true]
    simp
  · simp only [key, written, dated, righted, Except.map, Option.map_some]

theorem strftime_free (eight : (strftime runtime expiry).length = 8) : ':' ∉ strftime runtime expiry := by
  intro member
  rw [strftime_eight eight, List.mem_append, List.mem_append] at member
  have visible : ∀ d < 10, ':' ≠ Nat.digitChar d := by decide
  rcases member with member | member | member
  all_goals
    obtain ⟨d, small, same⟩ := mem_digits member
    exact visible d small same

/-- A future of a year of four digits. -/
theorem roundTrips_future (four : 1000 ≤ expiry.year) (free : ':' ∉ id.underlying) (dated : id.expiry = some expiry)
    (strike : id.strike = none) (righted : id.right = some FUT) : id.RoundTrips := by
  have valid : FUT ∈ validRights := by simp [validRights]
  obtain ⟨text, keyed⟩ := @str_dated _ _ _ _ none dated righted valid (by rw [strike]; rfl)
  have colons : ∀ part ∈ id.exchange :: id.underlying :: [strftime runtime expiry, FUT], ':' ∉ part := by
    simp only [List.mem_cons, List.not_mem_nil, or_false]
    rintro part (rfl | rfl | rfl | rfl)
    · exact (validExchanges_capitals _ id.exchange_valid).2.1
    · exact free
    · exact strftime_free (strftime_length four)
    · exact (validRights_capitals _ valid).2.1
  have sameStrike : strikeTexts none = strikeTexts id.strike := by rw [strike]
  have capitals : runtime.upperText FUT = FUT := (norm_capitals (validRights_capitals FUT valid).2.2).2
  have sameRight : (some FUT).map runtime.upperText = id.right := by rw [righted, Option.map_some, capitals]
  obtain ⟨read, built, same⟩ := build_key sameStrike sameRight (by rw [righted]; rintro r ⟨⟩; exact valid)
  have stripped :=
    @strip_parts runtime _ _ [id.underlying, strftime runtime expiry] id.exchange_valid (last_right valid)
  have readBack : ofParts runtime id.exchange id.underlying [strftime runtime expiry, FUT] = .ok read := by
    have fifth : readFifth runtime [] (some expiry) (some FUT) = some FUT := rfl
    rw [ofParts_read (readThird_strftime (strftime_length four)) (readFourth_FUT none) fifth, ← dated]
    exact built
  exact roundTrips_of_key text ((parse_join stripped colons).trans readBack) same keyed

/-- An option of a finite strike and of a year of four digits. -/
theorem roundTrips_option {negative : Bool} {coefficient : Nat} {exponent : ℤ} (four : 1000 ≤ expiry.year)
    (free : ':' ∉ id.underlying) (dated : id.expiry = some expiry)
    (strike : id.strike = some (.finite negative coefficient exponent)) (righted : id.right = some right)
    (valid : right ∈ validRights) : id.RoundTrips := by
  obtain ⟨digits, back, written, number, again, -, plain⟩ := @strikeText_finite negative coefficient exponent runtime
  have strikes : strikeTexts id.strike = .ok (some digits) := by
    rw [strike, strikeTexts, written]
    rfl
  obtain ⟨text, keyed⟩ := str_dated dated righted valid strikes
  have colons : ∀ part ∈ id.exchange :: id.underlying :: [strftime runtime expiry, digits, right], ':' ∉ part := by
    simp only [List.mem_cons, List.not_mem_nil, or_false]
    rintro part (rfl | rfl | rfl | rfl | rfl)
    · exact (validExchanges_capitals _ id.exchange_valid).2.1
    · exact free
    · exact strftime_free (strftime_length four)
    · exact fun member => absurd (plain ':' member) (by simp only [CharTable.Plain]; decide)
    · exact (validRights_capitals _ valid).2.1
  have sameStrike : strikeTexts (some back) = strikeTexts id.strike := by
    rw [strikes, strikeTexts, again]
    rfl
  have capitals : runtime.upperText right = right := (norm_capitals (validRights_capitals right valid).2.2).2
  have sameRight : (some right).map runtime.upperText = id.right := by rw [righted, Option.map_some, capitals]
  obtain ⟨read, built, same⟩ := build_key sameStrike sameRight (by rw [righted]; rintro r ⟨⟩; exact valid)
  have stripped := @strip_parts runtime _ _ [id.underlying, strftime runtime expiry, digits] id.exchange_valid
    (last_right valid)
  have given : right ≠ [] := (validRights_capitals right valid).1
  have some_ : digits ≠ [] := by
    rintro rfl
    cases number
  have fourth : readFourth runtime digits none = (some back, none) := by
    simp only [readFourth, if_neg some_, number]
  have fifth : readFifth runtime right (some expiry) none = some right := by
    simp only [readFifth, given, capitals, Option.getD_some, and_false, if_false]
  have readBack : ofParts runtime id.exchange id.underlying [strftime runtime expiry, digits, right] = .ok read := by
    rw [ofParts_read (readThird_strftime (strftime_length four)) fourth fifth, ← dated]
    exact built
  exact roundTrips_of_key text ((parse_join stripped colons).trans readBack) same keyed

end

/-- The ids of the factories: of a name without colons, of a year of four digits, of a finite strike. -/
inductive Factory : InstrumentId runtime → Prop where
  | equity {exchange symbol id} (free : ':' ∉ symbol) (built : equity runtime exchange symbol = .ok id) : Factory id
  | index {exchange name id} (free : ':' ∉ name) (built : index runtime exchange name = .ok id) : Factory id
  | future {exchange underlying expiry kind id} (free : ':' ∉ underlying) (four : 1000 ≤ expiry.year)
      (built : future runtime exchange underlying expiry kind = .ok id) : Factory id
  | option {exchange underlying expiry strike right negative coefficient exponent id} (free : ':' ∉ underlying)
      (four : 1000 ≤ expiry.year) (finite : runtime.decimal strike = some (.finite negative coefficient exponent))
      (valid : runtime.upperText right ∈ validRights)
      (built : option runtime exchange underlying expiry strike right = .ok id) : Factory id

theorem colon_norm {text : List Char} (free : ':' ∉ text) : ':' ∉ norm runtime text := by
  apply CharTable.colon_upperText
  intro member
  apply free
  exact (List.dropWhile_sublist _).subset ((List.rdropWhile_prefix _ _).subset member)

end TradeX.V2.ValueObjects.InstrumentId
