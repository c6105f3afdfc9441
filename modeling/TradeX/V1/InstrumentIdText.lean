import TradeX.V1.InstrumentIds

/-! Which ids of the v1 factories are told apart: those of one contract are equal, and others only where the whole
parts of their strikes differ. Where an id is read back from its text, texts of different ids differ. -/

namespace TradeX.V1.Instruments.InstrumentId

open Lib
open V2.ValueObjects (norm norm_norm norm_upperText FUT validRights IdError)
open V2.ValueObjects.InstrumentId (Key strftime readThird readFourth readFifth)

variable {registry : Registry} {id other read : InstrumentId registry}

section Reading

variable {exchange underlying text : List Char} {expiry : Option Date} {strike : Option Lib.PyDecimal}
  {right kind : Option (List Char)} {rest : List (List Char)}

/-- What the constructor accepts it takes as it is. -/
theorem build_eq_ok (built : build registry exchange underlying expiry strike right kind = .ok id) :
    id.exchange = exchange ∧ id.underlying = underlying ∧ id.expiry = expiry ∧ id.strike = strike ∧
      id.right = right := by
  simp only [build] at built
  split at built
  · cases built
  · split at built
    · split at built
      · rw [← Except.ok.inj built]
        exact ⟨rfl, rfl, rfl, rfl, rfl⟩
      · cases built
    · cases built

theorem build_right (built : build registry exchange underlying expiry strike right kind = .ok id) :
    ∀ r ∈ right, r = [] ∨ registry.upperText r ∈ validRights := by
  rw [← (build_eq_ok built).2.2.2.2]
  exact id.right_valid

variable (underlying expiry strike) in
theorem build_ok (allowed : norm registry.toRuntime exchange ∈ allowedExchanges registry)
    (valid : ∀ r ∈ right, r = [] ∨ registry.upperText r ∈ validRights) :
    ∃ id, build registry exchange underlying expiry strike right none = .ok id := by
  simp only [build, Option.map_none, reduceCtorEq, if_false, dif_pos allowed, dif_pos valid]
  exact ⟨_, rfl⟩

/-- The components of a text that the parser accepts, and what of the id it makes of which. -/
theorem parse_eq_ok (parsed : parse registry text = .ok id) : ∃ exchange underlying rest third,
    (registry.strip text).splitOn ':' = exchange :: underlying :: rest ∧
      readThird registry.toRuntime (rest[0]?.getD []) = .ok (id.expiry, third) ∧
      registry.upperText exchange = id.exchange ∧ registry.upperText underlying = id.underlying ∧
      id.right = readFifth registry.toRuntime (rest[2]?.getD []) id.expiry
        (readFourth registry.toRuntime (rest[1]?.getD []) third).2 := by
  rw [parse] at parsed
  split at parsed
  · next exchange underlying rest components =>
    simp only [ofParts] at parsed
    split at parsed
    · cases parsed
    · next expiry third first =>
      obtain ⟨sameExchange, sameUnderlying, sameExpiry, -, sameRight⟩ := build_eq_ok parsed
      refine ⟨exchange, underlying, rest, third, components, ?_, sameExchange.symm, sameUnderlying.symm, ?_⟩
      · rw [first, sameExpiry]
      · rw [sameRight, sameExpiry]
  · cases parsed

/-- What is built of the components, where they are read as these. -/
theorem ofParts_read {third fourth fifth : Option (List Char)}
    (first : readThird registry.toRuntime (rest[0]?.getD []) = .ok (expiry, third))
    (second : readFourth registry.toRuntime (rest[1]?.getD []) third = (strike, fourth))
    (last : readFifth registry.toRuntime (rest[2]?.getD []) expiry fourth = fifth) :
    ofParts registry exchange underlying rest =
      build registry (registry.upperText exchange) (registry.upperText underlying) expiry strike fifth none := by
  simp only [ofParts, first, second, last]

/-- An id with an expiry is never read with an empty right. -/
theorem readFifth_dated (part : List Char) (fourth : Option (List Char)) (expiry : Date) :
    readFifth registry.toRuntime part (some expiry) fourth ≠ some [] := by
  simp only [readFifth, Option.isSome_some, true_and]
  generalize (if part = [] then fourth else some (registry.upperText part)) = given
  split
  · exact fun same => absurd (Option.some.inj same) (List.cons_ne_nil _ _)
  · next named =>
    intro same
    rw [same] at named
    exact named rfl

end Reading

section Strikes

variable {strike : Lib.PyDecimal} {n m : ℤ}

theorem toString_injective (same : (toString n).toList = (toString m).toList) : n = m := by
  rw [V2.ValueObjects.InstrumentId.int_text, V2.ValueObjects.InstrumentId.int_text] at same
  have parts := Lib.PyDecimal.text_injective same
  rw [Lib.PyDecimal.finite.injEq, decide_eq_decide] at parts
  omega

variable (registry) in
/-- The text of a whole number is read as a strike of it. -/
theorem decimal_toString (n : ℤ) : ∃ back, registry.decimal (toString n).toList = some back ∧ whole back = .ok n ∧
    ∀ c ∈ (toString n).toList, CharTable.Plain c := by
  rw [V2.ValueObjects.InstrumentId.int_text]
  refine ⟨_, CharTable.decimal_text _, ?_, Lib.PyDecimal.text_chars _⟩
  have value : Lib.PyDecimal.sign (decide (n < 0)) * (n.natAbs : ℤ) = n := by
    rw [Lib.PyDecimal.sign]
    split
    · next negative =>
      have less := of_decide_eq_true negative
      omega
    · next positive =>
      have more := of_decide_eq_false (Bool.not_eq_true _ ▸ positive)
      omega
  have number : (Lib.PyDecimal.sign (decide (n < 0)) : ℚ) * (n.natAbs : ℚ) * (10 : ℚ) ^ (0 : ℤ) = (n : ℚ) := by
    rw [zpow_zero, mul_one, ← Int.cast_natCast, ← Int.cast_mul, value]
  rw [whole, number, Decimal.toInt_intCast]

/-- The whole part of a strike is that of its number. -/
theorem whole_eq_ok : whole strike = .ok n ↔ ∃ value, strike.value = some value ∧ Decimal.toInt value = n := by
  cases strike with
  | infinity negative =>
    constructor
    · exact nofun
    · rintro ⟨_, none_, -⟩
      cases none_
  | nan negative signaling payload =>
    constructor
    · exact nofun
    · rintro ⟨_, none_, -⟩
      cases none_
  | finite negative coefficient exponent =>
    rw [whole, Lib.PyDecimal.value, Except.ok.injEq]
    constructor
    · exact fun same => ⟨_, rfl, same⟩
    · rintro ⟨value, same, whole_⟩
      rwa [← Option.some.inj same] at whole_

end Strikes

/-- The ids of the factories: `cash` is each of those of an exchange and a name, and `future` is `commodity`, too. -/
inductive Factory : InstrumentId registry → Prop where
  | cash {kind exchange symbol id} (built : cash registry kind exchange symbol = .ok id) : Factory id
  | future {exchange underlying expiry kind id}
      (built : future registry exchange underlying expiry kind = .ok id) : Factory id
  | option {exchange underlying expiry strike right id}
      (built : option registry exchange underlying expiry strike right = .ok id) : Factory id

/-- What a factory makes: normal names, and the components of cash, of a future or of an option. -/
structure Normal (id : InstrumentId registry) : Prop where
  exchange : norm registry.toRuntime id.exchange = id.exchange
  underlying : norm registry.toRuntime id.underlying = id.underlying
  shape : id.expiry = none ∧ id.strike = none ∧ id.right = none ∨
    (∃ expiry, id.expiry = some expiry ∧ id.strike = none ∧ id.right = some FUT) ∨
    ∃ expiry strike right, id.expiry = some expiry ∧ id.strike = some strike ∧ id.right = some right ∧
      (right = [] ∨ right ∈ validRights)

theorem Factory.normal (made : Factory id) : Normal id := by
  cases made with
  | cash built =>
    obtain ⟨exchange, underlying, expiry, strike, right⟩ := build_eq_ok built
    exact ⟨by rw [exchange, norm_norm], by rw [underlying, norm_norm], .inl ⟨expiry, strike, right⟩⟩
  | future built =>
    obtain ⟨exchange, underlying, expiry, strike, right⟩ := build_eq_ok built
    exact ⟨by rw [exchange, norm_norm], by rw [underlying, norm_norm], .inr (.inl ⟨_, expiry, strike, right⟩)⟩
  | option built =>
    simp only [InstrumentId.option] at built
    split at built
    · cases built
    · obtain ⟨exchange, underlying, expiry, strike, right⟩ := build_eq_ok built
      have valid := build_right built _ rfl
      rw [V2.ValueObjects.norm, CharTable.upperText_upperText] at valid
      exact ⟨by rw [exchange, norm_norm], by rw [underlying, norm_norm],
        .inr (.inr ⟨_, _, _, expiry, strike, right, valid⟩)⟩

/-- What is printed can be read back: names without colons, a date of eight digits, a strike that is a number, and a
right where there is one. -/
structure Readable (id : InstrumentId registry) : Prop where
  exchange : ':' ∉ id.exchange
  underlying : ':' ∉ id.underlying
  expiry : ∀ expiry ∈ id.expiry, (strftime registry.toRuntime expiry).length = 8
  strike : ∀ strike ∈ id.strike, ∃ value, strike.value = some value
  right : id.right ≠ some []

/-- The printed id is parsed as an id that equals it. -/
def RoundTrips (id : InstrumentId registry) : Prop :=
  ∃ printed read, id.str = .ok printed ∧ parse registry printed = .ok read ∧ read.eq id = .ok true

section RoundTrips

variable {text : List Char} {strike : Option (List Char)} {k : Key}

theorem norm_fixed (fixed : norm registry.toRuntime text = text) :
    registry.strip text = text ∧ registry.upperText text = text := by
  constructor
  · rw [← fixed, V2.ValueObjects.norm, CharTable.strip_upperText, CharTable.strip_strip]
  · rw [← fixed, V2.ValueObjects.norm, CharTable.upperText_upperText]

theorem key_of_strike (written : strikeText id.strike = .ok strike) :
    id.key = .ok (id.exchange, id.underlying, id.expiry.map Date.write, strike, id.right) := by
  rw [key, written]
  rfl

theorem eq_of_key (same : read.key = id.key) (keyed : id.key = .ok k) : read.eq id = .ok true := by
  simp only [eq, same, keyed, Except.map, decide_true]

/-- Two ids are equal exactly when they have one key. -/
theorem eq_ok_iff {b : Bool} : id.eq other = .ok b ↔
    ∃ mine theirs, id.key = .ok mine ∧ other.key = .ok theirs ∧ (b = true ↔ mine = theirs) := by
  rw [eq]
  cases first : id.key with
  | error error => simp
  | ok mine =>
    cases second : other.key with
    | error error => simp [Except.map]
    | ok theirs =>
      simp only [Except.map, Except.ok.injEq, exists_and_left, exists_eq_left']
      constructor
      · rintro rfl
        exact decide_eq_true_iff
      · intro same
        exact Bool.eq_iff_iff.mpr (decide_eq_true_iff.trans same.symm)

/-- The components of a printed id come apart again. -/
theorem split_printed {rest : List (List Char)} {last : List Char} (normal : Normal id)
    (free : ∀ part ∈ id.exchange :: (rest ++ [last]), ':' ∉ part)
    (ends : ∀ c ∈ last.getLast?, registry.isSpace c = false) :
    (registry.strip ([':'].intercalate (id.exchange :: (rest ++ [last])))).splitOn ':' =
      id.exchange :: (rest ++ [last]) := by
  have starts : ∀ c ∈ id.exchange.head?, registry.isSpace c = false := by
    rw [← (norm_fixed normal.exchange).1]
    exact CharTable.head_strip
  rw [V2.ValueObjects.InstrumentId.strip_printed starts ends,
    List.splitOn_intercalate ':' free (List.cons_ne_nil _ _)]

/-- An id with normal names is read back where its components behind them are read as its own. -/
theorem roundTrips_read {printed : List Char} {rest : List (List Char)} {back : Option Lib.PyDecimal}
    (normal : Normal id) (text : id.str = .ok printed)
    (split_ : (registry.strip printed).splitOn ':' = id.exchange :: id.underlying :: rest)
    (parsed : ofParts registry id.exchange id.underlying rest =
      build registry (registry.upperText id.exchange) (registry.upperText id.underlying) id.expiry back id.right none)
    (written : strikeText id.strike = .ok strike) (again : strikeText back = .ok strike) : RoundTrips id := by
  have capitals := (norm_fixed normal.exchange).2
  have names := (norm_fixed normal.underlying).2
  have allowed : norm registry.toRuntime (registry.upperText id.exchange) ∈ allowedExchanges registry := by
    rw [norm_upperText]
    exact id.exchange_allowed
  obtain ⟨read, built⟩ := build_ok (registry.upperText id.underlying) id.expiry back allowed id.right_valid
  obtain ⟨sameExchange, sameUnderlying, sameExpiry, sameStrike, sameRight⟩ := build_eq_ok built
  refine ⟨printed, read, text, ?_, ?_⟩
  · rw [parse, split_]
    exact parsed.trans built
  · refine eq_of_key ?_ (key_of_strike written)
    rw [← sameStrike] at again
    rw [key_of_strike again, key_of_strike written, sameExchange, sameUnderlying, sameExpiry, sameRight, capitals,
      names]

theorem roundTrips_cash (normal : Normal id) (readable : Readable id) (expiry : id.expiry = none)
    (strike : id.strike = none) (right : id.right = none) : RoundTrips id := by
  have written : strikeText id.strike = .ok none := by rw [strike]; rfl
  have text : id.str = .ok ([':'].intercalate [id.exchange, id.underlying]) := by
    rw [str, written, expiry, right]
    rfl
  have free : ∀ part ∈ [id.exchange, id.underlying], ':' ∉ part := by
    simp only [List.mem_cons, List.not_mem_nil, or_false]
    rintro part (rfl | rfl)
    · exact readable.exchange
    · exact readable.underlying
  have ends : ∀ c ∈ id.underlying.getLast?, registry.isSpace c = false := by
    rw [← (norm_fixed normal.underlying).1]
    exact CharTable.last_strip
  refine roundTrips_read normal text (@split_printed _ _ [] _ normal free ends) ?_ written
    (rfl : strikeText none = .ok none)
  rw [expiry, right]
  rfl

section

variable {expiry : Date} {right : List Char}

theorem strftime_free (expiry : Date) : ':' ∉ strftime registry.toRuntime expiry := by
  intro member
  have digit := V2.ValueObjects.InstrumentId.strftime_digits ':' member
  cases digit

theorem strikeText_free (written : strikeText id.strike = .ok strike) : ∀ digits ∈ strike, ':' ∉ digits := by
  intro digits given member
  cases struck : id.strike with
  | none =>
    rw [struck] at written
    cases written
    cases given
  | some decimal =>
    rw [struck, strikeText] at written
    cases number : whole decimal with
    | error error =>
      rw [number] at written
      cases written
    | ok n =>
      rw [number] at written
      cases written
      cases given
      obtain ⟨-, -, -, plain⟩ := decimal_toString registry n
      exact absurd (plain ':' member) (by simp only [CharTable.Plain]; decide)

/-- The components of the text of an id with an expiry and a right, which come apart again. -/
theorem str_dated (normal : Normal id) (exchange : ':' ∉ id.exchange) (underlying : ':' ∉ id.underlying)
    (dated : id.expiry = some expiry) (righted : id.right = some right) (valid : right ∈ validRights)
    (written : strikeText id.strike = .ok strike) : ∃ printed, id.str = .ok printed ∧
      (registry.strip printed).splitOn ':' =
        id.exchange :: id.underlying :: (strftime registry.toRuntime expiry :: (strike.toList ++ [right])) := by
  obtain ⟨given, colon, -⟩ := V2.ValueObjects.InstrumentId.validRights_capitals right valid
  have free : ∀ part ∈ id.exchange :: (id.underlying :: strftime registry.toRuntime expiry :: strike.toList ++ [right]),
      ':' ∉ part := by
    simp only [List.cons_append, List.mem_cons, List.mem_append, Option.mem_toList, List.not_mem_nil, or_false]
    rintro part (rfl | rfl | rfl | struck | rfl)
    · exact exchange
    · exact underlying
    · exact strftime_free expiry
    · exact strikeText_free written part struck
    · exact colon
  refine ⟨_, ?_, split_printed normal free (V2.ValueObjects.InstrumentId.last_right valid)⟩
  rw [str, written, dated, righted, Option.filter_some, if_pos (decide_eq_true given)]
  cases strike with
  | none => rfl
  | some digits => rfl

theorem roundTrips_future (normal : Normal id) (readable : Readable id) (dated : id.expiry = some expiry)
    (strike : id.strike = none) (righted : id.right = some FUT) : RoundTrips id := by
  have eight := readable.expiry expiry dated
  have valid : FUT ∈ validRights := by simp [validRights]
  have written : strikeText id.strike = .ok none := by rw [strike]; rfl
  obtain ⟨printed, text, split_⟩ :=
    str_dated normal readable.exchange readable.underlying dated righted valid written
  refine roundTrips_read normal text split_ ?_ written (rfl : strikeText none = .ok none)
  rw [dated, righted]
  exact ofParts_read (V2.ValueObjects.InstrumentId.readThird_strftime eight)
    (V2.ValueObjects.InstrumentId.readFourth_FUT none) rfl

theorem roundTrips_option {struck : Lib.PyDecimal} (normal : Normal id) (readable : Readable id)
    (dated : id.expiry = some expiry) (strike : id.strike = some struck) (righted : id.right = some right)
    (valid : right ∈ validRights) : RoundTrips id := by
  have eight := readable.expiry expiry dated
  obtain ⟨value, number⟩ := readable.strike struck strike
  obtain ⟨back, spelled, again, -⟩ := decimal_toString registry (Decimal.toInt value)
  have truncated : whole struck = .ok (Decimal.toInt value) := whole_eq_ok.mpr ⟨value, number, rfl⟩
  have written : strikeText id.strike = .ok (some (toString (Decimal.toInt value)).toList) := by
    rw [strike, strikeText, truncated]
    rfl
  have rewritten : strikeText (some back) = .ok (some (toString (Decimal.toInt value)).toList) := by
    rw [strikeText, again]
    rfl
  obtain ⟨printed, text, split_⟩ :=
    str_dated normal readable.exchange readable.underlying dated righted valid written
  refine roundTrips_read normal text split_ ?_ written rewritten
  obtain ⟨given, -, capitals⟩ := V2.ValueObjects.InstrumentId.validRights_capitals right valid
  have same := (@V2.ValueObjects.InstrumentId.norm_capitals registry.toRuntime _ capitals).2
  have some_ : (toString (Decimal.toInt value)).toList ≠ [] := by
    intro empty
    rw [empty] at spelled
    cases spelled
  have fourth : readFourth registry.toRuntime (toString (Decimal.toInt value)).toList none = (some back, none) := by
    simp only [readFourth, if_neg some_, spelled]
  have fifth : readFifth registry.toRuntime right (some expiry) none = some right := by
    simp only [readFifth, given, same, Option.getD_some, and_false, if_false]
  rw [dated, righted]
  exact ofParts_read (V2.ValueObjects.InstrumentId.readThird_strftime eight) fourth fifth

end

theorem write_injective {expiry other : Date} (same : expiry.write = other.write) : expiry = other := by
  have first := Date.read_write expiry []
  rw [same, Date.read_write other []] at first
  exact (Prod.ext_iff.mp (Option.some.inj first)).1.symm

theorem strikeText_of_str {printed : List Char} (text : id.str = .ok printed) :
    ∃ strike, strikeText id.strike = .ok strike := by
  cases written : strikeText id.strike with
  | error error =>
    rw [str, written] at text
    cases text
  | ok strike => exact ⟨strike, rfl⟩

theorem strikeText_of_key (keyed : id.key = .ok k) : ∃ strike, strikeText id.strike = .ok strike := by
  cases written : strikeText id.strike with
  | error error =>
    rw [key, written] at keyed
    cases keyed
  | ok strike => exact ⟨strike, rfl⟩

/-- The components in which equal ids agree. -/
theorem eq_components (same : read.eq id = .ok true) : read.exchange = id.exchange ∧
    read.underlying = id.underlying ∧ read.expiry = id.expiry ∧ strikeText read.strike = strikeText id.strike ∧
      read.right = id.right := by
  obtain ⟨mine, theirs, first, second, equal⟩ := eq_ok_iff.mp same
  obtain ⟨strike, written⟩ := strikeText_of_key first
  obtain ⟨again, rewritten⟩ := strikeText_of_key second
  rw [key_of_strike written] at first
  rw [key_of_strike rewritten] at second
  have keys := (Except.ok.inj first).trans ((equal.mp rfl).trans (Except.ok.inj second).symm)
  simp only [Prod.mk.injEq] at keys
  obtain ⟨exchange, underlying, expiry, strikes, right⟩ := keys
  refine ⟨exchange, underlying, Option.map_injective (fun _ _ => write_injective) expiry, ?_, right⟩
  rw [written, rewritten, strikes]

theorem value_of_strikeText {struck : Lib.PyDecimal} (strike : id.strike = some struck) {digits : Option (List Char)}
    (written : strikeText id.strike = .ok digits) : ∃ value, struck.value = some value := by
  rw [strike, strikeText] at written
  cases number : whole struck with
  | error error =>
    rw [number] at written
    cases written
  | ok n =>
    obtain ⟨value, number, -⟩ := whole_eq_ok.mp number
    exact ⟨value, number⟩

/-- A date that is read from a component is written in eight digits. -/
theorem matched_length {expiry : Date} {third : Option (List Char)} {found : Date}
    (first : readThird registry.toRuntime (strftime registry.toRuntime expiry) = .ok (some found, third)) :
    (strftime registry.toRuntime expiry).length = 8 := by
  rcases V2.ValueObjects.InstrumentId.readThird_eq_ok first with ⟨date, matched, -⟩ | ⟨-, none_, -⟩
  · have noBreak : ¬ (strftime registry.toRuntime expiry).getLast? = some '\n' := by
      intro last
      have digit := V2.ValueObjects.InstrumentId.strftime_digits '\n' (List.mem_of_getLast? last)
      cases digit
    simp only [V2.ValueObjects.InstrumentId.matchesDate, if_neg noBreak, Bool.and_eq_true,
      decide_eq_true_iff] at matched
    exact matched.1
  · cases none_

/-- Ids of the factories are read back exactly where what is printed can be. -/
theorem roundTrips_iff (made : Factory id) : RoundTrips id ↔ Readable id := by
  have normal := made.normal
  constructor
  · rintro ⟨printed, read, text, parsed, same⟩
    obtain ⟨strike, written⟩ := strikeText_of_str text
    obtain ⟨sameExchange, sameUnderlying, sameExpiry, -, sameRight⟩ := eq_components same
    obtain ⟨first, second, rest, third, split_, dated, capitals, names, right⟩ := parse_eq_ok parsed
    have colons := V2.ValueObjects.InstrumentId.colon_splitOn (registry.strip printed)
    rw [split_] at colons
    have exchange : ':' ∉ id.exchange := by
      rw [← sameExchange, ← capitals]
      exact CharTable.colon_upperText (colons first List.mem_cons_self)
    have underlying : ':' ∉ id.underlying := by
      rw [← sameUnderlying, ← names]
      exact CharTable.colon_upperText (colons second (List.mem_cons_of_mem first List.mem_cons_self))
    rw [sameExpiry] at dated right
    rw [sameRight] at right
    have named : id.right ≠ some [] := by
      intro empty
      rcases normal.shape with ⟨-, -, none_⟩ | ⟨-, -, -, future⟩ | ⟨expiry, _, _, has, -⟩
      · rw [none_] at empty
        cases empty
      · rw [future] at empty
        cases empty
      · rw [empty, has] at right
        exact readFifth_dated _ _ expiry right.symm
    refine ⟨exchange, underlying, ?_, fun struck given => value_of_strikeText given written, named⟩
    -- The third component is the date that was printed.
    have eight (expiry : Date) (right : List Char) (has : id.expiry = some expiry) (given : id.right = some right)
        (valid : right ∈ validRights) : (strftime registry.toRuntime expiry).length = 8 := by
      obtain ⟨again, shown, parts⟩ := str_dated normal exchange underlying has given valid written
      rw [text] at shown
      rw [← Except.ok.inj shown, split_] at parts
      obtain ⟨-, -, rfl⟩ : first = id.exchange ∧ second = id.underlying ∧ rest = _ := by
        simpa only [List.cons.injEq] using parts
      rw [has] at dated
      exact matched_length dated
    intro expiry has
    rcases normal.shape with ⟨none_, -⟩ | ⟨_, _, -, future⟩ | ⟨_, _, right, -, -, given, empty | valid⟩
    · rw [none_] at has
      cases has
    · exact eight expiry FUT has future (by simp [validRights])
    · exact absurd (given.trans (congrArg some empty)) named
    · exact eight expiry right has given valid
  · intro readable
    rcases normal.shape with ⟨expiry, strike, right⟩ | ⟨expiry, dated, strike, right⟩ |
      ⟨expiry, strike, right, dated, struck, righted, empty | valid⟩
    · exact roundTrips_cash normal readable expiry strike right
    · exact roundTrips_future normal readable dated strike right
    · exact absurd (righted.trans (congrArg some empty)) readable.right
    · exact roundTrips_option normal readable dated struck righted valid

end RoundTrips

/-- Two ids name one contract. -/
structure SameContract (id other : InstrumentId registry) : Prop where
  exchange : id.exchange = other.exchange
  underlying : id.underlying = other.underlying
  expiry : id.expiry = other.expiry
  right : id.right = other.right
  strike : id.strike.map Lib.PyDecimal.value = other.strike.map Lib.PyDecimal.value

/-- What is to hold of two ids: they are equal, and hash equally, exactly when they name one contract, unequal ones
have different texts, and each is read back from its own. -/
structure Identified (id other : InstrumentId registry) : Prop where
  compared : ∃ b, id.eq other = .ok b ∧ (b = true ↔ SameContract id other)
  hashed : id.eq other = .ok true → ∀ hashOf, ∃ h, id.hash hashOf = .ok h ∧ other.hash hashOf = .ok h
  printed : id.eq other = .ok false → ∃ mine theirs, id.str = .ok mine ∧ other.str = .ok theirs ∧ mine ≠ theirs
  mine : RoundTrips id
  theirs : RoundTrips other

/-- When it does: what is printed of both can be read back, and if they differ in their strikes at most, these do not
differ behind the point only. -/
structure Apart (id other : InstrumentId registry) : Prop where
  mine : Readable id
  theirs : Readable other
  strikes : id.exchange = other.exchange → id.underlying = other.underlying → id.expiry = other.expiry →
    id.right = other.right → ∀ a ∈ id.strike, ∀ b ∈ other.strike, whole a = whole b → a.value = b.value

section Pairs

variable {a b : Lib.PyDecimal} {v w : ℚ}

theorem strikeText_eq_iff (first : a.value = some v) (second : b.value = some w) :
    strikeText (some a) = strikeText (some b) ↔ whole a = whole b := by
  have mine : whole a = .ok (Decimal.toInt v) := whole_eq_ok.mpr ⟨v, first, rfl⟩
  have theirs : whole b = .ok (Decimal.toInt w) := whole_eq_ok.mpr ⟨w, second, rfl⟩
  rw [strikeText, strikeText, mine, theirs]
  constructor
  · intro same
    rw [toString_injective (Option.some.inj (Except.ok.inj same))]
  · intro same
    rw [Except.ok.inj same]

/-- Ids of which both are read back are equal exactly when they agree, of their strikes the whole parts. -/
theorem eq_true_iff (mine : Readable id) : id.eq other = .ok true ↔ id.exchange = other.exchange ∧
    id.underlying = other.underlying ∧ id.expiry = other.expiry ∧ strikeText id.strike = strikeText other.strike ∧
      id.right = other.right := by
  constructor
  · exact eq_components
  · rintro ⟨exchange, underlying, expiry, strikes, right⟩
    have written : ∃ strike, strikeText id.strike = .ok strike := by
      cases struck : id.strike with
      | none => exact ⟨none, rfl⟩
      | some a =>
        obtain ⟨v, value⟩ := mine.strike a struck
        have number : whole a = .ok (Decimal.toInt v) := whole_eq_ok.mpr ⟨v, value, rfl⟩
        exact ⟨_, by rw [strikeText, number]; rfl⟩
    obtain ⟨strike, written⟩ := written
    refine eq_of_key ?_ (key_of_strike (strikes ▸ written))
    rw [key, key, strikes, exchange, underlying, expiry, right]

/-- The strikes of two ids are written alike exactly when they are the same number, but for those that differ behind
the point only. -/
theorem strikeText_same (mine : Readable id) (theirs : Readable other)
    (strikes : ∀ a ∈ id.strike, ∀ b ∈ other.strike, whole a = whole b → a.value = b.value) :
    strikeText id.strike = strikeText other.strike ↔
      id.strike.map Lib.PyDecimal.value = other.strike.map Lib.PyDecimal.value := by
  cases first : id.strike with
  | none =>
    cases second : other.strike with
    | none => exact iff_of_true rfl rfl
    | some b =>
      obtain ⟨w, value⟩ := theirs.strike b second
      have number : whole b = .ok (Decimal.toInt w) := whole_eq_ok.mpr ⟨w, value, rfl⟩
      rw [strikeText, strikeText, number]
      exact iff_of_false nofun nofun
  | some a =>
    obtain ⟨v, value⟩ := mine.strike a first
    have number : whole a = .ok (Decimal.toInt v) := whole_eq_ok.mpr ⟨v, value, rfl⟩
    cases second : other.strike with
    | none =>
      rw [strikeText, strikeText, number]
      exact iff_of_false nofun nofun
    | some b =>
      obtain ⟨w, other_⟩ := theirs.strike b second
      rw [strikeText_eq_iff value other_, Option.map_some, Option.map_some, Option.some.injEq]
      constructor
      · exact strikes a first b second
      · intro same
        rw [number, whole_eq_ok.mpr ⟨w, other_, rfl⟩, Option.some.inj (value.symm.trans (same.trans other_))]

/-- Two ids of the factories are told apart exactly when both can be read back and they do not differ behind the point
of their strikes only. -/
theorem identified_iff (first : Factory id) (second : Factory other) : Identified id other ↔ Apart id other := by
  constructor
  · intro identified
    have mine := (roundTrips_iff first).mp identified.mine
    have theirs := (roundTrips_iff second).mp identified.theirs
    refine ⟨mine, theirs, ?_⟩
    intro exchange underlying expiry right a given b other_ same
    obtain ⟨v, value⟩ := mine.strike a given
    obtain ⟨w, their⟩ := theirs.strike b other_
    have written : strikeText id.strike = strikeText other.strike := by
      rw [Option.mem_def.mp given, Option.mem_def.mp other_, strikeText_eq_iff value their]
      exact same
    have equal := (eq_true_iff mine).mpr ⟨exchange, underlying, expiry, written, right⟩
    obtain ⟨b', compared, contract⟩ := identified.compared
    rw [equal] at compared
    have strikes := (contract.mp (Except.ok.inj compared).symm).strike
    rw [Option.mem_def.mp given, Option.mem_def.mp other_] at strikes
    exact Option.some.inj strikes
  · intro apart
    have mine := (roundTrips_iff first).mpr apart.mine
    have theirs := (roundTrips_iff second).mpr apart.theirs
    have contract : id.eq other = .ok true ↔ SameContract id other := by
      rw [eq_true_iff apart.mine]
      constructor
      · rintro ⟨exchange, underlying, expiry, written, right⟩
        have strikes := apart.strikes exchange underlying expiry right
        exact ⟨exchange, underlying, expiry, right, (strikeText_same apart.mine apart.theirs strikes).mp written⟩
      · rintro ⟨exchange, underlying, expiry, right, strike⟩
        have strikes := apart.strikes exchange underlying expiry right
        exact ⟨exchange, underlying, expiry, (strikeText_same apart.mine apart.theirs strikes).mpr strike, right⟩
    obtain ⟨text, read, shown, parsed, same⟩ := mine
    obtain ⟨text', read', shown', parsed', same'⟩ := theirs
    obtain ⟨strike, written⟩ := strikeText_of_str shown
    obtain ⟨strike', written'⟩ := strikeText_of_str shown'
    have keyed := key_of_strike written
    have keyed' := key_of_strike written'
    refine ⟨?_, ?_, ?_, ⟨text, read, shown, parsed, same⟩, ⟨text', read', shown', parsed', same'⟩⟩
    · have compared : ∃ b, id.eq other = .ok b := by
        rw [eq, keyed, keyed']
        exact ⟨_, rfl⟩
      obtain ⟨b, compared⟩ := compared
      refine ⟨b, compared, ?_⟩
      rw [← contract, compared, Except.ok.injEq]
    · intro equal hashOf
      obtain ⟨mine_, theirs_, own, their, keys⟩ := eq_ok_iff.mp equal
      refine ⟨hashOf mine_, ?_, ?_⟩
      · rw [hash, own]
        rfl
      · rw [hash, their, ← keys.mp rfl]
        rfl
    · intro unequal
      refine ⟨text, text', shown, shown', ?_⟩
      rintro rfl
      -- One text is read as one id, which equals both.
      obtain rfl : read = read' := Except.ok.inj (parsed.symm.trans parsed')
      obtain ⟨e, u, d, k, r⟩ := eq_components same
      obtain ⟨e', u', d', k', r'⟩ := eq_components same'
      have equal := (@eq_true_iff registry id other apart.mine).mpr
        ⟨e.symm.trans e', u.symm.trans u', d.symm.trans d', k.symm.trans k', r.symm.trans r'⟩
      rw [unequal] at equal
      cases equal

end Pairs

/-- ASCII characters, years without zeros in front, and no exchange beside the core ones. -/
def core : Registry := { V2.ValueObjects.posix with extras := [] }

/-- An option on NIFTY. -/
def nifty (strike : String) : Except IdError (InstrumentId core) :=
  option core "nfo".toList " nifty".toList ⟨2026, 7, 30, by decide⟩ strike.toList "ce".toList

theorem exists_of_accepted {made : Except IdError (InstrumentId core)} (accepted : made.toOption.isSome = true) :
    ∃ id, made = .ok id := by
  cases made with
  | error error => cases accepted
  | ok id => exact ⟨id, rfl⟩

theorem two_strikes_iff : ∃ first second, nifty "25000" = .ok first ∧ nifty "25100.0" = .ok second ∧
    (Identified first second ↔ Apart first second) := by
  obtain ⟨first, made⟩ := @exists_of_accepted (nifty "25000") (by decide +kernel)
  obtain ⟨second, other⟩ := @exists_of_accepted (nifty "25100.0") (by decide +kernel)
  exact ⟨first, second, made, other, identified_iff (.option made) (.option other)⟩

/-- The options with the strikes 22500 and 22500.50 are equal. -/
theorem half_strike_equal : ∃ first second, nifty "22500" = .ok first ∧ nifty "22500.50" = .ok second ∧
    first.eq second = .ok true ∧ ¬ Identified first second := by
  obtain ⟨first, made⟩ := @exists_of_accepted (nifty "22500") (by decide +kernel)
  obtain ⟨second, other⟩ := @exists_of_accepted (nifty "22500.50") (by decide +kernel)
  have evaluated : (nifty "22500").toOption.bind (fun first => (nifty "22500.50").toOption.bind fun second =>
      (first.eq second).toOption.map fun equal =>
        (equal, decide (first.strike.map Lib.PyDecimal.value = second.strike.map Lib.PyDecimal.value))) =
      some (true, false) := by
    decide +kernel
  rw [made, other] at evaluated
  obtain ⟨equal, compared, values⟩ := Option.map_eq_some_iff.mp evaluated
  cases answer : first.eq second with
  | error error =>
    rw [answer] at compared
    cases compared
  | ok b =>
    rw [answer] at compared
    obtain rfl : b = equal := Option.some.inj compared
    obtain ⟨rfl, differ⟩ := Prod.ext_iff.mp values
    refine ⟨first, second, made, other, answer, fun identified => ?_⟩
    obtain ⟨b', same, contract⟩ := identified.compared
    rw [answer] at same
    exact of_decide_eq_false differ (contract.mp (Except.ok.inj same).symm).strike

end TradeX.V1.Instruments.InstrumentId
