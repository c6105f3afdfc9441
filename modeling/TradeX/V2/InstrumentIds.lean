import TradeX.Lib.CharTable
import TradeX.Lib.IsoTime

/-! The canonical instrument id of v2: its construction and factories, the text that `str` writes and
`parse` reads, and the key behind equality and hash. -/

namespace TradeX.V2.ValueObjects

open Lib

/-- A table of the characters, and the zeros that `strftime` writes in front of a year: none where the year
has four digits. -/
structure Runtime extends CharTable where
  yearZeros : Nat → Nat
  yearZeros_four : ∀ year, 1000 ≤ year → yearZeros year = 0

/-- ASCII characters, and years without zeros in front. -/
def posix : Runtime := { CharTable.ascii with
  yearZeros := fun _ => 0
  yearZeros_four := fun _ _ => rfl }

inductive AssetKind where
  | EQUITY
  | INDEX
  | FUTURES
  | OPTIONS
  | ETF
  | CURRENCY
  | COMMODITY
  | SPOT
  | BOND
  deriving DecidableEq, Repr

namespace AssetKind

def value : AssetKind → List Char
  | EQUITY => "EQUITY".toList
  | INDEX => "INDEX".toList
  | FUTURES => "FUTURES".toList
  | OPTIONS => "OPTIONS".toList
  | ETF => "ETF".toList
  | CURRENCY => "CURRENCY".toList
  | COMMODITY => "COMMODITY".toList
  | SPOT => "SPOT".toList
  | BOND => "BOND".toList

def all : List AssetKind := [EQUITY, INDEX, FUTURES, OPTIONS, ETF, CURRENCY, COMMODITY, SPOT, BOND]

/-- `AssetKind.parse`. -/
def parse (table : CharTable) (text : List Char) : Option AssetKind :=
  let key := table.upperText (table.strip text)
  if key = "FUTURE".toList then some FUTURES
  else if key = "OPTION".toList then some OPTIONS
  else all.find? fun kind => kind.value = key

end AssetKind

/-- The values of `ExchangeId`. -/
def validExchanges : List (List Char) :=
  [['N', 'S', 'E'], ['B', 'S', 'E'], ['M', 'C', 'X'], ['N', 'F', 'O'], ['B', 'F', 'O'], ['C', 'D', 'S'],
    ['B', 'C', 'D'], ['I', 'D', 'X'], ['N', 'S', 'E', '_', 'C', 'O', 'M', 'M']]

def FUT : List Char := ['F', 'U', 'T']

def validRights : List (List Char) := [['C', 'E'], ['P', 'E'], FUT]

/-- What the constructor, the factories and `parse` raise. -/
inductive IdError where
  | invalidFormat (text : List Char)
  | invalidKind (kind : List Char)
  | invalidExchange (exchange : List Char)
  | invalidRight (right : List Char)
  | invalidDate (part : List Char)
  | invalidStrike (strike : List Char)
  deriving DecidableEq, Repr

variable (runtime : Runtime)

/-- `_norm_symbol` and `_norm_exchange`. -/
def norm (text : List Char) : List Char := runtime.upperText (runtime.strip text)

structure InstrumentId where
  exchange : List Char
  underlying : List Char
  expiry : Option Date
  strike : Option PyDecimal
  right : Option (List Char)
  kind : Option AssetKind
  exchange_valid : exchange ∈ validExchanges
  underlying_norm : norm runtime underlying = underlying
  right_valid : ∀ r ∈ right, r = [] ∨ r ∈ validRights
  deriving DecidableEq

variable {runtime}

theorem norm_norm (text : List Char) : norm runtime (norm runtime text) = norm runtime text := by
  rw [norm, norm, CharTable.strip_upperText, CharTable.strip_strip, CharTable.upperText_upperText]

theorem norm_upperText (text : List Char) : norm runtime (runtime.upperText text) = norm runtime text := by
  rw [norm, norm, CharTable.strip_upperText, CharTable.upperText_upperText]

namespace InstrumentId

variable (runtime) in
/-- `InstrumentId(...)`: the checks of `__post_init__`. -/
def build (exchange underlying : List Char) (expiry : Option Date) (strike : Option PyDecimal)
    (right kind : Option (List Char)) : Except IdError (InstrumentId runtime) :=
  let parsed := kind.map (AssetKind.parse runtime.toCharTable)
  if parsed = some none then .error (.invalidKind (kind.getD []))
  else if valid : norm runtime exchange ∈ validExchanges then
    if allowed : ∀ r ∈ right, r = [] ∨ runtime.upperText r ∈ validRights then
      .ok {
        exchange := norm runtime exchange
        underlying := norm runtime underlying
        expiry := expiry
        strike := strike
        right := right.map runtime.upperText
        kind := parsed.join
        exchange_valid := valid
        underlying_norm := norm_norm underlying
        right_valid := by
          intro r member
          obtain ⟨given, same, rfl⟩ := Option.mem_map.mp member
          rcases allowed given same with rfl | known
          · exact .inl rfl
          · exact .inr known }
    else .error (.invalidRight (right.getD []))
  else .error (.invalidExchange exchange)

section

variable (runtime)

def equity (exchange symbol : List Char) : Except IdError (InstrumentId runtime) :=
  build runtime exchange symbol none none none (some AssetKind.EQUITY.value)

def index (exchange name : List Char) : Except IdError (InstrumentId runtime) :=
  build runtime exchange name none none none (some AssetKind.INDEX.value)

/-- The kind of a future: of a commodity on MCX, where it is not given as another. -/
def futureKind (exchange : List Char) (kind : Option (List Char)) : AssetKind :=
  let parsed := kind.elim (some .FUTURES) (AssetKind.parse runtime.toCharTable)
  if parsed = some .FUTURES ∧ norm runtime exchange = "MCX".toList then .COMMODITY else parsed.getD .FUTURES

def future (exchange underlying : List Char) (expiry : Date) (kind : Option (List Char)) :
    Except IdError (InstrumentId runtime) :=
  build runtime exchange underlying (some expiry) none (some FUT) (some (futureKind runtime exchange kind).value)

/-- The `option` factory, of a strike with the text that `str` writes of it. -/
def option (exchange underlying : List Char) (expiry : Date) (strike right : List Char) :
    Except IdError (InstrumentId runtime) :=
  match runtime.decimal strike with
  | none => .error (.invalidStrike strike)
  | some strike =>
    build runtime exchange underlying (some expiry) (some strike) (some right) (some AssetKind.OPTIONS.value)

end

/-- What the text or the key of an id raises. -/
inductive StrikeError where
  | overflow
  | invalidOperation
  deriving DecidableEq, Repr

/-- `str(int(strike)) if strike == strike.to_integral_value() else str(strike)`. -/
def strikeText : PyDecimal → Except StrikeError (List Char)
  | .infinity _ => .error .overflow
  | .nan _ true _ => .error .invalidOperation
  | .nan negative false payload => .ok (PyDecimal.nan negative false payload).text
  | .finite negative coefficient exponent =>
    if PyDecimal.Integral coefficient exponent then
      .ok (toString (PyDecimal.toInt negative coefficient exponent)).toList
    else .ok (PyDecimal.finite negative coefficient exponent).text

/-- The text of the strike, where there is one. -/
def strikeTexts (strike : Option PyDecimal) : Except StrikeError (Option (List Char)) :=
  match strike with
  | none => .ok none
  | some strike => (strikeText strike).map some

/-- `expiry.strftime("%Y%m%d")`. -/
def strftime (runtime : Runtime) (expiry : Date) : List Char :=
  List.replicate (runtime.yearZeros expiry.year) '0' ++ Nat.toDigits 10 expiry.year ++
    (digits 2 expiry.month ++ digits 2 expiry.day)

variable (id other : InstrumentId runtime)

/-- The components that `__str__` joins. -/
def parts : Except StrikeError (List (List Char)) :=
  (strikeTexts id.strike).map fun strike =>
    [id.exchange, id.underlying] ++ (id.expiry.map (strftime runtime)).toList ++ strike.toList ++
      (id.right.filter (· ≠ [])).toList

/-- `InstrumentId.__str__`, also called `value`. -/
def str : Except StrikeError (List Char) := id.parts.map [':'].intercalate

/-- `_key`. -/
abbrev Key := List Char × List Char × Option (List Char) × Option (List Char) × Option (List Char)

def key : Except StrikeError Key :=
  (strikeTexts id.strike).map fun strike =>
    (id.exchange, id.underlying, id.expiry.map Date.write, strike, id.right)

/-- `__eq__`. -/
def eq : Except StrikeError Bool :=
  match id.key with
  | .error error => .error error
  | .ok mine => other.key.map fun theirs => decide (mine = theirs)

/-- `__hash__`, over a hash of tuples. -/
def hash (hashOf : Key → ℤ) : Except StrikeError ℤ := id.key.map hashOf

section

variable (runtime) (part : List Char)

/-- `re.match(r"^\d{8}$", part)`; the end may stand in front of a last line break. -/
def matchesDate : Bool :=
  let body := if part.getLast? = some '\n' then part.dropLast else part
  decide (body.length = 8) && body.all fun c => (runtime.digit c).isSome

/-- The number of digits of the table. -/
def number (digits : List Char) : Option Nat :=
  digits.foldl (fun value c => value.bind fun n => (runtime.digit c).map fun d => 10 * n + d) (some 0)

/-- The second digit of a day. -/
def dayOnes (tens : Nat) (c : Char) : Option Nat :=
  if tens = 1 ∨ tens = 2 then runtime.digit c else PyDecimal.readDigits [c]

/-- `datetime.strptime(part, "%Y%m%d").date()` of a text that matches: the pattern of `strptime` takes any
digits in the year and as the second of the tens and twenties of a day, and elsewhere ASCII ones. -/
def strptime : Option Date :=
  match part with
  | [y1, y2, y3, y4, m1, m2, d1, d2] => do
    let year ← number runtime [y1, y2, y3, y4]
    let month ← PyDecimal.readDigits [m1, m2]
    let tens ← PyDecimal.readDigits [d1]
    let ones ← dayOnes runtime tens d2
    let day := 10 * tens + ones
    if valid : (0 < year ∧ year < 10000) ∧ (0 < month ∧ month ≤ 12) ∧ 0 < day ∧ day ≤ daysIn year month then
      some ⟨year, month, day, valid⟩
    else none
  | _ => none

/-- The third component: a date, or the right of a future. -/
def readThird : Except IdError (Option Date × Option (List Char)) :=
  if part = [] then .ok (none, none)
  else if matchesDate runtime part then
    match strptime runtime part with
    | none => .error (.invalidDate part)
    | some expiry => .ok (some expiry, none)
  else if runtime.upperText part = FUT then .ok (none, some FUT)
  else .ok (none, none)

/-- The fourth component: a strike, or the right of a future. -/
def readFourth (right : Option (List Char)) : Option PyDecimal × Option (List Char) :=
  if part = [] then (none, right)
  else
    match runtime.decimal part with
    | some strike => (some strike, right)
    | none => (none, if runtime.upperText part = FUT then some FUT else right)

/-- The right after the fifth component; an expiry without one is that of a future. -/
def readFifth (expiry : Option Date) (right : Option (List Char)) : Option (List Char) :=
  let given := if part = [] then right else some (runtime.upperText part)
  if expiry.isSome = true ∧ (given.getD []) = [] then some FUT else given

/-- What `parse` makes of the components. -/
def ofParts (exchange underlying : List Char) (rest : List (List Char)) : Except IdError (InstrumentId runtime) :=
  match readThird runtime (rest[0]?.getD []) with
  | .error error => .error error
  | .ok (expiry, third) =>
    let (strike, fourth) := readFourth runtime (rest[1]?.getD []) third
    build runtime (runtime.upperText exchange) (runtime.upperText underlying) expiry strike
      (readFifth runtime (rest[2]?.getD []) expiry fourth) none

/-- `InstrumentId.parse`. -/
def parse (text : List Char) : Except IdError (InstrumentId runtime) :=
  match (runtime.strip text).splitOn ':' with
  | exchange :: underlying :: rest => ofParts runtime exchange underlying rest
  | _ => .error (.invalidFormat text)

end

section

variable {exchange underlying text part : List Char} {expiry : Option Date} {strike : Option PyDecimal}
  {right kind : Option (List Char)} {id : InstrumentId runtime}

/-- What the constructor accepts, and the id that it makes of it. -/
theorem build_eq_ok (built : build runtime exchange underlying expiry strike right kind = .ok id) :
    norm runtime exchange ∈ validExchanges ∧ id.exchange = norm runtime exchange ∧
      id.underlying = norm runtime underlying ∧ id.expiry = expiry ∧ id.strike = strike ∧
      id.right = right.map runtime.upperText := by
  simp only [build] at built
  split at built
  · cases built
  · split at built
    · next valid =>
      split at built
      · rw [← Except.ok.inj built]
        exact ⟨valid, rfl, rfl, rfl, rfl, rfl⟩
      · cases built
    · cases built

theorem build_ok (valid : norm runtime exchange ∈ validExchanges)
    (allowed : ∀ r ∈ right, r = [] ∨ runtime.upperText r ∈ validRights) :
    ∃ id, build runtime exchange underlying expiry strike right none = .ok id := by
  simp only [build, Option.map_none, reduceCtorEq, if_false, dif_pos valid, dif_pos allowed]
  exact ⟨_, rfl⟩

/-- A text of ASCII characters that are their own capitals and no blanks. -/
theorem norm_capitals (capitals : ∀ c ∈ text, c.toNat < 128 ∧ 33 ≤ c.toNat ∧ c.toUpper = c) :
    runtime.strip text = text ∧ runtime.upperText text = text := by
  have solid : ∀ c ∈ text, runtime.isSpace c = false := by
    intro c member
    obtain ⟨ascii, visible, -⟩ := capitals c member
    rw [runtime.isSpace_ascii c ascii]
    exact decide_eq_false (by omega)
  constructor
  · apply CharTable.strip_of_solid
    · exact fun c first => solid c (List.mem_of_mem_head? first)
    · exact fun c last => solid c (List.mem_of_mem_getLast? last)
  · have single : ∀ c ∈ text, runtime.upper c = [c] := by
      intro c member
      obtain ⟨ascii, -, same⟩ := capitals c member
      rw [runtime.upper_ascii c ascii, same]
    rw [CharTable.upperText, List.flatMap_congr single, List.flatMap_singleton']

theorem validExchanges_capitals :
    ∀ e ∈ validExchanges, e ≠ [] ∧ ':' ∉ e ∧ ∀ c ∈ e, c.toNat < 128 ∧ 33 ≤ c.toNat ∧ c.toUpper = c := by
  simp [validExchanges]

theorem validRights_capitals :
    ∀ r ∈ validRights, r ≠ [] ∧ ':' ∉ r ∧ ∀ c ∈ r, c.toNat < 128 ∧ 33 ≤ c.toNat ∧ c.toUpper = c := by
  simp [validRights, FUT]

theorem norm_exchange (valid : exchange ∈ validExchanges) : norm runtime exchange = exchange := by
  obtain ⟨stripped, capitals⟩ := @norm_capitals runtime _ (validExchanges_capitals exchange valid).2.2
  rw [norm, stripped, capitals]

end

section

variable {width n : Nat} {expiry : Date}

theorem digit_digitChar {d : Nat} (small : d < 10) : runtime.digit (Nat.digitChar d) = some d := by
  have chars : ∀ d < 10, (Nat.digitChar d).toNat < 128 ∧ (Nat.digitChar d).isDigit = true ∧
      (Nat.digitChar d).toNat - '0'.toNat = d := by
    decide
  obtain ⟨ascii, digit, value⟩ := chars d small
  rw [runtime.digit_ascii _ ascii, if_pos digit, value]

theorem number_digits (fits : n < 10 ^ width) : number runtime (digits width n) = some n := by
  induction width generalizing n with
  | zero =>
    have zero : n = 0 := by omega
    rw [zero]
    rfl
  | succ width ih =>
    have less : n / 10 < 10 ^ width := by
      rw [pow_succ] at fits
      omega
    have rest := ih less
    rw [number] at rest ⊢
    rw [digits, List.foldl_append, rest, List.foldl_cons, List.foldl_nil, Option.bind_some,
      digit_digitChar (Nat.mod_lt n (by decide)), Option.map_some]
    congr 1
    omega

/-- The four digits of a year. -/
theorem toDigits_year {year : Nat} (low : 1000 ≤ year) (high : year < 10000) :
    Nat.toDigits 10 year = digits 4 year := by
  rw [Nat.toDigits_of_base_le (by decide) (by omega), Nat.toDigits_of_base_le (by decide) (by omega),
    Nat.toDigits_of_base_le (by decide) (by omega), Nat.toDigits_of_lt_base (by omega)]
  simp only [digits, List.nil_append, List.append_assoc]
  congr 3
  omega

theorem digits_zero (width : Nat) : digits width 0 = List.replicate width '0' := by
  induction width with
  | zero => rfl
  | succ width ih =>
    rw [digits, Nat.zero_div, ih, List.replicate_succ']
    rfl

/-- The digits of a width are those of the number behind zeros. -/
theorem digits_padded (fits : n < 10 ^ width) (positive : 0 < n) :
    digits width n = List.replicate (width - (Nat.toDigits 10 n).length) '0' ++ Nat.toDigits 10 n := by
  induction width generalizing n with
  | zero => omega
  | succ width ih =>
    rw [digits]
    by_cases small : n < 10
    · rw [Nat.div_eq_of_lt small, Nat.mod_eq_of_lt small, digits_zero, Nat.toDigits_of_lt_base small,
        List.length_singleton, Nat.add_sub_cancel]
    · have less : n / 10 < 10 ^ width := by
        rw [pow_succ] at fits
        omega
      rw [ih less (by omega), Nat.toDigits_of_base_le (b := 10) (n := n) (by decide) (by omega), List.length_append,
        List.length_singleton, Nat.add_sub_add_right, List.append_assoc]

theorem strftime_length (four : 1000 ≤ expiry.year) : (strftime runtime expiry).length = 8 := by
  rw [strftime, runtime.yearZeros_four _ four, toDigits_year four expiry.valid.1.2, List.replicate_zero,
    List.nil_append, List.length_append, List.length_append, digits_length, digits_length, digits_length]

/-- The text of a date of eight digits has four for the year. -/
theorem strftime_eight (eight : (strftime runtime expiry).length = 8) :
    strftime runtime expiry = digits 4 expiry.year ++ (digits 2 expiry.month ++ digits 2 expiry.day) := by
  have zeros : runtime.yearZeros expiry.year = 4 - (Nat.toDigits 10 expiry.year).length := by
    simp only [strftime, List.length_append, List.length_replicate, digits_length] at eight
    omega
  rw [digits_padded expiry.valid.1.2 expiry.valid.1.1, strftime, zeros]

theorem mem_digits {c : Char} (member : c ∈ digits width n) : ∃ d < 10, c = Nat.digitChar d := by
  induction width generalizing n with
  | zero => cases member
  | succ width ih =>
    rcases List.mem_append.mp member with front | last
    · exact ih front
    · exact ⟨n % 10, Nat.mod_lt n (by decide), List.mem_singleton.mp last⟩

theorem matchesDate_strftime (eight : (strftime runtime expiry).length = 8) :
    matchesDate runtime (strftime runtime expiry) = true := by
  have digit : ∀ c ∈ strftime runtime expiry, ∃ d < 10, c = Nat.digitChar d := by
    intro c member
    rw [strftime_eight eight, List.mem_append, List.mem_append] at member
    rcases member with member | member | member
    · exact mem_digits member
    · exact mem_digits member
    · exact mem_digits member
  have noBreak : ¬ (strftime runtime expiry).getLast? = some '\n' := by
    intro last
    obtain ⟨d, small, same⟩ := digit '\n' (List.mem_of_getLast? last)
    have visible : ∀ d < 10, '\n' ≠ Nat.digitChar d := by decide
    exact visible d small same
  simp only [matchesDate, if_neg noBreak, eight, decide_true, Bool.true_and, List.all_eq_true]
  intro c member
  obtain ⟨d, small, rfl⟩ := digit c member
  rw [digit_digitChar small]
  rfl

theorem readDigits_two (small : n < 100) : PyDecimal.readDigits (digits 2 n) = some n := by
  have two : digits 2 n = [Nat.digitChar (n / 10 % 10), Nat.digitChar (n % 10)] := rfl
  have pairs : ∀ a < 10, ∀ b < 10, PyDecimal.readDigits [Nat.digitChar a, Nat.digitChar b] = some (10 * a + b) := by
    decide
  rw [two, pairs _ (Nat.mod_lt _ (by decide)) _ (Nat.mod_lt _ (by decide))]
  congr 1
  omega

/-- A date is read back from a text of eight digits. -/
theorem strptime_strftime (eight : (strftime runtime expiry).length = 8) :
    strptime runtime (strftime runtime expiry) = some expiry := by
  obtain ⟨year, month, day, valid⟩ := expiry
  have short := daysIn_le year month
  have years : number runtime (digits 4 year) = some year := number_digits (by omega)
  have months : PyDecimal.readDigits (digits 2 month) = some month := readDigits_two (by omega)
  have tens : PyDecimal.readDigits [Nat.digitChar (day / 10 % 10)] = some (day / 10 % 10) := by
    have ones : ∀ a < 10, PyDecimal.readDigits [Nat.digitChar a] = some a := by decide
    exact ones _ (Nat.mod_lt _ (by decide))
  have ones : dayOnes runtime (day / 10 % 10) (Nat.digitChar (day % 10)) = some (day % 10) := by
    have single : ∀ a < 10, PyDecimal.readDigits [Nat.digitChar a] = some a := by decide
    rw [dayOnes, digit_digitChar (Nat.mod_lt _ (by decide)), single _ (Nat.mod_lt _ (by decide)), ite_self]
  have whole : 10 * (day / 10 % 10) + day % 10 = day := by omega
  rw [strftime_eight eight]
  have spelled : digits 4 year ++ (digits 2 month ++ digits 2 day) =
      [Nat.digitChar (year / 10 / 10 / 10 % 10), Nat.digitChar (year / 10 / 10 % 10), Nat.digitChar (year / 10 % 10),
        Nat.digitChar (year % 10), Nat.digitChar (month / 10 % 10), Nat.digitChar (month % 10),
        Nat.digitChar (day / 10 % 10), Nat.digitChar (day % 10)] := rfl
  have years' : number runtime [Nat.digitChar (year / 10 / 10 / 10 % 10), Nat.digitChar (year / 10 / 10 % 10),
      Nat.digitChar (year / 10 % 10), Nat.digitChar (year % 10)] = some year := years
  have months' : PyDecimal.readDigits [Nat.digitChar (month / 10 % 10), Nat.digitChar (month % 10)] = some month :=
    months
  rw [spelled]
  simp only [strptime, years', months', tens, ones, Option.bind_eq_bind, Option.bind_some, whole, dif_pos valid]

end

end InstrumentId

end TradeX.V2.ValueObjects
