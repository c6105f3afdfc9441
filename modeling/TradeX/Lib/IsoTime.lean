import TradeX.Lib.Numerals

/-! Dates and times and their ISO 8601 texts: what `isoformat` writes and a reader of these texts.
The zone of a time is its offset from UTC in seconds, where it has one. -/

namespace TradeX.Lib

/-- The numeral of a number in a fixed width, from the least digit. -/
def digits : Nat → Nat → List Char
  | 0, _ => []
  | width + 1, n => digits width (n / 10) ++ [Nat.digitChar (n % 10)]

/-- A numeral of a fixed width and what stands behind it. -/
def readDigits (width : Nat) (chars : List Char) : Option (Nat × List Char) :=
  if (chars.take width).length = width ∧ (chars.take width).all Char.isDigit then
    some (Decimal.digitsValue (chars.take width), chars.drop width)
  else none

theorem digits_length (width n : Nat) : (digits width n).length = width := by
  induction width generalizing n with
  | zero => rfl
  | succ width ih => rw [digits, List.length_append, ih, List.length_singleton]

theorem digitChar_spec : ∀ d < 10, (Nat.digitChar d).isDigit = true ∧ (Nat.digitChar d).toNat - '0'.toNat = d := by
  decide

theorem digits_isDigit (width n : Nat) : (digits width n).all Char.isDigit = true := by
  induction width generalizing n with
  | zero => rfl
  | succ width ih =>
    rw [digits, List.all_append, ih, Bool.true_and, List.all_cons, List.all_nil, Bool.and_true]
    exact (digitChar_spec (n % 10) (Nat.mod_lt n (by decide))).1

theorem digitsValue_digits {width n : Nat} (fits : n < 10 ^ width) : Decimal.digitsValue (digits width n) = n := by
  induction width generalizing n with
  | zero => simp only [digits, Decimal.digitsValue, List.foldl_nil]; omega
  | succ width ih =>
    have less : n / 10 < 10 ^ width := by
      rw [pow_succ] at fits
      omega
    have rest := ih less
    unfold Decimal.digitsValue at rest ⊢
    rw [digits, List.foldl_append, rest, List.foldl_cons, List.foldl_nil,
      (digitChar_spec (n % 10) (Nat.mod_lt n (by decide))).2]
    omega

/-- A written numeral is read back, whatever stands behind it. -/
theorem readDigits_digits {width n : Nat} (fits : n < 10 ^ width) (rest : List Char) :
    readDigits width (digits width n ++ rest) = some (n, rest) := by
  have taken : (digits width n ++ rest).take width = digits width n := by
    rw [List.take_append_of_le_length (digits_length width n).ge, List.take_of_length_le (digits_length width n).le]
  have left : (digits width n ++ rest).drop width = rest := by
    rw [List.drop_append_of_le_length (digits_length width n).ge, List.drop_of_length_le (digits_length width n).le,
      List.nil_append]
  unfold readDigits
  rw [taken, left, digitsValue_digits fits, if_pos ⟨digits_length width n, digits_isDigit width n⟩]

/-- The mark, and what stands behind it. -/
def expect (mark : Char) : List Char → Option (List Char)
  | [] => none
  | c :: rest => if c = mark then some rest else none

@[simp] theorem expect_mark (mark : Char) (rest : List Char) : expect mark (mark :: rest) = some rest := if_pos rfl

/-- The days of a month of the Gregorian calendar. -/
def daysIn (year month : Nat) : Nat :=
  if month = 2 then if (year % 4 = 0 ∧ year % 100 ≠ 0) ∨ year % 400 = 0 then 29 else 28
  else if month ∈ [4, 6, 9, 11] then 30
  else 31

theorem daysIn_le (year month : Nat) : daysIn year month ≤ 31 := by
  unfold daysIn
  split
  · split <;> decide
  · split <;> decide

/-- A day of the calendar. -/
structure Date where
  year : Nat
  month : Nat
  day : Nat
  valid : (0 < year ∧ year < 10000) ∧ (0 < month ∧ month ≤ 12) ∧ 0 < day ∧ day ≤ daysIn year month
  deriving DecidableEq, Repr

namespace Date

/-- `YYYY-MM-DD`. -/
def write (date : Date) : List Char :=
  digits 4 date.year ++ '-' :: (digits 2 date.month ++ '-' :: digits 2 date.day)

/-- `date.isoformat`. -/
def isoformat (date : Date) : String := String.ofList date.write

def read (chars : List Char) : Option (Date × List Char) := do
  let (year, rest) ← readDigits 4 chars
  let rest ← expect '-' rest
  let (month, rest) ← readDigits 2 rest
  let rest ← expect '-' rest
  let (day, rest) ← readDigits 2 rest
  if valid : (0 < year ∧ year < 10000) ∧ (0 < month ∧ month ≤ 12) ∧ 0 < day ∧ day ≤ daysIn year month then
    some (⟨year, month, day, valid⟩, rest)
  else none

/-- `date.fromisoformat`, of the texts that `isoformat` writes. -/
def fromisoformat (text : String) : Option Date :=
  match read text.toList with
  | some (date, []) => some date
  | _ => none

theorem read_write (date : Date) (rest : List Char) : read (date.write ++ rest) = some (date, rest) := by
  obtain ⟨year, month, day, valid⟩ := date
  have short := daysIn_le year month
  have fits : year < 10 ^ 4 ∧ month < 10 ^ 2 ∧ day < 10 ^ 2 := by omega
  simp [read, write, readDigits_digits fits.1, readDigits_digits fits.2.1, readDigits_digits fits.2.2, valid]

theorem fromisoformat_isoformat (date : Date) : fromisoformat date.isoformat = some date := by
  have behind := read_write date []
  rw [List.append_nil] at behind
  unfold fromisoformat isoformat
  rw [String.toList_ofList, behind]

/-- The number of the day, counted from the first of January of the year one. -/
def ordinal (date : Date) : Nat :=
  let before := date.year - 1
  365 * before + before / 4 - before / 100 + before / 400 +
    ((List.range (date.month - 1)).map fun month => daysIn date.year (month + 1)).sum + date.day

end Date

/-- A time of day with the offset of its zone from UTC. -/
structure TimeOfDay where
  hour : Nat
  minute : Nat
  second : Nat
  microsecond : Nat
  offset : Option ℤ
  valid : hour < 24 ∧ minute < 60 ∧ second < 60 ∧ microsecond < 1000000 ∧ ∀ seconds ∈ offset, seconds.natAbs < 86400
  deriving DecidableEq, Repr

namespace TimeOfDay

/-- `HH:MM`, with the seconds where there are some. -/
def writeOffset (seconds : ℤ) : List Char :=
  let size := seconds.natAbs
  (if seconds < 0 then '-' else '+') :: (digits 2 (size / 3600) ++ ':' :: (digits 2 (size / 60 % 60) ++
    if size % 60 = 0 then [] else ':' :: digits 2 (size % 60)))

def readOffset : List Char → Option ℤ
  | [] => none
  | sign :: rest => do
    let (hours, rest) ← readDigits 2 rest
    let rest ← expect ':' rest
    let (minutes, rest) ← readDigits 2 rest
    let seconds ← match rest with
      | [] => some 0
      | mark :: rest => do
        let rest ← expect ':' (mark :: rest)
        let (seconds, rest) ← readDigits 2 rest
        if rest = [] then some seconds else none
    let size : ℤ := hours * 3600 + minutes * 60 + seconds
    if sign = '+' then some size else if sign = '-' then some (-size) else none

theorem readOffset_write (seconds : ℤ) (fits : seconds.natAbs < 86400) :
    readOffset (writeOffset seconds) = some seconds := by
  have hours : seconds.natAbs / 3600 < 10 ^ 2 := by omega
  have minutes : seconds.natAbs / 60 % 60 < 10 ^ 2 := by omega
  have rest : seconds.natAbs % 60 < 10 ^ 2 := by omega
  have last := readDigits_digits rest []
  rw [List.append_nil] at last
  unfold writeOffset
  dsimp only
  by_cases whole : seconds.natAbs % 60 = 0
  · rw [if_pos whole, List.append_nil]
    have lastMinute := readDigits_digits minutes []
    rw [List.append_nil] at lastMinute
    simp [readOffset, readDigits_digits hours, lastMinute]
    rcases abs_cases seconds with ⟨size, sign⟩ | ⟨size, sign⟩
    · rw [if_pos sign, size]
      congr 1
      omega
    · rw [if_neg sign.not_ge, if_pos sign, size]
      congr 1
      omega
  · rw [if_neg whole]
    simp [readOffset, readDigits_digits hours, readDigits_digits minutes, last]
    rcases abs_cases seconds with ⟨size, sign⟩ | ⟨size, sign⟩
    · rw [if_pos sign, size]
      congr 1
      omega
    · rw [if_neg sign.not_ge, if_pos sign, size]
      congr 1
      omega

/-- `HH:MM:SS`, with the microseconds where there are some and the offset where it is known. -/
def write (time : TimeOfDay) : List Char :=
  digits 2 time.hour ++ ':' :: (digits 2 time.minute ++ ':' :: (digits 2 time.second ++
    ((if time.microsecond = 0 then [] else '.' :: digits 6 time.microsecond) ++
      (time.offset.map writeOffset).getD [])))

/-- The fraction of a second in front of what stands behind it. -/
def readFraction : List Char → Option (Nat × List Char)
  | '.' :: rest => readDigits 6 rest
  | rest => some (0, rest)

/-- The offset at the end of a time, where there is one. -/
def readZone (chars : List Char) : Option (Option ℤ) :=
  if chars = [] then some none else (readOffset chars).map some

def read (chars : List Char) : Option TimeOfDay := do
  let (hour, rest) ← readDigits 2 chars
  let rest ← expect ':' rest
  let (minute, rest) ← readDigits 2 rest
  let rest ← expect ':' rest
  let (second, rest) ← readDigits 2 rest
  let (microsecond, rest) ← readFraction rest
  let offset ← readZone rest
  if valid : hour < 24 ∧ minute < 60 ∧ second < 60 ∧ microsecond < 1000000 ∧
      ∀ seconds ∈ offset, seconds.natAbs < 86400 then
    some ⟨hour, minute, second, microsecond, offset, valid⟩
  else none

/-- What stands behind a time is no fraction: the offset begins with its sign. -/
theorem readFraction_write (microsecond : Nat) (fits : microsecond < 1000000) (offset : Option ℤ) :
    readFraction ((if microsecond = 0 then [] else '.' :: digits 6 microsecond) ++ (offset.map writeOffset).getD []) =
      some (microsecond, (offset.map writeOffset).getD []) := by
  by_cases none_ : microsecond = 0
  · rw [if_pos none_, List.nil_append, none_]
    cases offset with
    | none => rfl
    | some seconds =>
      rw [Option.map_some, Option.getD_some]
      unfold writeOffset
      dsimp only
      by_cases negative : seconds < 0
      · rw [if_pos negative]
        rfl
      · rw [if_neg negative]
        rfl
  · rw [if_neg none_]
    exact readDigits_digits fits _

theorem read_write (time : TimeOfDay) : read time.write = some time := by
  obtain ⟨hour, minute, second, microsecond, offset, valid⟩ := time
  have fits : hour < 10 ^ 2 ∧ minute < 10 ^ 2 ∧ second < 10 ^ 2 := by omega
  have zone : readZone ((offset.map writeOffset).getD []) = some offset := by
    unfold readZone
    cases offset with
    | none => rfl
    | some seconds =>
      have some_ : writeOffset seconds ≠ [] := by
        unfold writeOffset
        exact List.cons_ne_nil _ _
      rw [Option.map_some, Option.getD_some, if_neg some_, readOffset_write seconds (valid.2.2.2.2 seconds rfl)]
      rfl
  unfold read write
  simp only [readDigits_digits fits.1, readDigits_digits fits.2.1, readDigits_digits fits.2.2, expect_mark,
    readFraction_write microsecond valid.2.2.2.1 offset, zone, Option.bind_eq_bind, Option.bind_some]
  exact dif_pos valid

end TimeOfDay

/-- A `datetime`: a day and a time of day. -/
structure DateTime where
  date : Date
  time : TimeOfDay
  deriving DecidableEq, Repr

namespace DateTime

/-- The microseconds of the moment, on the clock of UTC. -/
def instant (moment : DateTime) : ℤ :=
  let time := moment.time
  let seconds : ℤ := 86400 * moment.date.ordinal + 3600 * time.hour + 60 * time.minute + time.second
  (seconds - time.offset.getD 0) * 1000000 + time.microsecond

/-- `datetime.isoformat`. -/
def isoformat (moment : DateTime) : String := String.ofList (moment.date.write ++ 'T' :: moment.time.write)

/-- `datetime.fromisoformat`, of the texts that `isoformat` writes. -/
def fromisoformat (text : String) : Option DateTime := do
  let (date, rest) ← Date.read text.toList
  let rest ← expect 'T' rest
  let time ← TimeOfDay.read rest
  some ⟨date, time⟩

theorem fromisoformat_isoformat (moment : DateTime) : fromisoformat moment.isoformat = some moment := by
  unfold fromisoformat isoformat
  rw [String.toList_ofList]
  simp only [Date.read_write, expect_mark, TimeOfDay.read_write, Option.bind_eq_bind, Option.bind_some]

/-- The marks between the digits of a moment. -/
def marks : List Char := ['-', 'T', ':', '.', '+']

theorem writeOffset_chars {seconds : ℤ} {c : Char} (member : c ∈ TimeOfDay.writeOffset seconds) :
    c.isDigit = true ∨ c ∈ marks := by
  have digit {width n : Nat} (listed : c ∈ digits width n) : c.isDigit = true :=
    List.all_eq_true.mp (digits_isDigit width n) c listed
  simp only [TimeOfDay.writeOffset, List.mem_cons, List.mem_append] at member
  rcases member with rfl | hours | rfl | minutes | rest
  · split <;> simp [marks]
  · exact .inl (digit hours)
  · simp [marks]
  · exact .inl (digit minutes)
  · split at rest
    · cases rest
    · rcases List.mem_cons.mp rest with rfl | seconds
      · simp [marks]
      · exact .inl (digit seconds)

/-- A moment is written of digits and these marks. -/
theorem isoformat_chars {moment : DateTime} {c : Char} (member : c ∈ moment.isoformat.toList) :
    c.isDigit = true ∨ c ∈ marks := by
  have digit {width n : Nat} (listed : c ∈ digits width n) : c.isDigit = true ∨ c ∈ marks :=
    .inl (List.all_eq_true.mp (digits_isDigit width n) c listed)
  rw [isoformat, String.toList_ofList] at member
  simp only [Date.write, TimeOfDay.write, List.append_assoc, List.cons_append, List.mem_append, List.mem_cons] at member
  rcases member with year | rfl | month | rfl | day | rfl | hour | rfl | minute | rfl | second | fraction | zone
  · exact digit year
  · simp [marks]
  · exact digit month
  · simp [marks]
  · exact digit day
  · simp [marks]
  · exact digit hour
  · simp [marks]
  · exact digit minute
  · simp [marks]
  · exact digit second
  · split at fraction
    · cases fraction
    · rcases List.mem_cons.mp fraction with rfl | microsecond
      · simp [marks]
      · exact digit microsecond
  · cases known : moment.time.offset with
    | none =>
      rw [known] at zone
      cases zone
    | some seconds =>
      rw [known] at zone
      exact writeOffset_chars zone

end DateTime

end TradeX.Lib
