import TradeX.Lib.Calendar

/-! The expiry dates of the options lake. A partition names its contracts by a sequential expiry code, and the code is
mapped to a date of the calendar from the time of the first bar. -/

namespace TradeX.V1.OptionFormat

open Lib

def epoch : Date := ⟨1970, 1, 1, by decide⟩

/-- The exchange's time zone, by its offset from UTC at each second of UTC, and what `strftime("%Y-%m-%d")` writes of a
date: platforms differ in the zeros in front of a year before 1000. -/
structure ExchangeClock where
  offset : ℤ → ℤ
  strftime : Date → String

/-- The date of a time on the exchange's clock; none where it is no date of the calendar. The part of a second that the
float quotient rounds does not reach the date. -/
def referenceDate (clock : ExchangeClock) (referenceTsMs : ℤ) : Option Date := do
  let seconds := referenceTsMs / 1000
  let _ ← epoch.addDays (seconds / 86400)
  epoch.addDays ((seconds + clock.offset seconds) / 86400)

/-- The weekday of a Thursday is 3. -/
def daysToThursday (ref : Date) : ℤ :=
  let days := (3 - (ref.weekday : ℤ)) % 7
  if days = 0 then 7 else days

/-- The first day of the month behind that of the date. -/
def nextMonth (ref : Date) : Option Date :=
  if ref.month = 12 then Date.ofParts (ref.year + 1) 1 1 else Date.ofParts ref.year (ref.month + 1) 1

/-- `map_expiry_code_to_date`; none where an exception leaves. -/
def mapExpiryCodeToDate (clock : ExchangeClock) (underlying expiryKind : String) (expiryCode referenceTsMs : ℤ) :
    Option String := do
  let ref ← referenceDate clock referenceTsMs
  if underlying ∉ ["NIFTY", "BANKNIFTY"] then
    return clock.strftime ref
  if expiryKind = "WEEK" then
    let baseThursday ← ref.addDays (daysToThursday ref)
    if expiryCode = 1 then
      return clock.strftime baseThursday
    let nextThursday ← baseThursday.addDays 7
    return clock.strftime nextThursday
  if expiryKind = "MONTH" then
    let nextMonth ← nextMonth ref
    let lastDay ← nextMonth.addDays (-1)
    let daysBack := ((lastDay.weekday : ℤ) - 3) % 7
    let expiryDate ← lastDay.addDays (-daysBack)
    return clock.strftime expiryDate
  return clock.strftime ref

def Thursday (day : ℕ) : Prop := (day + 6) % 7 = 3

/-- The last Thursday of its month. -/
def MonthEndThursday (day : ℕ) : Prop :=
  Thursday day ∧ ∃ date ∈ Date.ofOrdinal day, daysIn date.year date.month < date.day + 7

instance : DecidablePred Thursday := fun _ => inferInstanceAs (Decidable (_ = _))

instance : DecidablePred MonthEndThursday := fun _ => inferInstanceAs (Decidable (_ ∧ _))

/-- The code is mapped to the day of its number, counted over the days of the kind from the reference date on. -/
def MapsToNth (clock : ExchangeClock) (underlying expiryKind : String) (kind : ℕ → Prop) [DecidablePred kind]
    (expiryCode : ℕ) (referenceTsMs : ℤ) : Prop :=
  ∀ ref ∈ referenceDate clock referenceTsMs, ∀ day, NthFrom kind ref.ordinal expiryCode day →
    ∀ date ∈ Date.ofOrdinal day, mapExpiryCodeToDate clock underlying expiryKind expiryCode referenceTsMs =
      some (clock.strftime date)

variable {clock : ExchangeClock} {underlying expiryKind : String} {kind : ℕ → Prop} [DecidablePred kind]
  {expiryCode : ℕ} {referenceTsMs : ℤ} {ref date last : Date}

/-- The Thursday that the days lead to is the first one behind the reference date. -/
theorem daysToThursday_spec (ref : Date) : ∃ days : ℕ, daysToThursday ref = days ∧
    NthFrom Thursday (ref.ordinal + 1) 1 (ref.ordinal + days) := by
  have days : ∃ days : ℕ, daysToThursday ref = days ∧ 0 < days ∧ days ≤ 7 ∧ (ref.ordinal + days + 6) % 7 = 3 := by
    refine ⟨(daysToThursday ref).toNat, ?_⟩
    unfold daysToThursday Date.weekday
    dsimp only
    split <;> omega
  obtain ⟨days, counted, some_, week, thursday⟩ := days
  refine ⟨days, counted, nthFrom_one thursday (by omega) ?_⟩
  intro day behind before other
  unfold Thursday at other
  omega

theorem thursday_next {start count day : ℕ} (nth : NthFrom Thursday start count day) :
    NthFrom Thursday start (count + 1) (day + 7) := by
  have here : (day + 6) % 7 = 3 := nth.1
  refine nth.next ?_ (by omega) ?_
  · unfold Thursday
    omega
  · intro other behind before
    unfold Thursday
    omega

/-- The first code is mapped to the first Thursday behind the reference date, and every other one to the second. -/
theorem map_week (named : underlying ∈ ["NIFTY", "BANKNIFTY"])
    (referred : referenceDate clock referenceTsMs = some ref) :
    ∃ first, NthFrom Thursday (ref.ordinal + 1) 1 first ∧ ∀ expiryCode : ℤ,
      mapExpiryCodeToDate clock underlying "WEEK" expiryCode referenceTsMs =
        (Date.ofOrdinal (if expiryCode = 1 then first else first + 7)).map clock.strftime := by
  obtain ⟨days, counted, nth⟩ := daysToThursday_spec ref
  refine ⟨ref.ordinal + days, nth, fun expiryCode => ?_⟩
  have base : ref.addDays (daysToThursday ref) = Date.ofOrdinal (ref.ordinal + days) := by
    apply Date.addDays_eq
    rw [counted]
    rfl
  simp only [mapExpiryCodeToDate, referred, named, Option.bind_eq_bind, Option.bind_some, not_true_eq_false, if_false,
    if_true, Option.pure_def, base]
  cases made : Date.ofOrdinal (ref.ordinal + days) with
  | none =>
    -- behind the end of the calendar there is no second Thursday either
    have behind : Date.ofOrdinal (ref.ordinal + days + 7) = none := by
      have positive := (Date.ordinal_bounds ref).1
      rw [Date.ofOrdinal_eq_none] at made ⊢
      omega
    split <;> simp only [made, behind, Option.bind_none, Option.map_none]
  | some baseThursday =>
    have next : baseThursday.addDays 7 = Date.ofOrdinal (ref.ordinal + days + 7) := by
      apply Date.addDays_eq
      rw [Date.ofOrdinal_iff.mp made]
      rfl
    rw [Option.bind_some, next]
    split
    · rw [made]
      rfl
    · cases Date.ofOrdinal (ref.ordinal + days + 7) <;> rfl

/-- There is no month behind the last one of the calendar. -/
theorem nextMonth_spec (ref : Date) : (¬(ref.year = 9999 ∧ ref.month = 12) ∧ ∃ next, nextMonth ref = some next ∧
      next.ordinal = daysBeforeYear ref.year + daysBeforeMonth ref.year (ref.month + 1) + 1) ∨
    (ref.year = 9999 ∧ ref.month = 12) ∧ nextMonth ref = none := by
  have valid := ref.valid
  by_cases december : ref.month = 12
  · by_cases last : ref.year = 9999
    · refine .inr ⟨⟨last, december⟩, ?_⟩
      rw [nextMonth, if_pos december, last]
      exact dif_neg fun valid => absurd valid.1.2 (by decide)
    · have first : (0 < ref.year + 1 ∧ ref.year + 1 < 10000) ∧ (0 < 1 ∧ 1 ≤ 12) ∧ 0 < 1 ∧ 1 ≤ daysIn (ref.year + 1) 1 :=
        ⟨by omega, by decide, by decide, (by decide : 1 ≤ 31)⟩
      refine .inl ⟨fun final => last final.1, ⟨ref.year + 1, 1, 1, first⟩, ?_, ?_⟩
      · rw [nextMonth, if_pos december]
        exact dif_pos first
      · rw [december, Date.ordinal_eq]
        dsimp only
        rw [daysBeforeYear_succ valid.1.1, daysBeforeMonth_first, Nat.add_zero]
  · have first : (0 < ref.year ∧ ref.year < 10000) ∧ (0 < ref.month + 1 ∧ ref.month + 1 ≤ 12) ∧ 0 < 1 ∧
        1 ≤ daysIn ref.year (ref.month + 1) := by
      have long := le_daysIn ref.year (ref.month + 1)
      omega
    refine .inl ⟨fun final => december final.2, ⟨ref.year, ref.month + 1, 1, first⟩, ?_, rfl⟩
    rw [nextMonth, if_neg december]
    exact dif_pos first

/-- Every code is mapped to the last Thursday of the month of the reference date. -/
theorem map_month (named : underlying ∈ ["NIFTY", "BANKNIFTY"])
    (referred : referenceDate clock referenceTsMs = some ref)
    (expiryCode : ℤ) :
    (¬(ref.year = 9999 ∧ ref.month = 12) ∧ ∃ last : Date,
      mapExpiryCodeToDate clock underlying "MONTH" expiryCode referenceTsMs = some (clock.strftime last) ∧
        (last.year = ref.year ∧ last.month = ref.month) ∧ MonthEndThursday last.ordinal) ∨
    (ref.year = 9999 ∧ ref.month = 12) ∧
      mapExpiryCodeToDate clock underlying "MONTH" expiryCode referenceTsMs = none := by
  have valid := ref.valid
  have long := le_daysIn ref.year ref.month
  rcases nextMonth_spec ref with ⟨inCalendar, next, made, first⟩ | ⟨final, missing⟩
  · have lastValid : (0 < ref.year ∧ ref.year < 10000) ∧ (0 < ref.month ∧ ref.month ≤ 12) ∧
        0 < daysIn ref.year ref.month ∧ daysIn ref.year ref.month ≤ daysIn ref.year ref.month := by omega
    let lastDay : Date := ⟨ref.year, ref.month, daysIn ref.year ref.month, lastValid⟩
    have lastOrdinal : lastDay.ordinal = daysBeforeYear ref.year + daysBeforeMonth ref.year (ref.month + 1) := by
      rw [daysBeforeMonth_succ valid.2.1.1, ← add_assoc]
      rfl
    have before : next.addDays (-1) = some lastDay := by
      rw [Date.addDays_iff]
      omega
    obtain ⟨back, daysBack, week⟩ : ∃ back : ℕ, ((lastDay.weekday : ℤ) - 3) % 7 = back ∧ back < 7 :=
      ⟨(((lastDay.weekday : ℤ) - 3) % 7).toNat, by omega, by omega⟩
    have expiryValid : (0 < ref.year ∧ ref.year < 10000) ∧ (0 < ref.month ∧ ref.month ≤ 12) ∧
        0 < daysIn ref.year ref.month - back ∧ daysIn ref.year ref.month - back ≤ daysIn ref.year ref.month := by omega
    let expiryDate : Date := ⟨ref.year, ref.month, daysIn ref.year ref.month - back, expiryValid⟩
    have ordinal : expiryDate.ordinal + back = lastDay.ordinal := by
      rw [Date.ordinal_eq, Date.ordinal_eq]
      dsimp only [expiryDate, lastDay]
      omega
    have expires : lastDay.addDays (-(((lastDay.weekday : ℤ) - 3) % 7)) = some expiryDate := by
      rw [Date.addDays_iff, daysBack]
      omega
    have thursday : (expiryDate.ordinal + 6) % 7 = 3 := by
      unfold Date.weekday at daysBack
      omega
    refine .inl ⟨inCalendar, expiryDate, ?_, ⟨rfl, rfl⟩, thursday, expiryDate, Date.ofOrdinal_ordinal expiryDate, ?_⟩
    · simp only [mapExpiryCodeToDate, referred, named, made, before, expires, Option.bind_eq_bind, Option.bind_some,
        not_true_eq_false, if_false, if_true, Option.pure_def, String.reduceEq]
    · dsimp only [expiryDate]
      omega
  · refine .inr ⟨final, ?_⟩
    simp only [mapExpiryCodeToDate, referred, named, missing, Option.bind_eq_bind, Option.bind_some, Option.bind_none,
      not_true_eq_false, if_false, if_true, Option.pure_def, String.reduceEq]

/-- A month has one last Thursday. -/
theorem monthEnd_unique (same : date.year = last.year ∧ date.month = last.month) (ends : MonthEndThursday date.ordinal)
    (ends' : MonthEndThursday last.ordinal) : date = last := by
  obtain ⟨thursday, found, made, late⟩ := ends
  obtain ⟨thursday', found', made', late'⟩ := ends'
  cases (Date.ofOrdinal_ordinal date).symm.trans made
  cases (Date.ofOrdinal_ordinal last).symm.trans made'
  have valid := date.valid
  have valid' := last.valid
  have ordinal := Date.ordinal_eq date
  have ordinal' := Date.ordinal_eq last
  apply Date.ordinal_injective
  unfold Thursday at thursday thursday'
  rw [same.1, same.2] at ordinal valid late
  omega

/-- From a date of its month on, the last Thursday of the month is the first of its kind. -/
theorem monthEnd_first (same : last.year = ref.year ∧ last.month = ref.month) (ends : MonthEndThursday last.ordinal)
    (from_ : ref.ordinal ≤ last.ordinal) : NthFrom MonthEndThursday ref.ordinal 1 last.ordinal := by
  refine nthFrom_one ends from_ fun day behind before ends' => ?_
  obtain ⟨date, made, -⟩ := ends'.2
  obtain rfl := Date.ofOrdinal_iff.mp made
  obtain ⟨year, month⟩ := Date.month_between same.1.symm same.2.symm behind before.le
  exact before.ne (congrArg Date.ordinal (monthEnd_unique ⟨year.trans same.1.symm, month.trans same.2.symm⟩ ends' ends))

theorem thursday_nth {start first count day : ℕ} (one : NthFrom Thursday start 1 first)
    (nth : NthFrom Thursday start count day) : day + 7 = first + 7 * count := by
  obtain ⟨before, rfl⟩ := Nat.exists_eq_succ_of_ne_zero nth.positive.ne'
  have weeks : NthFrom Thursday start (before + 1) (first + 7 * before) := by
    clear nth
    induction before with
    | zero => exact one
    | succ before ih => exact thursday_next ih
  rw [nth.unique weeks]
  omega

/-- The day of the number is the only one that the code may be mapped to. -/
theorem mapsToNth_iff {day : ℕ} (referred : referenceDate clock referenceTsMs = some ref)
    (nth : NthFrom kind ref.ordinal expiryCode day) (made : Date.ofOrdinal day = some date) :
    MapsToNth clock underlying expiryKind kind expiryCode referenceTsMs ↔
      mapExpiryCodeToDate clock underlying expiryKind expiryCode referenceTsMs = some (clock.strftime date) := by
  constructor
  · intro claimed
    exact claimed ref referred day nth date made
  · intro mapped other referred' day' nth' date' made'
    cases referred.symm.trans referred'
    cases nth.unique nth'
    cases made.symm.trans made'
    exact mapped

/-- The weekly codes are mapped to the Thursdays of their numbers on the first two codes of a reference date that is no
Thursday, and on the third one of a Thursday. -/
theorem week_mapsToNth_iff (written : Function.Injective clock.strftime) (named : underlying ∈ ["NIFTY", "BANKNIFTY"])
    (referred : referenceDate clock referenceTsMs = some ref)
    {day : ℕ} (nth : NthFrom Thursday ref.ordinal expiryCode day) (made : Date.ofOrdinal day = some date) :
    MapsToNth clock underlying "WEEK" Thursday expiryCode referenceTsMs ↔
      if Thursday ref.ordinal then expiryCode = 3 else expiryCode = 1 ∨ expiryCode = 2 := by
  obtain ⟨first, one, mapped⟩ := map_week named referred
  have maps : MapsToNth clock underlying "WEEK" Thursday expiryCode referenceTsMs ↔
      day = if expiryCode = 1 then first else first + 7 := by
    rw [mapsToNth_iff referred nth made, mapped expiryCode]
    simp only [Nat.cast_eq_one]
    constructor
    · intro text
      obtain ⟨other, found, same⟩ := Option.map_eq_some_iff.mp text
      rw [← Date.ofOrdinal_iff.mp made, ← Date.ofOrdinal_iff.mp found, written same]
    · intro same
      rw [← same, made, Option.map_some]
  have positive := nth.positive
  rw [maps]
  by_cases thursday : Thursday ref.ordinal
  · -- the reference date is the first Thursday, and the code starts from the one behind it
    rw [if_pos thursday]
    have opens : NthFrom Thursday ref.ordinal 1 ref.ordinal :=
      nthFrom_one thursday (le_refl _) fun day begins before => absurd before (not_lt.mpr begins)
    have here := thursday_nth opens nth
    have behind := one.2.1
    have next : first = ref.ordinal + 7 := by
      refine one.unique (nthFrom_one ?_ (by omega) ?_)
      · unfold Thursday at thursday ⊢
        omega
      · intro day behind before other
        unfold Thursday at thursday other
        omega
    split <;> omega
  · rw [if_neg thursday]
    have opens : NthFrom Thursday ref.ordinal 1 first := by
      refine nthFrom_one one.1 (Nat.le_of_succ_le one.2.1) fun day begins before other => ?_
      rcases Nat.eq_or_lt_of_le begins with same | behind
      · exact thursday (same ▸ other)
      · exact one.first behind before other
    have here := thursday_nth opens nth
    split <;> omega

/-- The monthly codes are mapped to the month-end Thursdays of their numbers on the first code, up to the last Thursday
of the month. -/
theorem month_mapsToNth_iff (written : Function.Injective clock.strftime) (named : underlying ∈ ["NIFTY", "BANKNIFTY"])
    (referred : referenceDate clock referenceTsMs = some ref)
    {day : ℕ} (nth : NthFrom MonthEndThursday ref.ordinal expiryCode day) (made : Date.ofOrdinal day = some date) :
    MapsToNth clock underlying "MONTH" MonthEndThursday expiryCode referenceTsMs ↔
      expiryCode = 1 ∧ (date.year = ref.year ∧ date.month = ref.month) ∧ ¬(ref.year = 9999 ∧ ref.month = 12) := by
  obtain rfl := Date.ofOrdinal_iff.mp made
  rw [mapsToNth_iff referred nth made]
  rcases map_month named referred expiryCode with ⟨inCalendar, last, mapped, same, ends⟩ | ⟨final, raised⟩
  · rw [mapped]
    constructor
    · intro text
      obtain rfl := written (Option.some.inj text)
      refine ⟨?_, same, inCalendar⟩
      rw [← nth.2.2, (monthEnd_first same ends nth.2.1).2.2]
    · rintro ⟨-, sameMonth, -⟩
      rw [monthEnd_unique ⟨same.1.trans sameMonth.1.symm, same.2.trans sameMonth.2.symm⟩ ends nth.1]
  · rw [raised]
    constructor
    · intro text
      cases text
    · rintro ⟨-, -, inCalendar⟩
      exact absurd final inCalendar

/-- On the codes that are documented, the first and the second week and the first month: the weekly codes are mapped
to the first and the second Thursday behind the reference date; the monthly one is mapped to the last Thursday of the
month of the reference date, which is the first month-end Thursday from the reference date on where it is not in
front of it. -/
theorem expiry_dates (named : underlying ∈ ["NIFTY", "BANKNIFTY"])
    (referred : referenceDate clock referenceTsMs = some ref) :
    (∃ first second, NthFrom Thursday (ref.ordinal + 1) 1 first ∧ NthFrom Thursday (ref.ordinal + 1) 2 second ∧
      ref.ordinal < first ∧ first < second ∧
      mapExpiryCodeToDate clock underlying "WEEK" 1 referenceTsMs = (Date.ofOrdinal first).map clock.strftime ∧
      mapExpiryCodeToDate clock underlying "WEEK" 2 referenceTsMs = (Date.ofOrdinal second).map clock.strftime) ∧
    ((¬(ref.year = 9999 ∧ ref.month = 12) ∧ ∃ last : Date,
        mapExpiryCodeToDate clock underlying "MONTH" 1 referenceTsMs = some (clock.strftime last) ∧
        (last.year = ref.year ∧ last.month = ref.month) ∧ MonthEndThursday last.ordinal ∧
        (ref.ordinal ≤ last.ordinal → NthFrom MonthEndThursday ref.ordinal 1 last.ordinal)) ∨
      (ref.year = 9999 ∧ ref.month = 12) ∧ mapExpiryCodeToDate clock underlying "MONTH" 1 referenceTsMs = none) := by
  constructor
  · obtain ⟨first, one, mapped⟩ := map_week named referred
    refine ⟨first, first + 7, one, thursday_next one, one.2.1, by omega, ?_, ?_⟩
    · rw [mapped, if_pos rfl]
    · rw [mapped, if_neg (by decide)]
  · rcases map_month named referred 1 with ⟨inCalendar, last, mapped, same, ends⟩ | final
    · exact .inl ⟨inCalendar, last, mapped, same, ends, monthEnd_first same ends⟩
    · exact .inr final

/-- The clock of the exchange, five and a half hours ahead of UTC. -/
def kolkata : ExchangeClock := ⟨fun _ => 19800, Date.isoformat⟩

def march (day : ℕ) (valid : 0 < day ∧ day ≤ 31) : Date := ⟨2026, 3, day, by decide, by decide, valid⟩

/-- The start of the day in UTC. -/
def startOf (date : Date) : ℤ := 86400000 * ((date.ordinal : ℤ) - epoch.ordinal)

def monday : Date := march 2 (by decide)

theorem expiry_dates_monday :
    (∃ first second, NthFrom Thursday (monday.ordinal + 1) 1 first ∧ NthFrom Thursday (monday.ordinal + 1) 2 second ∧
      monday.ordinal < first ∧ first < second ∧
      mapExpiryCodeToDate kolkata "NIFTY" "WEEK" 1 (startOf monday) = (Date.ofOrdinal first).map kolkata.strftime ∧
      mapExpiryCodeToDate kolkata "NIFTY" "WEEK" 2 (startOf monday) = (Date.ofOrdinal second).map kolkata.strftime) ∧
    ((¬(monday.year = 9999 ∧ monday.month = 12) ∧ ∃ last : Date,
        mapExpiryCodeToDate kolkata "NIFTY" "MONTH" 1 (startOf monday) = some (kolkata.strftime last) ∧
        (last.year = monday.year ∧ last.month = monday.month) ∧ MonthEndThursday last.ordinal ∧
        (monday.ordinal ≤ last.ordinal → NthFrom MonthEndThursday monday.ordinal 1 last.ordinal)) ∨
      (monday.year = 9999 ∧ monday.month = 12) ∧
        mapExpiryCodeToDate kolkata "NIFTY" "MONTH" 1 (startOf monday) = none) :=
  expiry_dates (by decide) (by decide +kernel)

/-- The code is mapped to another day than that of its number. -/
theorem not_mapsToNth {text : String} {day : ℕ} (referred : referenceDate clock referenceTsMs = some ref)
    (nth : NthFrom kind ref.ordinal expiryCode day) (made : Date.ofOrdinal day = some date)
    (mapped : mapExpiryCodeToDate clock underlying expiryKind expiryCode referenceTsMs = some text)
    (other : text ≠ clock.strftime date) : ¬MapsToNth clock underlying expiryKind kind expiryCode referenceTsMs := by
  rw [mapsToNth_iff referred nth made, mapped]
  exact fun same => other (Option.some.inj same)

/-- A Thursday itself is passed over; the third code is mapped as the second; a date behind the last Thursday of its
month is mapped to one in front of it; the second monthly code is mapped as the first. -/
theorem codes_not_nth :
    (mapExpiryCodeToDate kolkata "NIFTY" "WEEK" 1 (startOf (march 5 (by decide))) = some "2026-03-12" ∧
      ¬MapsToNth kolkata "NIFTY" "WEEK" Thursday 1 (startOf (march 5 (by decide)))) ∧
    (mapExpiryCodeToDate kolkata "NIFTY" "WEEK" 3 (startOf monday) = some "2026-03-12" ∧
      ¬MapsToNth kolkata "NIFTY" "WEEK" Thursday 3 (startOf monday)) ∧
    (mapExpiryCodeToDate kolkata "NIFTY" "MONTH" 1 (startOf (march 30 (by decide))) = some "2026-03-26" ∧
      ¬MapsToNth kolkata "NIFTY" "MONTH" MonthEndThursday 1 (startOf (march 30 (by decide)))) ∧
    (mapExpiryCodeToDate kolkata "NIFTY" "MONTH" 2 (startOf monday) = some "2026-03-26" ∧
      ¬MapsToNth kolkata "NIFTY" "MONTH" MonthEndThursday 2 (startOf monday)) := by
  have thursday : mapExpiryCodeToDate kolkata "NIFTY" "WEEK" 1 (startOf (march 5 (by decide))) = some "2026-03-12" := by
    decide +kernel
  have third : mapExpiryCodeToDate kolkata "NIFTY" "WEEK" 3 (startOf monday) = some "2026-03-12" := by decide +kernel
  have behind : mapExpiryCodeToDate kolkata "NIFTY" "MONTH" 1 (startOf (march 30 (by decide))) = some "2026-03-26" := by
    decide +kernel
  have second : mapExpiryCodeToDate kolkata "NIFTY" "MONTH" 2 (startOf monday) = some "2026-03-26" := by decide +kernel
  have april : Date.ofOrdinal 739736 = some ⟨2026, 4, 30, by decide⟩ := by decide +kernel
  refine ⟨⟨thursday, ?_⟩, ⟨third, ?_⟩, ⟨behind, ?_⟩, second, ?_⟩
  · exact @not_mapsToNth kolkata "NIFTY" "WEEK" Thursday _ 1 _ (march 5 (by decide)) (march 5 (by decide)) _ 739680
      (by decide +kernel) (by decide +kernel) (by decide +kernel) thursday (by decide +kernel)
  · exact @not_mapsToNth kolkata "NIFTY" "WEEK" Thursday _ 3 _ monday (march 19 (by decide)) _ 739694
      (by decide +kernel) (by decide +kernel) (by decide +kernel) third (by decide +kernel)
  · exact @not_mapsToNth kolkata "NIFTY" "MONTH" MonthEndThursday _ 1 _ (march 30 (by decide)) _ _ 739736
      (by decide +kernel) (by decide +kernel) april behind (by decide +kernel)
  · exact @not_mapsToNth kolkata "NIFTY" "MONTH" MonthEndThursday _ 2 _ monday _ _ 739736
      (by decide +kernel) (by decide +kernel) april second (by decide +kernel)

end TradeX.V1.OptionFormat
