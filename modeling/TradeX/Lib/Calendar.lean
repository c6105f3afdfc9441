import TradeX.Lib.IsoTime

/-! The Gregorian calendar by the numbers of its days: the date of a number, sums of dates and days, the day of
the week, and the n-th day of a kind from a day on. -/

namespace TradeX.Lib

def daysBeforeYear (year : ℕ) : ℕ :=
  let before := year - 1
  365 * before + before / 4 - before / 100 + before / 400

/-- The days of a year in front of one of its months. -/
def daysBeforeMonth (year month : ℕ) : ℕ := ((List.range (month - 1)).map fun month => daysIn year (month + 1)).sum

/-- The year of the day with this many days in front of it: cycles of four hundred years, centuries, cycles of four
years, and years. The last day of a cycle belongs to its last century and year. -/
def yearOf (n : ℕ) : ℕ :=
  let centuries := min (n % 146097 / 36524) 3
  let rest := n % 146097 - 36524 * centuries
  let years := min (rest % 1461 / 365) 3
  400 * (n / 146097) + 100 * centuries + 4 * (rest / 1461) + years + 1

/-- The month and the day of a day that is counted from the first of a month on. -/
def monthFrom (year : ℕ) : ℕ → ℕ → ℕ → ℕ × ℕ
  | 0, month, day => (month, day)
  | rounds + 1, month, day =>
    if day ≤ daysIn year month then (month, day) else monthFrom year rounds (month + 1) (day - daysIn year month)

/-- `date.max.toordinal()`. -/
def maxOrdinal : ℕ := 3652059

variable {year month day rounds n : ℕ}

theorem le_daysIn (year month : ℕ) : 28 ≤ daysIn year month := by
  unfold daysIn
  split
  · split <;> decide
  · split <;> decide

@[simp] theorem daysBeforeMonth_first (year : ℕ) : daysBeforeMonth year 1 = 0 := rfl

theorem daysBeforeMonth_succ (some_ : 0 < month) :
    daysBeforeMonth year (month + 1) = daysBeforeMonth year month + daysIn year month := by
  obtain ⟨before, rfl⟩ := Nat.exists_eq_succ_of_ne_zero some_.ne'
  unfold daysBeforeMonth
  rw [Nat.add_sub_cancel, Nat.succ_eq_add_one, Nat.add_sub_cancel, List.range_succ, List.map_append, List.sum_append]
  rfl

theorem daysBeforeMonth_mono {later : ℕ} (first : 0 < month) (before : month ≤ later) :
    daysBeforeMonth year month ≤ daysBeforeMonth year later := by
  induction later, before using Nat.le_induction with
  | base => exact le_refl _
  | succ later before ih =>
    rw [daysBeforeMonth_succ (first.trans_le before)]
    omega

/-- A year has 366 days where it is a leap year, and 365 otherwise. -/
theorem daysBeforeMonth_all (year : ℕ) :
    ((year % 4 = 0 ∧ year % 100 ≠ 0) ∨ year % 400 = 0) ∧ daysBeforeMonth year 13 = 366 ∨
      ¬((year % 4 = 0 ∧ year % 100 ≠ 0) ∨ year % 400 = 0) ∧ daysBeforeMonth year 13 = 365 := by
  have months : daysBeforeMonth year 13 = daysBeforeMonth year 2 + daysIn year 2 + 306 := by
    simp [daysBeforeMonth, List.range_succ, daysIn, add_assoc]
  have january : daysBeforeMonth year 2 = 31 := rfl
  rw [months, january, daysIn, if_pos rfl]
  split
  · next leap => exact .inl ⟨leap, rfl⟩
  · next common => exact .inr ⟨common, rfl⟩

theorem daysBeforeYear_succ (some_ : 0 < year) :
    daysBeforeYear (year + 1) = daysBeforeYear year + daysBeforeMonth year 13 := by
  obtain ⟨before, rfl⟩ : ∃ before, year = before + 1 := ⟨year - 1, by omega⟩
  have less : before / 100 ≤ before / 4 := Nat.div_le_div_left (by decide) (by decide)
  have four : (before + 1) / 4 = before / 4 + if (before + 1) % 4 = 0 then 1 else 0 := by
    split <;> omega
  have hundred : (before + 1) / 100 = before / 100 + if (before + 1) % 100 = 0 then 1 else 0 := by
    split <;> omega
  have fourHundred : (before + 1) / 400 = before / 400 + if (before + 1) % 400 = 0 then 1 else 0 := by
    split <;> omega
  unfold daysBeforeYear
  simp only [Nat.add_sub_cancel]
  rw [four, hundred, fourHundred]
  rcases daysBeforeMonth_all (before + 1) with ⟨leap, all⟩ | ⟨common, all⟩
  · rw [all]
    split <;> split <;> split <;> omega
  · rw [all]
    split <;> split <;> split <;> omega

theorem daysBeforeYear_mono {later : ℕ} (first : 0 < year) (before : year ≤ later) :
    daysBeforeYear year ≤ daysBeforeYear later := by
  induction later, before using Nat.le_induction with
  | base => exact le_refl _
  | succ later before ih =>
    rw [daysBeforeYear_succ (first.trans_le before)]
    omega

theorem daysBeforeYear_cycles (cycles : ℕ) {centuries fours years : ℕ} (third : centuries ≤ 3) (last : fours ≤ 24)
    (fourth : years ≤ 3) : daysBeforeYear (400 * cycles + 100 * centuries + 4 * fours + years + 1) =
      146097 * cycles + 36524 * centuries + 1461 * fours + 365 * years := by
  unfold daysBeforeYear
  rw [Nat.add_sub_cancel]
  have by4 : (400 * cycles + 100 * centuries + 4 * fours + years) / 4 = 100 * cycles + 25 * centuries + fours := by
    omega
  have by100 : (400 * cycles + 100 * centuries + 4 * fours + years) / 100 = 4 * cycles + centuries := by omega
  have by400 : (400 * cycles + 100 * centuries + 4 * fours + years) / 400 = cycles := by omega
  dsimp only
  rw [by4, by100, by400]
  omega

/-- The day lies in its year. -/
theorem yearOf_spec (n : ℕ) : 0 < yearOf n ∧ daysBeforeYear (yearOf n) ≤ n ∧ n < daysBeforeYear (yearOf n + 1) := by
  have positive : 0 < yearOf n := Nat.succ_pos _
  have days := daysBeforeMonth_all (yearOf n)
  rw [daysBeforeYear_succ positive]
  generalize daysBeforeMonth (yearOf n) 13 = all at days
  simp only [yearOf] at days ⊢
  have cycle : n = 146097 * (n / 146097) + n % 146097 ∧ n % 146097 < 146097 := by omega
  generalize n / 146097 = cycles at cycle days ⊢
  generalize n % 146097 = rest at cycle days ⊢
  have century : min (rest / 36524) 3 ≤ 3 ∧ 36524 * min (rest / 36524) 3 ≤ rest ∧
      (rest < 36524 * min (rest / 36524) 3 + 36524 ∨
        min (rest / 36524) 3 = 3 ∧ rest = 36524 * min (rest / 36524) 3 + 36524) := by
    omega
  generalize min (rest / 36524) 3 = centuries at century days ⊢
  have four : rest - 36524 * centuries =
        1461 * ((rest - 36524 * centuries) / 1461) + (rest - 36524 * centuries) % 1461 ∧
      (rest - 36524 * centuries) % 1461 < 1461 := by
    omega
  generalize (rest - 36524 * centuries) / 1461 = fours at four days ⊢
  generalize (rest - 36524 * centuries) % 1461 = left at four days ⊢
  have one : min (left / 365) 3 ≤ 3 ∧ 365 * min (left / 365) 3 ≤ left ∧
      (left < 365 * min (left / 365) 3 + 365 ∨ min (left / 365) 3 = 3 ∧ left = 365 * min (left / 365) 3 + 365) := by
    omega
  generalize min (left / 365) 3 = years at one days ⊢
  rw [daysBeforeYear_cycles cycles century.1 (by omega) one.1]
  omega

/-- A day in front of the end of a month lies in that month or an earlier one. -/
theorem monthFrom_spec (first : 0 < month) (some_ : 0 < day)
    (inside : daysBeforeMonth year month + day ≤ daysBeforeMonth year (month + rounds + 1)) {found : ℕ × ℕ}
    (result : monthFrom year rounds month day = found) :
    (month ≤ found.1 ∧ found.1 ≤ month + rounds) ∧ (0 < found.2 ∧ found.2 ≤ daysIn year found.1) ∧
      daysBeforeMonth year found.1 + found.2 = daysBeforeMonth year month + day := by
  induction rounds generalizing month day with
  | zero =>
    rw [Nat.add_zero, daysBeforeMonth_succ first] at inside
    subst result
    exact ⟨⟨le_refl _, le_refl _⟩, ⟨some_, Nat.le_of_add_le_add_left inside⟩, rfl⟩
  | succ rounds ih =>
    rw [monthFrom] at result
    split at result
    · next here =>
      subst result
      exact ⟨⟨le_refl _, Nat.le_add_right _ _⟩, ⟨some_, here⟩, rfl⟩
    · next behind =>
      have step := @daysBeforeMonth_succ year month first
      have rest := @ih (month + 1) (day - daysIn year month) (Nat.succ_pos month) (by omega)
        (by rw [step, show month + 1 + rounds = month + (rounds + 1) by omega]; omega) result
      omega

namespace Date

/-- The date of a year, a month and a day, where there is one. -/
def ofParts (year month day : ℕ) : Option Date :=
  if valid : (0 < year ∧ year < 10000) ∧ (0 < month ∧ month ≤ 12) ∧ 0 < day ∧ day ≤ daysIn year month then
    some ⟨year, month, day, valid⟩
  else none

/-- `date.fromordinal`. -/
def ofOrdinal (n : ℕ) : Option Date :=
  if n = 0 then none
  else
    let year := yearOf (n - 1)
    let (month, day) := monthFrom year 11 1 (n - daysBeforeYear year)
    ofParts year month day

/-- The sum with a `timedelta` of whole days. -/
def addDays (date : Date) (days : ℤ) : Option Date := ofOrdinal (date.ordinal + days).toNat

/-- `date.weekday`: Monday is 0. -/
def weekday (date : Date) : ℕ := (date.ordinal + 6) % 7

variable {date other : Date} {days : ℤ}

theorem ordinal_eq (date : Date) :
    date.ordinal = daysBeforeYear date.year + daysBeforeMonth date.year date.month + date.day := rfl

/-- The date lies in its month. -/
theorem ordinal_month (date : Date) : daysBeforeYear date.year + daysBeforeMonth date.year date.month < date.ordinal ∧
    date.ordinal ≤ daysBeforeYear date.year + daysBeforeMonth date.year (date.month + 1) := by
  have valid := date.valid
  rw [ordinal_eq, daysBeforeMonth_succ valid.2.1.1]
  omega

/-- The date lies in its year. -/
theorem ordinal_year (date : Date) :
    daysBeforeYear date.year < date.ordinal ∧ date.ordinal ≤ daysBeforeYear (date.year + 1) := by
  have valid := date.valid
  have month := ordinal_month date
  have last := @daysBeforeMonth_mono date.year (date.month + 1) 13 (Nat.succ_pos _) (by omega)
  rw [daysBeforeYear_succ valid.1.1]
  omega

theorem ordinal_bounds (date : Date) : 0 < date.ordinal ∧ date.ordinal ≤ maxOrdinal := by
  have valid := date.valid
  have year := ordinal_year date
  have last := @daysBeforeYear_mono (date.year + 1) 10000 (Nat.succ_pos _) (by omega)
  have end_ : daysBeforeYear 10000 = maxOrdinal := by decide
  omega

theorem ordinal_lt_of_year (before : date.year < other.year) : date.ordinal < other.ordinal := by
  have years := @daysBeforeYear_mono (date.year + 1) other.year (Nat.succ_pos _) before
  have mine := ordinal_year date
  have theirs := ordinal_year other
  omega

theorem ordinal_lt_of_month (year : date.year = other.year) (before : date.month < other.month) :
    date.ordinal < other.ordinal := by
  have months := @daysBeforeMonth_mono other.year (date.month + 1) other.month (Nat.succ_pos _) before
  have mine := ordinal_month date
  have theirs := ordinal_month other
  rw [year] at mine
  omega

/-- A date between two dates of a month lies in that month. -/
theorem month_between {first last : Date} (year : first.year = last.year) (month : first.month = last.month)
    (behind : first.ordinal ≤ date.ordinal) (before : date.ordinal ≤ last.ordinal) :
    date.year = first.year ∧ date.month = first.month := by
  have years : date.year = first.year := by
    by_contra other
    rcases lt_or_gt_of_ne other with less | more
    · exact absurd behind (not_le.mpr (ordinal_lt_of_year less))
    · exact absurd before (not_le.mpr (ordinal_lt_of_year (year ▸ more)))
  refine ⟨years, ?_⟩
  by_contra other
  rcases lt_or_gt_of_ne other with less | more
  · exact absurd behind (not_le.mpr (ordinal_lt_of_month years less))
  · exact absurd before (not_le.mpr (ordinal_lt_of_month (year ▸ years.symm) (month ▸ more)))

theorem ordinal_injective (same : date.ordinal = other.ordinal) : date = other := by
  have year : date.year = other.year := by
    rcases lt_trichotomy date.year other.year with before | equal | behind
    · exact absurd same (ordinal_lt_of_year before).ne
    · exact equal
    · exact absurd same (ordinal_lt_of_year behind).ne'
  have month : date.month = other.month := by
    rcases lt_trichotomy date.month other.month with before | equal | behind
    · exact absurd same (ordinal_lt_of_month year before).ne
    · exact equal
    · exact absurd same (ordinal_lt_of_month year.symm behind).ne'
  have day : date.day = other.day := by
    rw [ordinal_eq, ordinal_eq, year, month] at same
    omega
  obtain ⟨_, _, _, _⟩ := date
  obtain ⟨_, _, _, _⟩ := other
  cases year
  cases month
  cases day
  rfl

theorem ofParts_some (made : ofParts year month day = some date) :
    date.year = year ∧ date.month = month ∧ date.day = day := by
  unfold ofParts at made
  split at made
  · cases made
    exact ⟨rfl, rfl, rfl⟩
  · cases made

/-- Every number up to the last one is that of a date. -/
theorem ofOrdinal_exists (some_ : 0 < n) (last : n ≤ maxOrdinal) :
    ∃ date, ofOrdinal n = some date ∧ date.ordinal = n := by
  obtain ⟨year, after, before⟩ := yearOf_spec (n - 1)
  have bounded : yearOf (n - 1) < 10000 := by
    by_contra far
    have years := @daysBeforeYear_mono 10000 (yearOf (n - 1)) (by decide) (not_lt.mp far)
    have end_ : daysBeforeYear 10000 = maxOrdinal := by decide
    omega
  have zero := daysBeforeMonth_first (yearOf (n - 1))
  generalize found : monthFrom (yearOf (n - 1)) 11 1 (n - daysBeforeYear (yearOf (n - 1))) = parts
  obtain ⟨months, days, sum⟩ := monthFrom_spec (by decide) (by omega)
    (by rw [daysBeforeYear_succ year] at before; change 0 + _ ≤ daysBeforeMonth _ 13; omega) found
  have valid : (0 < yearOf (n - 1) ∧ yearOf (n - 1) < 10000) ∧ (0 < parts.1 ∧ parts.1 ≤ 12) ∧ 0 < parts.2 ∧
      parts.2 ≤ daysIn (yearOf (n - 1)) parts.1 := ⟨⟨year, bounded⟩, ⟨months.1, months.2⟩, days⟩
  refine ⟨⟨yearOf (n - 1), parts.1, parts.2, valid⟩, ?_, ?_⟩
  · simp only [ofOrdinal, if_neg some_.ne', found]
    exact dif_pos valid
  · rw [ordinal_eq]
    dsimp only
    omega

theorem ofOrdinal_ordinal (date : Date) : ofOrdinal date.ordinal = some date := by
  obtain ⟨some_, last⟩ := ordinal_bounds date
  obtain ⟨found, made, same⟩ := ofOrdinal_exists some_ last
  rw [made, ordinal_injective same]

theorem ofOrdinal_iff : ofOrdinal n = some date ↔ date.ordinal = n := by
  constructor
  · intro made
    have some_ : n ≠ 0 := by
      rintro rfl
      cases made
    by_cases last : n ≤ maxOrdinal
    · obtain ⟨found, again, same⟩ := ofOrdinal_exists (Nat.pos_of_ne_zero some_) last
      cases made.symm.trans again
      exact same
    · -- a year behind the last one has no date
      obtain ⟨year, after, before⟩ := yearOf_spec (n - 1)
      have far : 10000 ≤ yearOf (n - 1) := by
        by_contra near
        have years := @daysBeforeYear_mono (yearOf (n - 1) + 1) 10000 (Nat.succ_pos _) (by omega)
        have end_ : daysBeforeYear 10000 = maxOrdinal := by decide
        omega
      simp only [ofOrdinal, if_neg some_] at made
      have valid := date.valid
      rw [(ofParts_some made).1] at valid
      omega
  · rintro rfl
    exact ofOrdinal_ordinal date

theorem ofOrdinal_eq_none : ofOrdinal n = none ↔ n = 0 ∨ maxOrdinal < n := by
  constructor
  · intro missing
    by_contra inside
    obtain ⟨date, made, -⟩ := @ofOrdinal_exists n (by omega) (by omega)
    cases missing.symm.trans made
  · intro outside
    cases made : ofOrdinal n with
    | none => rfl
    | some date =>
      have bounds := ordinal_bounds date
      rw [ofOrdinal_iff.mp made] at bounds
      omega

theorem addDays_eq (sum : (date.ordinal : ℤ) + days = n) : date.addDays days = ofOrdinal n := by
  rw [addDays, sum, Int.toNat_natCast]

theorem addDays_iff : date.addDays days = some other ↔ (other.ordinal : ℤ) = date.ordinal + days := by
  have positive := (ordinal_bounds other).1
  rw [addDays, ofOrdinal_iff]
  omega

theorem addDays_exists (some_ : 0 < (date.ordinal : ℤ) + days) (last : (date.ordinal : ℤ) + days ≤ maxOrdinal) :
    ∃ other, date.addDays days = some other := by
  obtain ⟨other, made, -⟩ := @ofOrdinal_exists ((date.ordinal : ℤ) + days).toNat (by omega) (by omega)
  exact ⟨other, made⟩

end Date

/-! The n-th day of a kind. -/

/-- From the start on, the day is the n-th of its kind. -/
def NthFrom (kind : ℕ → Prop) [DecidablePred kind] (start n day : ℕ) : Prop :=
  kind day ∧ start ≤ day ∧ ((Finset.Icc start day).filter kind).card = n

section

variable {kind : ℕ → Prop} [DecidablePred kind] {start last other count : ℕ}

instance : Decidable (NthFrom kind start count last) := inferInstanceAs (Decidable (_ ∧ _))

theorem nthFrom_one (here : kind last) (from_ : start ≤ last) (first : ∀ day, start ≤ day → day < last → ¬kind day) :
    NthFrom kind start 1 last := by
  refine ⟨here, from_, Finset.card_eq_one.mpr ⟨last, ?_⟩⟩
  ext day
  rw [Finset.mem_filter, Finset.mem_Icc, Finset.mem_singleton]
  constructor
  · rintro ⟨⟨begins, ends⟩, found⟩
    by_contra different
    exact first day begins (lt_of_le_of_ne ends different) found
  · rintro rfl
    exact ⟨⟨from_, le_refl _⟩, here⟩

theorem NthFrom.positive (nth : NthFrom kind start count last) : 0 < count := by
  rw [← nth.2.2]
  exact Finset.card_pos.mpr ⟨last, Finset.mem_filter.mpr ⟨Finset.mem_Icc.mpr ⟨nth.2.1, le_refl _⟩, nth.1⟩⟩

/-- Later days of the kind have greater numbers. -/
theorem NthFrom.lt {later : ℕ} (nth : NthFrom kind start count last) (nth' : NthFrom kind start later other)
    (before : last < other) : count < later := by
  rw [← nth.2.2, ← nth'.2.2]
  apply Finset.card_lt_card
  rw [Finset.ssubset_iff_of_subset]
  · refine ⟨other, Finset.mem_filter.mpr ⟨Finset.mem_Icc.mpr ⟨nth'.2.1, le_refl _⟩, nth'.1⟩, fun member => ?_⟩
    exact absurd (Finset.mem_Icc.mp (Finset.mem_filter.mp member).1).2 (not_le.mpr before)
  · intro day member
    obtain ⟨between, found⟩ := Finset.mem_filter.mp member
    obtain ⟨begins, ends⟩ := Finset.mem_Icc.mp between
    exact Finset.mem_filter.mpr ⟨Finset.mem_Icc.mpr ⟨begins, ends.trans before.le⟩, found⟩

theorem NthFrom.unique (nth : NthFrom kind start count last) (nth' : NthFrom kind start count other) :
    last = other := by
  rcases lt_trichotomy last other with before | same | behind
  · exact absurd (nth.lt nth' before) (lt_irrefl _)
  · exact same
  · exact absurd (nth'.lt nth behind) (lt_irrefl _)

theorem NthFrom.first {day : ℕ} (one : NthFrom kind start 1 last) (begins : start ≤ day) (before : day < last) :
    ¬kind day := by
  intro here
  have nth : NthFrom kind start _ day := ⟨here, begins, rfl⟩
  exact absurd (nth.lt one before) (not_lt.mpr nth.positive)

/-- The next one of the kind behind the n-th. -/
theorem NthFrom.next (nth : NthFrom kind start count last) (here : kind other) (behind : last < other)
    (first : ∀ day, last < day → day < other → ¬kind day) : NthFrom kind start (count + 1) other := by
  refine ⟨here, nth.2.1.trans behind.le, ?_⟩
  have days : (Finset.Icc start other).filter kind = insert other ((Finset.Icc start last).filter kind) := by
    ext day
    simp only [Finset.mem_filter, Finset.mem_Icc, Finset.mem_insert]
    constructor
    · rintro ⟨⟨begins, ends⟩, found⟩
      by_cases same : day = other
      · exact .inl same
      · refine .inr ⟨⟨begins, ?_⟩, found⟩
        by_contra later
        exact first day (not_le.mp later) (lt_of_le_of_ne ends same) found
    · rintro (rfl | ⟨⟨begins, ends⟩, found⟩)
      · exact ⟨⟨nth.2.1.trans behind.le, le_refl _⟩, here⟩
      · exact ⟨⟨begins, ends.trans behind.le⟩, found⟩
  have new : other ∉ (Finset.Icc start last).filter kind := by
    intro member
    exact absurd (Finset.mem_Icc.mp (Finset.mem_filter.mp member).1).2 (not_le.mpr behind)
  rw [days, Finset.card_insert_of_notMem new, nth.2.2]

end

end TradeX.Lib
