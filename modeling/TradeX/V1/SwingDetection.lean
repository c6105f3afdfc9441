import TradeX.Lib.Series

/-! The swings of a price series: what the analyser marks, and when its marks are the bars that stand out on both
sides, as they can be told once the bars on the right are there. -/

namespace TradeX.V1

open Lib.Series

variable {α : Type u}

/-- An aggregate of a window, and how a price compares with it. -/
structure Extreme (α : Type u) where
  of : List α → Option α
  reaches : α → α → Bool
  reaches_self : ∀ price, reaches price price = true
  of_isSome : ∀ rows, rows ≠ [] → (of rows).isSome = true
  reaches_of : ∀ rows price extreme, of rows = some extreme →
    (reaches price extreme = true ↔ ∀ other ∈ rows, reaches price other = true)

/-- `rolling(..).max()` with `>=`. -/
def Extreme.highest [LinearOrder α] : Extreme α where
  of := List.max?
  reaches price other := decide (other ≤ price)
  reaches_self price := decide_eq_true (le_refl price)
  of_isSome rows some_ := by
    rw [List.isSome_max?_iff]
    exact some_
  reaches_of rows price extreme top := by
    obtain ⟨member, above⟩ := List.max?_eq_some_iff.mp top
    simp only [decide_eq_true_eq]
    exact ⟨fun reached other listed => (above other listed).trans reached, fun reached => reached extreme member⟩

/-- `rolling(..).min()` with `<=`. -/
def Extreme.lowest [LinearOrder α] : Extreme α where
  of := List.min?
  reaches price other := decide (price ≤ other)
  reaches_self price := decide_eq_true (le_refl price)
  of_isSome rows some_ := by
    rw [List.isSome_min?_iff]
    exact some_
  reaches_of rows price extreme bottom := by
    obtain ⟨member, below⟩ := List.min?_eq_some_iff.mp bottom
    simp only [decide_eq_true_eq]
    exact ⟨fun reached other listed => reached.trans (below other listed), fun reached => reached extreme member⟩

structure MarketStructureAnalyzer where
  swingLeft : ℕ := 2
  swingRight : ℕ := 2

namespace MarketStructureAnalyzer

/-- `_detect_swing_highs`, over the aggregate and the comparison. -/
def detectSwings (analyzer : MarketStructureAnalyzer) (extreme : Extreme α) (prices : List α) : List Bool :=
  let left := shift 1 (rolling analyzer.swingLeft extreme.of prices)
  let right := rolling analyzer.swingRight extreme.of prices
  let confirmed := List.zipWith and (compare extreme.reaches prices left) (compare extreme.reaches prices right)
  (shift analyzer.swingRight (confirmed.map some)).map (·.getD false)

def detectSwingHighs [LinearOrder α] (analyzer : MarketStructureAnalyzer) (high : List α) : List Bool :=
  analyzer.detectSwings .highest high

def detectSwingLows [LinearOrder α] (analyzer : MarketStructureAnalyzer) (low : List α) : List Bool :=
  analyzer.detectSwings .lowest low

variable (analyzer : MarketStructureAnalyzer) (extreme : Extreme α) (prices : List α)

/-- The price of a bar reaches those of some bars. -/
def Reaches (bars : Set ℕ) (j : ℕ) : Prop :=
  ∃ price, prices[j]? = some price ∧ ∀ k ∈ bars, ∀ other, prices[k]? = some other → extreme.reaches price other = true

/-- The bars before a bar that are to be compared with it. -/
def before (j : ℕ) : Set ℕ := { k | k < j ∧ j ≤ k + analyzer.swingLeft }

/-- The bars after a bar that are to be compared with it. -/
def after (j : ℕ) : Set ℕ := { k | j < k ∧ k ≤ j + analyzer.swingRight }

/-- The bars of the right window of a bar, the bar itself apart. -/
def nearest (j : ℕ) : Set ℕ := { k | k < j ∧ j < k + analyzer.swingRight }

/-- A row at which a swing is confirmed: the bar that the right bars follow stands out on both sides. -/
def Swing (i : ℕ) : Prop :=
  ∃ j, i = j + analyzer.swingRight ∧ 0 < j ∧
    Reaches extreme prices (analyzer.before j) j ∧ Reaches extreme prices (analyzer.after j) j

/-- What the detection is to do with a series of prices. -/
structure Detects (detect : List α → List Bool) : Prop where
  marked : ∀ i < prices.length, (detect prices)[i]? = some true ↔ analyzer.Swing extreme prices i
  causal : ∀ n, (detect prices).take n = detect (prices.take n)

/-- A bar that stands out on the left stands out among the nearest bars exactly when it does on the right. -/
def SidesAlike : Prop :=
  ∀ j, 0 < j → j + analyzer.swingRight < prices.length → Reaches extreme prices (analyzer.before j) j →
    (Reaches extreme prices (analyzer.nearest j) j ↔ Reaches extreme prices (analyzer.after j) j)

/-- The marks of the first rows are the marks of the first rows alone. -/
theorem take_detectSwings (n : ℕ) :
    (analyzer.detectSwings extreme prices).take n = analyzer.detectSwings extreme (prices.take n) := by
  simp only [detectSwings, ← List.map_take, take_shift, take_compare, take_rolling, List.take_zipWith]

variable {analyzer extreme prices} {i j : ℕ} {price : α}

theorem reaches_iff (found : prices[j]? = some price) (bars : Set ℕ) : Reaches extreme prices bars j ↔
    ∀ k ∈ bars, ∀ other, prices[k]? = some other → extreme.reaches price other = true := by
  constructor
  · rintro ⟨same, again, all⟩
    obtain rfl : price = same := Option.some.inj (found.symm.trans again)
    exact all
  · intro all
    exact ⟨price, found, all⟩

/-- The comparison with a window is one with each of its rows. -/
theorem any_window {size : ℕ} (some_ : 0 < size) (inside : i < prices.length) :
    (extreme.of (window size i prices)).any (extreme.reaches price) = true ↔
      ∀ k, i < k + size → k ≤ i → ∀ other, prices[k]? = some other → extreme.reaches price other = true := by
  have listed : prices[i] ∈ window size i prices :=
    mem_window.mpr ⟨i, by omega, le_rfl, List.getElem?_eq_getElem inside⟩
  obtain ⟨value, of⟩ := Option.isSome_iff_exists.mp (extreme.of_isSome _ (List.ne_nil_of_mem listed))
  rw [of, Option.any_some, extreme.reaches_of _ price value of]
  constructor
  · intro all k later earlier other found
    exact all other (mem_window.mpr ⟨k, later, earlier, found⟩)
  · intro all other member
    obtain ⟨k, later, earlier, found⟩ := mem_window.mp member
    exact all k later earlier other found

/-- The comparison with the left window, which the first bar does not have. -/
theorem left_compared (left : 0 < analyzer.swingLeft) (found : prices[j]? = some price) :
    ∃ confirmed, (compare extreme.reaches prices (shift 1 (rolling analyzer.swingLeft extreme.of prices)))[j]? =
      some confirmed ∧ (confirmed = true ↔ 0 < j ∧ Reaches extreme prices (analyzer.before j) j) := by
  obtain ⟨inside, -⟩ := List.getElem?_eq_some_iff.mp found
  have shifted : (shift 1 (rolling analyzer.swingLeft extreme.of prices))[j]? =
      some (if j = 0 then none else extreme.of (window analyzer.swingLeft (j - 1) prices)) := by
    rw [getElem?_shift (by rwa [length_rolling]), getElem?_rolling (by omega)]
    rcases Nat.eq_zero_or_pos j with rfl | later
    · rfl
    · rw [if_neg (by omega), if_neg later.ne']
  refine ⟨_, getElem?_compare found shifted, ?_⟩
  rcases Nat.eq_zero_or_pos j with rfl | later
  · rw [if_pos rfl]
    exact iff_of_false Bool.false_ne_true fun first => absurd first.1 (lt_irrefl 0)
  · rw [if_neg later.ne', any_window left (by omega), reaches_iff found, and_iff_right later]
    constructor
    · rintro all k ⟨earlier, near⟩
      exact all k (by omega) (by omega)
    · intro all k near earlier
      exact all k ⟨by omega, by omega⟩

/-- The comparison with the right window, which ends with the bar. -/
theorem right_compared (right : 0 < analyzer.swingRight) (found : prices[j]? = some price) :
    ∃ confirmed, (compare extreme.reaches prices (rolling analyzer.swingRight extreme.of prices))[j]? =
      some confirmed ∧ (confirmed = true ↔ Reaches extreme prices (analyzer.nearest j) j) := by
  obtain ⟨inside, -⟩ := List.getElem?_eq_some_iff.mp found
  refine ⟨_, getElem?_compare found (getElem?_rolling inside), ?_⟩
  rw [any_window right inside, reaches_iff found]
  constructor
  · rintro all k ⟨earlier, near⟩
    exact all k near earlier.le
  · intro all k near earlier other listed
    rcases earlier.eq_or_lt with rfl | before
    · obtain rfl : price = other := Option.some.inj (found.symm.trans listed)
      exact extreme.reaches_self price
    · exact all k ⟨before, near⟩ other listed

/-- What the analyser marks: the bar that the right bars follow stands out on the left and among the nearest bars. -/
theorem getElem?_detectSwings (left : 0 < analyzer.swingLeft) (right : 0 < analyzer.swingRight)
    (inside : i < prices.length) : (analyzer.detectSwings extreme prices)[i]? = some true ↔
      ∃ j, i = j + analyzer.swingRight ∧ 0 < j ∧
        Reaches extreme prices (analyzer.before j) j ∧ Reaches extreme prices (analyzer.nearest j) j := by
  rw [detectSwings]
  set confirmed := List.zipWith and
    (compare extreme.reaches prices (shift 1 (rolling analyzer.swingLeft extreme.of prices)))
    (compare extreme.reaches prices (rolling analyzer.swingRight extreme.of prices)) with joined
  have rows : confirmed.length = prices.length := by
    rw [joined, List.length_zipWith, length_compare (by rw [length_shift, length_rolling]),
      length_compare length_rolling, min_self]
  rw [List.getElem?_map, getElem?_shift (by rwa [List.length_map, rows])]
  rcases lt_or_ge i analyzer.swingRight with early | late
  · rw [if_pos early]
    refine iff_of_false ?_ ?_
    · simp
    · rintro ⟨j, rfl, -⟩
      omega
  · obtain ⟨j, rfl⟩ := Nat.exists_eq_add_of_le' late
    have found : prices[j]? = some prices[j] := List.getElem?_eq_getElem (by omega)
    obtain ⟨first, onLeft, leftIff⟩ := @left_compared _ analyzer extreme prices j _ left found
    obtain ⟨second, onRight, rightIff⟩ := @right_compared _ analyzer extreme prices j _ right found
    rw [if_neg (by omega), Nat.add_sub_cancel, List.getElem?_map, joined, List.getElem?_zipWith, onLeft, onRight,
      Option.map_some, Option.map_some, Option.getD_some, Option.some.injEq, Bool.and_eq_true, leftIff, rightIff]
    constructor
    · rintro ⟨⟨later, standsOut⟩, among⟩
      exact ⟨j, rfl, later, standsOut, among⟩
    · rintro ⟨k, same, later, standsOut, among⟩
      obtain rfl : j = k := by omega
      exact ⟨⟨later, standsOut⟩, among⟩

/-- The detection is right exactly when the nearest bars tell what the bars on the right would. -/
theorem marks_iff (left : 0 < analyzer.swingLeft) (right : 0 < analyzer.swingRight) :
    analyzer.Detects extreme prices (analyzer.detectSwings extreme) ↔ analyzer.SidesAlike extreme prices := by
  constructor
  · intro detects j later inside standsOut
    have marked := (getElem?_detectSwings left right inside).symm.trans (detects.marked _ inside)
    constructor
    · intro among
      obtain ⟨k, same, -, -, onRight⟩ := marked.mp ⟨j, rfl, later, standsOut, among⟩
      obtain rfl : j = k := by omega
      exact onRight
    · intro onRight
      obtain ⟨k, same, -, -, among⟩ := marked.mpr ⟨j, rfl, later, standsOut, onRight⟩
      obtain rfl : j = k := by omega
      exact among
  · intro alike
    refine ⟨fun i inside => (getElem?_detectSwings left right inside).trans ?_,
      take_detectSwings analyzer extreme prices⟩
    constructor
    · rintro ⟨j, rfl, later, standsOut, among⟩
      exact ⟨j, rfl, later, standsOut, (alike j later inside standsOut).mp among⟩
    · rintro ⟨j, rfl, later, standsOut, onRight⟩
      exact ⟨j, rfl, later, standsOut, (alike j later inside standsOut).mpr onRight⟩

/-- The marks of the highs and of the lows are right exactly when each bar that stands out on the left is exceeded by
one of its nearest bars where it is by one of the bars after it. -/
theorem swings_detected_iff [LinearOrder α] (analyzer : MarketStructureAnalyzer) (left : 0 < analyzer.swingLeft)
    (right : 0 < analyzer.swingRight) (high low : List α) :
    analyzer.Detects .highest high analyzer.detectSwingHighs ∧ analyzer.Detects .lowest low analyzer.detectSwingLows ↔
      analyzer.SidesAlike .highest high ∧ analyzer.SidesAlike .lowest low :=
  and_congr (marks_iff left right) (marks_iff left right)

/-- A series without swings. -/
theorem level_detected_iff :
    let analyzer : MarketStructureAnalyzer := {}
    let high : List ℚ := [5, 5, 5, 5]
    let low : List ℚ := [4, 4, 4, 4]
    analyzer.Detects .highest high analyzer.detectSwingHighs ∧ analyzer.Detects .lowest low analyzer.detectSwingLows ↔
      analyzer.SidesAlike .highest high ∧ analyzer.SidesAlike .lowest low :=
  swings_detected_iff {} (by decide) (by decide) [5, 5, 5, 5] [4, 4, 4, 4]

/-- In a series that only rises, a bar is marked as a high. -/
theorem rising_marked :
    let analyzer : MarketStructureAnalyzer := {}
    let prices : List ℚ := [1, 2, 3, 4]
    analyzer.detectSwingHighs prices = [false, false, false, true] ∧
      ¬ (analyzer.Detects .highest prices analyzer.detectSwingHighs ∧
        analyzer.Detects .lowest prices analyzer.detectSwingLows) := by
  intro analyzer prices
  have marks : analyzer.detectSwingHighs prices = [false, false, false, true] := by decide +kernel
  refine ⟨marks, ?_⟩
  rintro ⟨detects, -⟩
  have marked := (detects.marked 3 (by decide)).mp (by rw [marks]; rfl)
  obtain ⟨j, place, -, -, price, found, above⟩ := marked
  obtain rfl : j = 1 := by
    have two : analyzer.swingRight = 2 := rfl
    omega
  have top := above 2 ⟨by decide, by decide⟩ 3 rfl
  obtain rfl : 2 = price := Option.some.inj found
  exact absurd top (by decide)

end MarketStructureAnalyzer

end TradeX.V1
