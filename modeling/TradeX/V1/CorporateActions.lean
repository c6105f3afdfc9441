import TradeX.Lib.Decimal
import TradeX.Lib.KeyedFold

/-! Prices adjusted by corporate actions: the cumulative factors of the actions within the dates of a series, and what
becomes of a bar when all factors dated after it are applied to it. -/

namespace TradeX.V1.CorporateActions

open Lib

variable {δ : Type}

inductive ActionType where
  | split
  | dividend
  | bonus
  | rights
  deriving DecidableEq, Repr

structure CorporateAction (δ : Type) where
  actionDate : δ
  actionType : ActionType
  ratio : ℚ := 1

/-- What one action does to the prices before it. -/
def CorporateAction.factor (action : CorporateAction δ) : ℚ :=
  match action.actionType with
  | .split => 1 / action.ratio
  | .bonus => 1 / (1 + action.ratio)
  | .dividend | .rights => 1

/-- A bar with the date of its timestamp. -/
structure PriceBar (δ : Type) where
  date : δ
  openPrice : ℚ
  high : ℚ
  low : ℚ
  close : ℚ
  volume : ℤ
  adjClose : Option ℚ := none

inductive Direction where
  | backward
  | forward
  deriving DecidableEq, Repr

def PriceBar.scale (bar : PriceBar δ) (factor : ℚ) : PriceBar δ :=
  { bar with
    openPrice := bar.openPrice * factor
    high := bar.high * factor
    low := bar.low * factor
    close := bar.close * factor
    volume := Decimal.toInt (bar.volume / factor) }

/-- The four prices of a bar. -/
def PriceBar.prices (bar : PriceBar δ) : ℚ × ℚ × ℚ × ℚ := (bar.openPrice, bar.high, bar.low, bar.close)

/-- The volume is scaled by the inverses of some factors, and truncated each time. -/
def rescaled (volume : ℤ) (factors : List ℚ) : ℤ :=
  factors.foldl (fun volume factor => Decimal.toInt (volume / factor)) volume

variable {bar : PriceBar δ}

/-- A bar is scaled by one factor after the other. -/
def PriceBar.scaleAll (bar : PriceBar δ) (factors : List ℚ) : PriceBar δ := factors.foldl PriceBar.scale bar

@[simp] theorem PriceBar.scale_date (factor : ℚ) : (bar.scale factor).date = bar.date := rfl

theorem PriceBar.scaleAll_date (factors : List ℚ) (bar : PriceBar δ) : (bar.scaleAll factors).date = bar.date := by
  induction factors generalizing bar with
  | nil => rfl
  | cons factor factors ih => exact ih (bar.scale factor)

theorem PriceBar.scaleAll_prices (factors : List ℚ) (bar : PriceBar δ) :
    (bar.scaleAll factors).prices = (bar.scale factors.prod).prices := by
  induction factors generalizing bar with
  | nil => simp [scaleAll, scale, prices]
  | cons factor factors ih =>
    rw [scaleAll, List.foldl_cons, ← scaleAll, ih]
    simp only [prices, scale, List.prod_cons, mul_assoc]

theorem PriceBar.scaleAll_volume (factors : List ℚ) (bar : PriceBar δ) :
    (bar.scaleAll factors).volume = rescaled bar.volume factors := by
  induction factors generalizing bar with
  | nil => rfl
  | cons factor factors ih => exact ih (bar.scale factor)

variable [LinearOrder δ]

/-- The bars that a factor of a date is applied to. -/
def Direction.mask (direction : Direction) (date factorDate : δ) : Bool :=
  match direction with
  | .backward => decide (date < factorDate)
  | .forward => decide (factorDate ≤ date)

/-- The actions of a symbol, and the order in which a query gives those of one date. -/
structure CorporateActionStore (δ : Type) [LinearOrder δ] where
  actions : List (CorporateAction δ)
  orderBy : List (CorporateAction δ) → List (CorporateAction δ)
  orderBy_perm : ∀ rows, (orderBy rows).Perm rows
  orderBy_sorted : ∀ rows, (orderBy rows).Pairwise fun a b => a.actionDate ≤ b.actionDate

namespace CorporateActionStore

variable (store : CorporateActionStore δ)

/-- `get_actions` -/
def getActions (fromDate toDate : δ) : List (CorporateAction δ) :=
  store.orderBy (store.actions.filter fun action => fromDate ≤ action.actionDate ∧ action.actionDate ≤ toDate)

/-- The loop of `get_adjustment_factors`, behind the cumulative factor so far. -/
def cumulate (cumulative : ℚ) : List (CorporateAction δ) → List (δ × ℚ)
  | [] => []
  | action :: rest => (action.actionDate, cumulative * action.factor) :: cumulate (cumulative * action.factor) rest

/-- `get_adjustment_factors` -/
def getAdjustmentFactors (fromDate toDate : δ) : List (δ × ℚ) := cumulate 1 (store.getActions fromDate toDate)

/-- The loop of `apply_adjustment` over the factors, the latest one first. -/
def applyFactors (direction : Direction) (factors : List (δ × ℚ)) (df : List (PriceBar δ)) : List (PriceBar δ) :=
  (sortedBy (fun entry => OrderDual.toDual entry.1) factors).foldl (fun df entry =>
    df.map fun bar => if direction.mask bar.date entry.1 then bar.scale entry.2 else bar) df

/-- `apply_adjustment` -/
def applyAdjustment (df : List (PriceBar δ)) (direction : Direction) : List (PriceBar δ) :=
  match (df.map PriceBar.date).min?, (df.map PriceBar.date).max? with
  | some minDate, some maxDate =>
    (applyFactors direction (store.getAdjustmentFactors minDate maxDate) df).map fun bar =>
      { bar with adjClose := some bar.close }
  | _, _ => df

/-- The actions that are dated after a date, those after the last bar of a series included. -/
def later (date : δ) : List (CorporateAction δ) := store.actions.filter fun action => date < action.actionDate

/-- What the actions after a date make of a price of that date. -/
def factorAfter (date : δ) : ℚ := ((store.later date).map CorporateAction.factor).prod

/-- What the adjustment is to do with a series. -/
structure Adjusts (df : List (PriceBar δ)) : Prop where
  prices : (store.applyAdjustment df .backward).map PriceBar.prices =
    df.map fun bar => (bar.scale (store.factorAfter bar.date)).prices
  volumes : List.Forall₂ (fun bar adjusted => ∃ factors : List ℚ, (∀ factor ∈ factors, 0 < factor) ∧
    factors.prod = store.factorAfter bar.date ∧ factors.length ≤ (store.later bar.date).length ∧
    adjusted.volume = rescaled bar.volume factors) df
    (store.applyAdjustment df .backward)
  ranges : ∀ first last : δ,
    (store.applyAdjustment (df.filter fun bar => first ≤ bar.date ∧ bar.date ≤ last) .backward).map PriceBar.prices =
      ((store.applyAdjustment df .backward).filter fun bar => first ≤ bar.date ∧ bar.date ≤ last).map PriceBar.prices

end CorporateActionStore

/-- Of each action the factor, as often as there are actions after the date among it and those behind it. -/
def repeated (date : δ) : List (CorporateAction δ) → ℚ
  | [] => 1
  | action :: rest =>
    action.factor ^ (action :: rest).countP (fun other => date < other.actionDate) * repeated date rest

/-- No bar is to be adjusted, and in no range of the series do the factors that are applied to a bar add up. -/
structure CorporateActionStore.Balanced (store : CorporateActionStore δ) (df : List (PriceBar δ)) : Prop where
  after : ∀ bar ∈ df, store.factorAfter bar.date = 1
  within : ∀ first ∈ df, ∀ last ∈ df, ∀ bar ∈ df, first.date ≤ bar.date → bar.date ≤ last.date →
    repeated bar.date (store.getActions first.date last.date) = 1

variable {store : CorporateActionStore δ} {df : List (PriceBar δ)} {minDate maxDate date : δ}

namespace CorporateActionStore

/-- The loop scales each bar by the factors of the dates that it is masked for. -/
theorem foldl_masked (direction : Direction) (entries : List (δ × ℚ)) (df : List (PriceBar δ)) :
    entries.foldl (fun df entry =>
      df.map fun bar => if direction.mask bar.date entry.1 then bar.scale entry.2 else bar) df =
    df.map fun bar => bar.scaleAll ((entries.filter fun entry => direction.mask bar.date entry.1).map Prod.snd) := by
  induction entries generalizing df with
  | nil => exact (List.map_id' df).symm
  | cons entry entries ih =>
    rw [List.foldl_cons, ih, List.map_map]
    refine List.map_congr_left fun bar _ => ?_
    rw [Function.comp_apply, List.filter_cons]
    split
    · rw [PriceBar.scale_date, List.map_cons, PriceBar.scaleAll, PriceBar.scaleAll, List.foldl_cons]
    · rfl

variable (store) in
/-- The factors that a bar of a date is scaled by, in their order. -/
def applied (minDate maxDate date : δ) : List ℚ :=
  ((sortedBy (fun entry => OrderDual.toDual entry.1) (store.getAdjustmentFactors minDate maxDate)).filter
    fun entry => date < entry.1).map Prod.snd

theorem applyAdjustment_eq (least : (df.map PriceBar.date).min? = some minDate)
    (greatest : (df.map PriceBar.date).max? = some maxDate) : store.applyAdjustment df .backward = df.map fun bar =>
      { bar.scaleAll (store.applied minDate maxDate bar.date) with
        adjClose := some (bar.scaleAll (store.applied minDate maxDate bar.date)).close } := by
  rw [applyAdjustment, least, greatest]
  dsimp only
  rw [applyFactors, foldl_masked, List.map_map]
  rfl

/-- Applied to a bar are the products of the initial parts that end after its date. -/
theorem prod_cumulate (date : δ) (cumulative : ℚ) (rows : List (CorporateAction δ)) :
    (((cumulate cumulative rows).filter fun entry => date < entry.1).map Prod.snd).prod =
      cumulative ^ rows.countP (fun other => date < other.actionDate) * repeated date rows := by
  induction rows generalizing cumulative with
  | nil => simp [cumulate, repeated]
  | cons action rest ih =>
    rw [cumulate, repeated, List.filter_cons, List.countP_cons]
    split
    · rw [List.map_cons, List.prod_cons, ih]
      ring
    · rw [ih, add_zero, ← mul_assoc, ← mul_pow]

omit [LinearOrder δ] in
theorem dates_cumulate (cumulative : ℚ) (rows : List (CorporateAction δ)) :
    (cumulate cumulative rows).map Prod.fst = rows.map CorporateAction.actionDate := by
  induction rows generalizing cumulative with
  | nil => rfl
  | cons action rest ih => rw [cumulate, List.map_cons, List.map_cons, ih]

omit [LinearOrder δ] in
theorem cumulate_positive {cumulative : ℚ} {rows : List (CorporateAction δ)} (start : 0 < cumulative)
    (positive : ∀ action ∈ rows, 0 < action.factor) : ∀ entry ∈ cumulate cumulative rows, 0 < entry.2 := by
  induction rows generalizing cumulative with
  | nil => exact fun entry none_ => nomatch none_
  | cons action rest ih =>
    obtain ⟨own, others⟩ := List.forall_mem_cons.mp positive
    rw [cumulate, List.forall_mem_cons]
    exact ⟨mul_pos start own, ih (mul_pos start own) others⟩

theorem applied_perm : (store.applied minDate maxDate date).Perm
    (((store.getAdjustmentFactors minDate maxDate).filter fun entry => date < entry.1).map Prod.snd) :=
  ((sortedBy_perm _ _).filter _).map _

theorem applied_prod : (store.applied minDate maxDate date).prod =
    repeated date (store.getActions minDate maxDate) := by
  rw [applied_perm.prod_eq, getAdjustmentFactors, prod_cumulate, one_pow, one_mul]

theorem mem_getActions {action : CorporateAction δ} (member : action ∈ store.getActions minDate maxDate) :
    action ∈ store.actions ∧ minDate ≤ action.actionDate ∧ action.actionDate ≤ maxDate := by
  have kept := (store.orderBy_perm _).mem_iff.mp member
  obtain ⟨stored, within⟩ := List.mem_filter.mp kept
  exact ⟨stored, of_decide_eq_true within⟩

theorem factor_positive (ratios : ∀ action ∈ store.actions, 0 < action.ratio) :
    ∀ action ∈ store.actions, 0 < action.factor := by
  intro action member
  have ratio := ratios action member
  rw [CorporateAction.factor]
  split
  · positivity
  · positivity
  · exact one_pos
  · exact one_pos

theorem applied_positive (ratios : ∀ action ∈ store.actions, 0 < action.ratio) :
    ∀ factor ∈ store.applied minDate maxDate date, 0 < factor := by
  intro factor member
  obtain ⟨entry, kept, rfl⟩ := List.mem_map.mp (applied_perm.mem_iff.mp member)
  refine cumulate_positive one_pos (fun action listed => ?_) entry (List.mem_filter.mp kept).1
  exact factor_positive ratios action (mem_getActions listed).1

theorem applied_length : (store.applied minDate maxDate date).length ≤ (store.later date).length := by
  have dated : ((store.getAdjustmentFactors minDate maxDate).filter fun entry => date < entry.1).length =
      ((store.getActions minDate maxDate).filter fun action => date < action.actionDate).length := by
    rw [← List.countP_eq_length_filter, ← List.countP_eq_length_filter]
    have mapped := congrArg (List.countP fun other => decide (date < other))
      (dates_cumulate 1 (store.getActions minDate maxDate))
    rwa [List.countP_map, List.countP_map] at mapped
  rw [applied_perm.length_eq, List.length_map, dated, getActions, ((store.orderBy_perm _).filter _).length_eq, later,
    List.filter_filter, ← List.countP_eq_length_filter, ← List.countP_eq_length_filter]
  refine List.countP_mono_left fun action _ both => ?_
  exact (Bool.and_eq_true _ _ ▸ both).1

/-- The prices of a series, each scaled by what is applied to it. -/
theorem prices_applied (least : (df.map PriceBar.date).min? = some minDate)
    (greatest : (df.map PriceBar.date).max? = some maxDate) :
    (store.applyAdjustment df .backward).map PriceBar.prices =
      df.map fun bar => (bar.scale (repeated bar.date (store.getActions minDate maxDate))).prices := by
  rw [applyAdjustment_eq least greatest, List.map_map]
  refine List.map_congr_left fun bar _ => ?_
  rw [← applied_prod, ← PriceBar.scaleAll_prices]
  rfl

omit [LinearOrder δ] in
theorem scale_one (bar : PriceBar δ) : (bar.scale 1).prices = bar.prices := by
  simp only [PriceBar.scale, PriceBar.prices, mul_one]

/-- A series has bars of its first and of its last date. -/
theorem ends_of_ne_nil (some_ : df ≠ []) : ∃ first ∈ df, ∃ last ∈ df,
    (df.map PriceBar.date).min? = some first.date ∧ (df.map PriceBar.date).max? = some last.date ∧
      ∀ bar ∈ df, first.date ≤ bar.date ∧ bar.date ≤ last.date := by
  have dates : df.map PriceBar.date ≠ [] := mt List.map_eq_nil_iff.mp some_
  obtain ⟨minDate, least⟩ := Option.isSome_iff_exists.mp (List.isSome_min?_iff.mpr dates)
  obtain ⟨maxDate, greatest⟩ := Option.isSome_iff_exists.mp (List.isSome_max?_iff.mpr dates)
  obtain ⟨earliest, below⟩ := List.min?_eq_some_iff.mp least
  obtain ⟨latest, above⟩ := List.max?_eq_some_iff.mp greatest
  obtain ⟨first, firstListed, rfl⟩ := List.mem_map.mp earliest
  obtain ⟨last, lastListed, rfl⟩ := List.mem_map.mp latest
  exact ⟨first, firstListed, last, lastListed, least, greatest, fun bar member =>
    ⟨below _ (List.mem_map_of_mem member), above _ (List.mem_map_of_mem member)⟩⟩

/-- In a balanced series, and in each part of it, the prices stay as they are. -/
theorem Balanced.prices (balanced : store.Balanced df) {part : List (PriceBar δ)} (listed : ∀ bar ∈ part, bar ∈ df) :
    (store.applyAdjustment part .backward).map PriceBar.prices = part.map PriceBar.prices := by
  rcases eq_or_ne part [] with rfl | some_
  · rfl
  · obtain ⟨first, firstListed, last, lastListed, least, greatest, within⟩ := ends_of_ne_nil some_
    rw [prices_applied least greatest]
    refine List.map_congr_left fun bar member => ?_
    obtain ⟨behind, before⟩ := within bar member
    rw [balanced.within first (listed first firstListed) last (listed last lastListed) bar (listed bar member) behind
      before, scale_one]

/-- The range of a series from one of its bars to another one. -/
theorem range_ends {first last : PriceBar δ} (firstListed : first ∈ df) (lastListed : last ∈ df)
    (order : first.date ≤ last.date) :
    ((df.filter fun bar => first.date ≤ bar.date ∧ bar.date ≤ last.date).map PriceBar.date).min? = some first.date ∧
      ((df.filter fun bar => first.date ≤ bar.date ∧ bar.date ≤ last.date).map PriceBar.date).max? =
        some last.date := by
  have inside {bar : PriceBar δ} (member : bar ∈ df) (behind : first.date ≤ bar.date) (before : bar.date ≤ last.date) :
      bar.date ∈ (df.filter fun bar => first.date ≤ bar.date ∧ bar.date ≤ last.date).map PriceBar.date :=
    List.mem_map_of_mem (List.mem_filter.mpr ⟨member, decide_eq_true ⟨behind, before⟩⟩)
  have bounds (date : δ) (member : date ∈
      (df.filter fun bar => first.date ≤ bar.date ∧ bar.date ≤ last.date).map PriceBar.date) :
      first.date ≤ date ∧ date ≤ last.date := by
    obtain ⟨bar, kept, rfl⟩ := List.mem_map.mp member
    exact of_decide_eq_true (List.mem_filter.mp kept).2
  constructor
  · exact List.min?_eq_some_iff.mpr ⟨inside firstListed le_rfl order, fun date member => (bounds date member).1⟩
  · exact List.max?_eq_some_iff.mpr ⟨inside lastListed order le_rfl, fun date member => (bounds date member).2⟩

/-- Each bar becomes one of the same date, so that a range of the adjusted bars are those of the range. -/
theorem applyAdjustment_map (store : CorporateActionStore δ) (df : List (PriceBar δ)) :
    ∃ adjusted : PriceBar δ → PriceBar δ, store.applyAdjustment df .backward = df.map adjusted ∧
      ∀ first last : δ, (store.applyAdjustment df .backward).filter (fun bar => first ≤ bar.date ∧ bar.date ≤ last) =
        (df.filter fun bar => first ≤ bar.date ∧ bar.date ≤ last).map adjusted := by
  obtain ⟨adjusted, whole, dated⟩ : ∃ adjusted : PriceBar δ → PriceBar δ,
      store.applyAdjustment df .backward = df.map adjusted ∧ ∀ bar, (adjusted bar).date = bar.date := by
    rcases eq_or_ne df [] with rfl | some_
    · exact ⟨id, rfl, fun bar => rfl⟩
    · obtain ⟨first, -, last, -, least, greatest, -⟩ := ends_of_ne_nil some_
      exact ⟨_, applyAdjustment_eq least greatest, fun bar => PriceBar.scaleAll_date _ bar⟩
  refine ⟨adjusted, whole, fun first last => ?_⟩
  have sameRange : ((fun bar : PriceBar δ => decide (first ≤ bar.date ∧ bar.date ≤ last)) ∘ adjusted) =
      fun bar : PriceBar δ => decide (first ≤ bar.date ∧ bar.date ≤ last) := by
    funext bar
    rw [Function.comp_apply, dated]
  rw [whole, List.filter_map, sameRange]

/-- In each range of a series that is adjusted as it is to be, a bar is scaled by the product of the actions after
it. -/
theorem Adjusts.repeated_eq (adjusts : store.Adjusts df) {first last bar : PriceBar δ} (firstListed : first ∈ df)
    (lastListed : last ∈ df) (listed : bar ∈ df) (behind : first.date ≤ bar.date) (before : bar.date ≤ last.date)
    (priced : bar.close ≠ 0) :
    repeated bar.date (store.getActions first.date last.date) = store.factorAfter bar.date := by
  obtain ⟨least, greatest⟩ := range_ends firstListed lastListed (behind.trans before)
  obtain ⟨adjusted, whole, range⟩ := applyAdjustment_map store df
  have inWhole := adjusts.prices
  have inRange := adjusts.ranges first.date last.date
  rw [whole, List.map_map, List.map_inj_left] at inWhole
  rw [prices_applied least greatest, range, List.map_map, List.map_inj_left] at inRange
  have kept : bar ∈ df.filter fun bar => decide (first.date ≤ bar.date ∧ bar.date ≤ last.date) :=
    List.mem_filter.mpr ⟨listed, decide_eq_true ⟨behind, before⟩⟩
  have same := (inRange bar kept).trans (inWhole bar listed)
  simp only [PriceBar.prices, PriceBar.scale, Prod.mk.injEq] at same
  exact mul_left_cancel₀ priced same.2.2.2

/-- In the range of its own date no factor is applied to a bar. -/
theorem repeated_own (date : δ) : repeated date (store.getActions date date) = 1 := by
  have none_ : ∀ action ∈ store.getActions date date, ¬ date < action.actionDate := fun action member =>
    (mem_getActions member).2.2.not_gt
  generalize store.getActions date date = rows at none_
  induction rows with
  | nil => rfl
  | cons action rest ih =>
    have count : (action :: rest).countP (fun other => date < other.actionDate) = 0 :=
      List.countP_eq_zero.mpr fun other member => mt of_decide_eq_true (none_ other member)
    rw [repeated, count, pow_zero, one_mul]
    exact ih fun other member => none_ other (List.mem_cons_of_mem _ member)

/-- Where nothing adds up, a series is adjusted as it is to be; and a series without a price of 0 is only then. -/
theorem adjusts_iff (store : CorporateActionStore δ) (ratios : ∀ action ∈ store.actions, 0 < action.ratio)
    (df : List (PriceBar δ)) : (store.Balanced df → store.Adjusts df) ∧
      ((∀ bar ∈ df, bar.close ≠ 0) → (store.Adjusts df ↔ store.Balanced df)) := by
  have enough : store.Balanced df → store.Adjusts df := by
    intro balanced
    refine ⟨?_, ?_, ?_⟩
    · rw [balanced.prices fun _ listed => listed]
      refine List.map_congr_left fun bar listed => ?_
      rw [balanced.after bar listed, scale_one]
    · rcases eq_or_ne df [] with rfl | some_
      · exact .nil
      · obtain ⟨first, firstListed, last, lastListed, least, greatest, within⟩ := ends_of_ne_nil some_
        rw [applyAdjustment_eq least greatest, List.forall₂_map_right_iff, List.forall₂_same]
        intro bar listed
        refine ⟨store.applied first.date last.date bar.date, applied_positive ratios, ?_, applied_length,
          PriceBar.scaleAll_volume _ bar⟩
        obtain ⟨behind, before⟩ := within bar listed
        rw [applied_prod, balanced.within first firstListed last lastListed bar listed behind before,
          balanced.after bar listed]
    · intro first last
      obtain ⟨adjusted, whole, range⟩ := applyAdjustment_map store df
      have unchanged := balanced.prices fun _ listed => listed
      rw [whole, List.map_map, List.map_inj_left] at unchanged
      rw [balanced.prices fun bar kept => (List.mem_filter.mp kept).1, range, List.map_map]
      exact List.map_congr_left fun bar kept => (unchanged bar (List.mem_filter.mp kept).1).symm
  refine ⟨enough, fun priced => ⟨fun adjusts => ?_, enough⟩⟩
  have after : ∀ bar ∈ df, store.factorAfter bar.date = 1 := by
    intro bar listed
    rw [← adjusts.repeated_eq listed listed listed le_rfl le_rfl (priced bar listed), repeated_own]
  refine ⟨after, fun first firstListed last lastListed bar listed behind before => ?_⟩
  rw [adjusts.repeated_eq firstListed lastListed listed behind before (priced bar listed), after bar listed]

end CorporateActionStore

/-- One split among the bars of a series and one after them. -/
def twoSplits : CorporateActionStore ℕ where
  actions := [
    { actionDate := 2
      actionType := .split
      ratio := 2 },
    { actionDate := 3
      actionType := .split
      ratio := 2 }]
  orderBy := sortedBy CorporateAction.actionDate
  orderBy_perm := sortedBy_perm _
  orderBy_sorted := sortedBy_pairwise _

/-- A bar at one price. -/
def levelBar (date : ℕ) (price : ℚ) : PriceBar ℕ where
  date := date
  openPrice := price
  high := price
  low := price
  close := price
  volume := 1000

/-- Bars behind both splits. -/
theorem settled_adjusts_iff :
    (twoSplits.Balanced [levelBar 5 100] → twoSplits.Adjusts [levelBar 5 100]) ∧
      ((∀ bar ∈ [levelBar 5 100], bar.close ≠ 0) →
        (twoSplits.Adjusts [levelBar 5 100] ↔ twoSplits.Balanced [levelBar 5 100])) :=
  CorporateActionStore.adjusts_iff twoSplits (by decide +kernel) [levelBar 5 100]

/-- Two splits of 1:2 divide the price of the bar before them by 8. -/
theorem first_split_twice :
    (twoSplits.applyAdjustment [levelBar 1 100, levelBar 3 25] .backward).map PriceBar.close = [25 / 2, 25] ∧
      twoSplits.factorAfter 1 = 1 / 4 ∧ ¬ twoSplits.Adjusts [levelBar 1 100, levelBar 3 25] := by
  have adjusted : (twoSplits.applyAdjustment [levelBar 1 100, levelBar 3 25] .backward).map PriceBar.close =
      [25 / 2, 25] := by decide +kernel
  have factor : twoSplits.factorAfter 1 = 1 / 4 := by decide +kernel
  refine ⟨adjusted, factor, fun adjusts => ?_⟩
  have prices := congrArg (List.map fun prices => prices.2.2.2) adjusts.prices
  rw [List.map_map, List.map_map] at prices
  have claimed : (([levelBar 1 100, levelBar 3 25].map
      ((fun prices => prices.2.2.2) ∘ fun bar => (bar.scale (twoSplits.factorAfter bar.date)).prices)) : List ℚ) =
      [25, 25] := by decide +kernel
  have equal := adjusted.symm.trans (prices.trans claimed)
  exact absurd equal (by decide +kernel)

end TradeX.V1.CorporateActions
