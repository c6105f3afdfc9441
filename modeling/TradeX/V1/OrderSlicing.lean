import TradeX.Lib.Slicing
import TradeX.V1.ExecutionPlan

/-! The child orders of a plan and those of a request to slice: two splits of one quantity, the first by the algorithm
of the slicing plan, the second by its disclosed quantity or else its number of slices. -/

namespace TradeX.V1.Planning

open Lib Lib.Slicing
open Trading (Signal)

namespace OrderIntent

/-- `replace(leg, quantity=qty, correlation_id=f"{base_cid}:slice{i + 1}")` -/
def slice (leg : OrderIntent) (qty : ℤ) (i : ℕ) (positive : 0 < qty) : OrderIntent where
  symbol := leg.symbol
  exchange := leg.exchange
  side := leg.side
  quantity := qty
  price := leg.price
  orderType := leg.orderType
  productType := leg.productType
  correlationId := leg.correlationId ++ ":slice" ++ toString (i + 1)
  quantity_positive := positive
  symbol_present := leg.symbol_present
  correlationId_present := fun empty => by simpa using congrArg String.length empty

end OrderIntent

namespace ExecutionPlan

/-- `sliced_quantities` -/
def slicedQuantities (plan : ExecutionPlan) : List ℤ :=
  let total := plan.sizing.totalQty
  let byCount :=
    let n := max 1 plan.slicing.sliceCount
    (List.range n.toNat).map fun i : ℕ => total / n + if (i : ℤ) < total % n then 1 else 0
  if total ≤ 0 ∨ plan.slicing.algo = .NONE then [total]
  else
    match plan.slicing.disclosedQty with
    | some disclosedQty =>
      if plan.slicing.algo = .ICEBERG ∧ disclosedQty ≠ 0 then
        let disc := max 1 disclosedQty
        let n := (total + disc - 1) / disc
        if n ≤ 1 then [total] else List.replicate (n - 1).toNat disc ++ [total - disc * (n - 1)]
      else byCount
    | none => byCount

/-- `plan_to_intents` -/
def toIntents (plan : ExecutionPlan) : List OrderIntent :=
  if plan.slicing.algo = .NONE ∨ plan.legs = [] then plan.legs
  else
    plan.legs.flatMap fun leg => plan.slicedQuantities.zipIdx.filterMap fun (qty, i) =>
      if positive : 0 < qty then some (leg.slice qty i positive) else none

end ExecutionPlan

structure SliceOrderRequest where
  symbol : String := ""
  exchange : String := "NSE"
  side : OrderSide := .BUY
  quantity : ℤ := 0
  orderType : OrderType := .MARKET
  productType : ProductType := .INTRADAY
  deriving DecidableEq, Repr

structure OrderRequest where
  symbol : String := ""
  exchange : String := "NSE"
  transactionType : OrderSide := .BUY
  quantity : ℤ := 0
  price : ℚ := 0
  orderType : OrderType := .MARKET
  productType : ProductType := .INTRADAY
  correlationId : Option String := none
  slice : Bool := false
  disclosedQuantity : Option ℤ := none
  slicingAlgo : String := "NONE"
  sliceCount : ℤ := 1
  deriving DecidableEq, Repr

/-- `expand_slice_request` -/
def expandSliceRequest (req : SliceOrderRequest) (sliceCount : ℤ) (disclosedQty : Option ℤ) : List OrderRequest :=
  let total := max 0 req.quantity
  let children (qtys : List ℤ) (n : ℤ) (algo : String) (outDisc : Option ℤ) : List OrderRequest :=
    (qtys.filter fun qty => 0 < qty).map fun qty => {
      symbol := req.symbol
      exchange := req.exchange
      transactionType := req.side
      quantity := qty
      orderType := req.orderType
      productType := req.productType
      slice := true
      sliceCount := n
      disclosedQuantity := outDisc
      slicingAlgo := algo }
  let byCount :=
    let n := if 0 < sliceCount then sliceCount else 1
    let qtys := (List.range n.toNat).map fun i : ℕ => total / n + if (i : ℤ) < total % n then 1 else 0
    children qtys n "TWAP" none
  if total ≤ 0 then []
  else
    match disclosedQty with
    | some disclosedQty =>
      if 0 < disclosedQty then
        let disc := max 1 disclosedQty
        let n := (total + disc - 1) / disc
        let qtys := List.replicate (n - 1).toNat disc ++ [total - disc * (n - 1)]
        children qtys n "ICEBERG" (some disc)
      else byCount
    | none => byCount

/-- `slice_order_request` -/
def sliceOrderRequest (req : SliceOrderRequest) (plan : SlicingPlan) : List OrderRequest :=
  expandSliceRequest req plan.sliceCount plan.disclosedQty

namespace SlicingPlan

/-- The disclosed quantity; none and zero are the same. -/
def disclosed (slicing : SlicingPlan) : ℤ := slicing.disclosedQty.getD 0

/-- How many of the slices are not empty. -/
def slices (slicing : SlicingPlan) (total : ℤ) : ℤ := min (max 1 slicing.sliceCount) total

/-- The quantities of the children of a plan. -/
def ofPlan (slicing : SlicingPlan) (total : ℤ) : List ℤ :=
  if slicing.algo = .NONE then [total]
  else if slicing.algo = .ICEBERG ∧ slicing.disclosed ≠ 0 then capped total (max 1 slicing.disclosed)
  else even total (slicing.slices total)

/-- The quantities of the children of a request. -/
def ofRequest (slicing : SlicingPlan) (total : ℤ) : List ℤ :=
  if 0 < slicing.disclosed then capped total slicing.disclosed else even total (slicing.slices total)

end SlicingPlan

variable {signal : Signal} {ctx : PlanContext} {hex : String} {plan : ExecutionPlan} {req : SliceOrderRequest}

namespace ExecutionPlan

/-- The slices that are not empty become children. -/
theorem quantities_slices (leg : OrderIntent) (quantities : List ℤ) (k : ℕ) :
    ((quantities.zipIdx k).filterMap fun (qty, i) =>
      if positive : 0 < qty then some (leg.slice qty i positive) else none).map OrderIntent.quantity =
    quantities.filter fun qty => 0 < qty := by
  induction quantities generalizing k with
  | nil => rfl
  | cons qty rest ih =>
    rw [List.zipIdx_cons, List.filterMap_cons, List.filter_cons]
    by_cases positive : 0 < qty
    · simp only [positive, dif_pos, decide_true, if_true, List.map_cons, ih]
      rfl
    · simp only [positive, dif_neg, not_false_eq_true, decide_false, Bool.false_eq_true, if_false, ih]

theorem slicedQuantities_eq (some_ : 0 < plan.sizing.totalQty) (sliced : plan.slicing.algo ≠ .NONE) :
    plan.slicedQuantities.filter (fun qty => 0 < qty) = plan.slicing.ofPlan plan.sizing.totalQty := by
  have many : ¬ (plan.sizing.totalQty ≤ 0 ∨ plan.slicing.algo = .NONE) := not_or.mpr ⟨some_.not_ge, sliced⟩
  have byCount : (even plan.sizing.totalQty (max 1 plan.slicing.sliceCount)).filter (fun qty => 0 < qty) =
      even plan.sizing.totalQty (plan.slicing.slices plan.sizing.totalQty) := filter_even some_ (by omega)
  rw [slicedQuantities, if_neg many, SlicingPlan.ofPlan, if_neg sliced]
  cases given : plan.slicing.disclosedQty with
  | none =>
    rw [SlicingPlan.disclosed, given, if_neg fun iceberg => iceberg.2 rfl]
    exact byCount
  | some d =>
    have value : plan.slicing.disclosed = d := by rw [SlicingPlan.disclosed, given, Option.getD_some]
    rw [value]
    dsimp only
    split
    · next iceberg =>
      rw [← @filter_capped plan.sizing.totalQty (max 1 d) (by omega)]
      congr 1
      have size : 0 < max 1 d := by omega
      split
      · next few =>
        -- One part alone is the whole.
        have number : parts plan.sizing.totalQty (max 1 d) ≤ 1 := few
        have bound := (parts_bounds plan.sizing.totalQty size).2
        have one := parts_positive some_ size
        have alone : parts plan.sizing.totalQty (max 1 d) = 1 := by omega
        rw [alone, mul_one] at bound
        exact ((capped_eq_single some_ size).mpr bound).symm
      · rfl
    · exact byCount

/-- The quantities of the children of a plan that orders something. -/
theorem toIntents_quantities (built : fromSignal signal ctx hex = .ok plan) (some_ : 0 < plan.sizing.totalQty) :
    plan.toIntents.map OrderIntent.quantity = plan.slicing.ofPlan plan.sizing.totalQty := by
  obtain ⟨-, -, ⟨none_, -⟩ | ⟨leg, legs, quantity⟩⟩ := fromSignal_ok built
  · exact absurd none_ some_.ne'
  · have present : plan.legs ≠ [] := by rw [legs]; exact List.cons_ne_nil leg []
    by_cases whole : plan.slicing.algo = .NONE
    · rw [toIntents, if_pos (.inl whole), legs, SlicingPlan.ofPlan, if_pos whole, List.map_singleton, quantity]
    · rw [toIntents, if_neg (not_or.mpr ⟨whole, present⟩), legs, List.flatMap_singleton, quantities_slices,
        slicedQuantities_eq some_ whole]

theorem toIntents_nothing (built : fromSignal signal ctx hex = .ok plan) (none_ : plan.sizing.totalQty = 0) :
    plan.toIntents = [] := by
  obtain ⟨-, -, ⟨-, legs⟩ | ⟨leg, -, quantity⟩⟩ := fromSignal_ok built
  · rw [toIntents, if_pos (.inr legs), legs]
  · exact absurd (quantity.trans none_) leg.quantity_positive.ne'

end ExecutionPlan

theorem sliceOrderRequest_quantities (slicing : SlicingPlan) (some_ : 0 < req.quantity) :
    (sliceOrderRequest req slicing).map OrderRequest.quantity = slicing.ofRequest req.quantity := by
  have byCount : (even req.quantity (if 0 < slicing.sliceCount then slicing.sliceCount else 1)).filter
      (fun qty => 0 < qty) = even req.quantity (slicing.slices req.quantity) := by
    have count : (if 0 < slicing.sliceCount then slicing.sliceCount else 1) = max 1 slicing.sliceCount := by
      split <;> omega
    rw [count]
    exact filter_even some_ (by omega)
  simp only [sliceOrderRequest, expandSliceRequest, max_eq_right some_.le, if_neg some_.not_ge, SlicingPlan.ofRequest]
  cases given : slicing.disclosedQty with
  | none =>
    have value : slicing.disclosed = 0 := by rw [SlicingPlan.disclosed, given, Option.getD_none]
    rw [value, if_neg (lt_irrefl 0), List.map_map]
    exact (List.map_id _).trans byCount
  | some d =>
    have value : slicing.disclosed = d := by rw [SlicingPlan.disclosed, given, Option.getD_some]
    rw [value]
    dsimp only
    split
    · next positive =>
      have size : max 1 d = d := by omega
      rw [List.map_map, size]
      exact (List.map_id _).trans (filter_capped positive)
    · rw [List.map_map]
      exact (List.map_id _).trans byCount

theorem sliceOrderRequest_nothing (slicing : SlicingPlan) (none_ : req.quantity = 0) :
    sliceOrderRequest req slicing = [] := by
  simp only [sliceOrderRequest, expandSliceRequest, none_, max_self, le_refl, if_true]

/-- No child of a request has an id. -/
theorem sliceOrderRequest_ids {child : OrderRequest} {slicing : SlicingPlan}
    (member : child ∈ sliceOrderRequest req slicing) : child.correlationId = none := by
  simp only [sliceOrderRequest, expandSliceRequest] at member
  split at member
  · cases member
  · split at member
    · split at member
      · obtain ⟨_, -, rfl⟩ := List.mem_map.mp member
        rfl
      · obtain ⟨_, -, rfl⟩ := List.mem_map.mp member
        rfl
    · obtain ⟨_, -, rfl⟩ := List.mem_map.mp member
      rfl

/-- What the children of a plan are to be. -/
structure PlanSliced (plan : ExecutionPlan) : Prop where
  positive : ∀ child ∈ plan.toIntents, 0 < child.quantity
  total : (plan.toIntents.map OrderIntent.quantity).sum = plan.sizing.totalQty
  disclosed : plan.slicing.algo = .ICEBERG → plan.slicing.disclosed ≠ 0 →
    ∀ child ∈ plan.toIntents, child.quantity ≤ plan.slicing.disclosed
  even : plan.slicing.algo = .TWAP ∨ plan.slicing.algo = .VWAP →
    ∀ first ∈ plan.toIntents, ∀ second ∈ plan.toIntents, first.quantity ≤ second.quantity + 1

/-- What the children of the plan and of the request are to be: of the same quantities, and those of the request each
with an id of its own. -/
structure SlicedAlike (plan : ExecutionPlan) (req : SliceOrderRequest) : Prop where
  sliced : PlanSliced plan
  same : (sliceOrderRequest req plan.slicing).map OrderRequest.quantity = plan.toIntents.map OrderIntent.quantity
  identified : ∀ child ∈ sliceOrderRequest req plan.slicing, child.correlationId ≠ none
  distinct : ((sliceOrderRequest req plan.slicing).map OrderRequest.correlationId).Nodup

namespace SlicingPlan

/-- The disclosed quantity of an iceberg is negative. -/
def Reversed (slicing : SlicingPlan) : Prop := slicing.algo = .ICEBERG ∧ slicing.disclosed < 0

/-- Both splits of a total give the same quantities. -/
def Agrees (slicing : SlicingPlan) (total : ℤ) : Prop :=
  match slicing.algo with
  | .NONE => if 0 < slicing.disclosed then total ≤ slicing.disclosed else slicing.slices total = 1
  | .ICEBERG => 0 ≤ slicing.disclosed ∨ slicing.slices total = total
  | .TWAP | .VWAP => 0 < slicing.disclosed →
    (slicing.slices total = 1 ∨ slicing.disclosed * slicing.slices total ≤ total + 1) ∧
      total ≤ slicing.disclosed * slicing.slices total

variable {slicing : SlicingPlan} {total : ℤ}

theorem slices_bounds (some_ : 0 < total) : 0 < slicing.slices total ∧ slicing.slices total ≤ total := by
  rw [slices]
  omega

theorem sum_ofPlan (some_ : 0 < total) : (slicing.ofPlan total).sum = total := by
  rw [ofPlan]
  split
  · exact List.sum_singleton
  · split
    · exact sum_capped some_ (by omega)
    · exact sum_even (slices_bounds some_).1

theorem ofRequest_eq_ofPlan_iff (some_ : 0 < total) :
    slicing.ofRequest total = slicing.ofPlan total ↔ slicing.Agrees total := by
  obtain ⟨one, most⟩ := @slices_bounds slicing total some_
  -- A plan by the clock is sliced by the count, its request by what it discloses.
  have byClock : (if 0 < slicing.disclosed then capped total slicing.disclosed else
      even total (slicing.slices total)) = even total (slicing.slices total) ↔
        (0 < slicing.disclosed →
          (slicing.slices total = 1 ∨ slicing.disclosed * slicing.slices total ≤ total + 1) ∧
            total ≤ slicing.disclosed * slicing.slices total) := by
    split
    · next shown => rw [eq_comm, even_eq_capped shown one most, forall_prop_of_true shown]
    · next hidden => exact iff_of_true rfl fun shown => absurd shown hidden
  rw [ofRequest, ofPlan, Agrees]
  cases algo : slicing.algo with
  | NONE =>
    simp only [if_true]
    split
    · next shown => exact capped_eq_single some_ shown
    · exact even_eq_single one
  | TWAP => simpa only [reduceCtorEq, false_and, if_false] using byClock
  | VWAP => simpa only [reduceCtorEq, false_and, if_false] using byClock
  | ICEBERG =>
    simp only [reduceCtorEq, true_and, if_false]
    rcases lt_trichotomy slicing.disclosed 0 with reversed | hidden | shown
    · -- A negative quantity is one unit for the plan.
      have unit : max 1 slicing.disclosed = 1 := by omega
      rw [if_neg reversed.not_gt, if_pos reversed.ne, unit, even_eq_capped one_pos one most, one_mul]
      omega
    · rw [if_neg hidden.not_gt, if_neg (not_not.mpr hidden)]
      exact iff_of_true rfl (.inl hidden.ge)
    · have size : max 1 slicing.disclosed = slicing.disclosed := by omega
      rw [if_pos shown, if_pos shown.ne', size]
      exact iff_of_true rfl (.inl shown.le)

end SlicingPlan

theorem mem_quantities {child : OrderIntent} {quantities : List ℤ}
    (all : plan.toIntents.map OrderIntent.quantity = quantities) (member : child ∈ plan.toIntents) :
    child.quantity ∈ quantities :=
  all ▸ List.mem_map_of_mem member

/-- The children of a plan are what they are to be unless an iceberg of a negative disclosed quantity is sliced. -/
theorem planSliced_iff (built : ExecutionPlan.fromSignal signal ctx hex = .ok plan) :
    PlanSliced plan ↔ plan.sizing.totalQty = 0 ∨ ¬ plan.slicing.Reversed := by
  obtain ⟨-, nonneg, -⟩ := ExecutionPlan.fromSignal_ok built
  rcases nonneg.eq_or_lt with none_ | some_
  · refine iff_of_true ?_ (.inl none_.symm)
    have nothing := ExecutionPlan.toIntents_nothing built none_.symm
    constructor
    · exact fun child _ => child.quantity_positive
    · rw [nothing]
      exact none_
    · intro _ _ child member
      rw [nothing] at member
      cases member
    · intro _ child member
      rw [nothing] at member
      cases member
  · have quantities := ExecutionPlan.toIntents_quantities built some_
    rw [or_iff_right some_.ne']
    constructor
    · rintro sliced ⟨iceberg, reversed⟩
      -- There is a child, and its quantity is positive.
      have total := sliced.total
      cases children : plan.toIntents with
      | nil =>
        rw [children] at total
        exact some_.ne total
      | cons child rest =>
        have first : child ∈ plan.toIntents := children ▸ List.mem_cons_self
        have bound := sliced.disclosed iceberg reversed.ne child first
        exact absurd (child.quantity_positive.trans_le bound) reversed.le.not_gt
    · intro forward
      constructor
      · exact fun child _ => child.quantity_positive
      · rw [quantities]
        exact SlicingPlan.sum_ofPlan some_
      · intro iceberg set_ child member
        have size : max 1 plan.slicing.disclosed = plan.slicing.disclosed := by
          have nonnegative := not_lt.mp fun reversed => forward ⟨iceberg, reversed⟩
          omega
        have listed := mem_quantities quantities member
        rw [SlicingPlan.ofPlan, if_neg (by rw [iceberg]; exact nofun), if_pos ⟨iceberg, set_⟩, size] at listed
        exact (mem_capped (by omega) listed).2
      · intro byCount first member second other
        have split : plan.slicing.ofPlan plan.sizing.totalQty =
            even plan.sizing.totalQty (plan.slicing.slices plan.sizing.totalQty) := by
          rw [SlicingPlan.ofPlan]
          rcases byCount with twap | vwap
          · simp only [twap, reduceCtorEq, false_and, if_false]
          · simp only [vwap, reduceCtorEq, false_and, if_false]
        rw [split] at quantities
        have high := (mem_even (mem_quantities quantities member)).2
        have low := (mem_even (mem_quantities quantities other)).1
        omega

/-- The quantities of the request are those of the plan of the same total exactly where both splits agree. -/
theorem same_iff (built : ExecutionPlan.fromSignal signal ctx hex = .ok plan)
    (total : req.quantity = plan.sizing.totalQty) :
    (sliceOrderRequest req plan.slicing).map OrderRequest.quantity = plan.toIntents.map OrderIntent.quantity ↔
      plan.sizing.totalQty = 0 ∨ plan.slicing.Agrees plan.sizing.totalQty := by
  obtain ⟨-, nonneg, -⟩ := ExecutionPlan.fromSignal_ok built
  rcases nonneg.eq_or_lt with none_ | some_
  · rw [sliceOrderRequest_nothing plan.slicing (total.trans none_.symm),
      ExecutionPlan.toIntents_nothing built none_.symm]
    exact iff_of_true rfl (.inl none_.symm)
  · rw [sliceOrderRequest_quantities plan.slicing (total ▸ some_), ExecutionPlan.toIntents_quantities built some_,
      total, SlicingPlan.ofRequest_eq_ofPlan_iff some_, or_iff_right some_.ne']

/-- The children of a plan and of a request of the same total are what they are to be exactly where there are none,
as those of the request have no ids. Of the other parts, those of the plan fail for an iceberg of a negative disclosed
quantity only, and the quantities agree where both splits of the total do. -/
theorem slicedAlike_iff (built : ExecutionPlan.fromSignal signal ctx hex = .ok plan)
    (total : req.quantity = plan.sizing.totalQty) :
    (SlicedAlike plan req ↔ plan.sizing.totalQty = 0) ∧
    (PlanSliced plan ↔ plan.sizing.totalQty = 0 ∨ ¬ plan.slicing.Reversed) ∧
    ((sliceOrderRequest req plan.slicing).map OrderRequest.quantity = plan.toIntents.map OrderIntent.quantity ↔
      plan.sizing.totalQty = 0 ∨ plan.slicing.Agrees plan.sizing.totalQty) := by
  refine ⟨?_, planSliced_iff built, same_iff built total⟩
  constructor
  · intro alike
    have sum := alike.sliced.total
    rw [← alike.same] at sum
    cases children : sliceOrderRequest req plan.slicing with
    | nil =>
      rw [children] at sum
      exact sum.symm
    | cons child rest =>
      have first : child ∈ sliceOrderRequest req plan.slicing := children ▸ List.mem_cons_self
      exact absurd (sliceOrderRequest_ids first) (alike.identified child first)
  · intro none_
    have nothing := sliceOrderRequest_nothing plan.slicing (total.trans none_)
    refine ⟨(planSliced_iff built).mpr (.inl none_), (same_iff built total).mpr (.inl none_), ?_, ?_⟩
    · intro child member
      rw [nothing] at member
      cases member
    · rw [nothing]
      exact List.nodup_nil

/-- A plan of ten units in three slices. -/
theorem three_slices :
    let signal : Signal := {
      symbol := "TCS"
      exchange := "NSE"
      signalType := .BUY
      confidence := 1
      quantity := 10
      price := some 100 }
    let slicing : SlicingPlan := {
      algo := .TWAP
      sliceCount := 3 }
    ∃ plan, ExecutionPlan.fromSignal signal { slicing } "0f" = .ok plan ∧
      (SlicedAlike plan { quantity := 10 } ↔ plan.sizing.totalQty = 0) ∧
      (PlanSliced plan ↔ plan.sizing.totalQty = 0 ∨ ¬ plan.slicing.Reversed) ∧
      ((sliceOrderRequest { quantity := 10 } plan.slicing).map OrderRequest.quantity =
        plan.toIntents.map OrderIntent.quantity ↔
          plan.sizing.totalQty = 0 ∨ plan.slicing.Agrees plan.sizing.totalQty) := by
  intro signal slicing
  obtain ⟨plan, built, ten⟩ : ∃ plan, ExecutionPlan.fromSignal signal { slicing } "0f" = .ok plan ∧
      plan.sizing.totalQty = 10 := ⟨_, rfl, rfl⟩
  exact ⟨plan, built, slicedAlike_iff built ten.symm⟩

/-- The children of a request of ten units have no ids, and a plan that is not to be sliced is one order of ten units
where its request is split in three. -/
theorem request_without_ids :
    let signal : Signal := {
      symbol := "TCS"
      exchange := "NSE"
      signalType := .BUY
      confidence := 1
      quantity := 10
      price := some 100 }
    let slicing : SlicingPlan := {
      algo := .NONE
      sliceCount := 3 }
    ∃ plan, ExecutionPlan.fromSignal signal { slicing } "0f" = .ok plan ∧
      plan.toIntents.map OrderIntent.quantity = [10] ∧
      (sliceOrderRequest { quantity := 10 } slicing).map OrderRequest.quantity = [4, 3, 3] ∧
      (sliceOrderRequest { quantity := 10 } slicing).map OrderRequest.correlationId = [none, none, none] ∧
      ¬ SlicedAlike plan { quantity := 10 } := by
  refine ⟨_, rfl, rfl, rfl, rfl, fun alike => ?_⟩
  exact absurd alike.same (by decide)

end TradeX.V1.Planning
