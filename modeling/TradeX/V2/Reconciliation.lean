import TradeX.Lib.KeyedDiff
import TradeX.V2.Domain

/-! The v2 reconciliation engine: the drift items between the local orders and positions and those of a
broker. The two comparisons walk their lists in the same way. -/

namespace TradeX.V2

open Lib

inductive DriftSeverity where
  | LOW
  | MEDIUM
  | HIGH
  deriving DecidableEq, Repr

structure DriftItem (α : Type u) where
  kind : String
  key : String
  severity : DriftSeverity
  reason : String
  mine : Option α
  remote : Option α
  deriving DecidableEq, Repr

namespace ReconciliationEngine

section

variable {α : Type u} (kind : String) (keyOf : α → String) (differ : α → α → Option (DriftSeverity × String))

/-- The items of one key, of which the local side, the broker's or both hold a value. -/
def itemsOf (key : String) : Option α → Option α → List (DriftItem α)
  | none, none => []
  | none, some broker => [⟨kind, key, .HIGH, "missing local " ++ kind, none, some broker⟩]
  | some mine, none => [⟨kind, key, .HIGH, "missing broker " ++ kind, some mine, none⟩]
  | some mine, some broker =>
    (differ mine broker).toList.map fun found => ⟨kind, key, found.1, found.2, some mine, some broker⟩

/-- The two loops of a comparison: over the broker's side, then over what only the local side has. -/
def compare (mine broker : List α) : List (DriftItem α) :=
  Dict.diff (itemsOf kind differ) (Dict.latest keyOf mine) (Dict.latest keyOf broker)

/-- What an exchange of the sides leaves of an item. -/
def mark (item : DriftItem α) : String × DriftSeverity := (item.key, item.severity)

variable {kind keyOf differ} {mine broker : List α}

theorem itemsOf_swap (symmetric : ∀ a b, (differ a b).map Prod.fst = (differ b a).map Prod.fst) (key : String)
    (a b : Option α) : (itemsOf kind differ key a b).map mark = (itemsOf kind differ key b a).map mark := by
  cases a with
  | none => cases b <;> rfl
  | some a =>
    cases b with
    | none => rfl
    | some b =>
      have severities : ∀ c d, (itemsOf kind differ key (some c) (some d)).map mark =
          ((differ c d).map Prod.fst).toList.map (Prod.mk key) := by
        intro c d
        cases found : differ c d <;> simp [itemsOf, found, mark]
      rw [severities, severities, symmetric]

/-- The exchanged comparison has items for the same keys with the same severities. -/
theorem compare_swap (symmetric : ∀ a b, (differ a b).map Prod.fst = (differ b a).map Prod.fst) :
    ((compare kind keyOf differ mine broker).map mark).Perm ((compare kind keyOf differ broker mine).map mark) :=
  Dict.diff_swap (itemsOf_swap symmetric)

theorem itemsOf_eq_nil {key : String} {a b : Option α} : itemsOf kind differ key a b = [] ↔
    (a.isSome ↔ b.isSome) ∧ ∀ mine ∈ a, ∀ broker ∈ b, differ mine broker = none := by
  cases a <;> cases b <;> simp [itemsOf]

theorem latest_isSome {values : List α} {key : String} :
    ((Dict.latest keyOf values).get key).isSome = true ↔ key ∈ values.map keyOf := by
  rw [Option.isSome_iff_ne_none, ne_eq, Dict.get_latest_none, List.mem_map]
  push Not
  exact Iff.rfl

/-- Lists with distinct keys compare without drift exactly when they have the same keys and no two
values of one key differ. -/
theorem compare_eq_nil (distinctMine : (mine.map keyOf).Nodup) (distinctBroker : (broker.map keyOf).Nodup) :
    compare kind keyOf differ mine broker = [] ↔
      (∀ key, key ∈ mine.map keyOf ↔ key ∈ broker.map keyOf) ∧
        ∀ a ∈ mine, ∀ b ∈ broker, keyOf a = keyOf b → differ a b = none := by
  rw [compare, Dict.diff_eq_nil fun _ => rfl]
  simp only [itemsOf_eq_nil, latest_isSome]
  constructor
  · intro quiet
    refine ⟨fun key => (quiet key).1, fun a member b other same => ?_⟩
    apply (quiet (keyOf a)).2
    · exact Dict.get_latest_of_mem distinctMine member
    · rw [same]
      exact Dict.get_latest_of_mem distinctBroker other
  · rintro ⟨keys, quiet⟩ key
    refine ⟨keys key, fun a filed b otherFiled => ?_⟩
    obtain ⟨member, named⟩ := Dict.get_latest_mem filed
    obtain ⟨other, otherNamed⟩ := Dict.get_latest_mem otherFiled
    exact quiet a member b other (named.trans otherNamed.symm)

end

/-- `_diff_order`: the severity and the reason of its item. -/
def diffOrder (priceTolerance : ℚ) (mine broker : Order) : Option (DriftSeverity × String) :=
  if mine.quantity ≠ broker.quantity then some (.HIGH, "quantity mismatch")
  else if mine.filledQuantity ≠ broker.filledQuantity then some (.HIGH, "filled_quantity mismatch")
  else if ∃ lp ∈ mine.price, ∃ bp ∈ broker.price, |lp - bp| > priceTolerance then some (.MEDIUM, "price drift")
  else if mine.status ≠ broker.status then some (.LOW, "status lag")
  else none

/-- `_order_key`. -/
def orderKey (order : Order) : String := order.orderId.value

/-- `compare_orders`. -/
def compareOrders (priceTolerance : ℚ) : List Order → List Order → List (DriftItem Order) :=
  compare "order" orderKey (diffOrder priceTolerance)

def diffPosition (priceTolerance : ℚ) (mine broker : Position) : Option (DriftSeverity × String) :=
  if mine.quantity ≠ broker.quantity then some (.HIGH, "quantity mismatch")
  else if |mine.avgPrice - broker.avgPrice| > priceTolerance then some (.MEDIUM, "avg_price drift")
  else none

def positionKey (position : Position) : String := position.instrumentId.value

/-- `compare_positions`. -/
def comparePositions (priceTolerance : ℚ) : List Position → List Position → List (DriftItem Position) :=
  compare "position" positionKey (diffPosition priceTolerance)

variable {priceTolerance : ℚ}

/-- The orders agree; a price that one of them lacks is not compared. -/
structure OrdersAgree (priceTolerance : ℚ) (mine broker : Order) : Prop where
  quantity : mine.quantity = broker.quantity
  filledQuantity : mine.filledQuantity = broker.filledQuantity
  status : mine.status = broker.status
  price : ∀ lp ∈ mine.price, ∀ bp ∈ broker.price, |lp - bp| ≤ priceTolerance

structure PositionsAgree (priceTolerance : ℚ) (mine broker : Position) : Prop where
  quantity : mine.quantity = broker.quantity
  avgPrice : |mine.avgPrice - broker.avgPrice| ≤ priceTolerance

theorem found_eq_none {β : Type} {p : Prop} [Decidable p] {found : β} {rest : Option β} :
    (if p then some found else rest) = none ↔ ¬ p ∧ rest = none := by
  by_cases holds : p
  · rw [if_pos holds]
    exact iff_of_false nofun fun both => both.1 holds
  · rw [if_neg holds, and_iff_right holds]

theorem diffOrder_eq_none {mine broker : Order} :
    diffOrder priceTolerance mine broker = none ↔ OrdersAgree priceTolerance mine broker := by
  simp only [diffOrder, found_eq_none, ne_eq, not_not, and_true]
  push Not
  constructor
  · rintro ⟨quantity, filledQuantity, price, status⟩
    exact ⟨quantity, filledQuantity, status, price⟩
  · rintro ⟨quantity, filledQuantity, status, price⟩
    exact ⟨quantity, filledQuantity, price, status⟩

theorem diffPosition_eq_none {mine broker : Position} :
    diffPosition priceTolerance mine broker = none ↔ PositionsAgree priceTolerance mine broker := by
  simp only [diffPosition, found_eq_none, ne_eq, not_not, not_lt, and_true]
  constructor
  · rintro ⟨quantity, avgPrice⟩
    exact ⟨quantity, avgPrice⟩
  · rintro ⟨quantity, avgPrice⟩
    exact ⟨quantity, avgPrice⟩

theorem diffOrder_swap (mine broker : Order) : (diffOrder priceTolerance mine broker).map Prod.fst =
    (diffOrder priceTolerance broker mine).map Prod.fst := by
  have prices : (∃ lp ∈ mine.price, ∃ bp ∈ broker.price, |lp - bp| > priceTolerance) ↔
      ∃ lp ∈ broker.price, ∃ bp ∈ mine.price, |lp - bp| > priceTolerance := by
    constructor
    · rintro ⟨lp, mineHas, bp, brokerHas, apart⟩
      exact ⟨bp, brokerHas, lp, mineHas, abs_sub_comm lp bp ▸ apart⟩
    · rintro ⟨bp, brokerHas, lp, mineHas, apart⟩
      exact ⟨lp, mineHas, bp, brokerHas, abs_sub_comm bp lp ▸ apart⟩
  simp only [diffOrder, prices, @ne_comm _ mine.quantity, @ne_comm _ mine.filledQuantity,
    @ne_comm _ mine.status]

theorem diffPosition_swap (mine broker : Position) : (diffPosition priceTolerance mine broker).map Prod.fst =
    (diffPosition priceTolerance broker mine).map Prod.fst := by
  simp only [diffPosition, abs_sub_comm mine.avgPrice, @ne_comm _ mine.quantity]

/-- The two laws of a comparison: without drift the two sides hold the same, and an exchange of the sides
drifts for the same keys with the same severities. -/
def Lawful {α : Type u} (agree : α → α → Prop) (keyOf : α → String) (comparison : List α → List α → List (DriftItem α))
    (mine broker : List α) : Prop :=
  (comparison mine broker = [] ↔ (∀ key, key ∈ mine.map keyOf ↔ key ∈ broker.map keyOf) ∧
    ∀ a ∈ mine, ∀ b ∈ broker, keyOf a = keyOf b → agree a b) ∧
  ((comparison mine broker).map mark).Perm ((comparison broker mine).map mark)

theorem comparisons_lawful (priceTolerance : ℚ) (orders brokerOrders : List Order)
    (positions brokerPositions : List Position) (distinctOrders : (orders.map orderKey).Nodup)
    (distinctBrokerOrders : (brokerOrders.map orderKey).Nodup) (distinctPositions : (positions.map positionKey).Nodup)
    (distinctBrokerPositions : (brokerPositions.map positionKey).Nodup) :
    Lawful (OrdersAgree priceTolerance) orderKey (compareOrders priceTolerance) orders brokerOrders ∧
      Lawful (PositionsAgree priceTolerance) positionKey (comparePositions priceTolerance) positions
        brokerPositions := by
  constructor
  · constructor
    · rw [compareOrders, compare_eq_nil distinctOrders distinctBrokerOrders]
      simp only [diffOrder_eq_none, orderKey]
    · exact compare_swap diffOrder_swap
  · constructor
    · rw [comparePositions, compare_eq_nil distinctPositions distinctBrokerPositions]
      simp only [diffPosition_eq_none, positionKey]
    · exact compare_swap diffPosition_swap

private def limitOrder (orderId : String) (price : Option ℚ) : Order where
  orderId := ⟨orderId⟩
  instrumentId := ⟨"NSE:RELIANCE"⟩
  side := .BUY
  orderType := .LIMIT
  quantity := 10
  price := price
  timeInForce := .DAY
  status := .SUBMITTED
  correlationId := ⟨"c1"⟩

theorem comparisons_lawful_late_order :
    Lawful (OrdersAgree (1 / 100)) orderKey (compareOrders (1 / 100)) [limitOrder "o1" (some 100)]
        [limitOrder "o1" (some 101), limitOrder "o2" none] ∧
      Lawful (PositionsAgree (1 / 100)) positionKey (comparePositions (1 / 100)) [] [] :=
  comparisons_lawful (1 / 100) _ _ _ _ (by decide) (by decide) (by decide) (by decide)

/-- A price that only one side has is no drift. -/
theorem one_sided_price_no_drift :
    compareOrders (1 / 100) [limitOrder "o1" (some 100)] [limitOrder "o1" none] = [] ∧
      ¬ (((limitOrder "o1" (some 100)).price = none ∧ (limitOrder "o1" none).price = none) ∨
        ∃ lp ∈ (limitOrder "o1" (some 100)).price, ∃ bp ∈ (limitOrder "o1" none).price, |lp - bp| ≤ 1 / 100) := by
  decide +kernel

end ReconciliationEngine

end TradeX.V2
