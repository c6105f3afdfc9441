import TradeX.Lib.Decimal
import TradeX.V1.Orders

/-! `PositionManager`: a position with its average price and realized profit, the state
machine of each position, and the trades that the order manager has applied. -/

namespace TradeX.V1

open Lib

structure Position where
  symbol : String
  exchange : String
  quantity : ℤ := 0
  avgPrice : ℚ := 0
  ltp : ℚ := 0
  unrealizedPnl : ℚ := 0
  realizedPnl : ℚ := 0
  multiplier : ℚ := 1
  deriving DecidableEq, Repr

namespace Position

variable (position : Position)

/-- `_mult`. -/
def mult : ℚ := if position.multiplier > 0 then position.multiplier else 1

/-- The fill is against the position. -/
def closing (fillQty : ℤ) : Prop :=
  (position.quantity > 0 ∧ fillQty < 0) ∨ (position.quantity < 0 ∧ fillQty > 0)

instance (fillQty : ℤ) : Decidable (position.closing fillQty) := inferInstanceAs (Decidable (_ ∨ _))

/-- `_compute_avg_price`. -/
def computeAvgPrice (newQty fillQty : ℤ) (fillPrice : ℚ) : ℚ :=
  if position.quantity = 0 then fillPrice
  else if position.closing fillQty then
    if newQty = 0 then 0
    else if |fillQty| > |position.quantity| then fillPrice
    else position.avgPrice
  else (position.quantity * position.avgPrice + fillQty * fillPrice) / newQty

/-- `_compute_realized_pnl`. -/
def computeRealizedPnl (fillQty : ℤ) (fillPrice : ℚ) : ℚ :=
  if position.quantity = 0 then position.realizedPnl
  else if position.closing fillQty then
    let closed : ℤ := min |position.quantity| |fillQty|
    let pnlFactor : ℚ := if position.quantity > 0 then 1 else -1
    position.realizedPnl + closed * (fillPrice - position.avgPrice) * pnlFactor * position.mult
  else position.realizedPnl

/-- `_compute_unrealized`. -/
def computeUnrealized (newQty : ℤ) (price avgPrice : ℚ) : ℚ :=
  if newQty = 0 then 0 else newQty * (price - avgPrice) * position.mult

/-- `Position.with_fill`, with a signed quantity. -/
def withFill (fillQty : ℤ) (fillPrice : ℚ) : Position :=
  let newQty := position.quantity + fillQty
  let newAvg := position.computeAvgPrice newQty fillQty fillPrice
  { position with
    quantity := newQty
    avgPrice := newAvg
    ltp := fillPrice
    unrealizedPnl := position.computeUnrealized newQty fillPrice newAvg
    realizedPnl := position.computeRealizedPnl fillQty fillPrice }

end Position

/-- `Position.with_ltp`. -/
def Position.withLtp (position : Position) (ltp : ℚ) : Position :=
  { position with
    ltp := ltp
    unrealizedPnl :=
      if position.quantity ≠ 0 then position.quantity * (ltp - position.avgPrice) * position.mult else 0 }

/-- The signed quantity of a trade, cut to whole shares. -/
def Trade.delta (trade : Trade) : ℤ :=
  let qty := Decimal.toInt trade.quantity
  match trade.side with
  | .BUY => qty
  | .SELL => -qty

/-- `project_trade`. -/
def projectTrade (current : Position) (trade : Trade) : Position := current.withFill trade.delta trade.price

/-- `normalize_symbol` and `normalize_exchange`. -/
def normalize (name : String) : String := String.ofList (Text.upper (Text.strip name))

/-- `make_position_key`. -/
def makePositionKey (symbol exchange : String) : String := normalize symbol ++ ":" ++ normalize exchange

theorem normalize_normalize (name : String) : normalize (normalize name) = normalize name :=
  congrArg String.ofList (Text.upper_strip_again name)

inductive PositionState where
  | FLAT
  | OPEN
  | REDUCING
  | CLOSED
  | REVERSED
  deriving DecidableEq, Repr

namespace PositionState

def isActive : PositionState → Bool
  | OPEN | REDUCING | REVERSED => true
  | FLAT | CLOSED => false

/-- `POSITION_STATE_TRANSITIONS`. -/
def transitions : PositionState → List PositionState
  | FLAT => [OPEN, REVERSED]
  | OPEN => [OPEN, REDUCING, CLOSED, REVERSED]
  | REDUCING => [FLAT, OPEN, REVERSED, CLOSED]
  | CLOSED => [FLAT, OPEN]
  | REVERSED => [FLAT, OPEN, REDUCING, CLOSED]

/-- The machine stays, or has the transition. -/
def may (oldState newState : PositionState) : Bool :=
  decide (oldState = newState ∨ newState ∈ oldState.transitions)

/-- The state that `apply_trade` derives from the two quantities. -/
def next (oldState : PositionState) (current newQuantity : ℤ) : PositionState :=
  if current = 0 ∧ newQuantity ≠ 0 then OPEN
  else if current ≠ 0 ∧ newQuantity = 0 then CLOSED
  else if current ≠ 0 ∧ newQuantity ≠ 0 then
    if |newQuantity| < |current| then REDUCING
    else if (current > 0 ∧ newQuantity < 0) ∨ (current < 0 ∧ newQuantity > 0) then REVERSED
    else OPEN
  else oldState

variable {oldState : PositionState} {current : ℤ}

/-- From a state that is active exactly when the position is not flat, the next state is
one the machine may take, and is active exactly when the new position is not flat. -/
theorem next_legal (newQuantity : ℤ) (faithful : oldState.isActive = true ↔ current ≠ 0) :
    oldState.may (oldState.next current newQuantity) = true ∧
      ((oldState.next current newQuantity).isActive = true ↔ newQuantity ≠ 0) := by
  by_cases flat : current = 0
  · have inactive : oldState.isActive ≠ true := fun active => faithful.mp active flat
    by_cases closed : newQuantity = 0
    · have same : oldState.next current newQuantity = oldState := by
        simp only [next, flat, closed, ne_eq, not_true_eq_false, and_false, and_true, if_false]
      rw [same]
      refine ⟨decide_eq_true (.inl rfl), ?_, fun opened => absurd closed opened⟩
      exact fun active => absurd active inactive
    · have opens : oldState.next current newQuantity = OPEN := if_pos ⟨flat, closed⟩
      rw [opens]
      refine ⟨?_, fun _ => closed, fun _ => rfl⟩
      cases oldState <;> decide
  · have active : oldState.isActive = true := faithful.mpr flat
    unfold next
    rw [if_neg fun both => flat both.1]
    by_cases closed : newQuantity = 0
    · rw [if_pos ⟨flat, closed⟩]
      refine ⟨?_, fun closedActive => absurd closedActive (by decide), fun opened => absurd closed opened⟩
      cases oldState <;> first | decide | exact absurd active (by decide)
    · rw [if_neg fun both => closed both.2, if_pos ⟨flat, closed⟩]
      -- every active machine may reduce, reverse or stay open
      split
      · refine ⟨?_, fun _ => closed, fun _ => rfl⟩
        cases oldState <;> first | decide | exact absurd active (by decide)
      · split
        · refine ⟨?_, fun _ => closed, fun _ => rfl⟩
          cases oldState <;> first | decide | exact absurd active (by decide)
        · refine ⟨?_, fun _ => closed, fun _ => rfl⟩
          cases oldState <;> decide

end PositionState

inductive PositionError where
  | illegalTransition (fromState toState : PositionState)
  | valueError (message : String)
  /-- `int` or `Decimal` raises for the field's value. -/
  | unreadable (field : String)
  deriving DecidableEq, Repr

/-- A value of a broker's dictionary: its text, its truth, and what `int` and `Decimal` make of it. -/
structure BrokerValue where
  text : String
  truthy : Bool
  int : Option ℤ
  decimal : Option ℚ
  deriving DecidableEq, Repr

/-- What `upsert_position` reads from the dictionary. -/
structure BrokerPosition where
  symbol : String
  exchange : String
  quantity : ℤ
  avgPrice : ℚ
  ltp : ℚ
  deriving DecidableEq, Repr

namespace BrokerPosition

/-- `_KEY_MAP`. -/
def keyMap : String → String
  | "trading_symbol" => "symbol"
  | "exchange_segment" => "exchange"
  | "net_quantity" => "quantity"
  | "buy_average_price" => "avg_price"
  | "average_price" => "avg_price"
  | "last_price" => "ltp"
  | name => name

/-- The dictionary under the names of the domain; a later entry replaces an earlier one. -/
def normalized (data : List (String × BrokerValue)) : Dict String BrokerValue :=
  data.foldl (fun names entry => names.set (keyMap entry.1) entry.2) ∅

/-- `convert(normalized.get(field) or 0)`. -/
def number {α : Type} [Zero α] (convert : BrokerValue → Option α) (names : Dict String BrokerValue) (field : String) :
    Except PositionError α :=
  match names.get field with
  | none => .ok 0
  | some value =>
    if value.truthy = false then .ok 0
    else (convert value).elim (.error (.unreadable field)) .ok

def defaultExchange : String := "NSE"

def read (data : List (String × BrokerValue)) : Except PositionError BrokerPosition := do
  let names := normalized data
  let quantity ← number BrokerValue.int names "quantity"
  let avgPrice ← number BrokerValue.decimal names "avg_price"
  let ltp ← number BrokerValue.decimal names "ltp"
  match (names.get "symbol").filter BrokerValue.truthy with
  | none => .error (.valueError "Position data must contain 'symbol' or 'trading_symbol'")
  | some symbol => .ok {
      symbol := symbol.text
      exchange := ((names.get "exchange").map BrokerValue.text).getD defaultExchange
      quantity := quantity
      avgPrice := avgPrice
      ltp := ltp }

end BrokerPosition

structure PositionManager where
  positions : Dict String Position := ∅
  processedTradeIdSet : List String := []
  /-- The same ids in the order of their arrival, the oldest first. -/
  processedTradeIdOrder : List String := []
  enforceStateTransitions : Bool := true
  positionStates : Dict String PositionState := ∅

namespace PositionManager

/-- The `maxlen` of the processed trade ids. -/
def maxlen : Nat := 10000

variable (manager : PositionManager) (trade : Trade)

def current : Position :=
  (manager.positions.get (makePositionKey trade.symbol trade.exchange)).getD
    { symbol := trade.symbol, exchange := trade.exchange }

/-- The state of the position's machine; a new one starts flat. -/
def state (key : String) : PositionState := (manager.positionStates.get key).getD .FLAT

/-- `PositionManager.apply_trade`. -/
def applyTrade : PositionManager × Except PositionError Position :=
  let symbolKey := makePositionKey trade.symbol trade.exchange
  let current := manager.current trade
  let oldState := manager.state symbolKey
  let projected := projectTrade current trade
  let newState := oldState.next current.quantity projected.quantity
  let legal := oldState.may newState
  if legal = false ∧ manager.enforceStateTransitions = true then
    ({ manager with positionStates := manager.positionStates.set symbolKey oldState },
      .error (.illegalTransition oldState newState))
  else
    ({ manager with
      positions := manager.positions.set symbolKey projected
      positionStates := manager.positionStates.set symbolKey (if legal = true then newState else oldState) },
      .ok projected)

/-- What becomes of a trade on the position side. -/
inductive AppliedEnd where
  | duplicate
  | applied (position : Position)
  | raised (error : PositionError)
  deriving DecidableEq, Repr

/-- The record of a trade id; at capacity the oldest one leaves both collections. -/
def remember (tradeId : String) : PositionManager :=
  let full := decide (manager.processedTradeIdOrder.length = maxlen)
  { manager with
    processedTradeIdSet := tradeId ::
      (if full = true then manager.processedTradeIdSet.filter fun id => manager.processedTradeIdOrder.head? ≠ some id
        else manager.processedTradeIdSet)
    processedTradeIdOrder :=
      (if full = true then manager.processedTradeIdOrder.tail else manager.processedTradeIdOrder) ++ [tradeId] }

/-- `PositionManager.on_trade_applied`. -/
def onTradeApplied : PositionManager × AppliedEnd :=
  if trade.tradeId ∈ manager.processedTradeIdSet then (manager, .duplicate)
  else
    let applied := (manager.remember trade.tradeId).applyTrade trade
    match applied.2 with
    | .ok position => (applied.1, .applied position)
    | .error error => (applied.1, .raised error)

/-- `update_ltp`. -/
def updateLtp (symbol exchange : String) (ltp : ℚ) : PositionManager × Option Position :=
  let key := makePositionKey symbol exchange
  match manager.positions.get key with
  | none => (manager, none)
  | some current =>
    let updated := current.withLtp ltp
    ({ manager with positions := manager.positions.set key updated }, some updated)

/-- The position that `upsert_position` makes of what the broker holds. -/
def reported (fields : BrokerPosition) : Position :=
  let filled := match manager.positions.get (makePositionKey fields.symbol fields.exchange) with
    | none =>
      let position : Position := { symbol := fields.symbol, exchange := fields.exchange }
      if fields.quantity ≠ 0 then position.withFill fields.quantity fields.avgPrice else position
    | some current =>
      let delta := fields.quantity - current.quantity
      if delta ≠ 0 then current.withFill delta fields.avgPrice else current
  if fields.ltp ≠ 0 then filled.withLtp fields.ltp else filled

/-- `upsert_position`. -/
def upsertPosition (data : List (String × BrokerValue)) : PositionManager × Except PositionError Position :=
  match BrokerPosition.read data with
  | .error error => (manager, .error error)
  | .ok fields =>
    let position := manager.reported fields
    ({ manager with
      positions := manager.positions.set (makePositionKey fields.symbol fields.exchange) position },
      .ok position)

/-- `reset`. -/
def reset : PositionManager := { manager with positions := ∅ }

/-- The quantity of the position, zero where there is none. -/
def quantity (key : String) : ℤ := ((manager.positions.get key).map Position.quantity).getD 0

/-- A position's machine is active exactly when the position is not flat. -/
def Faithful : Prop := ∀ key, (manager.state key).isActive = true ↔ manager.quantity key ≠ 0

variable {manager trade} {key : String}

theorem current_quantity :
    (manager.current trade).quantity = manager.quantity (makePositionKey trade.symbol trade.exchange) := by
  unfold current quantity
  cases manager.positions.get (makePositionKey trade.symbol trade.exchange) with
  | none => rfl
  | some position => rfl

theorem projectTrade_quantity (current : Position) :
    (projectTrade current trade).quantity = current.quantity + trade.delta := rfl

/-- On faithful machines a trade is projected onto its position. -/
theorem applyTrade_projects (trade : Trade) (faithful : manager.Faithful) : manager.applyTrade trade =
    ({ manager with
      positions := manager.positions.set (makePositionKey trade.symbol trade.exchange)
        (projectTrade (manager.current trade) trade)
      positionStates := manager.positionStates.set (makePositionKey trade.symbol trade.exchange)
        ((manager.state (makePositionKey trade.symbol trade.exchange)).next (manager.current trade).quantity
          (projectTrade (manager.current trade) trade).quantity) },
      .ok (projectTrade (manager.current trade) trade)) := by
  have here := faithful (makePositionKey trade.symbol trade.exchange)
  rw [← current_quantity] at here
  obtain ⟨legal, -⟩ := PositionState.next_legal (projectTrade (manager.current trade) trade).quantity here
  simp only [applyTrade, legal, reduceCtorEq, false_and, if_false, if_true]

/-- Where the machines are faithful no trade is refused, and they stay so. -/
theorem applyTrade_ok (trade : Trade) (faithful : manager.Faithful) :
    (manager.applyTrade trade).2 = .ok (projectTrade (manager.current trade) trade) ∧
      (manager.applyTrade trade).1.Faithful ∧
      (manager.applyTrade trade).1.processedTradeIdSet = manager.processedTradeIdSet ∧
      ∀ key, (manager.applyTrade trade).1.quantity key = manager.quantity key +
        if key = makePositionKey trade.symbol trade.exchange then trade.delta else 0 := by
  have here := faithful (makePositionKey trade.symbol trade.exchange)
  rw [← current_quantity] at here
  obtain ⟨-, active⟩ :=
    PositionState.next_legal (projectTrade (manager.current trade) trade).quantity here
  rw [applyTrade_projects trade faithful]
  generalize (manager.state (makePositionKey trade.symbol trade.exchange)).next
    (manager.current trade).quantity (projectTrade (manager.current trade) trade).quantity = newState at active ⊢
  have stateAfter : ∀ key, (manager.positionStates.set (makePositionKey trade.symbol trade.exchange) newState).get
      key = if key = makePositionKey trade.symbol trade.exchange then some newState
        else manager.positionStates.get key := fun _ => Dict.get_set ..
  have quantityAfter : ∀ key, (((manager.positions.set (makePositionKey trade.symbol trade.exchange)
      (projectTrade (manager.current trade) trade)).get key).map Position.quantity).getD 0 =
      manager.quantity key + if key = makePositionKey trade.symbol trade.exchange then trade.delta else 0 := by
    intro key
    rw [Dict.get_set]
    split
    · next same =>
      rw [same, ← current_quantity]
      rfl
    · exact (add_zero _).symm
  refine ⟨rfl, fun key => ?_, rfl, quantityAfter⟩
  unfold state
  dsimp only
  rw [stateAfter]
  by_cases same : key = makePositionKey trade.symbol trade.exchange
  · rw [if_pos same, Option.getD_some, active, projectTrade_quantity, current_quantity]
    refine iff_of_eq (congrArg (· ≠ 0) ?_)
    exact ((quantityAfter key).trans (by rw [if_pos same, same])).symm
  · rw [if_neg same]
    refine (faithful key).trans (iff_of_eq (congrArg (· ≠ 0) ?_))
    exact ((quantityAfter key).trans (by rw [if_neg same, add_zero])).symm

theorem mem_remember {tradeId id : String} (member : id ∈ (manager.remember tradeId).processedTradeIdSet) :
    id = tradeId ∨ id ∈ manager.processedTradeIdSet := by
  rcases List.mem_cons.mp member with same | member
  · exact .inl same
  · right
    split at member
    · exact List.mem_of_mem_filter member
    · exact member

/-- A trade with an id that is not in the window is applied where the machines are faithful. -/
theorem onTradeApplied_new (faithful : manager.Faithful) (new : trade.tradeId ∉ manager.processedTradeIdSet) :
    (∃ position, (manager.onTradeApplied trade).2 = .applied position) ∧
      (manager.onTradeApplied trade).1.Faithful ∧
      (∀ id ∈ (manager.onTradeApplied trade).1.processedTradeIdSet,
        id = trade.tradeId ∨ id ∈ manager.processedTradeIdSet) ∧
      ∀ key, (manager.onTradeApplied trade).1.quantity key = manager.quantity key +
        if key = makePositionKey trade.symbol trade.exchange then trade.delta else 0 := by
  have remembered : (manager.remember trade.tradeId).Faithful := faithful
  obtain ⟨applied, stays, sameIds, quantities⟩ := applyTrade_ok trade remembered
  unfold onTradeApplied
  rw [if_neg new]
  dsimp only
  rw [applied]
  refine ⟨⟨_, rfl⟩, stays, fun id member => ?_, quantities⟩
  dsimp only at member
  rw [sameIds] at member
  exact mem_remember member

theorem onTradeApplied_positions (faithful : manager.Faithful) (new : trade.tradeId ∉ manager.processedTradeIdSet) :
    (manager.onTradeApplied trade).1.positions = manager.positions.set
      (makePositionKey trade.symbol trade.exchange) (projectTrade (manager.current trade) trade) := by
  have remembered : (manager.remember trade.tradeId).Faithful := faithful
  simp only [onTradeApplied, new, if_false, applyTrade_projects trade remembered]
  rfl

end PositionManager

end TradeX.V1
