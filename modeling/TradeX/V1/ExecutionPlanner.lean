import TradeX.Lib.Binary64
import TradeX.V1.OrderManager

/-! The execution planner: a signal is gated, sized and made into an order command, whose correlation id is the one
of its candidate with the name of the strategy. -/

namespace TradeX.V1.Trading

open Lib

inductive SignalType where
  | BUY
  | SELL
  | STRONG_BUY
  | STRONG_SELL
  | ENTRY
  | EXIT
  | other (name : String)
  deriving DecidableEq, Repr

/-- `SignalDTO` -/
structure Signal where
  symbol : String
  exchange : String
  signalType : SignalType
  confidence : ℚ
  quantity : ℤ := 0
  price : Option ℚ := none
  entryPrice : Option ℚ := none
  strategy : String := ""
  positionSizePct : ℚ := 0
  deriving DecidableEq, Repr

namespace Signal

variable (signal : Signal)

def isActionable : Bool :=
  match signal.signalType with
  | .other _ => false
  | _ => decide (0 < signal.confidence)

/-- `signal.strategy or "strategy"` -/
def strategyName : String := if signal.strategy = "" then "strategy" else signal.strategy

def side : OrderSide :=
  match signal.signalType with
  | .BUY | .STRONG_BUY | .ENTRY => .BUY
  | _ => .SELL

/-- `signal.exchange or default_exchange` -/
def exchangeOr (defaultExchange : String) : String := if signal.exchange = "" then defaultExchange else signal.exchange

end Signal

/-- `float(a) < float(b)` -/
def floatLt (first second : ℚ) : Bool :=
  match Binary64.round first, Binary64.round second with
  | .finite first, .finite second => decide (first < second)
  | .infinite true, .finite _ => true
  | .finite _, .infinite false => true
  | .infinite true, .infinite false => true
  | _, _ => false

/-- `coalesce_strategy_signals`: of the actionable signals of a symbol the most confident one stays, of equal ones
the one whose strategy is last by name. -/
def winners (signals : List Signal) : Dict String Signal :=
  signals.foldl (fun winners signal =>
    match winners.get signal.symbol with
    | none => winners.set signal.symbol signal
    | some existing =>
      if floatLt existing.confidence signal.confidence then winners.set signal.symbol signal
      else if !floatLt signal.confidence existing.confidence && decide (existing.strategy ≤ signal.strategy) then
        winners.set signal.symbol signal
      else winners) .empty

def coalesceStrategySignals (signals : List Signal) : List Signal :=
  if signals.length ≤ 1 then signals
  else (signals.filter fun signal => !signal.isActionable) ++ (winners (signals.filter Signal.isActionable)).values

/-- `compute_remaining_quantity` -/
def computeRemainingQuantity (equity maxPositionPct price existingNotional : ℚ) : ℤ :=
  if price ≤ 0 ∨ equity ≤ 0 ∨ maxPositionPct ≤ 0 then 0
  else
    let remaining := max 0 (equity * (maxPositionPct / 100) - existingNotional)
    max 0 (Decimal.toInt (remaining / price))

structure PlanContext where
  equity : ℚ
  maxPositionPct : ℚ
  existingNotional : ℚ
  defaultOrderType : OrderType
  defaultProductType : ProductType
  defaultExchange : String
  correlationId : String
  strategy : String
  deriving DecidableEq, Repr

structure OrderIntent where
  symbol : String
  exchange : String
  side : OrderSide
  quantity : ℤ
  price : ℚ
  orderType : OrderType
  productType : ProductType
  correlationId : String
  deriving DecidableEq, Repr

structure ExecutionPlan where
  sourceStrategy : String
  symbol : String
  exchange : String
  signalType : SignalType
  confidence : ℚ
  correlationId : String
  legs : List OrderIntent
  totalQty : ℤ
  deriving DecidableEq, Repr

namespace ExecutionPlan

/-- `_resolve_sizing`; the context has no range of the price to size from. -/
def resolveSizing (signal : Signal) (ctx : PlanContext) (price : ℚ) : ℤ :=
  if 0 < signal.quantity then signal.quantity
  else
    let pct := if 0 < signal.positionSizePct then signal.positionSizePct else 0
    let pct := if 0 < ctx.maxPositionPct then if 0 < pct then min pct ctx.maxPositionPct else ctx.maxPositionPct else pct
    if 0 < pct ∧ 0 < price then computeRemainingQuantity ctx.equity pct price ctx.existingNotional else 0

/-- The id of a leg. -/
def legCid (signal : Signal) (ctx : PlanContext) : String :=
  ctx.correlationId ++ ":" ++ if ctx.strategy = "" then signal.strategyName else ctx.strategy

/-- `from_signal`; a `ValueError` is no plan. The price must be usable, and an intent needs a symbol. -/
def fromSignal (signal : Signal) (ctx : PlanContext) : Option ExecutionPlan :=
  if !signal.isActionable then none
  else
    match signal.entryPrice <|> signal.price with
    | none => none
    | some price =>
      if price ≤ 0 then none
      else
        let totalQty := resolveSizing signal ctx price
        if 0 < totalQty ∧ signal.symbol = "" then none
        else some {
          sourceStrategy := if ctx.strategy = "" then signal.strategy else ctx.strategy
          symbol := signal.symbol
          exchange := signal.exchangeOr ctx.defaultExchange
          signalType := signal.signalType
          confidence := signal.confidence
          correlationId := ctx.correlationId
          legs := if 0 < totalQty then [{
            symbol := signal.symbol
            exchange := signal.exchangeOr ctx.defaultExchange
            side := signal.side
            quantity := totalQty
            price := price
            orderType := ctx.defaultOrderType
            productType := ctx.defaultProductType
            correlationId := legCid signal ctx }] else []
          totalQty := totalQty }

end ExecutionPlan

/-- The values that the planner looks up for a signal. -/
structure Runtime where
  equity : ℚ
  existingNotional : String → String → ℚ

structure PlanResult where
  commands : List OmsOrderCommand
  plan : Option ExecutionPlan := none
  rejected : Bool := false
  dryRun : Bool := false

structure ExecutionPlanner where
  minConfidence : ℚ
  isDryRun : Bool
  defaultOrderType : OrderType
  defaultProductType : ProductType
  defaultExchange : String
  maxPositionSizePct : ℚ

namespace ExecutionPlanner

variable (planner : ExecutionPlanner)

/-- `correlation_id or f"{symbol}:{strategy}"` -/
def baseCid (signal : Signal) (correlationId : String) : String :=
  if correlationId = "" then signal.symbol ++ ":" ++ signal.strategyName else correlationId

def buildPlanContext (signal : Signal) (correlationId : String) (runtime : Runtime) : PlanContext where
  equity := runtime.equity
  maxPositionPct := planner.maxPositionSizePct
  existingNotional := runtime.existingNotional signal.symbol (signal.exchangeOr planner.defaultExchange)
  defaultOrderType := planner.defaultOrderType
  defaultProductType := planner.defaultProductType
  defaultExchange := planner.defaultExchange
  correlationId := baseCid signal correlationId
  strategy := signal.strategy

/-- `normalize_symbol`, which `normalize_exchange` is, too. -/
def normalizeSymbol (symbol : String) : String := String.ofList (Text.upper (Text.strip symbol))

/-- `order_intent_to_oms_command`; an intent without an id gets no command. -/
def intentToCommand (intent : OrderIntent) : Option OmsOrderCommand :=
  if present : intent.correlationId ≠ "" then some {
    symbol := normalizeSymbol intent.symbol
    exchange := normalizeSymbol intent.exchange
    side := intent.side
    quantity := intent.quantity
    price := intent.price
    orderType := intent.orderType
    productType := intent.productType
    correlationId := intent.correlationId
    correlationId_present := present }
  else none

def plan (signal : Signal) (correlationId : String) (runtime : Runtime) : PlanResult :=
  if !signal.isActionable then { commands := [] }
  else if floatLt signal.confidence planner.minConfidence then { commands := [], rejected := true }
  else if planner.isDryRun then { commands := [], dryRun := true }
  else
    match ExecutionPlan.fromSignal signal (planner.buildPlanContext signal correlationId runtime) with
    | none => { commands := [], rejected := true }
    | some executionPlan =>
      let commands := (executionPlan.legs.filter fun intent => 0 < intent.quantity).filterMap intentToCommand
      { commands := commands
        plan := some executionPlan
        rejected := commands.isEmpty }

variable {planner} {signal : Signal} {correlationId : String} {runtime : Runtime} {command : OmsOrderCommand}

theorem leg_correlationId {ctx : PlanContext} {executionPlan : ExecutionPlan} {intent : OrderIntent}
    (built : ExecutionPlan.fromSignal signal ctx = some executionPlan) (leg : intent ∈ executionPlan.legs) :
    intent.correlationId = ExecutionPlan.legCid signal ctx := by
  simp only [ExecutionPlan.fromSignal] at built
  split at built
  · cases built
  split at built
  · cases built
  split at built
  · cases built
  split at built
  · cases built
  · rw [← Option.some.inj built] at leg
    dsimp only at leg
    split at leg
    · rw [List.mem_singleton.mp leg]
    · cases leg

theorem intentToCommand_correlationId {intent : OrderIntent} (made : intentToCommand intent = some command) :
    command.correlationId = intent.correlationId := by
  simp only [intentToCommand] at made
  split at made
  · rw [← Option.some.inj made]
  · cases made

/-- The commands of a signal carry the id of its candidate with the name of its strategy. -/
theorem plan_correlationId (given : correlationId ≠ "") (planned : command ∈ (planner.plan signal correlationId runtime).commands) :
    command.correlationId = correlationId ++ ":" ++ signal.strategyName := by
  simp only [plan] at planned
  split at planned
  · cases planned
  split at planned
  · cases planned
  split at planned
  · cases planned
  split at planned
  · cases planned
  · next executionPlan built =>
    obtain ⟨intent, kept, made⟩ := List.mem_filterMap.mp planned
    rw [intentToCommand_correlationId made, leg_correlationId built (List.mem_of_mem_filter kept)]
    simp only [ExecutionPlan.legCid, buildPlanContext, baseCid, if_neg given]
    by_cases unnamed : signal.strategy = ""
    · rw [if_pos unnamed]
    · rw [if_neg unnamed, Signal.strategyName, if_neg unnamed]

end ExecutionPlanner

end TradeX.V1.Trading
