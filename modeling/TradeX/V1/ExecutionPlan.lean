import TradeX.V1.ExecutionPlanner

/-! The plan of a signal with all that its context can set: a quantity of its own that is capped or not, a percentage
of the equity, or the range of the price; and the algorithm by which the quantity is sliced. -/

namespace TradeX.V1.Planning

open Lib
open Trading (Signal SignalType computeRemainingQuantity)

inductive SizingMethod where
  | PCT_EQUITY
  | ATR
  | FIXED
  deriving DecidableEq, Repr

inductive SlicingAlgo where
  | NONE
  | TWAP
  | VWAP
  | ICEBERG
  deriving DecidableEq, Repr

structure OrderSizing where
  totalQty : ℤ
  perLegAllocation : List ℤ
  method : SizingMethod
  equity : ℚ := 0
  maxPositionPct : ℚ := 0
  existingNotional : ℚ := 0
  atr : Option ℚ := none
  atrRiskPct : ℚ := 0
  deriving DecidableEq, Repr

structure SlicingPlan where
  algo : SlicingAlgo := .NONE
  sliceCount : ℤ := 1
  intervalSeconds : ℤ := 0
  disclosedQty : Option ℤ := none
  twapDurationSeconds : Option ℤ := none
  vwapParticipationRate : Option ℚ := none
  deriving DecidableEq, Repr

structure RoutingHint where
  orderType : OrderType
  productType : ProductType
  exchangeSegment : String
  deriving DecidableEq, Repr

structure PlanGuards where
  minConfidence : ℚ
  killSwitchActive : Bool
  deriving DecidableEq, Repr

structure PlanContext where
  equity : ℚ := 0
  maxPositionPct : ℚ := 0
  existingNotional : ℚ := 0
  atr : Option ℚ := none
  atrRiskPct : ℚ := 1
  defaultOrderType : OrderType := .MARKET
  defaultProductType : ProductType := .INTRADAY
  defaultExchange : String := "NSE"
  minConfidence : ℚ := 0
  killSwitchActive : Bool := false
  correlationId : Option String := none
  strategy : String := ""
  slicing : SlicingPlan := {}
  capExplicitQuantity : Bool := false
  deriving DecidableEq, Repr

/-- `OrderIntent`, as its `__post_init__` leaves it. -/
structure OrderIntent where
  symbol : String
  exchange : String
  side : OrderSide
  quantity : ℤ
  price : ℚ
  orderType : OrderType
  productType : ProductType
  correlationId : String
  quantity_positive : 0 < quantity
  symbol_present : symbol ≠ ""
  correlationId_present : correlationId ≠ ""
  deriving DecidableEq

structure ExecutionPlan where
  sourceStrategy : String
  symbol : String
  exchange : String
  signalType : SignalType
  confidence : ℚ
  correlationId : Option String
  legs : List OrderIntent
  sizing : OrderSizing
  slicing : SlicingPlan
  routing : RoutingHint
  guards : PlanGuards
  deriving DecidableEq

inductive PlanError where
  | notActionable (signalType : SignalType) (confidence : ℚ)
  | noUsablePrice
  | symbolRequired
  deriving DecidableEq, Repr

/-- `compute_atr_quantity` -/
def computeAtrQuantity (equity atr riskPct atrMultiplier : ℚ) : ℤ :=
  if atr ≤ 0 ∨ equity ≤ 0 ∨ riskPct ≤ 0 then 0
  else
    let riskBudget := equity * (riskPct / 100)
    let riskPerShare := atr * atrMultiplier
    if riskPerShare ≤ 0 then 0 else max 0 (Decimal.toInt (riskBudget / riskPerShare))

/-- The percentage of `_pct_equity_qty`: that of the signal, or else the limit. -/
def signalPct (signal : Signal) (ctx : PlanContext) : ℚ :=
  if 0 < signal.positionSizePct then signal.positionSizePct else ctx.maxPositionPct

/-- `_pct_equity_qty` -/
def pctEquityQty (signal : Signal) (ctx : PlanContext) (price : ℚ) : ℤ :=
  if signalPct signal ctx ≤ 0 ∨ price ≤ 0 then 0
  else computeRemainingQuantity ctx.equity (signalPct signal ctx) price ctx.existingNotional

namespace ExecutionPlan

/-- The percentage of `_resolve_sizing`: that of the signal, where the limit is set not above it. -/
def effectivePct (signal : Signal) (ctx : PlanContext) : ℚ :=
  let pct := if 0 < signal.positionSizePct then signal.positionSizePct else 0
  if 0 < ctx.maxPositionPct then if 0 < pct then min pct ctx.maxPositionPct else ctx.maxPositionPct else pct

/-- `_resolve_sizing` -/
def resolveSizing (signal : Signal) (ctx : PlanContext) (price : ℚ) : OrderSizing :=
  if 0 < signal.quantity then
    let qty := if ctx.capExplicitQuantity then min signal.quantity (pctEquityQty signal ctx price) else signal.quantity
    { totalQty := qty, perLegAllocation := [qty], method := .FIXED }
  else
    let pct := effectivePct signal ctx
    if 0 < pct ∧ 0 < price then
      let qty := computeRemainingQuantity ctx.equity pct price ctx.existingNotional
      { totalQty := qty
        perLegAllocation := [qty]
        method := .PCT_EQUITY
        equity := ctx.equity
        maxPositionPct := pct
        existingNotional := ctx.existingNotional }
    else
      match ctx.atr with
      | some atr =>
        if 0 < atr ∧ 0 < price then
          let qty := computeAtrQuantity ctx.equity atr ctx.atrRiskPct 2
          { totalQty := qty
            perLegAllocation := [qty]
            method := .ATR
            atr := some atr
            atrRiskPct := ctx.atrRiskPct }
        else { totalQty := 0, perLegAllocation := [0], method := .FIXED }
      | none => { totalQty := 0, perLegAllocation := [0], method := .FIXED }

/-- The id of the leg, or a new one, whose digits are drawn, where the context has none. -/
def legCid (signal : Signal) (ctx : PlanContext) (hex : String) : String :=
  match ctx.correlationId with
  | some baseCid =>
    if baseCid = "" then "plan:" ++ hex
    else baseCid ++ ":" ++ if ctx.strategy = "" then signal.strategyName else ctx.strategy
  | none => "plan:" ++ hex

theorem legCid_present (signal : Signal) (ctx : PlanContext) (hex : String) : legCid signal ctx hex ≠ "" := by
  have drawn : "plan:" ++ hex ≠ "" := fun empty => by simpa using congrArg String.length empty
  rw [legCid]
  split
  · next baseCid _ =>
    split
    · exact drawn
    · intro empty
      simpa using congrArg String.length empty
  · exact drawn

/-- `from_signal` -/
def fromSignal (signal : Signal) (ctx : PlanContext) (hex : String) : Except PlanError ExecutionPlan :=
  if !signal.isActionable then .error (.notActionable signal.signalType signal.confidence)
  else
    match signal.entryPrice <|> signal.price with
    | none => .error .noUsablePrice
    | some price =>
      if price ≤ 0 then .error .noUsablePrice
      else
        let sizing := resolveSizing signal ctx price
        let planned (legs : List OrderIntent) : ExecutionPlan := {
          sourceStrategy := if ctx.strategy = "" then signal.strategy else ctx.strategy
          symbol := signal.symbol
          exchange := signal.exchangeOr ctx.defaultExchange
          signalType := signal.signalType
          confidence := signal.confidence
          correlationId := ctx.correlationId
          legs
          sizing
          slicing := ctx.slicing
          routing := ⟨ctx.defaultOrderType, ctx.defaultProductType, ctx.defaultExchange⟩
          guards := ⟨ctx.minConfidence, ctx.killSwitchActive⟩ }
        if positive : 0 < sizing.totalQty then
          if present : signal.symbol ≠ "" then
            .ok (planned [{
              symbol := signal.symbol
              exchange := signal.exchangeOr ctx.defaultExchange
              side := signal.side
              quantity := sizing.totalQty
              price
              orderType := ctx.defaultOrderType
              productType := ctx.defaultProductType
              correlationId := legCid signal ctx hex
              quantity_positive := positive
              symbol_present := present
              correlationId_present := legCid_present signal ctx hex }])
          else .error .symbolRequired
        else .ok (planned [])

variable {signal : Signal} {ctx : PlanContext} {price : ℚ} {hex : String} {plan : ExecutionPlan}

theorem remaining_nonneg (equity pct price existing : ℚ) : 0 ≤ computeRemainingQuantity equity pct price existing := by
  rw [computeRemainingQuantity]
  split
  · exact le_rfl
  · exact le_max_left _ _

theorem resolveSizing_nonneg (signal : Signal) (ctx : PlanContext) (price : ℚ) :
    0 ≤ (resolveSizing signal ctx price).totalQty := by
  simp only [resolveSizing]
  split
  · next explicit =>
    dsimp only
    split
    · refine le_min explicit.le ?_
      rw [pctEquityQty]
      split
      · exact le_rfl
      · exact remaining_nonneg _ _ _ _
    · exact explicit.le
  · split
    · exact remaining_nonneg _ _ _ _
    · split
      · split
        · dsimp only
          rw [computeAtrQuantity]
          split
          · exact le_rfl
          · dsimp only
            split
            · exact le_rfl
            · exact le_max_left _ _
        · exact le_rfl
      · exact le_rfl

/-- A plan has one leg with all of its quantity, and none where there is nothing to order. -/
theorem fromSignal_ok (built : fromSignal signal ctx hex = .ok plan) :
    plan.slicing = ctx.slicing ∧ 0 ≤ plan.sizing.totalQty ∧
      (plan.sizing.totalQty = 0 ∧ plan.legs = [] ∨ ∃ leg, plan.legs = [leg] ∧ leg.quantity = plan.sizing.totalQty) := by
  simp only [fromSignal] at built
  split at built
  · cases built
  split at built
  · cases built
  · next price _ =>
    split at built
    · cases built
    have nonneg := resolveSizing_nonneg signal ctx price
    split at built
    · split at built
      · rw [← Except.ok.inj built]
        exact ⟨rfl, nonneg, .inr ⟨_, rfl, rfl⟩⟩
      · cases built
    · next none_ =>
      rw [← Except.ok.inj built]
      exact ⟨rfl, nonneg, .inl ⟨le_antisymm (not_lt.mp none_) nonneg, rfl⟩⟩

/-- Where the context has no range of the price and leaves a quantity of the signal as it is, the planner of the
orchestrator computes the same quantity. -/
theorem resolveSizing_orchestrator (planner : Trading.PlanContext) (atr : ctx.atr = none)
    (absolute : ctx.capExplicitQuantity = false) (equity : planner.equity = ctx.equity)
    (limit : planner.maxPositionPct = ctx.maxPositionPct) (existing : planner.existingNotional = ctx.existingNotional) :
    (resolveSizing signal ctx price).totalQty = Trading.ExecutionPlan.resolveSizing signal planner price := by
  simp only [resolveSizing, Trading.ExecutionPlan.resolveSizing, effectivePct, atr, absolute, equity, limit, existing]
  split
  · rfl
  · exact apply_ite OrderSizing.totalQty _ _ _

end ExecutionPlan

end TradeX.V1.Planning
