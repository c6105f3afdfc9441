import TradeX.V1.LossCircuitBreaker
import TradeX.V1.PositionManager
import TradeX.V1.RiskReservations

/-! The check of the v1 risk manager: the policies in front of the sizing, the margin of derivatives,
the exposure limits, the daily loss, and the reservation behind them. What other parties answer in one
check, and every reading of a clock in it, is an argument. -/

namespace TradeX.V1

open Lib

structure RiskConfig where
  maxDailyLossPct : ℚ := 5
  maxPositionPct : ℚ := 20
  maxGrossExposurePct : ℚ := 100
  killSwitch : Bool := false
  marginSafetyMultiplier : ℚ := 6 / 5
  enableMarginCheck : Bool := true
  deriving DecidableEq, Repr

inductive TradingState where
  | ACTIVE
  | REDUCING
  | HALTED
  deriving DecidableEq, Repr

/-- `allows_new_order`. -/
def TradingState.allowsNewOrder (state : TradingState) (side : String) (currentQty newQty : ℤ) : Bool :=
  match state with
  | .HALTED => false
  | .ACTIVE => true
  | .REDUCING =>
    if currentQty = 0 then false
    else if side = "SELL" ∧ 0 < currentQty ∧ newQty ≤ currentQty then true
    else decide (side = "BUY" ∧ currentQty < 0 ∧ |currentQty| ≤ newQty)

structure Throttler where
  maxPerSecond : Nat := 10
  window : ℚ := 1
  timestamps : List ℚ := []
  deriving DecidableEq, Repr

/-- `Throttler.allow`. -/
def Throttler.allow (throttler : Throttler) (now : ℚ) : Throttler × Bool :=
  let recent := throttler.timestamps.dropWhile fun timestamp => timestamp < now - throttler.window
  if throttler.maxPerSecond ≤ recent.length then ({ throttler with timestamps := recent }, false)
  else ({ throttler with timestamps := recent ++ [now] }, true)

/-- The calendar day in IST of a time in seconds. -/
def istDay (time : ℚ) : ℤ := ⌊(time + 19800) / 86400⌋

structure DailyPnlTracker where
  dailyPnl : ℚ := 0
  resetCount : Nat := 0
  lastResetAt : ℚ := 0
  deriving DecidableEq, Repr

namespace DailyPnlTracker

variable (tracker : DailyPnlTracker)

/-- `is_stale`. -/
def isStale (today : ℤ) : Bool :=
  if tracker.lastResetAt = 0 then true else decide (istDay tracker.lastResetAt < today)

def reset (now : ℚ) : DailyPnlTracker where
  dailyPnl := 0
  resetCount := tracker.resetCount + 1
  lastResetAt := now

end DailyPnlTracker

/-- Why an order is rejected, with the numbers of the reason. -/
inductive RiskReason where
  | killSwitch
  | domainKillSwitch
  | tradingHalted (state : TradingState)
  | lossCircuit (reason : LossCircuitReason)
  | rateLimit
  | instrumentLookup (symbol error : String)
  | tick (price tick : ℚ)
  | insufficientCapital
  | noMarginProvider
  | marginError (error : String)
  | insufficientMargin (symbol : String) (required withBuffer available : ℚ)
  | unsized (symbol : String)
  | maxPositionPct (symbol : String)
  | maxGrossExposurePct
  | notional (value limit : ℚ)
  | concentration (ratio limit : ℚ)
  | capital
  | grossExposure (ratio limit : ℚ)
  | dailyLoss
  deriving DecidableEq, Repr

structure OrderNotionalLimit where
  maxNotional : ℚ := 1000000

/-- `OrderNotionalLimit.check`; without a reason the order is approved. -/
def OrderNotionalLimit.check (limit : OrderNotionalLimit) (orderNotional : ℚ) : Option RiskReason :=
  if limit.maxNotional < orderNotional then some (.notional orderNotional limit.maxNotional) else none

structure ConcentrationLimit where
  maxPct : ℚ := 1 / 5

/-- `ConcentrationLimit.check`. -/
def ConcentrationLimit.check (limit : ConcentrationLimit) (orderNotional portfolioNotional : ℚ) :
    Option RiskReason :=
  if portfolioNotional ≤ 0 then none
  else if limit.maxPct < orderNotional / portfolioNotional then
    some (.concentration (orderNotional / portfolioNotional) limit.maxPct)
  else none

theorem ConcentrationLimit.check_none {limit : ConcentrationLimit} {orderNotional portfolioNotional : ℚ}
    (funded : 0 < portfolioNotional) (passed : limit.check orderNotional portfolioNotional = none) :
    orderNotional ≤ limit.maxPct * portfolioNotional := by
  simp only [check, if_neg (not_le.mpr funded)] at passed
  by_contra exceeds
  rw [not_le, ← lt_div_iff₀ funded] at exceeds
  rw [if_pos exceeds] at passed
  cases passed

structure GrossExposureLimit where
  maxPct : ℚ := 1

/-- `GrossExposureLimit.check`. -/
def GrossExposureLimit.check (limit : GrossExposureLimit) (totalExposure capital : ℚ) : Option RiskReason :=
  if capital ≤ 0 then some .capital
  else if limit.maxPct < totalExposure / capital then some (.grossExposure (totalExposure / capital) limit.maxPct)
  else none

theorem GrossExposureLimit.check_none {limit : GrossExposureLimit} {totalExposure capital : ℚ}
    (funded : 0 < capital) (passed : limit.check totalExposure capital = none) :
    totalExposure ≤ limit.maxPct * capital := by
  simp only [check, if_neg (not_le.mpr funded)] at passed
  by_contra exceeds
  rw [not_le, ← lt_div_iff₀ funded] at exceeds
  rw [if_pos exceeds] at passed
  cases passed

structure RiskGate where
  notional : OrderNotionalLimit := {}
  concentration : ConcentrationLimit := {}
  grossExposure : GrossExposureLimit := {}

/-- `RiskGate.check_order`, also called `evaluate`. -/
def RiskGate.checkOrder (gate : RiskGate) (orderNotional portfolioNotional totalExposure capital : ℚ) :
    Option RiskReason :=
  match gate.notional.check orderNotional with
  | some reason => some reason
  | none =>
    match gate.concentration.check orderNotional portfolioNotional with
    | some reason => some reason
    | none => gate.grossExposure.check totalExposure capital

theorem RiskGate.checkOrder_none {gate : RiskGate} {orderNotional totalExposure capital : ℚ} (funded : 0 < capital)
    (passed : gate.checkOrder orderNotional capital totalExposure capital = none) :
    orderNotional ≤ gate.concentration.maxPct * capital ∧ totalExposure ≤ gate.grossExposure.maxPct * capital := by
  simp only [checkOrder] at passed
  split at passed
  · cases passed
  · split at passed
    · cases passed
    · next concentrated => exact ⟨ConcentrationLimit.check_none funded concentrated, GrossExposureLimit.check_none funded passed⟩

/-- `build_risk_gate_from_config`, as the risk manager calls it. -/
def buildRiskGateFromConfig (config : RiskConfig) : RiskGate where
  notional := { maxNotional := 999999999999 }
  concentration := { maxPct := config.maxPositionPct / 100 }
  grossExposure := { maxPct := config.maxGrossExposurePct / 100 }

/-- What the instrument provider knows of an instrument. -/
structure RiskInstrument where
  tickSize : ℚ := 1 / 20
  ltp : Option ℚ := none
  lastPrice : Option ℚ := none
  lastTradedPrice : Option ℚ := none
  multiplier : Option ℚ := none
  deriving DecidableEq, Repr

/-- The instrument provider's answer: there is none, it raises, or it may know the instrument. -/
abbrev InstrumentAnswer := Option (Except String (Option RiskInstrument))

/-- What one check meets: the capital, the positions, the instrument provider at its two lookups, the
margin provider, and the clocks in the order in which they are read. -/
structure RiskContext where
  capital : ℚ
  positions : Dict String Position := ∅
  tickLookup : InstrumentAnswer := none
  marketLookup : InstrumentAnswer := none
  /-- There is no margin provider, it raises, or it tells the required and the available margin. -/
  marginAnswer : Option (Except String (ℚ × ℚ)) := none
  lossAsked : ℚ := 0
  lossMoved : ℚ := 0
  lossRemaining : ℚ := 0
  throttled : ℚ := 0
  symbolSwept : ℚ := 0
  grossSwept : ℚ := 0
  today : ℤ := 0
  dailyReset : ℚ := 0
  reserveSwept : ℚ := 0
  reserved : ℚ := 0

/-- `is_tick_aligned` for a positive price and tick. -/
def isTickAligned (price tickSize : ℚ) : Bool :=
  let remainder := price - tickSize * ⌊price / tickSize⌋
  decide (remainder ≤ 1 / 10000 ∨ tickSize - remainder ≤ 1 / 10000)

/-- The price is off the tick. -/
def misaligned (price tick : ℚ) : Option RiskReason :=
  if 0 < tick ∧ isTickAligned price tick = false then some (.tick price tick) else none

/-- `_tick_align`; the default tick stands in where no instrument is known. -/
def tickAlign (order : Order) (lookup : InstrumentAnswer) : Option RiskReason :=
  if order.orderType = .MARKET ∨ order.orderType = .STOP_LOSS_MARKET then none
  else if order.price ≤ 0 then none
  else
    match lookup with
    | none => misaligned order.price (1 / 20)
    | some (.error error) => some (.instrumentLookup order.symbol error)
    | some (.ok none) => misaligned order.price (1 / 20)
    | some (.ok (some instrument)) => misaligned order.price instrument.tickSize

/-- `resolve_market_context`: the reference price and the multiplier of the instrument. -/
def resolveMarketContext : InstrumentAnswer → Option ℚ × Option ℚ
  | some (.ok (some instrument)) =>
    ((instrument.ltp.filter (0 < ·)).or ((instrument.lastPrice.filter (0 < ·)).or
      (instrument.lastTradedPrice.filter (0 < ·))), instrument.multiplier.filter (0 < ·))
  | _ => (none, none)

/-- The members of `_DERIVATIVE_SEGMENTS` under all their names. -/
def derivativeSegments : List (List Char) :=
  ["MCX", "MCXCOMM", "MCX_COMM", "NSE_FNO", "NFO", "BSE_FNO", "BFO", "NSE_CURRENCY", "CDS", "BSE_CURRENCY",
    "BCD"].map String.toList

/-- `is_derivative_segment`. -/
def isDerivativeSegment (segment : String) : Bool := derivativeSegments.contains (Text.upper (Text.strip segment))

/-- What a position counts for in the exposures. -/
def Position.exposure (position : Position) : ℚ :=
  |(position.quantity : ℚ)| * position.avgPrice * (if position.multiplier = 0 then 1 else position.multiplier)

/-- The three entries that `reserve_pending` sets for a correlation id. -/
def MarginChecker.reserve (margin : MarginChecker) (correlationId symbol exchange : String) (notional now : ℚ) :
    MarginChecker where
  pendingByCorrelation := margin.pendingByCorrelation.set correlationId notional
  pendingMeta := margin.pendingMeta.set correlationId (symbol, exchange)
  pendingAt := margin.pendingAt.set correlationId now

namespace RiskContext

variable (context : RiskContext) (order : Order)

/-- `get_position`. -/
def current : Option Position := context.positions.get (makePositionKey order.symbol order.exchange)

def currentNotional : ℚ := ((context.current order).map Position.exposure).getD 0

/-- The exposure of the whole book. -/
def gross : ℚ := (context.positions.values.map Position.exposure).sum

/-- The reference price: the instrument's, else the last price of the open position. -/
def refPrice : Option ℚ :=
  (resolveMarketContext context.marketLookup).1.or
    (((context.current order).map Position.ltp).filter (0 < ·))

/-- The notional of the order, when it has a price. -/
def notional : Option ℚ :=
  effectiveNotional order.quantity order.price (context.refPrice order) (resolveMarketContext context.marketLookup).2

end RiskContext

structure RiskManager where
  config : RiskConfig := {}
  /-- The kill switch's own copy of the configured flag. -/
  killSwitch : Bool := config.killSwitch
  domainKillSwitch : Bool := config.killSwitch
  useLegacyRisk : Bool := false
  tradingState : TradingState := .ACTIVE
  lossConfig : LossCircuitBreakerConfig := {}
  lossCb : LossCircuitBreaker := {}
  throttler : Throttler := {}
  dailyPnlTracker : DailyPnlTracker := {}
  marginChecker : MarginChecker := {}

/-- A policy answers with a reason against the order, or with none. -/
abbrev PolicyFn := RiskManager → RiskManager × Option RiskReason

/-- `run_policy_chain`. -/
def runPolicyChain : List PolicyFn → PolicyFn
  | [], manager => (manager, none)
  | policy :: rest, manager =>
    match policy manager with
    | (after, some reason) => (after, some reason)
    | (after, none) => runPolicyChain rest after

namespace RiskManager

variable (manager : RiskManager) (order : Order) (context : RiskContext)

/-- `_pre_trade_policies`. -/
def preTradePolicies : List PolicyFn := [
  fun manager => (manager,
    if manager.killSwitch ∨ manager.domainKillSwitch then some .killSwitch else none),
  fun manager => (manager, if manager.domainKillSwitch then some .domainKillSwitch else none),
  -- The policy gives neither the side nor the quantities.
  fun manager => (manager,
    if manager.tradingState.allowsNewOrder "" 0 0 then none else some (.tradingHalted manager.tradingState)),
  fun manager =>
    let (lossCb, reason) :=
      manager.lossCb.allowTrading manager.lossConfig context.lossAsked context.lossMoved context.lossRemaining
    ({ manager with lossCb := lossCb }, reason.map .lossCircuit),
  fun manager =>
    let (throttler, allowed) := manager.throttler.allow context.throttled
    ({ manager with throttler := throttler }, if allowed then none else some .rateLimit),
  fun manager => (manager, tickAlign order context.tickLookup)]

/-- `MarginChecker.check`. -/
def checkMargin : Option RiskReason :=
  match context.marginAnswer with
  | none => some .noMarginProvider
  | some (.error error) => some (.marginError error)
  | some (.ok (required, available)) =>
    let requiredWithBuffer := required * manager.config.marginSafetyMultiplier
    if available < requiredWithBuffer then
      some (.insufficientMargin order.symbol required requiredWithBuffer available)
    else none

/-- The margin check of the configuration, for derivative segments only. -/
def marginReason : Option RiskReason :=
  if manager.config.enableMarginCheck ∧ isDerivativeSegment order.exchange then manager.checkMargin order context
  else none

/-- The limits of `_check_exposure_limits` over the two exposures. -/
def exposureReason (symbolExposure totalExposure : ℚ) : Option RiskReason :=
  if manager.useLegacyRisk then
    if manager.config.maxPositionPct < symbolExposure / context.capital * 100 then
      some (.maxPositionPct order.symbol)
    else if manager.config.maxGrossExposurePct < totalExposure / context.capital * 100 then
      some .maxGrossExposurePct
    else none
  else
    (buildRiskGateFromConfig manager.config).checkOrder symbolExposure context.capital totalExposure context.capital

/-- `_check_exposure_limits`, which sweeps before each of its two sums. -/
def checkExposureLimits (notional : ℚ) : MarginChecker × Option RiskReason :=
  let first := manager.marginChecker.sweepExpired context.symbolSwept
  let pendingSymbol := first.pendingSymbolNotional order.symbol order.exchange
  let second := first.sweepExpired context.grossSwept
  (second, manager.exposureReason order context (context.currentNotional order + pendingSymbol + notional)
    (context.gross + second.pendingGross + notional))

/-- The tracker after the reset of a check that finds it stale. -/
def refreshedPnl : DailyPnlTracker :=
  if manager.dailyPnlTracker.isStale context.today ∧ manager.dailyPnlTracker.lastResetAt ≠ 0 then
    manager.dailyPnlTracker.reset context.dailyReset
  else manager.dailyPnlTracker

/-- The loss of the day has reached its limit. -/
def dailyLossReached : Bool :=
  decide (manager.dailyPnlTracker.dailyPnl < 0 ∧
    manager.config.maxDailyLossPct ≤ |manager.dailyPnlTracker.dailyPnl| / context.capital * 100)

/-- `reserve_pending` with its two readings of the clock. -/
def reservePending (notional : ℚ) : MarginChecker :=
  let swept := manager.marginChecker.sweepExpired context.reserveSwept
  match order.filedUnder with
  | none => swept
  | some correlationId => swept.reserve correlationId order.symbol order.exchange notional context.reserved

/-- `check_order`; without a reason the order is allowed. -/
def checkOrder : RiskManager × Option RiskReason :=
  match runPolicyChain (preTradePolicies order context) manager with
  | (passed, some reason) => (passed, some reason)
  | (passed, none) =>
    if context.capital ≤ 0 then (passed, some .insufficientCapital)
    else
      match passed.marginReason order context with
      | some reason => (passed, some reason)
      | none =>
        match context.notional order with
        | none => (passed, some (.unsized order.symbol))
        | some notional =>
          let (swept, limited) := passed.checkExposureLimits order context notional
          let counted := { passed with marginChecker := swept }
          match limited with
          | some reason => (counted, some reason)
          | none =>
            let settled := { counted with dailyPnlTracker := counted.refreshedPnl context }
            if settled.dailyLossReached context then (settled, some .dailyLoss)
            else ({ settled with marginChecker := settled.reservePending order context notional }, none)

def releasePending (correlationId : Option String) : RiskManager :=
  { manager with marginChecker := manager.marginChecker.releasePending correlationId }

end RiskManager

end TradeX.V1
