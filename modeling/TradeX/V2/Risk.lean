import TradeX.V2.Domain

/-! Pre-trade risk gate: the rules, the rules engine that stops at the first
rejection, and the manager with its kill switch. A rule that raises denies. -/

namespace TradeX.V2

open Lib

structure RiskContext where
  positions : Dict InstrumentId Position
  dailyPnl : ℚ
  orderCount : Nat
  availableMargin : ℚ

/-- The reason texts, with the values they show. -/
inductive DenyReason where
  | positionLimit (projected maxQty : ℚ)
  | orderSize (qty maxQty : ℚ)
  | dailyLoss (dailyPnl maxLoss : ℚ)
  | orderRate (orderCount maxOrders : Nat)
  | notional (notional maxNotional : ℚ)
  | killSwitch (reason : String)
  | checkFailed (failure : Failure)
  | other (reason : String)
  deriving DecidableEq, Repr

structure RiskCheckResult where
  approved : Bool
  reason : Option DenyReason := none
  maxQuantity : Option ℚ := none
  maxNotional : Option ℚ := none
  deriving DecidableEq, Repr

/-- `RiskRule.check`, which may raise. -/
abbrev RiskRule := PlaceOrderCommand → RiskContext → Except Failure RiskCheckResult

def positionLimitRule (maxQty : ℚ) : RiskRule := fun command context =>
  let currentQty := ((context.positions.get command.instrumentId).map Position.quantity).getD 0
  let delta := match command.side with
    | .BUY => command.quantity
    | .SELL => -command.quantity
  let projected := |currentQty + delta|
  if projected > maxQty then
    .ok { approved := false, reason := some (.positionLimit projected maxQty), maxQuantity := some maxQty }
  else .ok { approved := true }

def orderSizeRule (maxQty : ℚ) : RiskRule := fun command _ =>
  if command.quantity > maxQty then
    .ok { approved := false
          reason := some (.orderSize command.quantity maxQty), maxQuantity := some maxQty }
  else .ok { approved := true }

def dailyLossRule (maxLoss : ℚ) : RiskRule := fun _ context =>
  if context.dailyPnl < -maxLoss then
    .ok { approved := false, reason := some (.dailyLoss context.dailyPnl maxLoss) }
  else .ok { approved := true }

def orderRateRule (maxOrders : Nat) : RiskRule := fun _ context =>
  if context.orderCount ≥ maxOrders then
    .ok { approved := false, reason := some (.orderRate context.orderCount maxOrders) }
  else .ok { approved := true }

def notionalRule (maxNotional : ℚ) : RiskRule := fun command _ =>
  match command.price with
  | none => .error .noneAttribute
  | some price =>
    if price * command.quantity > maxNotional then
      .ok { approved := false
            reason := some (.notional (price * command.quantity) maxNotional)
            maxNotional := some maxNotional }
    else .ok { approved := true }

/-- `RiskRulesEngine.check`. -/
def checkRules : List RiskRule → RiskRule
  | [], _, _ => .ok { approved := true }
  | rule :: rules, command, context =>
    match rule command context with
    | .error failure => .error failure
    | .ok result => if result.approved then checkRules rules command context else .ok result

structure RiskManager where
  rules : List RiskRule
  killSwitch : Bool := false
  killReason : String := ""

namespace RiskManager

/-- `RiskManager.check_order`. -/
def checkOrder (risk : RiskManager) (command : PlaceOrderCommand) (context : RiskContext) :
    RiskCheckResult :=
  if risk.killSwitch then
    let reason := if risk.killReason = "" then "kill switch active" else risk.killReason
    { approved := false, reason := some (.killSwitch reason) }
  else match checkRules risk.rules command context with
    | .ok result => result
    | .error failure => { approved := false, reason := some (.checkFailed failure) }

def activateKillSwitch (risk : RiskManager) (reason : String) : RiskManager :=
  { risk with killSwitch := true, killReason := reason }

def resetKillSwitch (risk : RiskManager) : RiskManager :=
  { risk with killSwitch := false, killReason := "" }

end RiskManager

/-- `RiskConfig` with its defaults. -/
structure RiskConfig where
  maxOrderSize : Int := 1000
  maxPositionSize : Int := 5000
  maxDailyLoss : ℚ := 50000
  maxOrdersPerDay : Nat := 100

/-- `_risk_from_config`. -/
def riskFromConfig (cfg : RiskConfig) : RiskManager where
  rules := [
    orderSizeRule cfg.maxOrderSize,
    positionLimitRule cfg.maxPositionSize,
    dailyLossRule cfg.maxDailyLoss,
    orderRateRule cfg.maxOrdersPerDay]

variable {rules : List RiskRule} {command : PlaceOrderCommand} {context : RiskContext}

/-- An approval is an approval by every rule of the list. -/
theorem checkRules_approved {result : RiskCheckResult}
    (checked : checkRules rules command context = .ok result) (approved : result.approved = true)
    {rule : RiskRule} (member : rule ∈ rules) :
    ∃ verdict, rule command context = .ok verdict ∧ verdict.approved = true := by
  induction rules with
  | nil => cases member
  | cons first rules ih =>
    unfold checkRules at checked
    cases verdict : first command context with
    | error failure => simp only [verdict, reduceCtorEq] at checked
    | ok answer =>
      simp only [verdict] at checked
      by_cases passes : answer.approved = true
      · simp only [if_pos passes] at checked
        cases member with
        | head => exact ⟨answer, verdict, passes⟩
        | tail _ member => exact ih checked member
      · simp only [if_neg passes, Except.ok.injEq] at checked
        exact absurd (checked ▸ approved) passes

theorem RiskManager.checkOrder_approved {risk : RiskManager}
    (approved : (risk.checkOrder command context).approved = true)
    {rule : RiskRule} (member : rule ∈ risk.rules) :
    ∃ verdict, rule command context = .ok verdict ∧ verdict.approved = true := by
  unfold checkOrder at approved
  split at approved
  · cases approved
  · cases checked : checkRules risk.rules command context with
    | error failure => simp only [checked, Bool.false_eq_true] at approved
    | ok result =>
      simp only [checked] at approved
      exact checkRules_approved checked approved member

theorem positionLimitRule_approved {maxQty : ℚ} {verdict : RiskCheckResult}
    (checked : positionLimitRule maxQty command context = .ok verdict)
    (approved : verdict.approved = true) :
    |((context.positions.get command.instrumentId).map Position.quantity).getD 0 +
      command.signedQuantity| ≤ maxQty := by
  have delta : (match command.side with | .BUY => command.quantity | .SELL => -command.quantity) =
      command.signedQuantity := by
    unfold PlaceOrderCommand.signedQuantity OrderSide.signed
    cases command.side <;> rfl
  simp only [positionLimitRule, delta] at checked
  split at checked
  · cases checked
    cases approved
  · next within => exact not_lt.mp within

end TradeX.V2
