import TradeX.Lib.Runs
import TradeX.V2.Oms
import TradeX.V2.Risk
import TradeX.V2.Idempotency

/-! The execution engine: idempotency, risk, fill source, order and position
state. A session is the engine as its environment drives it. The calls of
`submit` that are suspended in the fill source or in the publication of a risk
breach form a stack, so that calls may nest and every suspended call may raise. -/

namespace TradeX.V2

open Lib

/-- The engine as the runtime factory wires it: order manager, position manager
and order store share one trading cache. -/
structure Engine where
  risk : RiskManager
  guard : IdempotencyGuard := {}
  cache : TradingCache := {}
  byCorr : Dict CorrelationId Order := ∅
  orderCount : Nat := 0

/-- How the first half of `submit` ends: with an answer, with a denial still to
publish, or at the call of the fill source. -/
inductive Begun where
  | prior (order : Order)
  | denied (check : RiskCheckResult)
  | filling
  deriving DecidableEq, Repr

namespace Engine

/-- `_get_positions`. -/
def positions (engine : Engine) : Dict InstrumentId Position :=
  engine.cache.positions.rekey Position.instrumentId

/-- `_risk_context`; the margin is always zero. -/
def riskContext (engine : Engine) : RiskContext where
  positions := engine.positions
  dailyPnl := (engine.positions.values.map Position.realizedPnl).sum
  orderCount := engine.orderCount
  availableMargin := 0

def check (engine : Engine) (command : PlaceOrderCommand) : RiskCheckResult :=
  engine.risk.checkOrder command engine.riskContext

/-- `submit` up to the call of the fill source or the publication of the denial. -/
def begin (engine : Engine) (command : PlaceOrderCommand) : Engine × Begun :=
  let reserved := EngineIdempotency.checkAndReserve engine.guard command.correlationId
  let engine := { engine with guard := reserved.1 }
  match reserved.2 with
  | some prior => (engine, .prior prior)
  | none =>
    let check := engine.check command
    if check.approved then (engine, .filling) else (engine, .denied check)

/-- `_apply_oms`. -/
def applyOms (engine : Engine) (order : Order) : Engine :=
  let stored := OrderManager.upsert (engine.cache.setOrder order) order
  { engine with
    byCorr := engine.byCorr.set order.correlationId order
    cache := if order.status = .FILLED then PositionManager.apply stored order else stored }

def recordResult (engine : Engine) (correlationId : CorrelationId) (result : Option Order) :
    Engine × Except Failure Unit :=
  match engine.guard.recordResult correlationId result with
  | .error failure => (engine, .error failure)
  | .ok guard => ({ engine with guard := guard }, .ok ())

/-- `submit` after the fill source returned; a venue may answer no order at all. -/
def finish (engine : Engine) (command : PlaceOrderCommand) (answer : Option Order) :
    Engine × Except Failure Unit :=
  let engine := { engine with orderCount := engine.orderCount + 1 }
  match answer with
  | none => (engine, .error .noneAttribute)
  | some order => (engine.applyOms order).recordResult command.correlationId (some order)

end Engine

/-- A suspended call of `submit`. -/
inductive Frame where
  | filling (command : PlaceOrderCommand)
  | denying (command : PlaceOrderCommand)
  deriving DecidableEq, Repr

/-- One call of `FillSource.submit`: the command, and what the guard said of its
correlation id when the call of the engine began. -/
structure Sent where
  status : IdempotencyStatus
  command : PlaceOrderCommand
  deriving DecidableEq, Repr

structure Session where
  engine : Engine
  stack : List Frame := []
  sent : List Sent := []

inductive Event where
  /-- `submit` is called, by a caller or from within a suspended call. -/
  | call (command : PlaceOrderCommand)
  | fillReturns (answer : Option Order)
  | fillRaises
  | publishReturns
  | publishRaises
  | activateKillSwitch (reason : String)
  | resetKillSwitch
  deriving DecidableEq, Repr

namespace Session

def call (s : Session) (command : PlaceOrderCommand) : Session :=
  let begun := s.engine.begin command
  let s' := { s with engine := begun.1 }
  match begun.2 with
  | .prior _ => s'
  | .denied _ => { s' with stack := .denying command :: s.stack }
  | .filling =>
    { s' with
      stack := .filling command :: s.stack
      sent := ⟨s.engine.guard.status command.correlationId, command⟩ :: s.sent }

def step (s : Session) : Event → Option Session
  | .call command => some (s.call command)
  | .fillReturns answer =>
    match s.stack with
    | .filling command :: rest =>
      some { s with engine := (s.engine.finish command answer).1, stack := rest }
    | _ => none
  | .fillRaises =>
    match s.stack with
    | .filling _ :: rest => some { s with stack := rest }
    | _ => none
  | .publishReturns =>
    match s.stack with
    | .denying command :: rest =>
      some { s with engine := (s.engine.recordResult command.correlationId none).1, stack := rest }
    | _ => none
  | .publishRaises =>
    match s.stack with
    | .denying _ :: rest => some { s with stack := rest }
    | _ => none
  | .activateKillSwitch reason =>
    some { s with engine := { s.engine with risk := s.engine.risk.activateKillSwitch reason } }
  | .resetKillSwitch =>
    some { s with engine := { s.engine with risk := s.engine.risk.resetKillSwitch } }

/-- A fresh engine under a risk manager. -/
def start (risk : RiskManager) : Session := { engine := { risk := risk } }

end Session

section

variable {engine : Engine} {command : PlaceOrderCommand}

theorem Engine.begin_cache : (engine.begin command).1.cache = engine.cache := by
  unfold begin
  dsimp only
  split
  · rfl
  · split <;> rfl

theorem Engine.begin_risk : (engine.begin command).1.risk = engine.risk := by
  unfold begin
  dsimp only
  split
  · rfl
  · split <;> rfl

theorem Engine.recordResult_cache {correlationId : CorrelationId} {result : Option Order} :
    (engine.recordResult correlationId result).1.cache = engine.cache ∧
      (engine.recordResult correlationId result).1.risk = engine.risk := by
  unfold recordResult
  split <;> exact ⟨rfl, rfl⟩

theorem Engine.applyOms_keyed (keyed : PositionManager.Keyed engine.cache)
    (order : Order) : PositionManager.Keyed (engine.applyOms order).cache := by
  have stored : PositionManager.Keyed (OrderManager.upsert (engine.cache.setOrder order) order) := keyed
  unfold applyOms
  dsimp only
  split
  · exact PositionManager.apply_keyed stored order
  · exact stored

theorem Engine.recordResult_keeps {correlationId : CorrelationId} {result : Option Order}
    {other : CorrelationId} (kept : engine.guard.reserved other) :
    (engine.recordResult correlationId result).1.guard.reserved other := by
  unfold recordResult
  cases recorded : engine.guard.recordResult correlationId result with
  | error failure => exact kept
  | ok guard => exact IdempotencyGuard.recordResult_keeps recorded kept

theorem Engine.finish_keeps {answer : Option Order} {other : CorrelationId}
    (kept : engine.guard.reserved other) : (engine.finish command answer).1.guard.reserved other := by
  cases answer with
  | none => exact kept
  | some order => exact recordResult_keeps kept

theorem Engine.begin_guard :
    (engine.begin command).1.guard = (engine.guard.checkAndReserve command.correlationId).1 := by
  rw [← EngineIdempotency.checkAndReserve_fst]
  unfold begin
  dsimp only
  split
  · rfl
  · split <;> rfl

/-- The engine goes on to the fill source exactly when the guard holds no order
for the correlation id and the risk manager approves. -/
theorem Engine.begin_filling :
    (engine.begin command).2 = .filling ↔
      (∀ order, engine.guard.store.get command.correlationId ≠ some (.completed (some order))) ∧
        (engine.check command).approved = true := by
  have check : ∀ guard, ({ engine with guard := guard } : Engine).check command = engine.check command :=
    fun _ => rfl
  unfold begin
  dsimp only
  simp only [check]
  cases answered : (EngineIdempotency.checkAndReserve engine.guard command.correlationId).2 with
  | some order =>
    have completed := (EngineIdempotency.checkAndReserve_snd ..).mp answered
    simp only [reduceCtorEq, false_iff, not_and]
    exact fun absent => absurd completed (absent order)
  | none =>
    have absent : ∀ order,
        engine.guard.store.get command.correlationId ≠ some (.completed (some order)) := by
      intro order completed
      have answer := (EngineIdempotency.checkAndReserve_snd ..).mpr completed
      rw [answered] at answer
      cases answer
    cases approved : (engine.check command).approved with
    | true => simpa using absent
    | false => simp

end

/-- What one step of a session does to the fill source and to the guard. -/
theorem Session.step_cases {s t : Session} {event : Event} (taken : s.step event = some t) :
    (∃ command, event = .call command ∧ (s.engine.begin command).2 = .filling ∧
      t.sent = ⟨s.engine.guard.status command.correlationId, command⟩ :: s.sent ∧
      t.engine.guard.reserved command.correlationId ∧
      ∀ other, s.engine.guard.reserved other → t.engine.guard.reserved other) ∨
    ((∀ command, event = .call command → (s.engine.begin command).2 ≠ .filling) ∧
      t.sent = s.sent ∧ ∀ other, s.engine.guard.reserved other → t.engine.guard.reserved other) := by
  cases event with
  | call command =>
    cases taken
    have keeps : ∀ other, s.engine.guard.reserved other →
        (s.engine.begin command).1.guard.reserved other := by
      intro other kept
      rw [Engine.begin_guard]
      exact IdempotencyGuard.checkAndReserve_keeps kept
    unfold call
    dsimp only
    cases begun : (s.engine.begin command).2 with
    | prior order => exact .inr ⟨by rintro _ ⟨⟩; simp [begun], rfl, keeps⟩
    | denied check => exact .inr ⟨by rintro _ ⟨⟩; simp [begun], rfl, keeps⟩
    | filling =>
      refine .inl ⟨command, rfl, begun, rfl, ?_, keeps⟩
      change (s.engine.begin command).1.guard.reserved _
      rw [Engine.begin_guard]
      exact IdempotencyGuard.checkAndReserve_reserved
  | fillReturns answer =>
    refine .inr ⟨by rintro _ ⟨⟩, ?_⟩
    simp only [step] at taken
    split at taken
    · cases taken
      exact ⟨rfl, fun other kept => Engine.finish_keeps kept⟩
    · cases taken
  | publishReturns =>
    refine .inr ⟨by rintro _ ⟨⟩, ?_⟩
    simp only [step] at taken
    split at taken
    · cases taken
      exact ⟨rfl, fun other kept => Engine.recordResult_keeps kept⟩
    · cases taken
  | fillRaises | publishRaises =>
    refine .inr ⟨by rintro _ ⟨⟩, ?_⟩
    simp only [step] at taken
    split at taken
    · cases taken
      exact ⟨rfl, fun other kept => kept⟩
    · cases taken
  | activateKillSwitch reason | resetKillSwitch =>
    cases taken
    exact .inr ⟨by rintro _ ⟨⟩, rfl, fun other kept => kept⟩

end TradeX.V2
