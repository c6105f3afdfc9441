import TradeX.V2.Engine
import TradeX.V2.FillSources

/-! A whole call of `submit`: what it does where it does not come to the fill source, and what it does
with the order that the source answers. -/

namespace TradeX.V2

open Lib

/-- The order of a command that is filled at once. -/
def PlaceOrderCommand.filledOrder (command : PlaceOrderCommand) (orderId : OrderId) : Order where
  orderId := orderId
  instrumentId := command.instrumentId
  side := command.side
  orderType := command.orderType
  quantity := command.quantity
  price := command.price
  timeInForce := command.timeInForce
  status := .FILLED
  correlationId := command.correlationId
  filledQuantity := command.quantity

/-- `FillSource.submit`. -/
abbrev FillSource := PlaceOrderCommand → Except Failure (Option Order)

namespace Engine

/-- `ExecutionEngine.submit`, with its answer. -/
def submit (engine : Engine) (source : FillSource) (command : PlaceOrderCommand) :
    Engine × Except Failure (Option Order) :=
  let begun := engine.begin command
  match begun.2 with
  | .prior order => (begun.1, .ok (some order))
  | .denied _ =>
    let recorded := begun.1.recordResult command.correlationId none
    (recorded.1, recorded.2.map fun _ => none)
  | .filling =>
    match source command with
    | .error failure => (begun.1, .error failure)
    | .ok answer =>
      let finished := begun.1.finish command answer
      (finished.1, finished.2.map fun _ => answer)

/-- The guard answers the correlation id with the order. -/
def completed (engine : Engine) (correlationId : CorrelationId) (order : Order) : Prop :=
  engine.guard.store.get correlationId = some (.completed (some order))

variable {engine : Engine} {command : PlaceOrderCommand} {source other : FillSource} {correlationId : CorrelationId}
  {order : Order}

/-- A call that does not reach the fill source goes alike with every one. -/
theorem submit_stopped (stopped : (engine.begin command).2 ≠ .filling) :
    engine.submit source command = engine.submit other command := by
  unfold submit
  dsimp only
  split
  · rfl
  · rfl
  · next filling => exact absurd filling stopped

/-- The first half of a call completes nothing. -/
theorem begin_completed :
    (engine.begin command).1.completed correlationId order ↔ engine.completed correlationId order := by
  unfold completed
  rw [begin_guard]
  unfold IdempotencyGuard.checkAndReserve
  split
  · exact Iff.rfl
  · exact Iff.rfl
  · next absent =>
    dsimp only
    rw [Dict.get_set]
    split
    · next same =>
      rw [same, absent]
      simp only [Option.some.injEq, reduceCtorEq]
    · exact Iff.rfl

theorem submit_congr (same : source command = other command) :
    engine.submit source command = engine.submit other command := by
  unfold submit
  rw [same]

/-- A call that does not reach the fill source completes nothing new, and answers at most what is completed. -/
theorem submit_unfilled (stopped : (engine.begin command).2 ≠ .filling) :
    ((engine.submit source command).1.completed correlationId order ↔ engine.completed correlationId order) ∧
      (engine.submit source command).1.cache = engine.cache ∧
      ((engine.submit source command).2 = .ok (some order) → engine.completed command.correlationId order) := by
  have completes := @begin_completed engine command correlationId order
  have cache : (engine.begin command).1.cache = engine.cache := begin_cache
  unfold submit
  dsimp only
  cases begun : (engine.begin command).2 with
  | filling => exact absurd begun stopped
  | prior prior =>
    refine ⟨completes, cache, fun answered => ?_⟩
    cases answered
    unfold begin at begun
    dsimp only at begun
    split at begun
    · next held =>
      cases begun
      exact (EngineIdempotency.checkAndReserve_snd ..).mp held
    · split at begun <;> cases begun
  | denied check =>
    have uncompleted : ∀ order, ¬ engine.completed command.correlationId order := by
      intro order held
      unfold begin at begun
      dsimp only at begun
      rw [(EngineIdempotency.checkAndReserve_snd ..).mpr held] at begun
      cases begun
    dsimp only
    unfold recordResult IdempotencyGuard.recordResult
    cases reserved : (engine.begin command).1.guard.store.get command.correlationId with
    | none => exact ⟨completes, cache, by rintro ⟨⟩⟩
    | some entry =>
      refine ⟨?_, cache, by rintro ⟨⟩⟩
      unfold completed at completes uncompleted ⊢
      dsimp only
      rw [Dict.get_set]
      split
      · next same =>
        rw [same]
        simp only [uncompleted, Option.some.injEq, IdempotencyEntry.completed.injEq, reduceCtorEq]
      · exact completes

/-- A call whose fill source answers an order books it and completes its correlation id with it. -/
theorem submit_filled (filling : (engine.begin command).2 = .filling) (answered : source command = .ok (some order)) :
    (engine.submit source command).2 = .ok (some order) ∧
      (engine.submit source command).1.cache = (engine.applyOms order).cache ∧
      ∀ other filled, (engine.submit source command).1.completed other filled ↔
        engine.completed other filled ∨ (other = command.correlationId ∧ filled = order) := by
  have uncompleted := (begin_filling.mp filling).1
  have reserved : (engine.begin command).1.guard.reserved command.correlationId := by
    rw [begin_guard]
    exact IdempotencyGuard.checkAndReserve_reserved
  obtain ⟨entry, held⟩ := Option.ne_none_iff_exists'.mp reserved
  have cache : (engine.begin command).1.cache = engine.cache := begin_cache
  unfold submit
  dsimp only
  rw [filling, answered]
  dsimp only
  unfold finish recordResult IdempotencyGuard.recordResult
  dsimp only
  have kept : (({ (engine.begin command).1 with orderCount := (engine.begin command).1.orderCount + 1 } : Engine).applyOms
      order).guard = (engine.begin command).1.guard := rfl
  rw [kept, held]
  refine ⟨rfl, ?_, fun other filled => ?_⟩
  · unfold applyOms
    dsimp only
    rw [cache]
  · have completes := @begin_completed engine command other filled
    unfold completed at completes ⊢
    dsimp only
    rw [Dict.get_set]
    split
    · next same =>
      rw [same]
      simp only [uncompleted, Option.some.injEq, IdempotencyEntry.completed.injEq, true_and, false_or]
      exact eq_comm
    · next distinct =>
      rw [completes]
      simp only [distinct, false_and, or_false]

end Engine

end TradeX.V2
