import TradeX.V2.Domain

/-! The in-memory idempotency guard of the v2 engine and the adapter the runtime
factory puts over it. -/

namespace TradeX.V2

open Lib

inductive IdempotencyStatus where
  | NEW
  | PENDING
  | DUPLICATE
  deriving DecidableEq, Repr

structure IdempotencyResult where
  status : IdempotencyStatus
  priorResult : Option Order := none
  deriving DecidableEq, Repr

/-- A stored entry: the `_PENDING` sentinel, or a result, which may be `None`. -/
inductive IdempotencyEntry where
  | pending
  | completed (result : Option Order)
  deriving DecidableEq, Repr

structure IdempotencyGuard where
  store : Dict CorrelationId IdempotencyEntry := ∅

namespace IdempotencyGuard

variable (guard : IdempotencyGuard) (correlationId : CorrelationId)

/-- `IdempotencyGuard.check_and_reserve`. -/
def checkAndReserve : IdempotencyGuard × IdempotencyResult :=
  match guard.store.get correlationId with
  | some .pending => (guard, { status := .PENDING })
  | some (.completed prior) => (guard, { status := .DUPLICATE, priorResult := prior })
  | none => ({ store := guard.store.set correlationId .pending }, { status := .NEW })

/-- `IdempotencyGuard.record_result`. -/
def recordResult (result : Option Order) : Except Failure IdempotencyGuard :=
  match guard.store.get correlationId with
  | none => .error (.notReserved correlationId)
  | some _ => .ok { store := guard.store.set correlationId (.completed result) }

/-- What `check_and_reserve` reports for the correlation id. -/
def status : IdempotencyStatus := (guard.checkAndReserve correlationId).2.status

def reserved (guard : IdempotencyGuard) (correlationId : CorrelationId) : Prop :=
  guard.store.get correlationId ≠ none

/-- The id is reserved without an order: pending, or completed with `None`. -/
def unanswered : Bool :=
  match guard.store.get correlationId with
  | some .pending | some (.completed none) => true
  | none | some (.completed (some _)) => false

variable {guard correlationId}

theorem status_new : guard.status correlationId = .NEW ↔ ¬ guard.reserved correlationId := by
  unfold status checkAndReserve reserved
  split <;> simp_all

theorem unanswered_iff : guard.unanswered correlationId = true ↔
    guard.reserved correlationId ∧
      ∀ order, guard.store.get correlationId ≠ some (.completed (some order)) := by
  unfold unanswered reserved
  split <;> simp_all

theorem checkAndReserve_reserved : (guard.checkAndReserve correlationId).1.reserved correlationId := by
  unfold checkAndReserve reserved
  split <;> simp_all

theorem checkAndReserve_keeps {other : CorrelationId} (kept : guard.reserved other) :
    (guard.checkAndReserve correlationId).1.reserved other := by
  unfold checkAndReserve
  split
  · exact kept
  · exact kept
  · unfold reserved at kept ⊢
    rw [Dict.get_set]
    split
    · exact Option.some_ne_none _
    · exact kept

theorem recordResult_keeps {result : Option Order} {after : IdempotencyGuard}
    (recorded : guard.recordResult correlationId result = .ok after) {other : CorrelationId}
    (kept : guard.reserved other) : after.reserved other := by
  unfold recordResult at recorded
  split at recorded
  · cases recorded
  · cases recorded
    unfold reserved at kept ⊢
    simp only [Dict.get_set]
    split
    · exact Option.some_ne_none _
    · exact kept

end IdempotencyGuard

/-- `_EngineIdempotency.check_and_reserve`: the prior result of a duplicate, else `None`. -/
def EngineIdempotency.checkAndReserve (guard : IdempotencyGuard) (correlationId : CorrelationId) :
    IdempotencyGuard × Option Order :=
  let checked := guard.checkAndReserve correlationId
  match checked.2.status with
  | .DUPLICATE => (checked.1, checked.2.priorResult)
  | _ => (checked.1, none)

theorem EngineIdempotency.checkAndReserve_fst (guard : IdempotencyGuard) (correlationId : CorrelationId) :
    (checkAndReserve guard correlationId).1 = (guard.checkAndReserve correlationId).1 := by
  unfold checkAndReserve
  dsimp only
  split <;> rfl

/-- The adapter answers an order only for a correlation id completed with it. -/
theorem EngineIdempotency.checkAndReserve_snd (guard : IdempotencyGuard) (correlationId : CorrelationId)
    (order : Order) :
    (checkAndReserve guard correlationId).2 = some order ↔
      guard.store.get correlationId = some (.completed (some order)) := by
  unfold checkAndReserve IdempotencyGuard.checkAndReserve
  cases guard.store.get correlationId with
  | none => simp
  | some entry =>
    cases entry with
    | pending => simp
    | completed prior => simp

end TradeX.V2
