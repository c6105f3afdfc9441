import TradeX.V2.Engine

/-! The kill switch of the execution engine. The trip denies every later submission first; then it
cancels the open orders one after the other and tells the bus, and nothing catches a cancel that
raises: the orders behind it are not cancelled and the bus hears nothing. -/

namespace TradeX.V2

open Lib

/-- `_OPEN_STATUSES`. -/
def OrderStatus.isOpen : OrderStatus → Bool
  | PENDING | SUBMITTED | PARTIALLY_FILLED => true
  | FILLED | CANCELLED | REJECTED | UNKNOWN => false

def Order.isOpen (order : Order) : Bool := order.status.isOpen

/-- The `Shutdown` message, without its timestamp. -/
structure Shutdown where
  source : String
  reason : String
  deriving DecidableEq, Repr

/-- The message bus of an engine: not wired, or one whose `publish` returns or raises. -/
inductive Bus where
  | absent
  | accepts
  | raises (failure : Failure)
  deriving DecidableEq, Repr

/-- What a trip has done when it returns or raises. -/
structure Trip where
  engine : Engine
  attempts : List OrderId
  published : List Shutdown
  outcome : Except Failure Unit

namespace Engine

/-- `self._store.all_orders()`. -/
def allOrders (engine : Engine) : List Order := engine.cache.orders.values

def openOrders (engine : Engine) : List Order := engine.allOrders.filter Order.isOpen

/-- The loop over the orders: the cancel calls it makes and what the last of them raised. The call
number `n` raises `raises n`. -/
def cancelOpen (raises : Nat → Option Failure) : Nat → List Order → List OrderId × Option Failure
  | _, [] => ([], none)
  | n, order :: rest =>
    if order.isOpen then
      match raises n with
      | some failure => ([order.orderId], some failure)
      | none => (order.orderId :: (cancelOpen raises (n + 1) rest).1, (cancelOpen raises (n + 1) rest).2)
    else cancelOpen raises n rest

/-- `trip_kill_switch`. -/
def tripKillSwitch (engine : Engine) (raises : Nat → Option Failure) (bus : Bus) (reason : String) : Trip :=
  let halted : Engine := { engine with risk := engine.risk.activateKillSwitch reason }
  let cancelled := cancelOpen raises 0 engine.allOrders
  let shutdown : Shutdown := { source := "execution-engine", reason := if reason = "" then "kill switch" else reason }
  match cancelled.2 with
  | some failure => ⟨halted, cancelled.1, [], .error failure⟩
  | none =>
    match bus with
    | .absent => ⟨halted, cancelled.1, [], .ok ()⟩
    | .accepts => ⟨halted, cancelled.1, [shutdown], .ok ()⟩
    | .raises failure => ⟨halted, cancelled.1, [], .error failure⟩

end Engine

/-- No call of `submit` reaches the fill source from here on, unless the switch is reset. -/
def Session.Halted (s : Session) : Prop :=
  ∀ events after, Event.resetKillSwitch ∉ events → exec Session.step s events = some after → after.sent = s.sent

/-- The trip is complete: one cancel attempt for each open order, in the order of the store, the
message on the bus, and no submission that reaches the fill source. -/
structure Trip.Complete (trip : Trip) (engine : Engine) : Prop where
  attempted : trip.attempts = engine.openOrders.map Order.orderId
  published : ∃ shutdown, trip.published = [shutdown]
  stops : ∀ session : Session, session.engine = trip.engine → session.Halted

section

variable {engine : Engine} {raises : Nat → Option Failure} {bus : Bus} {reason : String}

/-- While the switch is on, no call gets past the risk manager. -/
theorem Engine.begin_denied (active : engine.risk.killSwitch = true) (command : PlaceOrderCommand) :
    (engine.begin command).2 ≠ .filling := by
  intro filling
  have approved := (begin_filling.mp filling).2
  simp only [check, RiskManager.checkOrder, active, if_true, Bool.false_eq_true] at approved

theorem Engine.finish_risk (command : PlaceOrderCommand) (answer : Option Order) :
    (engine.finish command answer).1.risk = engine.risk := by
  cases answer with
  | none => rfl
  | some order => exact recordResult_cache.2

/-- Only a reset turns the switch off. -/
theorem Session.step_active {s t : Session} {event : Event} (active : s.engine.risk.killSwitch = true)
    (notReset : event ≠ .resetKillSwitch) (taken : s.step event = some t) : t.engine.risk.killSwitch = true := by
  cases event with
  | call command =>
    cases taken
    have kept : (s.call command).engine = (s.engine.begin command).1 := by
      unfold call
      dsimp only
      split <;> rfl
    rw [kept, Engine.begin_risk]
    exact active
  | fillReturns answer =>
    simp only [step] at taken
    split at taken
    · cases taken
      rw [Engine.finish_risk]
      exact active
    · cases taken
  | publishReturns =>
    simp only [step] at taken
    split at taken
    · cases taken
      rw [Engine.recordResult_cache.2]
      exact active
    · cases taken
  | fillRaises | publishRaises =>
    simp only [step] at taken
    split at taken
    · cases taken
      exact active
    · cases taken
  | activateKillSwitch reason =>
    cases taken
    rfl
  | resetKillSwitch => exact absurd rfl notReset

theorem Session.step_unsent {s t : Session} {event : Event} (active : s.engine.risk.killSwitch = true)
    (taken : s.step event = some t) : t.sent = s.sent := by
  rcases step_cases taken with ⟨command, -, filling, -⟩ | ⟨-, sent, -⟩
  · exact absurd filling (Engine.begin_denied active command)
  · exact sent

theorem Session.halted {s : Session} (active : s.engine.risk.killSwitch = true) : s.Halted := by
  intro events after notReset run
  have met : Meets step (fun _ event => event ≠ Event.resetKillSwitch) s events :=
    meets_of_forall fun event member equal => notReset (equal ▸ member)
  have kept : after.engine.risk.killSwitch = true ∧ after.sent = s.sent := by
    apply @exec_invariant _ _ step (fun _ event => event ≠ Event.resetKillSwitch) s after events
      (fun t => t.engine.risk.killSwitch = true ∧ t.sent = s.sent) _ ⟨active, rfl⟩ met run
    rintro t event u ⟨on, unsent⟩ other taken
    exact ⟨step_active on other taken, (step_unsent on taken).trans unsent⟩
  exact kept.2

/-- The loop comes to its end exactly when none of its calls raises. -/
theorem Engine.cancelOpen_none (orders : List Order) (n : Nat) :
    (cancelOpen raises n orders).2 = none ↔
      ∀ i < (orders.filter Order.isOpen).length, raises (n + i) = none := by
  induction orders generalizing n with
  | nil => simp [cancelOpen]
  | cons order rest ih =>
    by_cases open_ : order.isOpen = true
    · rw [List.filter_cons_of_pos open_, List.length_cons, cancelOpen, if_pos open_]
      cases first : raises n with
      | some failure =>
        simp only [reduceCtorEq, false_iff]
        intro quiet
        have here := quiet 0 (Nat.succ_pos _)
        rw [Nat.add_zero, first] at here
        cases here
      | none =>
        rw [ih (n + 1)]
        constructor
        · intro quiet i within
          cases i with
          | zero => exact first
          | succ i => rw [Nat.add_comm i, ← Nat.add_assoc]; exact quiet i (Nat.lt_of_succ_lt_succ within)
        · intro quiet i within
          rw [Nat.add_assoc, Nat.add_comm 1]
          exact quiet (i + 1) (Nat.succ_lt_succ within)
    · rw [List.filter_cons_of_neg open_, cancelOpen, if_neg open_]
      exact ih n

/-- A loop that comes to its end has called cancel once for each open order. -/
theorem Engine.cancelOpen_attempts (orders : List Order) (n : Nat) (ended : (cancelOpen raises n orders).2 = none) :
    (cancelOpen raises n orders).1 = (orders.filter Order.isOpen).map Order.orderId := by
  induction orders generalizing n with
  | nil => rfl
  | cons order rest ih =>
    by_cases open_ : order.isOpen = true
    · rw [List.filter_cons_of_pos open_, List.map_cons]
      rw [cancelOpen, if_pos open_] at ended ⊢
      cases first : raises n with
      | some failure =>
        rw [first] at ended
        cases ended
      | none =>
        rw [first] at ended
        exact congrArg (order.orderId :: ·) (ih (n + 1) ended)
    · rw [List.filter_cons_of_neg open_]
      rw [cancelOpen, if_neg open_] at ended ⊢
      exact ih n ended

/-- The attempts of any loop are the first of the open orders, each once. -/
theorem Engine.cancelOpen_begins (orders : List Order) (n : Nat) :
    (cancelOpen raises n orders).1 <+: (orders.filter Order.isOpen).map Order.orderId := by
  induction orders generalizing n with
  | nil => exact List.prefix_refl _
  | cons order rest ih =>
    by_cases open_ : order.isOpen = true
    · rw [List.filter_cons_of_pos open_, List.map_cons, cancelOpen, if_pos open_]
      cases raises n with
      | some failure => exact List.prefix_append [order.orderId] _
      | none => exact (List.prefix_cons_inj _).mpr (ih (n + 1))
    · rw [List.filter_cons_of_neg open_, cancelOpen, if_neg open_]
      exact ih n

theorem Engine.tripKillSwitch_attempts :
    (engine.tripKillSwitch raises bus reason).attempts <+: engine.openOrders.map Order.orderId := by
  have first := @cancelOpen_begins raises engine.allOrders 0
  unfold tripKillSwitch
  dsimp only
  split
  · exact first
  · split <;> exact first

/-- Whatever the cancels and the bus do, the engine is left with the switch on. -/
theorem Engine.tripKillSwitch_engine :
    (engine.tripKillSwitch raises bus reason).engine = { engine with risk := engine.risk.activateKillSwitch reason } := by
  unfold tripKillSwitch
  dsimp only
  split
  · rfl
  · split <;> rfl

theorem Engine.tripKillSwitch_stops {session : Session}
    (tripped : session.engine = (engine.tripKillSwitch raises bus reason).engine) : session.Halted := by
  apply Session.halted
  rw [tripped, tripKillSwitch_engine]
  rfl

/-- The trip is complete exactly when no cancel of an open order raises and the bus is there and
takes the message. -/
theorem Engine.kill_switch_complete_iff (engine : Engine) (raises : Nat → Option Failure) (bus : Bus) (reason : String) :
    (engine.tripKillSwitch raises bus reason).Complete engine ↔
      (∀ n < engine.openOrders.length, raises n = none) ∧ bus = .accepts := by
  have ended := @cancelOpen_none raises engine.allOrders 0
  simp only [Nat.zero_add] at ended
  constructor
  · rintro ⟨-, ⟨shutdown, published⟩, -⟩
    unfold tripKillSwitch at published
    dsimp only at published
    split at published
    · cases published
    · next quiet =>
      refine ⟨ended.mp quiet, ?_⟩
      cases bus with
      | accepts => rfl
      | absent => cases published
      | raises failure => cases published
  · rintro ⟨quiet, rfl⟩
    have through := ended.mpr quiet
    have attempts := cancelOpen_attempts engine.allOrders 0 through
    refine ⟨?_, ?_, fun session tripped => tripKillSwitch_stops tripped⟩
    · unfold tripKillSwitch
      dsimp only
      rw [through]
      exact attempts
    · unfold tripKillSwitch
      dsimp only
      rw [through]
      exact ⟨_, rfl⟩

/-- An open order under an id. -/
def submitted (orderId : String) : Order where
  orderId := ⟨orderId⟩
  instrumentId := ⟨"NSE:RELIANCE"⟩
  side := .BUY
  orderType := .LIMIT
  quantity := 10
  price := some 2500
  timeInForce := .DAY
  status := .SUBMITTED
  correlationId := ⟨orderId⟩

/-- An engine with two open orders. -/
def twoOpen : Engine where
  risk := { rules := [] }
  cache := (TradingCache.setOrder {} (submitted "O-1")).setOrder (submitted "O-2")

/-- The venue fails the first cancel: the second order is not cancelled and the bus hears nothing. -/
theorem Engine.kill_switch_incomplete :
    ¬ ∀ (engine : Engine) (raises : Nat → Option Failure) (reason : String),
      (engine.tripKillSwitch raises .accepts reason).Complete engine := by
  intro all
  have attempted := (all twoOpen (fun _ => some (.venue "timeout")) "daily loss").attempted
  revert attempted
  decide +kernel

end

end TradeX.V2
