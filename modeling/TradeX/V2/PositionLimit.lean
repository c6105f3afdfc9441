import TradeX.V2.Engine
import TradeX.V2.FillSources

/-! The position limit over whole runs. The rule compares the cached position
plus the new order with the limit; it sees neither the orders that are accepted
and not yet filled nor the ones still in the fill source. A run here is a session
of the engine together with the later fills of the orders it accepted. -/

namespace TradeX.V2

open Lib

/-- An accepted order, how much of it is filled, and whether it may still fill. -/
structure Accepted where
  order : Order
  filled : ℚ
  working : Bool := true
  deriving DecidableEq, Repr

structure Trading where
  session : Session
  accepted : List Accepted := []

inductive TradingEvent where
  | engine (event : Event)
  /-- A later fill of the accepted order at the index, at a price. -/
  | fill (index : Nat) (quantity price : ℚ)
  /-- The accepted order is cancelled or rejected and fills no further. -/
  | close (index : Nat)
  deriving DecidableEq, Repr

/-- What may still be filled. -/
def Accepted.remaining (a : Accepted) : ℚ :=
  if a.working then max 0 (a.order.quantity - a.filled) else 0

/-- What the order may still move its instrument to the side. -/
def Accepted.exposure (side : OrderSide) (instrumentId : InstrumentId) (a : Accepted) : ℚ :=
  if a.order.instrumentId = instrumentId ∧ a.order.side = side then a.remaining else 0

def PlaceOrderCommand.exposure (side : OrderSide) (instrumentId : InstrumentId)
    (command : PlaceOrderCommand) : ℚ :=
  if command.instrumentId = instrumentId then max 0 (side.signed command.signedQuantity) else 0

def Frame.exposure (side : OrderSide) (instrumentId : InstrumentId) : Frame → ℚ
  | .filling command => command.exposure side instrumentId
  | .denying _ => 0

namespace Session

/-- What the orders in the fill source may move the instrument to the side. -/
def inFlight (s : Session) (side : OrderSide) (instrumentId : InstrumentId) : ℚ :=
  (s.stack.map (Frame.exposure side instrumentId)).sum

end Session

namespace Trading

def start (risk : RiskManager) : Trading := { session := Session.start risk }

def held (s : Trading) (instrumentId : InstrumentId) : ℚ := s.session.engine.cache.held instrumentId

/-- What working orders, accepted or in the fill source, may move the instrument
to the side. -/
def exposure (s : Trading) (side : OrderSide) (instrumentId : InstrumentId) : ℚ :=
  (s.accepted.map (Accepted.exposure side instrumentId)).sum + s.session.inFlight side instrumentId

def accept (accepted : List Accepted) : Event → List Accepted
  | .fillReturns (some order) => { order := order, filled := order.booked } :: accepted
  | _ => accepted

/-- The trade of a later fill. -/
def fillTrade (a : Accepted) (quantity price : ℚ) : Trade where
  tradeId := a.order.orderId.value
  orderId := a.order.orderId
  instrumentId := a.order.instrumentId
  price := price
  quantity := quantity
  side := a.order.side

def step (s : Trading) : TradingEvent → Option Trading
  | .engine event =>
    (s.session.step event).map fun session =>
      { session := session, accepted := accept s.accepted event }
  | .fill index quantity price =>
    match s.accepted[index]? with
    | none => none
    | some a =>
      -- an order fills at most its quantity
      if a.working ∧ 0 ≤ quantity ∧ a.filled + quantity ≤ a.order.quantity then
        let engine := s.session.engine
        let cache := PositionManager.applyTrade engine.cache (fillTrade a quantity price)
        some {
          session := { s.session with engine := { engine with cache := cache } }
          accepted := s.accepted.set index { a with filled := a.filled + quantity } }
      else none
  | .close index =>
    match s.accepted[index]? with
    | none => none
    | some a => some { s with accepted := s.accepted.set index { a with working := false } }

/-- The order the fill source returned answers the command it was given. -/
def answered (s : Trading) (order : Order) : Prop :=
  match s.session.stack with
  | .filling command :: _ => command.Answers order
  | _ => True

/-- The command together with everything still working on its instrument stays
within the limit on both sides. -/
def RoomFor (s : Trading) (maxQty : ℚ) (command : PlaceOrderCommand) : Prop :=
  ∀ side : OrderSide, side.signed (s.held command.instrumentId) +
    s.exposure side command.instrumentId + command.exposure side command.instrumentId ≤ maxQty

/-- An order of the instrument is accepted and not completely filled, or still in
the fill source. -/
def Working (s : Trading) (instrumentId : InstrumentId) : Prop :=
  ∃ side, s.exposure side instrumentId ≠ 0

/-- The step answers a command with its own order, and sends a command past
working orders of its instrument only where there is room for all of them. -/
def guarded (maxQty : ℚ) (s : Trading) : TradingEvent → Prop
  | .engine (.fillReturns (some order)) => s.answered order
  | .engine (.call command) =>
    (s.session.engine.begin command).2 = .filling → s.Working command.instrumentId →
      s.RoomFor maxQty command
  | _ => True

instance (s : Trading) (order : Order) : Decidable (s.answered order) := by
  unfold answered
  split <;> infer_instance

instance (s : Trading) (maxQty : ℚ) (command : PlaceOrderCommand) :
    Decidable (s.RoomFor maxQty command) := by
  unfold RoomFor
  infer_instance

instance (s : Trading) (instrumentId : InstrumentId) : Decidable (s.Working instrumentId) := by
  unfold Working
  infer_instance

instance (maxQty : ℚ) (s : Trading) (event : TradingEvent) : Decidable (s.guarded maxQty event) := by
  unfold guarded
  split <;> infer_instance

end Trading

section

variable {side : OrderSide} {instrumentId : InstrumentId} {s t : Session} {event : Event}

theorem Accepted.remaining_nonneg (a : Accepted) : 0 ≤ a.remaining := by
  unfold remaining
  split
  · exact le_max_left _ _
  · exact le_rfl

theorem Accepted.exposure_nonneg (a : Accepted) : 0 ≤ a.exposure side instrumentId := by
  unfold exposure
  split
  · exact a.remaining_nonneg
  · exact le_rfl

theorem PlaceOrderCommand.exposure_nonneg (command : PlaceOrderCommand) :
    0 ≤ command.exposure side instrumentId := by
  unfold exposure
  split
  · exact le_max_left _ _
  · exact le_rfl

theorem Frame.exposure_nonneg (frame : Frame) : 0 ≤ frame.exposure side instrumentId := by
  cases frame with
  | filling command => exact command.exposure_nonneg
  | denying command => exact le_rfl

theorem Trading.exposure_nonneg (s : Trading) (side : OrderSide) (instrumentId : InstrumentId) :
    0 ≤ s.exposure side instrumentId := by
  refine add_nonneg (List.sum_nonneg ?_) (List.sum_nonneg ?_)
  · intro x member
    obtain ⟨a, -, rfl⟩ := List.mem_map.mp member
    exact a.exposure_nonneg
  · intro x member
    obtain ⟨frame, -, rfl⟩ := List.mem_map.mp member
    exact frame.exposure_nonneg

/-- `_apply_oms` books the order's own quantity on its own instrument. -/
theorem Engine.applyOms_held {engine : Engine} (keyed : PositionManager.Keyed engine.cache)
    (order : Order) (instrumentId : InstrumentId) :
    (engine.applyOms order).cache.held instrumentId = engine.cache.held instrumentId +
      if instrumentId = order.instrumentId then order.side.signed order.booked else 0 := by
  have stored : PositionManager.Keyed (OrderManager.upsert (engine.cache.setOrder order) order) := keyed
  unfold applyOms Order.booked
  dsimp only
  by_cases filled : order.status = .FILLED
  · simp only [if_pos filled]
    exact PositionManager.apply_held stored order instrumentId
  · simp only [if_neg filled, OrderSide.signed_zero, ite_self, add_zero]
    rfl

/-- What one step of a session does to the cache and to the orders in flight. -/
theorem Session.step_book (taken : s.step event = some t) :
    (∃ command, event = .call command ∧ (s.engine.begin command).2 = .filling ∧
      t.engine.cache = s.engine.cache ∧ t.stack = .filling command :: s.stack) ∨
    (∃ command order, event = .fillReturns (some order) ∧ s.stack = .filling command :: t.stack ∧
      t.engine.cache = (s.engine.applyOms order).cache) ∨
    ((∀ order, event ≠ .fillReturns (some order)) ∧ t.engine.cache = s.engine.cache ∧
      ∀ side instrumentId, t.inFlight side instrumentId ≤ s.inFlight side instrumentId) := by
  have popped : ∀ {frame rest}, s.stack = frame :: rest → t.stack = rest →
      ∀ side instrumentId, t.inFlight side instrumentId ≤ s.inFlight side instrumentId := by
    intro frame rest before after side instrumentId
    unfold inFlight
    rw [before, after, List.map_cons, List.sum_cons]
    exact le_add_of_nonneg_left frame.exposure_nonneg
  cases event with
  | call command =>
    cases taken
    unfold call
    dsimp only
    cases begun : (s.engine.begin command).2 with
    | filling => exact .inl ⟨command, rfl, begun, Engine.begin_cache, rfl⟩
    | prior order =>
      exact .inr (.inr ⟨by rintro _ ⟨⟩, Engine.begin_cache, fun _ _ => le_rfl⟩)
    | denied check =>
      refine .inr (.inr ⟨by rintro _ ⟨⟩, Engine.begin_cache, fun side instrumentId => ?_⟩)
      simp only [inFlight, List.map_cons, List.sum_cons, Frame.exposure, zero_add, le_refl]
  | fillReturns answer =>
    simp only [step] at taken
    split at taken
    · next command rest stack =>
      cases taken
      cases answer with
      | none => exact .inr (.inr ⟨by rintro _ ⟨⟩, rfl, popped stack rfl⟩)
      | some order =>
        exact .inr (.inl ⟨command, order, rfl, stack, Engine.recordResult_cache.1⟩)
    · cases taken
  | publishReturns =>
    simp only [step] at taken
    split at taken
    · next command rest stack =>
      cases taken
      exact .inr (.inr ⟨by rintro _ ⟨⟩, Engine.recordResult_cache.1, popped stack rfl⟩)
    · cases taken
  | fillRaises | publishRaises =>
    simp only [step] at taken
    split at taken
    · next command rest stack =>
      cases taken
      exact .inr (.inr ⟨by rintro _ ⟨⟩, rfl, popped stack rfl⟩)
    · cases taken
  | activateKillSwitch reason | resetKillSwitch =>
    cases taken
    exact .inr (.inr ⟨by rintro _ ⟨⟩, rfl, fun _ _ => le_rfl⟩)

theorem Session.step_rules (taken : s.step event = some t) :
    t.engine.risk.rules = s.engine.risk.rules := by
  cases event with
  | call command =>
    cases taken
    unfold call
    dsimp only
    split <;> simp only [Engine.begin_risk]
  | fillReturns answer =>
    simp only [step] at taken
    split at taken
    · cases taken
      cases answer with
      | none => rfl
      | some order => exact congrArg RiskManager.rules Engine.recordResult_cache.2
    · cases taken
  | publishReturns =>
    simp only [step] at taken
    split at taken
    · cases taken
      exact congrArg RiskManager.rules Engine.recordResult_cache.2
    · cases taken
  | fillRaises | publishRaises =>
    simp only [step] at taken
    split at taken
    · cases taken
      rfl
    · cases taken
  | activateKillSwitch reason | resetKillSwitch =>
    cases taken
    rfl

end

section

variable {side : OrderSide} {instrumentId : InstrumentId}

theorem PlaceOrderCommand.exposure_other {command : PlaceOrderCommand}
    (other : instrumentId ≠ command.instrumentId) : command.exposure side instrumentId = 0 :=
  if_neg fun same => other same.symm

/-- An order that answers its command uses no more room than the command did. -/
theorem PlaceOrderCommand.Answers.exposure {command : PlaceOrderCommand} {order : Order}
    (answers : command.Answers order) (side : OrderSide) (instrumentId : InstrumentId) :
    side.signed (if instrumentId = order.instrumentId then order.side.signed order.booked else 0) +
      ({ order := order, filled := order.booked } : Accepted).exposure side instrumentId ≤
        command.exposure side instrumentId := by
  by_cases same : instrumentId = order.instrumentId
  · subst same
    have quantity := answers.quantity
    have least := answers.least
    have most := answers.most
    simp only [if_true, Accepted.exposure, Accepted.remaining, PlaceOrderCommand.exposure,
      PlaceOrderCommand.signedQuantity, answers.instrument, answers.side, true_and, quantity]
    rcases le_total 0 command.quantity with positive | negative
    · rw [min_eq_left positive] at least
      rw [max_eq_right positive] at most
      cases side <;> cases command.side <;> simp [OrderSide.signed] <;> grind
    · rw [min_eq_right negative] at least
      rw [max_eq_left negative] at most
      cases side <;> cases command.side <;> simp [OrderSide.signed] <;> grind
  · have other : ¬ (order.instrumentId = instrumentId ∧ order.side = side) := fun h => same h.1.symm
    simp only [if_neg same, Accepted.exposure, if_neg other, OrderSide.signed_zero, add_zero]
    exact command.exposure_nonneg

/-- A later fill uses up the room its order held. -/
theorem Accepted.fill_exposure {a : Accepted} {quantity : ℚ} (working : a.working = true)
    (positive : 0 ≤ quantity) (fits : a.filled + quantity ≤ a.order.quantity)
    (side : OrderSide) (instrumentId : InstrumentId) :
    side.signed (if instrumentId = a.order.instrumentId then a.order.side.signed quantity else 0) +
      ({ a with filled := a.filled + quantity } : Accepted).exposure side instrumentId ≤
        a.exposure side instrumentId := by
  by_cases same : instrumentId = a.order.instrumentId
  · subst same
    simp only [if_true, exposure, remaining, working, true_and]
    cases side <;> cases a.order.side <;> simp [OrderSide.signed] <;> grind
  · have other : ¬ (a.order.instrumentId = instrumentId ∧ a.order.side = side) := fun h => same h.1.symm
    simp only [if_neg same, exposure, if_neg other, OrderSide.signed_zero, add_zero, le_refl]

theorem Accepted.close_exposure (a : Accepted) (side : OrderSide) (instrumentId : InstrumentId) :
    ({ a with working := false } : Accepted).exposure side instrumentId ≤
      a.exposure side instrumentId := by
  have closed : ({ a with working := false } : Accepted).exposure side instrumentId = 0 := by
    simp only [exposure, remaining, Bool.false_eq_true, if_false, ite_self]
  rw [closed]
  exact a.exposure_nonneg

private theorem sum_set_entry {f : Accepted → ℚ} {accepted : List Accepted} {index : Nat}
    {a : Accepted} (found : accepted[index]? = some a) (b : Accepted) :
    ((accepted.set index b).map f).sum = (accepted.map f).sum - f a + f b := by
  obtain ⟨bound, entry⟩ := List.getElem?_eq_some_iff.mp found
  have length : index < (accepted.map f).length := by simpa using bound
  rw [List.map_set, List.sum_set', dif_pos length, List.getElem_map, entry]
  ring

end

namespace Trading

variable {maxQty : ℚ} {s t : Trading} {event : TradingEvent}

/-- The rule is in force, and every instrument stays within the limit whichever
of its working orders still fill. -/
structure Limited (maxQty : ℚ) (s : Trading) : Prop where
  rule : positionLimitRule maxQty ∈ s.session.engine.risk.rules
  keyed : PositionManager.Keyed s.session.engine.cache
  room : ∀ (side : OrderSide) instrumentId,
    side.signed (s.held instrumentId) + s.exposure side instrumentId ≤ max maxQty 0

theorem limited_start {risk : RiskManager} (rule : positionLimitRule maxQty ∈ risk.rules) :
    (start risk).Limited maxQty where
  rule := rule
  keyed := by
    intro instrumentId position found
    cases found
  room side instrumentId := by
    have flat : (start risk).held instrumentId = 0 := rfl
    have idle : (start risk).exposure side instrumentId = 0 := by
      simp [start, Session.start, exposure, Session.inFlight]
    rw [flat, idle, OrderSide.signed_zero, add_zero]
    exact le_max_right _ _

/-- What the rule tells of a command it let through. -/
theorem Limited.approved (limited : s.Limited maxQty) {command : PlaceOrderCommand}
    (filling : (s.session.engine.begin command).2 = .filling) :
    |s.held command.instrumentId + command.signedQuantity| ≤ maxQty := by
  obtain ⟨verdict, checked, passes⟩ :=
    RiskManager.checkOrder_approved (Engine.begin_filling.mp filling).2 limited.rule
  have within := positionLimitRule_approved checked passes
  have cached : s.session.engine.riskContext.positions.get command.instrumentId =
      s.session.engine.cache.getPosition command.instrumentId :=
    Dict.get_rekey limited.keyed command.instrumentId
  rw [cached] at within
  exact within

/-- A command that passes the rule finds room: where nothing is working the rule
itself shows it, and elsewhere the guard of the step does. -/
theorem Limited.roomFor (limited : s.Limited maxQty) {command : PlaceOrderCommand}
    (filling : (s.session.engine.begin command).2 = .filling)
    (guarded : s.Working command.instrumentId → s.RoomFor maxQty command) (side : OrderSide) :
    side.signed (s.held command.instrumentId) + s.exposure side command.instrumentId +
      command.exposure side command.instrumentId ≤ max maxQty 0 := by
  by_cases working : s.Working command.instrumentId
  · exact (guarded working side).trans (le_max_left _ _)
  · have idle : s.exposure side command.instrumentId = 0 :=
      not_not.mp fun busy => working ⟨side, busy⟩
    have before := limited.room side command.instrumentId
    have within := limited.approved filling
    have after : side.signed (s.held command.instrumentId) + side.signed command.signedQuantity ≤
        maxQty := by
      rw [← OrderSide.signed_add]
      refine le_trans ?_ within
      rw [← side.abs_signed]
      exact le_abs_self _
    simp only [idle, add_zero, PlaceOrderCommand.exposure, if_true] at before ⊢
    rcases le_total 0 (side.signed command.signedQuantity) with more | less
    · rw [max_eq_right more]
      exact after.trans (le_max_left _ _)
    · rw [max_eq_left less, add_zero]
      exact before

theorem Limited.engine (limited : s.Limited maxQty) {event : Event}
    (guarded : s.guarded maxQty (.engine event)) {session : Session}
    (taken : s.session.step event = some session) :
    Limited maxQty { session := session, accepted := accept s.accepted event } := by
  have rule : positionLimitRule maxQty ∈ session.engine.risk.rules := by
    rw [Session.step_rules taken]
    exact limited.rule
  rcases Session.step_book taken with ⟨command, rfl, filling, cache, stack⟩ |
    ⟨command, order, rfl, stack, cache⟩ | ⟨plain, cache, flight⟩
  · refine ⟨rule, ?_, fun side instrumentId => ?_⟩
    · rw [cache]
      exact limited.keyed
    · have grows : exposure { session := session, accepted := s.accepted } side instrumentId =
          s.exposure side instrumentId + command.exposure side instrumentId := by
        simp only [exposure, Session.inFlight, stack, List.map_cons, List.sum_cons, Frame.exposure]
        ring
      simp only [accept, held, cache, grows]
      by_cases same : instrumentId = command.instrumentId
      · subst same
        rw [← add_assoc]
        exact limited.roomFor filling (guarded filling) side
      · rw [command.exposure_other same, add_zero]
        exact limited.room side instrumentId
  · refine ⟨rule, ?_, fun side instrumentId => ?_⟩
    · rw [cache]
      exact Engine.applyOms_keyed limited.keyed order
    · have answers : command.Answers order := by
        have answered : s.answered order := guarded
        simpa only [Trading.answered, stack] using answered
      have used := answers.exposure side instrumentId
      have before := limited.room side instrumentId
      simp only [exposure, Session.inFlight, stack, List.map_cons, List.sum_cons, Frame.exposure,
        held] at before
      simp only [accept, exposure, Session.inFlight, List.map_cons, List.sum_cons, held, cache,
        Engine.applyOms_held limited.keyed, OrderSide.signed_add]
      linarith
  · have same : accept s.accepted event = s.accepted := by
      unfold accept
      split
      · next order => exact absurd rfl (plain order)
      · rfl
    refine ⟨rule, ?_, fun side instrumentId => ?_⟩
    · rw [cache]
      exact limited.keyed
    · have before := limited.room side instrumentId
      have less := flight side instrumentId
      simp only [exposure, held] at before
      simp only [same, exposure, held, cache]
      linarith

theorem Limited.step (limited : s.Limited maxQty) (guarded : s.guarded maxQty event)
    (taken : s.step event = some t) : t.Limited maxQty := by
  cases event with
  | engine event =>
    obtain ⟨session, moved, rfl⟩ := Option.map_eq_some_iff.mp taken
    exact limited.engine guarded moved
  | fill index quantity price =>
    simp only [Trading.step] at taken
    split at taken
    · cases taken
    · next a found =>
      split at taken
      · next fits =>
        obtain ⟨working, positive, within⟩ := fits
        cases taken
        refine ⟨limited.rule, PositionManager.applyTrade_keyed limited.keyed _, fun side instrumentId => ?_⟩
        have used := Accepted.fill_exposure working positive within side instrumentId
        have before := limited.room side instrumentId
        simp only [exposure, held] at before
        simp only [exposure, held, PositionManager.applyTrade_held limited.keyed, fillTrade,
          OrderSide.signed_add, sum_set_entry found]
        simp only [Session.inFlight] at before ⊢
        linarith
      · cases taken
  | close index =>
    simp only [Trading.step] at taken
    split at taken
    · cases taken
    · next a found =>
      cases taken
      refine ⟨limited.rule, limited.keyed, fun side instrumentId => ?_⟩
      have freed := a.close_exposure side instrumentId
      have before := limited.room side instrumentId
      simp only [exposure, held] at before
      simp only [exposure, held, sum_set_entry found]
      linarith

theorem Limited.within (limited : s.Limited maxQty) (instrumentId : InstrumentId) :
    |s.held instrumentId| ≤ max maxQty 0 := by
  have long := limited.room .BUY instrumentId
  have short := limited.room .SELL instrumentId
  have up := s.exposure_nonneg .BUY instrumentId
  have down := s.exposure_nonneg .SELL instrumentId
  simp only [OrderSide.signed] at long short
  exact abs_le.mpr ⟨by linarith, by linarith⟩

/-- Over every run of the engine and of the later fills of what it accepted, no
position exceeds the limit, as long as the fill source answers every command
with its own order and no command passes working orders of its instrument
without room for all of them. -/
theorem position_within_limit (maxQty : ℚ) (risk : RiskManager)
    (rule : positionLimitRule maxQty ∈ risk.rules) (es : List TradingEvent) (t : Trading)
    (run : exec step (start risk) es = some t) (met : Meets step (guarded maxQty) (start risk) es)
    (instrumentId : InstrumentId) : |t.held instrumentId| ≤ max maxQty 0 :=
  (exec_invariant (fun _ _ _ limited guarded taken => limited.step guarded taken) (limited_start rule)
    met run).within instrumentId

/-- Ten shares are the most one order and one position may have. -/
def tenShares : RiskManager := riskFromConfig { maxOrderSize := 10, maxPositionSize := 10 }

def buyShares (correlationId : String) : PlaceOrderCommand where
  instrumentId := ⟨"NSE:RELIANCE"⟩
  side := .BUY
  orderType := .LIMIT
  quantity := 10
  price := some 100
  timeInForce := .DAY
  correlationId := ⟨correlationId⟩

/-- The order of a command as a live venue acknowledges it. -/
def acknowledged (command : PlaceOrderCommand) : Order where
  orderId := ⟨command.correlationId.value⟩
  instrumentId := command.instrumentId
  side := command.side
  orderType := command.orderType
  quantity := command.quantity
  price := command.price
  timeInForce := command.timeInForce
  status := .SUBMITTED
  correlationId := command.correlationId

/-- A recorded order of fifty shares. -/
def recordedFifty : Order :=
  { acknowledged (buyShares "a") with quantity := 50, status := .FILLED, filledQuantity := 50 }

theorem position_within_limit_live :
    ∃ t, exec step (start tenShares) [.engine (.call (buyShares "a")),
        .engine (.fillReturns (some (acknowledged (buyShares "a")))), .fill 0 10 100] = some t ∧
      ∀ instrumentId, |t.held instrumentId| ≤ max 10 0 := by
  have runs : (exec step (start tenShares) [.engine (.call (buyShares "a")),
      .engine (.fillReturns (some (acknowledged (buyShares "a")))), .fill 0 10 100]).isSome = true := by
    decide +kernel
  obtain ⟨t, run⟩ := Option.isSome_iff_exists.mp runs
  have rule : positionLimitRule 10 ∈ tenShares.rules := List.mem_cons_of_mem _ List.mem_cons_self
  exact ⟨t, run, position_within_limit 10 tenShares rule _ t run (by decide +kernel)⟩

/-- Two acknowledged orders, each within the limit by itself, both fill later; and
a replay answers a command of ten shares with a recorded order of fifty. -/
theorem position_limit_exceeded :
    ((exec step (start tenShares) [.engine (.call (buyShares "a")),
        .engine (.fillReturns (some (acknowledged (buyShares "a")))), .engine (.call (buyShares "b")),
        .engine (.fillReturns (some (acknowledged (buyShares "b")))), .fill 0 10 100, .fill 1 10 100]).map
      (held · ⟨"NSE:RELIANCE"⟩) = some 20) ∧
    (ReplayFillSource.submit (Dict.set ∅ ⟨"a"⟩ recordedFifty) (buyShares "a") = .ok (some recordedFifty) ∧
      (exec step (start tenShares) [.engine (.call (buyShares "a")),
        .engine (.fillReturns (some recordedFifty))]).map (held · ⟨"NSE:RELIANCE"⟩) = some 50) ∧
    ¬ ∀ (maxQty : ℚ) (risk : RiskManager) (es : List TradingEvent) (t : Trading), 0 ≤ maxQty →
      positionLimitRule maxQty ∈ risk.rules → exec step (start risk) es = some t →
        ∀ instrumentId, |t.held instrumentId| ≤ maxQty := by
  have overlapping : (exec step (start tenShares) [.engine (.call (buyShares "a")),
      .engine (.fillReturns (some (acknowledged (buyShares "a")))), .engine (.call (buyShares "b")),
      .engine (.fillReturns (some (acknowledged (buyShares "b")))), .fill 0 10 100, .fill 1 10 100]).map
      (held · ⟨"NSE:RELIANCE"⟩) = some 20 := by decide +kernel
  refine ⟨overlapping, ⟨rfl, by decide +kernel⟩, fun claim => ?_⟩
  obtain ⟨t, run, held⟩ := Option.map_eq_some_iff.mp overlapping
  have rule : positionLimitRule 10 ∈ tenShares.rules := List.mem_cons_of_mem _ List.mem_cons_self
  have within := claim 10 tenShares _ t (by decide +kernel) rule run ⟨"NSE:RELIANCE"⟩
  rw [held] at within
  exact absurd within (by decide +kernel)

end Trading

end TradeX.V2
