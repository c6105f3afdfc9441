import TradeX.V1.PositionManager
import TradeX.Lib.Recency
import TradeX.Lib.Runs

/-! The two event handlers of the v1 position manager over a sequence of deliveries. Both look a trade id
up among the processed ones; `on_trade_applied` records it there, `on_trade` does not. -/

namespace TradeX.V1

open Lib Recency

namespace PositionManager

variable {manager : PositionManager} {trade : Trade}

/-- `PositionManager.on_trade`. -/
def onTrade (manager : PositionManager) (trade : Trade) : PositionManager × AppliedEnd :=
  if trade.tradeId ∈ manager.processedTradeIdSet then (manager, .duplicate)
  else
    let applied := manager.applyTrade trade
    match applied.2 with
    | .ok position => (applied.1, .applied position)
    | .error error => (applied.1, .raised error)

/-- The set and the queue of the processed trade ids hold the same ids. -/
def SameIds (manager : PositionManager) : Prop :=
  ∀ id, id ∈ manager.processedTradeIdSet ↔ id ∈ manager.processedTradeIdOrder

theorem applyTrade_keeps_ids : (manager.applyTrade trade).1.processedTradeIdSet = manager.processedTradeIdSet ∧
    (manager.applyTrade trade).1.processedTradeIdOrder = manager.processedTradeIdOrder := by
  simp only [applyTrade]
  split
  · exact ⟨rfl, rfl⟩
  · exact ⟨rfl, rfl⟩

theorem remember_order (tradeId : String) :
    (manager.remember tradeId).processedTradeIdOrder = push maxlen manager.processedTradeIdOrder tradeId := by
  simp only [remember, push, decide_eq_true_eq]

theorem remember_sameIds (tradeId : String) (same : manager.SameIds) (distinct : manager.processedTradeIdOrder.Nodup) :
    (manager.remember tradeId).SameIds := by
  intro id
  simp only [remember, decide_eq_true_eq, List.mem_cons, List.mem_append, List.not_mem_nil, or_false]
  rw [or_comm]
  apply or_congr_left
  split
  · cases queue : manager.processedTradeIdOrder with
    | nil =>
      rw [List.mem_filter, same id, queue]
      simp
    | cons oldest rest =>
      rw [queue, List.nodup_cons] at distinct
      rw [List.mem_filter, same id, queue, List.head?_cons, List.tail_cons, List.mem_cons, decide_eq_true_eq,
        ne_eq, Option.some.injEq]
      constructor
      · rintro ⟨rfl | later, other⟩
        · exact absurd rfl other
        · exact later
      · exact fun later => ⟨.inr later, fun first => distinct.1 (first ▸ later)⟩
  · exact same id

/-- On faithful machines either handler applies a trade whose id it does not find; only
`on_trade_applied` has recorded the id by then. -/
theorem onTrade_new (faithful : manager.Faithful) (new : trade.tradeId ∉ manager.processedTradeIdSet) :
    manager.onTrade trade =
      ((manager.applyTrade trade).1, .applied (projectTrade (manager.current trade) trade)) := by
  have ok := (applyTrade_ok trade faithful).1
  simp only [onTrade, if_neg new, ok]

theorem onTradeApplied_recorded (faithful : manager.Faithful)
    (new : trade.tradeId ∉ manager.processedTradeIdSet) :
    manager.onTradeApplied trade =
      (((manager.remember trade.tradeId).applyTrade trade).1,
        .applied (projectTrade ((manager.remember trade.tradeId).current trade) trade)) := by
  have remembered : (manager.remember trade.tradeId).Faithful := faithful
  have ok := (applyTrade_ok trade remembered).1
  simp only [onTradeApplied, if_neg new, ok]

end PositionManager

inductive TradeHandler where
  | onTrade
  | onTradeApplied
  deriving DecidableEq, Repr

/-- One event that the bus hands to a handler. -/
structure TradeDelivery where
  handler : TradeHandler
  /-- The payload's trade, unless the payload holds none. -/
  trade : Option Trade
  /-- The handler is called again on the thread that is inside it. -/
  reentered : Bool := false
  deriving DecidableEq, Repr

/-- A delivery that came through to the look-up of its trade id, and what became of the trade. -/
structure HandledTrade where
  handler : TradeHandler
  tradeId : String
  ended : PositionManager.AppliedEnd
  deriving DecidableEq, Repr

namespace HandledTrade

/-- The trade has been applied to the position. -/
def applied (handled : HandledTrade) : Bool :=
  match handled.ended with
  | .applied _ => true
  | .duplicate | .raised _ => false

def recorded (handled : HandledTrade) : Bool :=
  decide (handled.handler = .onTradeApplied ∧ handled.ended ≠ .duplicate)

/-- The trade has been applied by the handler that does not record its id. -/
def unrecorded (handled : HandledTrade) : Bool := handled.applied && decide (handled.handler = .onTrade)

variable {handled : HandledTrade}

theorem recorded_or_unrecorded (handled : HandledTrade) (applied : handled.applied = true) :
    handled.recorded = true ∨ handled.unrecorded = true := by
  obtain ⟨handler, tradeId, ended⟩ := handled
  cases ended with
  | duplicate => cases applied
  | raised error => cases applied
  | applied position =>
    cases handler with
    | onTrade => exact .inr rfl
    | onTradeApplied => exact .inl (by simp [recorded])

end HandledTrade

/-- The manager, and what has been handled so far, the latest delivery first. -/
structure TradeDeliveries where
  manager : PositionManager
  log : List HandledTrade := []

namespace TradeDeliveries

/-- `_handle` of the delivery by the handler it is for. -/
def handle (manager : PositionManager) (handler : TradeHandler) (trade : Trade) :
    PositionManager × PositionManager.AppliedEnd :=
  match handler with
  | .onTrade => manager.onTrade trade
  | .onTradeApplied => manager.onTradeApplied trade

/-- One delivery; a handler that is entered again returns, and one without a trade logs a warning. -/
def deliver (deliveries : TradeDeliveries) (delivery : TradeDelivery) : TradeDeliveries :=
  if delivery.reentered = true then deliveries
  else
    match delivery.trade with
    | none => deliveries
    | some trade =>
      let handled := handle deliveries.manager delivery.handler trade
      ⟨handled.1, ⟨delivery.handler, trade.tradeId, handled.2⟩ :: deliveries.log⟩

def step (deliveries : TradeDeliveries) (delivery : TradeDelivery) : Option TradeDeliveries :=
  some (deliveries.deliver delivery)

/-- The manager as it is constructed. -/
def start (enforceStateTransitions : Bool) : TradeDeliveries :=
  ⟨{ enforceStateTransitions := enforceStateTransitions }, []⟩

/-- Each of the last `maxlen` distinct trade ids is applied at most once. -/
def AppliedOnce (deliveries : TradeDeliveries) : Prop :=
  Once PositionManager.maxlen HandledTrade.tradeId HandledTrade.applied deliveries.log

/-- The delivery is not of a trade that `on_trade` applied among the last `maxlen` distinct ids and whose
id is still not recorded. -/
def Unrepeated (deliveries : TradeDeliveries) (delivery : TradeDelivery) : Prop :=
  delivery.reentered = true ∨ ∀ trade ∈ delivery.trade, trade.tradeId ∈ deliveries.manager.processedTradeIdSet ∨
    ¬ Recent PositionManager.maxlen HandledTrade.tradeId HandledTrade.unrecorded deliveries.log trade.tradeId

/-- The trade ids that have been recorded, the latest first. -/
def recordedIds (deliveries : TradeDeliveries) : List String :=
  (deliveries.log.filter HandledTrade.recorded).map HandledTrade.tradeId

structure Sound (deliveries : TradeDeliveries) : Prop where
  same : deliveries.manager.SameIds
  window : deliveries.manager.processedTradeIdOrder.reverse = deliveries.recordedIds.take PositionManager.maxlen
  apart : Apart PositionManager.maxlen deliveries.recordedIds
  faithful : deliveries.manager.Faithful

variable {deliveries final : TradeDeliveries} {delivery : TradeDelivery} {trade : Trade} {handler : TradeHandler}

theorem start_sound (enforceStateTransitions : Bool) : (start enforceStateTransitions).Sound where
  same := fun _ => Iff.rfl
  window := rfl
  apart := trivial
  faithful := fun _ => ⟨fun active => (Bool.false_ne_true active).elim, fun held => absurd rfl held⟩

theorem Sound.distinct (sound : deliveries.Sound) : deliveries.manager.processedTradeIdOrder.Nodup := by
  rw [← List.nodup_reverse, sound.window]
  exact sound.apart.nodup_take

theorem Sound.mem_set (sound : deliveries.Sound) {id : String} :
    id ∈ deliveries.manager.processedTradeIdSet ↔ id ∈ deliveries.recordedIds.take PositionManager.maxlen := by
  rw [sound.same, ← sound.window, List.mem_reverse]

theorem recordedIds_duplicate (manager : PositionManager) (handler : TradeHandler) (id : String)
    (log : List HandledTrade) :
    recordedIds ⟨manager, ⟨handler, id, .duplicate⟩ :: log⟩ = recordedIds ⟨manager, log⟩ := by
  have unrecorded : HandledTrade.recorded ⟨handler, id, .duplicate⟩ = false := by
    simp only [HandledTrade.recorded, ne_eq, not_true_eq_false, and_false, decide_false]
  simp only [recordedIds, List.filter_cons, unrecorded, Bool.false_eq_true, if_false]

theorem handle_known (known : trade.tradeId ∈ deliveries.manager.processedTradeIdSet) :
    handle deliveries.manager handler trade = (deliveries.manager, .duplicate) := by
  cases handler with
  | onTrade => exact if_pos known
  | onTradeApplied => exact if_pos known

theorem handle_new (faithful : deliveries.manager.Faithful)
    (new : trade.tradeId ∉ deliveries.manager.processedTradeIdSet) :
    ∃ position, (handle deliveries.manager handler trade).2 = .applied position := by
  cases handler with
  | onTrade => exact ⟨_, congrArg Prod.snd (PositionManager.onTrade_new faithful new)⟩
  | onTradeApplied => exact ⟨_, congrArg Prod.snd (PositionManager.onTradeApplied_recorded faithful new)⟩

/-- A delivery leaves everything as it is, or a trade has been handled. -/
theorem deliver_cases (deliveries : TradeDeliveries) (delivery : TradeDelivery) :
    ((delivery.reentered = true ∨ delivery.trade = none) ∧ deliveries.deliver delivery = deliveries) ∨
      ∃ trade, delivery.reentered = false ∧ delivery.trade = some trade ∧
        deliveries.deliver delivery =
          ⟨(handle deliveries.manager delivery.handler trade).1,
            ⟨delivery.handler, trade.tradeId, (handle deliveries.manager delivery.handler trade).2⟩ ::
              deliveries.log⟩ := by
  simp only [deliver]
  split
  · next reentered => exact .inl ⟨.inl reentered, rfl⟩
  · next entered =>
    cases delivery.trade with
    | none => exact .inl ⟨.inr rfl, rfl⟩
    | some trade => exact .inr ⟨trade, Bool.eq_false_iff.mpr entered, rfl, rfl⟩

theorem Sound.deliver (sound : deliveries.Sound) (delivery : TradeDelivery) :
    (deliveries.deliver delivery).Sound := by
  rcases deliver_cases deliveries delivery with ⟨-, same⟩ | ⟨trade, -, -, handled⟩
  · rw [same]
    exact sound
  · rw [handled]
    by_cases known : trade.tradeId ∈ deliveries.manager.processedTradeIdSet
    · rw [handle_known known]
      constructor
      · exact sound.same
      · rw [recordedIds_duplicate]
        exact sound.window
      · rw [recordedIds_duplicate]
        exact sound.apart
      · exact sound.faithful
    · cases delivery.handler with
      | onTrade =>
        obtain ⟨set, order⟩ := @PositionManager.applyTrade_keeps_ids deliveries.manager trade
        have stays := (PositionManager.applyTrade_ok trade sound.faithful).2.1
        simp only [handle, PositionManager.onTrade_new sound.faithful known]
        constructor
        · simpa only [PositionManager.SameIds, set, order] using sound.same
        · exact (congrArg List.reverse order).trans sound.window
        · exact sound.apart
        · exact stays
      | onTradeApplied =>
        obtain ⟨set, order⟩ :=
          @PositionManager.applyTrade_keeps_ids (deliveries.manager.remember trade.tradeId) trade
        have remembered : (deliveries.manager.remember trade.tradeId).Faithful := sound.faithful
        have stays := (PositionManager.applyTrade_ok trade remembered).2.1
        have both := PositionManager.remember_sameIds trade.tradeId sound.same sound.distinct
        simp only [handle, PositionManager.onTradeApplied_recorded sound.faithful known]
        constructor
        · simpa only [PositionManager.SameIds, set, order] using both
        · refine (congrArg List.reverse order).trans ?_
          rw [PositionManager.remember_order]
          exact push_reverse (by decide) sound.window
        · exact ⟨fun again => known (sound.mem_set.mpr again), sound.apart⟩
        · exact stays

/-- A delivery keeps the trades applied once exactly when its own was not applied unrecorded. -/
theorem appliedOnce_deliver (sound : deliveries.Sound) (once : deliveries.AppliedOnce) :
    (deliveries.deliver delivery).AppliedOnce ↔ deliveries.Unrepeated delivery := by
  rcases deliver_cases deliveries delivery with ⟨ignored, same⟩ | ⟨trade, entered, given, handled⟩
  · rw [same]
    refine iff_of_true once ?_
    rcases ignored with reentered | untold
    · exact .inl reentered
    · exact .inr fun trade given => absurd given (untold ▸ nofun)
  · have unrepeated : deliveries.Unrepeated delivery ↔ trade.tradeId ∈ deliveries.manager.processedTradeIdSet ∨
        ¬ Recent PositionManager.maxlen HandledTrade.tradeId HandledTrade.unrecorded deliveries.log trade.tradeId := by
      simp only [Unrepeated, entered, given, Bool.false_eq_true, false_or, Option.mem_some_iff, forall_eq']
    have counted : ∀ position, HandledTrade.applied ⟨delivery.handler, trade.tradeId, .applied position⟩ = true :=
      fun _ => rfl
    rw [unrepeated, handled, AppliedOnce, once_cons]
    by_cases known : trade.tradeId ∈ deliveries.manager.processedTradeIdSet
    · rw [handle_known known]
      exact iff_of_true ⟨once, nofun⟩ (.inl known)
    · obtain ⟨position, applied⟩ := @handle_new _ _ delivery.handler sound.faithful known
      rw [applied, or_iff_right known, and_iff_right (show Once _ _ _ deliveries.log from once),
        forall_prop_of_true (counted position)]
      apply not_congr
      constructor
      · intro recent
        rcases recent.or HandledTrade.recorded_or_unrecorded with recorded | unrecorded
        · exact absurd (sound.mem_set.mpr (recorded.mem_take sound.apart)) known
        · exact unrecorded
      · intro recent
        exact recent.mono fun entry marks => (Bool.and_eq_true_iff.mp marks).1

theorem exec_appliedOnce {ds : List TradeDelivery} (run : exec step deliveries ds = some final)
    (once : final.AppliedOnce) : deliveries.AppliedOnce := by
  induction ds generalizing deliveries with
  | nil =>
    cases run
    exact once
  | cons delivery ds ih =>
    have later : (deliveries.deliver delivery).AppliedOnce := ih run
    rcases deliver_cases deliveries delivery with ⟨-, same⟩ | ⟨trade, -, -, handled⟩
    · exact same ▸ later
    · rw [handled] at later
      exact (once_cons.mp later).1

theorem exec_sound {ds : List TradeDelivery} (run : exec step deliveries ds = some final)
    (sound : deliveries.Sound) : final.Sound := by
  have preserved : ∀ deliveries delivery after, deliveries.Sound → True → step deliveries delivery = some after →
      after.Sound := by
    intro deliveries delivery after sound _ taken
    cases taken
    exact sound.deliver delivery
  exact exec_invariant preserved sound (meets_of_forall fun _ _ => trivial) run

theorem exec_appliedOnce_iff {ds : List TradeDelivery} (run : exec step deliveries ds = some final)
    (sound : deliveries.Sound) (once : deliveries.AppliedOnce) :
    final.AppliedOnce ↔ Meets step Unrepeated deliveries ds := by
  induction ds generalizing deliveries with
  | nil =>
    cases run
    exact iff_of_true once trivial
  | cons delivery ds ih =>
    have taken : step deliveries delivery = some (deliveries.deliver delivery) := rfl
    rw [meets_cons taken, ← appliedOnce_deliver sound once]
    have rest : exec step (deliveries.deliver delivery) ds = some final := run
    constructor
    · intro applied
      have here := exec_appliedOnce rest applied
      exact ⟨here, (ih rest (sound.deliver delivery) here).mp applied⟩
    · rintro ⟨here, met⟩
      exact (ih rest (sound.deliver delivery) here).mpr met

/-- After any deliveries to a new manager the set and the queue hold the same ids, and each of the last
ids has been applied at most once exactly when no trade that `on_trade` applied was delivered again. -/
theorem trades_applied_once (enforceStateTransitions : Bool) (ds : List TradeDelivery) (final : TradeDeliveries)
    (run : exec step (start enforceStateTransitions) ds = some final) :
    (final.AppliedOnce ∧ final.manager.SameIds) ↔ Meets step Unrepeated (start enforceStateTransitions) ds := by
  have sound := start_sound enforceStateTransitions
  rw [and_iff_left (exec_sound run sound).same]
  exact exec_appliedOnce_iff run sound once_nil

instance (deliveries : TradeDeliveries) (delivery : TradeDelivery) : Decidable (deliveries.Unrepeated delivery) :=
  inferInstanceAs (Decidable (_ ∨ ∀ trade ∈ delivery.trade, _ ∨ ¬ _))

private def fill (tradeId : String) : Trade where
  tradeId := tradeId
  orderId := "O1"
  symbol := "RELIANCE"
  exchange := "NSE"
  side := .BUY
  quantity := 10
  price := 2500

private def redeliveries : List TradeDelivery := [
  ⟨.onTradeApplied, some (fill "T1"), false⟩, ⟨.onTrade, some (fill "T1"), false⟩,
  ⟨.onTrade, some (fill "T2"), false⟩, ⟨.onTradeApplied, some (fill "T1"), false⟩]

/-- The processed ids stop both handlers once `on_trade_applied` has recorded them. -/
theorem trades_applied_once_recorded : ∃ final, exec step (start true) redeliveries = some final ∧
    final.AppliedOnce ∧ final.manager.SameIds :=
  ⟨_, rfl, (trades_applied_once true redeliveries _ rfl).mpr (by decide +kernel)⟩

theorem trade_applied_twice : ∃ final, exec step (start true) [
    ⟨.onTrade, some (fill "T1"), false⟩, ⟨.onTrade, some (fill "T1"), false⟩] = some final ∧
    ¬ (final.AppliedOnce ∧ final.manager.SameIds) := by
  refine ⟨_, rfl, ?_⟩
  rintro ⟨once, -⟩
  have distinct := once _ List.infix_rfl (by decide +kernel)
  revert distinct
  decide +kernel

end TradeDeliveries

end TradeX.V1
