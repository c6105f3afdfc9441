import TradeX.V2.Submission

/-! A replay of recorded fills against the simulated run that recorded them. Both go through the same
engine, call after call; the guard completes a correlation id with one order only, so the record of the
whole run has the order of every call that reaches the fill source. -/

namespace TradeX.V2

open Lib

theorem SimulatedFillSource.submit_priced {command : PlaceOrderCommand} (priced : command.price ≠ none)
    (fresh : OrderId) : submit fresh command = .ok (some (command.filledOrder fresh)) := by
  obtain ⟨price, given⟩ := Option.ne_none_iff_exists'.mp priced
  unfold submit filledFromCommand
  rw [given]
  unfold PlaceOrderCommand.filledOrder
  rw [given]
  rfl

namespace Engine

/-- Calls of `submit` one after the other, whether they return or raise, with their answers. -/
def run (engine : Engine) : List (FillSource × PlaceOrderCommand) → Engine × List (Except Failure (Option Order))
  | [] => (engine, [])
  | (source, command) :: rest =>
    let submitted := engine.submit source command
    let later := submitted.1.run rest
    (later.1, submitted.2 :: later.2)

end Engine

/-- The commands of a run, each with the id that `uuid4` draws for its order, through the simulated source. -/
def simulated (entries : List (OrderId × PlaceOrderCommand)) : List (FillSource × PlaceOrderCommand) :=
  entries.map fun entry => (SimulatedFillSource.submit entry.1, entry.2)

/-- The same commands through the replay source. -/
def replayed (recorded : Dict CorrelationId Order) (entries : List (OrderId × PlaceOrderCommand)) :
    List (FillSource × PlaceOrderCommand) :=
  entries.map fun entry => (ReplayFillSource.submit recorded, entry.2)

/-- The filled orders by their correlation id. -/
def recordedFills (orders : List Order) : Dict CorrelationId Order :=
  orders.foldl (fun recorded order =>
    if order.status = .FILLED then recorded.set order.correlationId order else recorded) ∅

/-- The orders that a run answered with. -/
def answeredOrders (answers : List (Except Failure (Option Order))) : List Order :=
  answers.filterMap fun answer => match answer with
    | .ok order => order
    | .error _ => none

/-- The figures of every position, and the status and filled quantity under every correlation id. -/
structure Engine.Parity (first second : Engine) : Prop where
  positions : ∀ instrumentId, (second.cache.getPosition instrumentId).map (fun position =>
      (position.quantity, position.avgPrice, position.realizedPnl)) =
    (first.cache.getPosition instrumentId).map fun position =>
      (position.quantity, position.avgPrice, position.realizedPnl)
  orders : ∀ correlationId, (second.byCorr.get correlationId).map (fun order => (order.status, order.filledQuantity)) =
    (first.byCorr.get correlationId).map fun order => (order.status, order.filledQuantity)

namespace Engine

variable {engine : Engine} {command : PlaceOrderCommand} {correlationId : CorrelationId} {order : Order}

/-- A priced command that reaches the simulated source is filled under the id drawn for it. -/
theorem submit_simulated (priced : command.price ≠ none) (fresh : OrderId)
    (filling : (engine.begin command).2 = .filling) :
    (engine.submit (SimulatedFillSource.submit fresh) command).2 = .ok (some (command.filledOrder fresh)) ∧
      (engine.submit (SimulatedFillSource.submit fresh) command).1.cache =
        (engine.applyOms (command.filledOrder fresh)).cache ∧
      ∀ other filled, (engine.submit (SimulatedFillSource.submit fresh) command).1.completed other filled ↔
        engine.completed other filled ∨ (other = command.correlationId ∧ filled = command.filledOrder fresh) :=
  submit_filled filling (SimulatedFillSource.submit_priced priced fresh)

variable {entries : List (OrderId × PlaceOrderCommand)} {orders : List Order} {recorded : Dict CorrelationId Order}

/-- What a correlation id is completed with stays. -/
theorem run_completed (priced : ∀ entry ∈ entries, entry.2.price ≠ none) (held : engine.completed correlationId order) :
    (engine.run (simulated entries)).1.completed correlationId order := by
  induction entries generalizing engine with
  | nil => exact held
  | cons entry rest ih =>
    obtain ⟨first, others⟩ := List.forall_mem_cons.mp priced
    refine ih others ?_
    by_cases filling : (engine.begin entry.2).2 = .filling
    · exact ((submit_simulated first entry.1 filling).2.2 _ _).mpr (.inl held)
    · exact (submit_unfilled filling).1.mpr held

/-- Where the record has every order that the simulated run completes, the replay is the same run. -/
theorem run_replayed (priced : ∀ entry ∈ entries, entry.2.price ≠ none)
    (kept : ∀ correlationId order, (engine.run (simulated entries)).1.completed correlationId order →
      recorded.get correlationId = some order) :
    engine.run (replayed recorded entries) = engine.run (simulated entries) := by
  induction entries generalizing engine with
  | nil => rfl
  | cons entry rest ih =>
    obtain ⟨first, others⟩ := List.forall_mem_cons.mp priced
    have same : engine.submit (ReplayFillSource.submit recorded) entry.2 =
        engine.submit (SimulatedFillSource.submit entry.1) entry.2 := by
      by_cases filling : (engine.begin entry.2).2 = .filling
      · have completes := ((submit_simulated first entry.1 filling).2.2 entry.2.correlationId _).mpr (.inr ⟨rfl, rfl⟩)
        have later : ((engine.submit (SimulatedFillSource.submit entry.1) entry.2).1.run (simulated rest)).1.completed
            entry.2.correlationId (entry.2.filledOrder entry.1) := run_completed others completes
        refine submit_congr ?_
        rw [SimulatedFillSource.submit_priced first, ReplayFillSource.submit, kept _ _ later]
      · exact submit_stopped filling
    have later := @ih (engine.submit (SimulatedFillSource.submit entry.1) entry.2).1 others kept
    unfold replayed simulated at later ⊢
    simp only [List.map_cons, run, same, later]

/-- The orders are those that the guard answers with. -/
structure Complete (engine : Engine) (orders : List Order) : Prop where
  named : ∀ correlationId order, engine.completed correlationId order →
    order.correlationId = correlationId ∧ order.status = .FILLED ∧ order ∈ orders
  answered : ∀ order ∈ orders, engine.completed order.correlationId order

/-- The record of such orders has each under its correlation id. -/
theorem Complete.records (complete : engine.Complete orders) (held : engine.completed correlationId order) :
    (recordedFills orders).get correlationId = some order := by
  have unique : ∀ (known : List Order), (∀ order ∈ known, order ∈ orders) → order ∈ known →
      (recordedFills known).get correlationId = some order := by
    intro known
    induction known using List.reverseRecOn with
    | nil => rintro - ⟨⟩
    | append_singleton before last ih =>
      intro within member
      have lastHeld := complete.answered last (within last (by simp))
      have filled := (complete.named _ _ lastHeld).2.1
      unfold recordedFills at ih ⊢
      rw [List.foldl_concat, if_pos filled, Dict.get_set]
      split
      · next same =>
        rw [← same] at lastHeld
        unfold completed at held lastHeld
        rw [held] at lastHeld
        cases lastHeld
        rfl
      · next apart =>
        refine ih (fun other earlier => within other (by simp [earlier])) ?_
        rcases List.mem_append.mp member with earlier | isLast
        · exact earlier
        · obtain rfl := List.mem_singleton.mp isLast
          exact absurd (complete.named _ _ held).1.symm apart
  exact unique orders (fun _ member => member) (complete.named _ _ held).2.2

theorem mem_answeredOrders {answer : Except Failure (Option Order)} :
    order ∈ answeredOrders [answer] ↔ answer = .ok (some order) := by
  unfold answeredOrders
  rw [List.mem_filterMap]
  simp only [List.mem_singleton, exists_eq_left]
  cases answer with
  | error failure => simp only [reduceCtorEq]
  | ok given => simp only [Except.ok.injEq]

theorem Complete.submit (complete : engine.Complete orders) (priced : command.price ≠ none) (fresh : OrderId) :
    (engine.submit (SimulatedFillSource.submit fresh) command).1.Complete
      (orders ++ answeredOrders [(engine.submit (SimulatedFillSource.submit fresh) command).2]) := by
  by_cases filling : (engine.begin command).2 = .filling
  · obtain ⟨answer, -, completes⟩ := submit_simulated priced fresh filling
    refine ⟨fun other filled held => ?_, fun filled member => ?_⟩
    · rcases (completes other filled).mp held with before | ⟨rfl, rfl⟩
      · obtain ⟨own, status, member⟩ := complete.named other filled before
        exact ⟨own, status, List.mem_append_left _ member⟩
      · exact ⟨rfl, rfl, List.mem_append_right _ (mem_answeredOrders.mpr answer)⟩
    · rcases List.mem_append.mp member with before | now
      · exact (completes _ _).mpr (.inl (complete.answered filled before))
      · have given := mem_answeredOrders.mp now
        rw [answer] at given
        cases given
        exact (completes _ _).mpr (.inr ⟨rfl, rfl⟩)
  · refine ⟨fun other filled held => ?_, fun filled member => ?_⟩
    · obtain ⟨own, status, member⟩ := complete.named other filled ((submit_unfilled filling).1.mp held)
      exact ⟨own, status, List.mem_append_left _ member⟩
    · refine (submit_unfilled filling).1.mpr ?_
      rcases List.mem_append.mp member with before | now
      · exact complete.answered filled before
      · have given := (@submit_unfilled _ _ _ command.correlationId _ filling).2.2 (mem_answeredOrders.mp now)
        rw [(complete.named _ _ given).1]
        exact given

/-- The orders that the run answers with are those that it completes. -/
theorem Complete.run (complete : engine.Complete orders) (priced : ∀ entry ∈ entries, entry.2.price ≠ none) :
    (engine.run (simulated entries)).1.Complete (orders ++ answeredOrders (engine.run (simulated entries)).2) := by
  induction entries generalizing engine orders with
  | nil =>
    unfold answeredOrders
    rw [simulated, List.map_nil, Engine.run, List.filterMap_nil, List.append_nil]
    exact complete
  | cons entry rest ih =>
    obtain ⟨first, others⟩ := List.forall_mem_cons.mp priced
    have next : (engine.submit (SimulatedFillSource.submit entry.1) entry.2).1.Complete
        (orders ++ answeredOrders [(engine.submit (SimulatedFillSource.submit entry.1) entry.2).2]) :=
      complete.submit first entry.1
    have later := ih next others
    unfold answeredOrders at later ⊢
    rw [List.append_assoc, ← List.filterMap_append] at later
    exact later

/-- The cache has the completed orders under their ids, which are among those drawn. -/
structure Filed (engine : Engine) (drawn : List OrderId) : Prop where
  named : ∀ correlationId order, engine.completed correlationId order →
    order.correlationId = correlationId ∧ order.status = .FILLED ∧
      engine.cache.getOrder order.orderId = some order ∧ order.orderId ∈ drawn
  own : ∀ orderId order, engine.cache.getOrder orderId = some order → engine.completed order.correlationId order

theorem applyOms_getOrder (orderId : OrderId) : (engine.applyOms order).cache.getOrder orderId =
    if orderId = order.orderId then some order else engine.cache.getOrder orderId := by
  have stored : (OrderManager.upsert (engine.cache.setOrder order) order).getOrder orderId =
      if orderId = order.orderId then some order else engine.cache.getOrder orderId := by
    unfold OrderManager.upsert TradingCache.setOrder TradingCache.getOrder
    dsimp only
    rw [Dict.get_set, Dict.get_set]
    split <;> rfl
  unfold applyOms
  dsimp only
  split
  · exact stored
  · exact stored

theorem Filed.submit {drawn : List OrderId} (filed : engine.Filed drawn) (priced : command.price ≠ none)
    {fresh : OrderId} (new : fresh ∉ drawn) :
    (engine.submit (SimulatedFillSource.submit fresh) command).1.Filed (fresh :: drawn) := by
  by_cases filling : (engine.begin command).2 = .filling
  · obtain ⟨-, cache, completes⟩ := submit_simulated priced fresh filling
    refine ⟨fun other filled held => ?_, fun orderId filled found => ?_⟩
    · rw [cache, applyOms_getOrder]
      rcases (completes other filled).mp held with before | ⟨rfl, rfl⟩
      · obtain ⟨own, status, found, member⟩ := filed.named other filled before
        have apart : filled.orderId ≠ fresh := fun same => new (same ▸ member)
        exact ⟨own, status, (if_neg apart).trans found, List.mem_cons_of_mem _ member⟩
      · exact ⟨rfl, rfl, if_pos rfl, List.mem_cons_self⟩
    · rw [cache, applyOms_getOrder] at found
      split at found
      · cases found
        exact (completes _ _).mpr (.inr ⟨rfl, rfl⟩)
      · exact (completes _ _).mpr (.inl (filed.own orderId filled found))
  · refine ⟨fun other filled held => ?_, fun orderId filled found => ?_⟩
    · obtain ⟨own, status, found, member⟩ := filed.named other filled ((submit_unfilled filling).1.mp held)
      rw [(@submit_unfilled _ _ _ command.correlationId filled filling).2.1]
      exact ⟨own, status, found, List.mem_cons_of_mem _ member⟩
    · rw [(@submit_unfilled _ _ _ command.correlationId filled filling).2.1] at found
      exact (submit_unfilled filling).1.mpr (filed.own orderId filled found)

theorem Filed.run {drawn : List OrderId} (filed : engine.Filed drawn) (priced : ∀ entry ∈ entries, entry.2.price ≠ none)
    (distinct : (entries.map Prod.fst).Nodup) (new : ∀ entry ∈ entries, entry.1 ∉ drawn) :
    (engine.run (simulated entries)).1.Complete (engine.run (simulated entries)).1.cache.orders.values := by
  induction entries generalizing engine drawn with
  | nil =>
    refine ⟨fun other filled held => ?_, fun filled member => ?_⟩
    · obtain ⟨own, status, found, -⟩ := filed.named other filled held
      exact ⟨own, status, List.mem_map.mpr ⟨_, Dict.get_eq_some.mp found, rfl⟩⟩
    · obtain ⟨⟨orderId, _⟩, entry, rfl⟩ := List.mem_map.mp member
      exact filed.own orderId _ (Dict.get_eq_some.mpr entry)
  | cons entry rest ih =>
    obtain ⟨first, others⟩ := List.forall_mem_cons.mp priced
    obtain ⟨firstNew, othersNew⟩ := List.forall_mem_cons.mp new
    obtain ⟨apart, distinctRest⟩ := List.nodup_cons.mp distinct
    refine ih (filed.submit first firstNew) others distinctRest fun other member again => ?_
    rcases List.mem_cons.mp again with same | before
    · exact apart (List.mem_map.mpr ⟨other, member, same⟩)
    · exact othersNew other member before

/-- The replay of a record goes as the run it was recorded from: the same answers call after call, the same
positions, and the same status and filled quantity under every correlation id. -/
def ReplaysAs (risk : RiskManager) (entries : List (OrderId × PlaceOrderCommand)) (recorded : Dict CorrelationId Order) :
    Prop :=
  let first := ({ risk := risk } : Engine).run (simulated entries)
  let second := ({ risk := risk } : Engine).run (replayed recorded entries)
  second.2 = first.2 ∧ first.1.Parity second.1

/-- Over every list of priced commands and under every risk manager the replay goes as the simulated run,
from the record of its answers, and where the order ids are distinct also from the record of its cache. -/
theorem replay_parity (risk : RiskManager) (entries : List (OrderId × PlaceOrderCommand))
    (priced : ∀ entry ∈ entries, entry.2.price ≠ none) :
    ReplaysAs risk entries (recordedFills (answeredOrders (({ risk := risk } : Engine).run (simulated entries)).2)) ∧
      ((entries.map Prod.fst).Nodup → ReplaysAs risk entries
        (recordedFills (({ risk := risk } : Engine).run (simulated entries)).1.cache.orders.values)) := by
  have unstarted : ∀ correlationId order, ¬ ({ risk := risk } : Engine).completed correlationId order := by
    rintro correlationId order ⟨⟩
  have replays : ∀ orders, (({ risk := risk } : Engine).run (simulated entries)).1.Complete orders →
      ReplaysAs risk entries (recordedFills orders) := by
    intro orders complete
    have same := run_replayed priced fun _ _ held => complete.records held
    unfold ReplaysAs
    rw [same]
    exact ⟨rfl, fun _ => rfl, fun _ => rfl⟩
  constructor
  · have empty : ({ risk := risk } : Engine).Complete [] :=
      ⟨fun other filled held => absurd held (unstarted other filled), by rintro _ ⟨⟩⟩
    exact replays _ (empty.run priced)
  · intro distinct
    have empty : ({ risk := risk } : Engine).Filed [] :=
      ⟨fun other filled held => absurd held (unstarted other filled), by rintro _ _ ⟨⟩⟩
    exact replays _ (empty.run priced distinct fun _ _ => List.not_mem_nil)

def pricedCommand (side : OrderSide) (quantity price : ℚ) (correlationId : String) : PlaceOrderCommand where
  instrumentId := ⟨"NSE:RELIANCE"⟩
  side := side
  orderType := .LIMIT
  quantity := quantity
  price := some price
  timeInForce := .DAY
  correlationId := ⟨correlationId⟩

/-- The second purchase is denied at the limit of ten shares, and passes under the same id when the first
is sold; the first is asked for once more. -/
def limitedEntries : List (OrderId × PlaceOrderCommand) := [
  (⟨"sim-1"⟩, pricedCommand .BUY 10 100 "a"), (⟨"sim-2"⟩, pricedCommand .BUY 5 110 "b"),
  (⟨"sim-3"⟩, pricedCommand .SELL 10 120 "c"), (⟨"sim-4"⟩, pricedCommand .BUY 5 115 "b"),
  (⟨"sim-5"⟩, pricedCommand .BUY 10 100 "a")]

def limitedRisk : RiskManager := riskFromConfig { maxOrderSize := 10, maxPositionSize := 10 }

theorem replay_parity_limited :
    ReplaysAs limitedRisk limitedEntries
        (recordedFills (({ risk := limitedRisk } : Engine).run (simulated limitedEntries)).1.cache.orders.values) ∧
      (({ risk := limitedRisk } : Engine).run (simulated limitedEntries)).2.map
        (fun answer => answer.map fun order => order.map Order.orderId) =
        [.ok (some ⟨"sim-1"⟩), .ok none, .ok (some ⟨"sim-3"⟩), .ok (some ⟨"sim-4"⟩), .ok (some ⟨"sim-1"⟩)] :=
  ⟨(replay_parity limitedRisk limitedEntries (by decide +kernel)).2 (by decide +kernel), by decide +kernel⟩

end Engine

end TradeX.V2
