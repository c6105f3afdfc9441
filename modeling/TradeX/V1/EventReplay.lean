import TradeX.V1.PlacementOutcome
import TradeX.V1.PositionManager

/-! Crash recovery from the event log. The live managers are wired to the event bus, which appends an
event to the log before it hands it to them; the replay hands the logged `ORDER_UPDATED` and `TRADE`
events to fresh managers that share the processed trades. -/

namespace TradeX.V1

open Lib

/-- The events of the log that the replay reads. -/
inductive LoggedEvent where
  | orderUpdated (order : Order)
  | trade (trade : Trade)
  deriving DecidableEq, Repr

/-- The handlers of the bus catch this one: `except ValueError`. -/
def OmsError.caught : OmsError → Bool
  | .valueError _ => true
  | _ => false

namespace TradeRecorder

/-- The trade gets past every check in front of its record in the ledger. -/
def takes (recorder : TradeRecorder) (book : OrderBook) (trade : Trade) : Bool :=
  !recorder.isProcessed (.fromTrade trade) &&
    match book.orders.get trade.orderId with
    | none => false
    | some order =>
      match FillReducer.fillFromTrade trade.tradeId trade.orderId trade.quantity order.filledQuantity trade.price with
      | .error _ => false
      | .ok fill => (recorder.fillReducer.validate fill order.quantity order.filledQuantity).isNone

/-- The orders that a flush publishes, one behind each fill that it applies. -/
def flushUpdates (recorder : TradeRecorder) (book : OrderBook) (now : ℚ) : List Trade → List Order
  | [] => []
  | trade :: rest =>
    let after := recorder.flushTrade book trade now
    match after.2.2 with
    | .raised _ => []
    | .applied updated => updated :: after.1.flushUpdates after.2.1 now rest
    | _ => after.1.flushUpdates after.2.1 now rest

end TradeRecorder

/-- The order that `submit_to_broker` publishes as `ORDER_UPDATED`: the one of an unknown outcome. -/
def OrderManager.placeUpdate {cache : TTLCache.{0, v} Nat} (manager : OrderManager cache) (request : OmsOrderCommand)
    (answers : PlaceAnswers) : Option Order :=
  let checked := manager.checkAndReserve request.correlationId answers.now answers.durable
  match checked.2 with
  | some _ => none
  | none =>
    match buildAndValidate answers.gate answers.risk answers.orderId request with
    | .error _ => none
    | .ok order =>
      match (checked.1.submitToBroker order request answers.blocked answers.submission).2 with
      | .rejected result => result.order
      | _ => none

/-- The managers of a trading context and the log of its bus. -/
structure LiveContext (cache : TTLCache.{0, v} Nat) where
  manager : OrderManager cache
  positions : PositionManager := {}
  log : List LoggedEvent := []

namespace LiveContext

variable {cache : TTLCache.{0, v} Nat} (context : LiveContext cache)

/-- What `upsert_order` publishes: the order, and behind it an order for every flushed fill. Inside the
handler the reentrancy guard keeps these events from the manager. -/
def upsertUpdates (order : Order) (now : ℚ) : List Order :=
  if context.manager.passes order now = true ∧ context.manager.changesStatus order = false then
    order :: { context.manager.recorder with
      pendingTradesByOrder := context.manager.recorder.pendingTradesByOrder.pop order.orderId }.flushUpdates
        (context.manager.book.store order) now
        ((context.manager.recorder.pendingTradesByOrder.get order.orderId).getD [])
  else []

/-- An `ORDER_UPDATED` event on the bus: it is logged, and handled by `on_order_update`. The trades that
the upsert applies reach the position manager as `TRADE_APPLIED`. -/
def publishOrder (order : Order) (now : ℚ) : LiveContext cache :=
  let upserted := context.manager.upsertOrder order now
  { manager := upserted.1
    positions := upserted.2.1.foldl (fun positions trade => (positions.onTradeApplied trade).1) context.positions
    log := context.log ++ .orderUpdated order :: (context.upsertUpdates order now).map .orderUpdated }

/-- A `TRADE` event on the bus, handled by `on_trade`. -/
def publishTrade (trade : Trade) (now : ℚ) : LiveContext cache :=
  let recorded := context.manager.recordTrade trade now
  match recorded.2 with
  | .applied updated =>
    { manager := recorded.1
      positions := (context.positions.onTradeApplied trade).1
      log := context.log ++ [.trade trade, .orderUpdated updated] }
  | _ => { context with manager := recorded.1, log := context.log ++ [.trade trade] }

/-- `place_order`, whose `ORDER_UPDATED` comes back through the bus. `ORDER_PLACED` is not replayed. -/
def place (request : OmsOrderCommand) (answers : OrderManager.PlaceAnswers) : LiveContext cache :=
  let placed : LiveContext cache := { context with manager := (context.manager.placeOrder request answers).1 }
  match context.manager.placeUpdate request answers with
  | none => placed
  | some unknown => placed.publishOrder unknown answers.now

/-- One operation; the orders and trades come as events on the bus. -/
def step : BookOperation → Option (LiveContext cache)
  | .placeOrder request answers =>
    if context.manager.book.orders.contains answers.orderId = true then none
    else some (context.place request answers)
  | .upsertOrder order now => some (context.publishOrder order now)
  | .recordTrade trade now => some (context.publishTrade trade now)
  | .cancelOrder orderId blocked answer =>
    some { context with manager := (context.manager.cancelOrder orderId blocked answer).1 }
  | .modifyOrder request blocked answer =>
    some { context with manager := (context.manager.modifyOrder request blocked answer).1 }

/-- Fresh managers with the processed trades and the execution ledger that are on disk. -/
def start (keys : List TradeIdKey) (executionLedger : Option ExecutionLedger) : LiveContext cache where
  manager := { recorder := { processedTrades := some keys, executionLedger := executionLedger } }

end LiveContext

/-- The managers that a replay rebuilds. -/
structure Recovery (cache : TTLCache.{0, v} Nat) where
  manager : OrderManager cache
  positions : PositionManager := {}

namespace Recovery

variable {cache : TTLCache.{0, v} Nat} (recovery : Recovery cache)

/-- One round of the loop of `EventLogReplayService.replay`, and whether an exception ends the loop.
The bus is in replay mode: nothing that the managers publish reaches anyone. -/
def replayEvent (now : ℚ) : LoggedEvent → Recovery cache × Bool
  | .orderUpdated order =>
    let upserted := recovery.manager.upsertOrder order now
    ({ recovery with manager := upserted.1 }, upserted.2.2.any fun error => !error.caught)
  | .trade trade =>
    let recorded := recovery.manager.recordTrade trade now
    match recorded.2 with
    | .applied _ =>
      let applied := recovery.positions.onTradeApplied trade
      ({ manager := recorded.1, positions := applied.1 },
        match applied.2 with
        | .raised (.illegalTransition _ _) => true
        | _ => false)
    | .raised error => ({ recovery with manager := recorded.1 }, !error.caught)
    | _ => ({ recovery with manager := recorded.1 }, false)

/-- The loop, with the times of its rounds. -/
def replay (clock : ℕ → ℚ) (recovery : Recovery cache) : List LoggedEvent → Recovery cache × Bool
  | [] => (recovery, false)
  | event :: rest =>
    let after := recovery.replayEvent (clock 0) event
    if after.2 = true then after else replay (fun round => clock (round + 1)) after.1 rest

/-- Fresh managers that share the processed trades and the execution ledger of a recorder. -/
def fresh (recorder : TradeRecorder) : Recovery cache where
  manager := { recorder := {
    processedTrades := recorder.processedTrades, executionLedger := recorder.executionLedger } }

end Recovery

/-- `replay`. An event whose payload the process cannot rebuild, because it has not serialized an object
of that type before, is skipped: its handler raises a `ValueError`. -/
def LiveContext.recover {cache : TTLCache.{0, v} Nat} (context : LiveContext cache) (rebuilds : LoggedEvent → Bool)
    (clock : ℕ → ℚ) : Recovery cache :=
  ((Recovery.fresh context.manager.recorder).replay clock (context.log.filter rebuilds)).1

namespace TradeRecorder

/-- The trades that wait for the order of the id. -/
def waiting (recorder : TradeRecorder) (orderId : String) : List Trade :=
  (recorder.pendingTradesByOrder.get orderId).getD []

/-- The recorder behind a flush that takes nothing. -/
def emptied (recorder : TradeRecorder) (orderId : String) : TradeRecorder :=
  { recorder with pendingTradesByOrder := recorder.pendingTradesByOrder.pop orderId }

variable {recorder other : TradeRecorder} {book otherBook : OrderBook} {trade : Trade} {trades : List Trade} {now : ℚ}

/-- A trade whose order is unknown is kept for it. -/
def defers (recorder : TradeRecorder) (book : OrderBook) (trade : Trade) : Bool :=
  !blank trade.tradeId && !recorder.isProcessed (.fromTrade trade) && (book.orders.get trade.orderId).isNone

theorem fillFromTrade_caught {tradeId orderId : String} {quantity priorFilled price : ℚ} {error : OmsError}
    (failed : FillReducer.fillFromTrade tradeId orderId quantity priorFilled price = .error error) :
    error.caught = true := by
  unfold FillReducer.fillFromTrade at failed
  split at failed
  · split at failed
    · split at failed
      · split at failed
        · cases failed
        · cases failed
          rfl
      · cases failed
        rfl
    · cases failed
      rfl
  · cases failed
    rfl

/-- A trade that is not taken is processed, has no order, or has a fill that is not built or not valid. -/
theorem untaken_cases (untaken : recorder.takes book trade = false) :
    recorder.isProcessed (.fromTrade trade) = true ∨
    recorder.isProcessed (.fromTrade trade) = false ∧ (book.orders.get trade.orderId = none ∨
      ∃ order, book.orders.get trade.orderId = some order ∧
        ((∃ error, FillReducer.fillFromTrade trade.tradeId trade.orderId trade.quantity order.filledQuantity
            trade.price = .error error ∧ error.caught = true) ∨
          ∃ fill reason, FillReducer.fillFromTrade trade.tradeId trade.orderId trade.quantity order.filledQuantity
            trade.price = .ok fill ∧
              recorder.fillReducer.validate fill order.quantity order.filledQuantity = some reason)) := by
  simp only [takes] at untaken
  cases processed : recorder.isProcessed (.fromTrade trade) with
  | true => exact .inl rfl
  | false =>
    refine .inr ⟨rfl, ?_⟩
    rw [processed, Bool.not_false, Bool.true_and] at untaken
    cases known : book.orders.get trade.orderId with
    | none => exact .inl rfl
    | some order =>
      refine .inr ⟨order, rfl, ?_⟩
      rw [known] at untaken
      dsimp only at untaken
      cases built : FillReducer.fillFromTrade trade.tradeId trade.orderId trade.quantity order.filledQuantity
          trade.price with
      | error error => exact .inl ⟨error, rfl, fillFromTrade_caught built⟩
      | ok fill =>
        rw [built] at untaken
        dsimp only at untaken
        obtain ⟨reason, rejected⟩ := Option.isSome_iff_exists.mp (by simpa using untaken)
        exact .inr ⟨fill, reason, rfl, rejected⟩

/-- A trade that is not taken is at most buffered, and raises nothing that the handlers let through. -/
theorem recordTrade_untaken (untaken : recorder.takes book trade = false) (now : ℚ) :
    ∃ outcome, recorder.recordTrade book trade now =
        (if recorder.defers book trade = true then recorder.buffered trade else recorder, book, outcome) ∧
      (∀ updated, outcome ≠ .applied updated) ∧ ∀ error, outcome = .raised error → error.caught = true := by
  unfold recordTrade defers
  split
  · next blank =>
    rw [blank]
    exact ⟨_, rfl, by rintro _ ⟨⟩, by rintro _ ⟨⟩; rfl⟩
  · next named =>
    rw [Bool.eq_false_iff.mpr named]
    rcases untaken_cases untaken with processed | ⟨fresh, unknown | ⟨order, known, unbuilt | invalid⟩⟩
    · simp only [processed]
      exact ⟨_, rfl, by rintro _ ⟨⟩, by rintro _ ⟨⟩⟩
    · simp only [fresh, unknown]
      exact ⟨_, rfl, by rintro _ ⟨⟩, by rintro _ ⟨⟩⟩
    · obtain ⟨error, failed, caught⟩ := unbuilt
      simp only [fresh, known, failed]
      refine ⟨_, rfl, by rintro _ ⟨⟩, ?_⟩
      rintro _ ⟨⟩
      exact caught
    · obtain ⟨fill, reason, built, rejected⟩ := invalid
      simp only [fresh, known, built, rejected]
      exact ⟨_, rfl, by rintro _ ⟨⟩, by rintro _ ⟨⟩⟩

theorem flushTrade_untaken (untaken : recorder.takes book trade = false) (now : ℚ) :
    ∃ outcome, recorder.flushTrade book trade now = (recorder, book, outcome) ∧
      (∀ updated, outcome ≠ .applied updated) ∧ ∀ error, outcome = .raised error → error.caught = true := by
  simp only [flushTrade]
  rcases untaken_cases untaken with processed | ⟨fresh, unknown | ⟨order, known, unbuilt | invalid⟩⟩
  · simp only [processed]
    exact ⟨_, rfl, by rintro _ ⟨⟩, by rintro _ ⟨⟩⟩
  · simp only [fresh, unknown]
    exact ⟨_, rfl, by rintro _ ⟨⟩, by rintro _ ⟨⟩⟩
  · obtain ⟨error, failed, caught⟩ := unbuilt
    simp only [fresh, known, failed]
    refine ⟨_, rfl, by rintro _ ⟨⟩, ?_⟩
    rintro _ ⟨⟩
    exact caught
  · obtain ⟨fill, reason, built, rejected⟩ := invalid
    simp only [fresh, known, built, rejected]
    exact ⟨_, rfl, by rintro _ ⟨⟩, by rintro _ ⟨⟩⟩

/-- A flush of such trades changes nothing and publishes nothing. -/
theorem flushTrades_untaken (untaken : ∀ trade ∈ trades, recorder.takes book trade = false) (now : ℚ) :
    recorder.flushUpdates book now trades = [] ∧
      ∃ error, recorder.flushTrades book now trades = (recorder, book, [], error) ∧
        ∀ raised ∈ error, raised.caught = true := by
  induction trades with
  | nil => exact ⟨rfl, none, rfl, by rintro _ ⟨⟩⟩
  | cons trade rest ih =>
    obtain ⟨here, others⟩ := List.forall_mem_cons.mp untaken
    obtain ⟨outcome, flushed, unapplied, caught⟩ := flushTrade_untaken here now
    unfold flushTrades flushUpdates
    rw [flushed]
    cases outcome with
    | applied updated => exact absurd rfl (unapplied updated)
    | raised error =>
      refine ⟨rfl, some error, rfl, ?_⟩
      rintro _ ⟨⟩
      exact caught error rfl
    | _ => exact ih others

theorem emptied_waiting (recorder : TradeRecorder) (orderId id : String) :
    (recorder.emptied orderId).waiting id = if id = orderId then [] else recorder.waiting id := by
  unfold waiting emptied
  rw [Dict.get_pop]
  split <;> rfl

theorem waiting_emptied {orderId : String} (alike : ∀ id, recorder.waiting id = other.waiting id) (id : String) :
    (recorder.emptied orderId).waiting id = (other.emptied orderId).waiting id := by
  rw [emptied_waiting, emptied_waiting, alike id]

theorem waiting_buffered (alike : ∀ id, recorder.waiting id = other.waiting id) (id : String) :
    (recorder.buffered trade).waiting id = (other.buffered trade).waiting id := by
  have here := alike id
  have own := alike trade.orderId
  unfold waiting at here own
  unfold waiting buffered
  dsimp only
  rw [own, Dict.get_set, Dict.get_set]
  split
  · rfl
  · exact here

theorem mem_buffered {waiting : Trade} {id : String} (member : waiting ∈ (recorder.buffered trade).waiting id) :
    (waiting = trade ∧ id = trade.orderId) ∨ waiting ∈ recorder.waiting id := by
  unfold TradeRecorder.waiting buffered at member
  dsimp only at member
  rw [Dict.get_set] at member
  split at member
  · next here =>
    rw [Option.getD_some] at member
    split at member
    · rcases List.mem_append.mp member with before | last
      · exact .inr (here ▸ before)
      · exact .inl ⟨List.mem_singleton.mp last, here⟩
    · exact .inr (here ▸ member)
  · exact .inr member

theorem takes_congr (processed : recorder.processedTrades = other.processedTrades)
    (reducer : recorder.fillReducer = other.fillReducer)
    (order : book.orders.get trade.orderId = otherBook.orders.get trade.orderId) :
    recorder.takes book trade = other.takes otherBook trade := by
  unfold takes isProcessed
  rw [processed, reducer, order]

end TradeRecorder

/-- The last order that the log reports under each id. -/
def reported (log : List LoggedEvent) : Dict String Order :=
  log.foldl (fun orders event => match event with
    | .orderUpdated order => orders.set order.orderId order
    | .trade _ => orders) ∅

theorem reported_order (log : List LoggedEvent) (order : Order) :
    reported (log ++ [.orderUpdated order]) = (reported log).set order.orderId order :=
  List.foldl_concat ..

theorem reported_trade (log : List LoggedEvent) (trade : Trade) : reported (log ++ [.trade trade]) = reported log :=
  List.foldl_concat ..

namespace Recovery

variable {cache : TTLCache.{0, v} Nat} {recovery : Recovery cache} {recorder : TradeRecorder}
  {positions : PositionManager} {log : List LoggedEvent} {order : Order} {trade : Trade}

theorem replay_append (clock : ℕ → ℚ) (whole : (recovery.replay clock log).2 = false) (rest : List LoggedEvent) :
    ∃ later : ℕ → ℚ, recovery.replay clock (log ++ rest) = (recovery.replay clock log).1.replay later rest := by
  induction log generalizing recovery clock with
  | nil => exact ⟨clock, rfl⟩
  | cons event log ih =>
    rw [List.cons_append]
    rw [replay] at whole ⊢
    rw [replay]
    split
    · next ended =>
      rw [if_pos ended, ended] at whole
      cases whole
    · next goes =>
      rw [if_neg goes] at whole
      exact ih _ whole

/-- The recovered managers against the live ones: the orders are those that the log reports, the trades
are processed, seen and buffered alike, and the positions are the same. -/
structure Mirrors (recorder : TradeRecorder) (positions : PositionManager) (log : List LoggedEvent)
    (recovery : Recovery cache) : Prop where
  orders : ∀ id, recovery.manager.book.orders.get id = (reported log).get id
  processed : recovery.manager.recorder.processedTrades = recorder.processedTrades
  reducer : recovery.manager.recorder.fillReducer = recorder.fillReducer
  waiting : ∀ id, recovery.manager.recorder.waiting id = recorder.waiting id
  positions : recovery.positions = positions

/-- An order with the status it was last reported with, whose waiting trades are not taken, is stored. -/
theorem Mirrors.reports {book : OrderBook} (mirrors : Mirrors recorder positions log recovery)
    (same : ∀ earlier ∈ (reported log).get order.orderId, earlier.status = order.status)
    (waits : ∀ trade ∈ recorder.waiting order.orderId, trade.orderId = order.orderId)
    (untaken : ∀ trade ∈ recorder.waiting order.orderId, recorder.takes (book.store order) trade = false) (now : ℚ) :
    ∃ after, recovery.replayEvent now (.orderUpdated order) = (after, false) ∧
      Mirrors (recorder.emptied order.orderId) positions (log ++ [.orderUpdated order]) after := by
  have skipped : ∀ trade ∈ recovery.manager.recorder.waiting order.orderId,
      (recovery.manager.recorder.emptied order.orderId).takes (recovery.manager.book.store order) trade = false := by
    intro trade member
    rw [mirrors.waiting] at member
    rw [← untaken trade member]
    refine TradeRecorder.takes_congr mirrors.processed mirrors.reducer ?_
    rw [OrderBook.store_get, OrderBook.store_get, if_pos (waits trade member), if_pos (waits trade member)]
  obtain ⟨-, error, flushed, caught⟩ := TradeRecorder.flushTrades_untaken skipped now
  have earlier : ∀ existing, recovery.manager.book.orders.get order.orderId = some existing →
      existing.status = order.status := by
    intro existing found
    rw [mirrors.orders] at found
    exact same existing found
  have stays : recovery.manager.changesStatus order = false := by
    unfold OrderManager.changesStatus
    cases found : recovery.manager.book.orders.get order.orderId with
    | none => rfl
    | some existing => exact decide_eq_false (not_not.mpr (earlier existing found))
  have passing : recovery.manager.passes order now = true := by
    unfold OrderManager.passes
    cases found : recovery.manager.book.orders.get order.orderId with
    | none => rfl
    | some existing =>
      dsimp only
      unfold OrderStateValidator.validateTransition
      rw [if_pos (earlier existing found)]
      rfl
  have upserts := recovery.manager.upsertOrder_upserts order now
  unfold replayEvent
  dsimp only
  generalize recovery.manager.upsertOrder order now = upserted at upserts ⊢
  cases upserts with
  | refused validator raised refused =>
    rw [passing] at refused
    cases refused
  | changed validator raised passed changes =>
    rw [stays] at changes
    cases changes
  | flushed validator emptied book ends passed unchanged flushes =>
    have stored : (emptied, book, ends) = (recovery.manager.recorder.emptied order.orderId,
        recovery.manager.book.store order, ([] : List Trade), error) := by
      rw [← flushes]
      exact flushed
    cases stored
    refine ⟨_, Prod.ext rfl ?_, ?_, mirrors.processed, mirrors.reducer, fun id => ?_, mirrors.positions⟩
    · cases error with
      | none => rfl
      | some raised => exact congrArg Bool.not (caught raised rfl)
    · intro id
      rw [reported_order, Dict.get_set]
      refine OrderBook.store_get.trans ?_
      rw [mirrors.orders]
    · exact TradeRecorder.waiting_emptied mirrors.waiting id

/-- The round of a trade that is not taken. -/
theorem replayEvent_untaken (untaken : recovery.manager.recorder.takes recovery.manager.book trade = false) (now : ℚ) :
    recovery.replayEvent now (.trade trade) = ({ recovery with manager := { recovery.manager with
      recorder := if recovery.manager.recorder.defers recovery.manager.book trade = true
        then recovery.manager.recorder.buffered trade else recovery.manager.recorder } }, false) := by
  obtain ⟨outcome, recorded, unapplied, caught⟩ := TradeRecorder.recordTrade_untaken untaken now
  have fed : recovery.manager.recordTrade trade now = ({ recovery.manager with
      recorder := if recovery.manager.recorder.defers recovery.manager.book trade = true
        then recovery.manager.recorder.buffered trade else recovery.manager.recorder }, outcome) := by
    rw [OrderManager.recordTrade, recorded]
  simp only [replayEvent, fed]
  cases outcome with
  | applied updated => exact absurd rfl (unapplied updated)
  | raised error => simp only [caught error rfl, Bool.not_true]
  | _ => rfl

/-- A trade that is not taken is passed over, or waits as it does in the live managers. -/
theorem Mirrors.passes {book : OrderBook} (mirrors : Mirrors recorder positions log recovery)
    (untaken : recorder.takes book trade = false)
    (known : recorder.isProcessed (.fromTrade trade) = true ∨
      book.orders.get trade.orderId = (reported log).get trade.orderId) (now live : ℚ) :
    ∃ after, recovery.replayEvent now (.trade trade) = (after, false) ∧
      Mirrors (recorder.recordTrade book trade live).1 positions (log ++ [.trade trade]) after := by
  have processed : recovery.manager.recorder.isProcessed (.fromTrade trade) = recorder.isProcessed (.fromTrade trade) := by
    unfold TradeRecorder.isProcessed
    rw [mirrors.processed]
  have alike : recovery.manager.recorder.takes recovery.manager.book trade = false ∧
      recovery.manager.recorder.defers recovery.manager.book trade = recorder.defers book trade := by
    rcases known with done | sameOrder
    · unfold TradeRecorder.takes TradeRecorder.defers
      rw [processed, done]
      simp only [Bool.not_true, Bool.false_and, Bool.and_false, and_self]
    · rw [← mirrors.orders] at sameOrder
      constructor
      · rw [← untaken]
        exact TradeRecorder.takes_congr mirrors.processed mirrors.reducer sameOrder.symm
      · unfold TradeRecorder.defers
        rw [processed, sameOrder]
  obtain ⟨outcome, recorded, -, -⟩ := TradeRecorder.recordTrade_untaken untaken live
  rw [recorded, replayEvent_untaken alike.1, alike.2]
  refine ⟨_, rfl, ?_⟩
  split
  · refine ⟨fun id => ?_, mirrors.processed, mirrors.reducer, TradeRecorder.waiting_buffered mirrors.waiting,
      mirrors.positions⟩
    rw [reported_trade]
    exact mirrors.orders id
  · refine ⟨fun id => ?_, mirrors.processed, mirrors.reducer, mirrors.waiting, mirrors.positions⟩
    rw [reported_trade]
    exact mirrors.orders id

/-- Recorders that wait for the same trades are mirrored alike. -/
theorem Mirrors.congr {other : TradeRecorder} (mirrors : Mirrors recorder positions log recovery)
    (processed : recorder.processedTrades = other.processedTrades) (reducer : recorder.fillReducer = other.fillReducer)
    (waiting : ∀ id, recorder.waiting id = other.waiting id) : Mirrors other positions log recovery where
  orders := mirrors.orders
  processed := mirrors.processed.trans processed
  reducer := mirrors.reducer.trans reducer
  waiting id := (mirrors.waiting id).trans (waiting id)
  positions := mirrors.positions

/-- At whatever times the log is replayed, the loop comes to its end and mirrors the live managers. -/
def Mirrored (recovery : Recovery cache) (recorder : TradeRecorder) (positions : PositionManager)
    (log : List LoggedEvent) : Prop :=
  ∀ clock, ∃ after, recovery.replay clock log = (after, false) ∧ Mirrors recorder positions log after

/-- Another event is one more round. -/
theorem Mirrored.extend {next : TradeRecorder} {event : LoggedEvent} (mirrored : Mirrored recovery recorder positions log)
    (round : ∀ (reached : Recovery cache) (now : ℚ), Mirrors recorder positions log reached →
      ∃ after, reached.replayEvent now event = (after, false) ∧ Mirrors next positions (log ++ [event]) after) :
    Mirrored recovery next positions (log ++ [event]) := by
  intro clock
  obtain ⟨reached, replayed, mirrors⟩ := mirrored clock
  obtain ⟨later, appended⟩ := replay_append clock (by rw [replayed]) [event]
  obtain ⟨after, taken, mirrorsNext⟩ := round reached (later 0) mirrors
  refine ⟨after, ?_, mirrorsNext⟩
  rw [appended, replayed, replay, taken]
  rfl

end Recovery

namespace LiveContext

variable {cache : TTLCache.{0, v} Nat}

/-- An order on the bus that a recovery can follow: its payload is rebuilt, it has the status that it was
last reported with, the live validator lets it pass, and it sets free no trade that would be taken. -/
def SettlesOrder (rebuilds : LoggedEvent → Bool) (context : LiveContext cache) (order : Order) (now : ℚ) : Prop :=
  rebuilds (.orderUpdated order) = true ∧
    (∀ earlier ∈ (reported context.log).get order.orderId, earlier.status = order.status) ∧
    context.manager.passes order now = true ∧
    (∀ trade ∈ context.manager.recorder.waiting order.orderId,
      context.manager.recorder.takes (context.manager.book.store order) trade = false) ∧
    (context.manager.changesStatus order = true → context.manager.recorder.waiting order.orderId = [])

/-- The context when `place_order` comes to its event. -/
def placed (context : LiveContext cache) (request : OmsOrderCommand) (answers : OrderManager.PlaceAnswers) :
    LiveContext cache :=
  { context with manager := (context.manager.placeOrder request answers).1 }

/-- An operation that a recovery can follow. Of the placements only the order of an unknown outcome is
reported. A trade must not be taken, and must be processed or meet the order that is reported. -/
def settles (rebuilds : LoggedEvent → Bool) (context : LiveContext cache) : BookOperation → Prop
  | .placeOrder request answers => ∀ unknown ∈ context.manager.placeUpdate request answers,
      (context.placed request answers).SettlesOrder rebuilds unknown answers.now
  | .upsertOrder order now => context.SettlesOrder rebuilds order now
  | .recordTrade trade _ => rebuilds (.trade trade) = true ∧
      context.manager.recorder.takes context.manager.book trade = false ∧
      (context.manager.recorder.isProcessed (.fromTrade trade) = true ∨
        context.manager.book.orders.get trade.orderId = (reported context.log).get trade.orderId)
  | .cancelOrder .. | .modifyOrder .. => True

instance (rebuilds : LoggedEvent → Bool) (context : LiveContext cache) (order : Order) (now : ℚ) :
    Decidable (context.SettlesOrder rebuilds order now) := inferInstanceAs (Decidable (_ ∧ _))

instance (rebuilds : LoggedEvent → Bool) (context : LiveContext cache) :
    (operation : BookOperation) → Decidable (context.settles rebuilds operation)
  | .placeOrder request answers =>
    inferInstanceAs (Decidable (∀ unknown ∈ context.manager.placeUpdate request answers,
      (context.placed request answers).SettlesOrder rebuilds unknown answers.now))
  | .upsertOrder order now => inferInstanceAs (Decidable (context.SettlesOrder rebuilds order now))
  | .recordTrade .. => inferInstanceAs (Decidable (_ ∧ _))
  | .cancelOrder .. | .modifyOrder .. => isTrue trivial

variable {rebuilds : LoggedEvent → Bool} {context after : LiveContext cache}

/-- The trades wait under their order, every event can be rebuilt, and a replay mirrors the managers. -/
structure Recoverable (rebuilds : LoggedEvent → Bool) (context : LiveContext cache) : Prop where
  waits : ∀ id, ∀ trade ∈ context.manager.recorder.waiting id, trade.orderId = id
  rebuilt : ∀ event ∈ context.log, rebuilds event = true
  mirrored : (Recovery.fresh context.manager.recorder : Recovery cache).Mirrored context.manager.recorder
    context.positions context.log

theorem start_recoverable (keys : List TradeIdKey) (executionLedger : Option ExecutionLedger) :
    (start keys executionLedger : LiveContext cache).Recoverable rebuilds where
  waits := by rintro id trade ⟨⟩
  rebuilt := by rintro event ⟨⟩
  mirrored clock := ⟨_, rfl, fun id => rfl, rfl, rfl, fun id => rfl, rfl⟩

/-- Such an order on the bus keeps the managers recoverable. -/
theorem publishOrder_recoverable {order : Order} {now : ℚ} (recoverable : context.Recoverable rebuilds)
    (settled : context.SettlesOrder rebuilds order now) : (context.publishOrder order now).Recoverable rebuilds := by
  obtain ⟨rebuilt, same, passing, untaken, idle⟩ := settled
  have waits := recoverable.waits order.orderId
  have reportedOnce := recoverable.mirrored.extend fun reached now mirrors => mirrors.reports same waits untaken now
  have upserts := context.manager.upsertOrder_upserts order now
  unfold publishOrder
  dsimp only
  generalize context.manager.upsertOrder order now = upserted at upserts ⊢
  cases upserts with
  | refused validator raised refused =>
    rw [passing] at refused
    cases refused
  | changed validator raised passed changes =>
    have unpublished : context.upsertUpdates order now = [] := by
      unfold upsertUpdates
      rw [changes]
      exact if_neg fun both => nomatch both.2
    rw [unpublished]
    refine ⟨recoverable.waits, ?_, ?_⟩
    · exact List.forall_mem_append.mpr ⟨recoverable.rebuilt, List.forall_mem_singleton.mpr rebuilt⟩
    · intro clock
      obtain ⟨after, replayed, mirrors⟩ := reportedOnce clock
      refine ⟨after, replayed, mirrors.congr rfl rfl fun id => ?_⟩
      rw [TradeRecorder.emptied_waiting]
      split
      · next here =>
        rw [here]
        exact (idle changes).symm
      · rfl
  | flushed validator recorder book ends passed stays flushes =>
    obtain ⟨quiet, error, flushed, -⟩ :=
      @TradeRecorder.flushTrades_untaken (context.manager.recorder.emptied order.orderId) _ _ untaken now
    have stored : (recorder, book, ends) = (context.manager.recorder.emptied order.orderId,
        context.manager.book.store order, ([] : List Trade), error) := by
      rw [← flushes]
      exact flushed
    cases stored
    have published : context.upsertUpdates order now = [order] := by
      unfold upsertUpdates
      rw [if_pos ⟨passing, stays⟩]
      exact congrArg (order :: ·) quiet
    rw [published]
    -- the event of the upsert follows the one that it answers
    have again : ∀ earlier ∈ (reported (context.log ++ [.orderUpdated order])).get order.orderId,
        earlier.status = order.status := by
      intro earlier found
      rw [reported_order, Dict.get_set_self] at found
      cases found
      rfl
    have none : (context.manager.recorder.emptied order.orderId).waiting order.orderId = [] := by
      rw [TradeRecorder.emptied_waiting, if_pos rfl]
    have reportedTwice := reportedOnce.extend fun reached now mirrors =>
      @Recovery.Mirrors.reports _ _ _ _ _ _ context.manager.book mirrors again (by rw [none]; rintro trade ⟨⟩)
        (by rw [none]; rintro trade ⟨⟩) now
    refine ⟨fun id trade member => ?_, ?_, ?_⟩
    · rw [TradeRecorder.emptied_waiting] at member
      split at member
      · cases member
      · exact recoverable.waits id trade member
    · refine List.forall_mem_append.mpr ⟨recoverable.rebuilt, ?_⟩
      exact List.forall_mem_cons.mpr ⟨rebuilt, List.forall_mem_singleton.mpr rebuilt⟩
    · intro clock
      obtain ⟨after, replayed, mirrors⟩ := reportedTwice clock
      rw [List.append_assoc] at replayed mirrors
      refine ⟨after, replayed, mirrors.congr rfl rfl fun id => ?_⟩
      rw [TradeRecorder.emptied_waiting]
      split
      · next here => rw [TradeRecorder.emptied_waiting, if_pos here]
      · rfl

theorem publishTrade_untaken {trade : Trade}
    (untaken : context.manager.recorder.takes context.manager.book trade = false) (now : ℚ) :
    context.publishTrade trade now =
      { context with manager := (context.manager.recordTrade trade now).1, log := context.log ++ [.trade trade] } := by
  obtain ⟨outcome, recorded, unapplied, -⟩ := TradeRecorder.recordTrade_untaken untaken now
  unfold publishTrade OrderManager.recordTrade
  dsimp only
  rw [recorded]
  cases outcome with
  | applied updated => exact absurd rfl (unapplied updated)
  | _ => rfl

/-- One such operation keeps the managers recoverable. -/
theorem step_recoverable {operation : BookOperation} (recoverable : context.Recoverable rebuilds)
    (settled : context.settles rebuilds operation) (taken : context.step operation = some after) :
    after.Recoverable rebuilds := by
  cases operation with
  | placeOrder request answers =>
    simp only [step] at taken
    split at taken
    · cases taken
    · obtain rfl := Option.some.inj taken
      have kept : (context.manager.placeOrder request answers).1.recorder = context.manager.recorder :=
        OrderManager.placeOrder_kept.2
      have placed : (context.placed request answers).Recoverable rebuilds := by
        unfold LiveContext.placed
        refine ⟨?_, recoverable.rebuilt, ?_⟩
        · dsimp only
          rw [kept]
          exact recoverable.waits
        · dsimp only
          rw [kept]
          exact recoverable.mirrored
      unfold place
      dsimp only
      split
      · exact placed
      · next unknown published => exact publishOrder_recoverable placed (settled unknown published)
  | upsertOrder order now =>
    unfold step at taken
    obtain rfl := Option.some.inj taken
    exact publishOrder_recoverable recoverable settled
  | recordTrade trade now =>
    unfold step at taken
    obtain rfl := Option.some.inj taken
    obtain ⟨rebuilt, untaken, known⟩ := settled
    have rounds := recoverable.mirrored.extend fun reached round mirrors => mirrors.passes untaken known round now
    obtain ⟨outcome, recorded, -, -⟩ := TradeRecorder.recordTrade_untaken untaken now
    rw [publishTrade_untaken untaken]
    unfold OrderManager.recordTrade
    rw [recorded] at rounds ⊢
    have logged : ∀ event ∈ context.log ++ [.trade trade], rebuilds event = true :=
      List.forall_mem_append.mpr ⟨recoverable.rebuilt, List.forall_mem_singleton.mpr rebuilt⟩
    cases defers : context.manager.recorder.defers context.manager.book trade with
    | false =>
      rw [defers] at rounds
      exact ⟨recoverable.waits, logged, rounds⟩
    | true =>
      rw [defers] at rounds
      refine ⟨fun id waiting member => ?_, logged, rounds⟩
      rcases TradeRecorder.mem_buffered member with ⟨rfl, rfl⟩ | before
      · rfl
      · exact recoverable.waits id waiting before
  | cancelOrder orderId blocked answer =>
    unfold step at taken
    obtain rfl := Option.some.inj taken
    rw [OrderManager.cancelOrder_kept]
    exact recoverable
  | modifyOrder request blocked answer =>
    unfold step at taken
    obtain rfl := Option.some.inj taken
    rw [OrderManager.modifyOrder_kept]
    exact recoverable

/-- The recovered managers have the orders and the positions of the live ones: the status and the
filled quantity of every order, the quantity and the average price of every position. -/
def Recovers (context : LiveContext cache) (recovery : Recovery cache) : Prop :=
  (∀ id, (recovery.manager.book.orders.get id).map (fun order => (order.status, order.filledQuantity)) =
      (context.manager.book.orders.get id).map fun order => (order.status, order.filledQuantity)) ∧
    ∀ key, (recovery.positions.positions.get key).map (fun position => (position.quantity, position.avgPrice)) =
      (context.positions.positions.get key).map fun position => (position.quantity, position.avgPrice)

/-- Every order of the book has the status and the filled quantity of its last report. -/
def Reported (context : LiveContext cache) : Prop :=
  ∀ id, (context.manager.book.orders.get id).map (fun order => (order.status, order.filledQuantity)) =
    ((reported context.log).get id).map fun order => (order.status, order.filledQuantity)

/-- In every run from managers that start without orders, whose operations a recovery can follow, the
replay of the log recovers the orders and the positions exactly when every order has been reported. -/
theorem replay_recovers (keys : List TradeIdKey) (executionLedger : Option ExecutionLedger)
    (rebuilds : LoggedEvent → Bool) (operations : List BookOperation) (after : LiveContext cache)
    (run : exec step (start keys executionLedger) operations = some after)
    (met : Meets step (settles rebuilds) (start keys executionLedger : LiveContext cache) operations) (clock : ℕ → ℚ) :
    after.Recovers (after.recover rebuilds clock) ↔ after.Reported := by
  have recoverable : after.Recoverable rebuilds := by
    refine exec_invariant (fun reached operation next held settled taken => ?_) (start_recoverable keys _) met run
    exact step_recoverable held settled taken
  obtain ⟨recovery, replayed, mirrors⟩ := recoverable.mirrored clock
  have whole : after.log.filter rebuilds = after.log := List.filter_eq_self.mpr recoverable.rebuilt
  have recovered : after.recover rebuilds clock = recovery := by
    unfold recover
    rw [whole, replayed]
  rw [recovered]
  constructor
  · rintro ⟨orders, -⟩ id
    rw [← mirrors.orders]
    exact (orders id).symm
  · intro orders
    refine ⟨fun id => ?_, fun key => by rw [mirrors.positions]⟩
    rw [mirrors.orders]
    exact (orders id).symm

open OrderManager in
/-- Five shares of another order. -/
def fiveShares (status : OrderStatus) (filled : ℚ) : Order :=
  { tenShares status filled with
    orderId := "220902"
    symbol := "INFY"
    quantity := 5
    correlationId := some "7a2d" }

open OrderManager in
/-- Two orders of the broker, of which one was placed here, a trade that was processed before the crash
and one whose order never becomes known. -/
def settledOperations : List BookOperation := [
  .upsertOrder (tenShares .OPEN 0) 0,
  .recordTrade (fillOf "T1" 10) 1,
  .recordTrade { fillOf "T9" 10 with orderId := "220999" } 2,
  .placeOrder { symbol := "INFY", exchange := "NSE", side := .BUY, quantity := 5, correlationId := "7a2d" }
    { now := 3, orderId := "local-1", submission := some { brokerCall := .ok (fiveShares .OPEN 0) } },
  .upsertOrder (fiveShares .FILLED 5) 4,
  .cancelOrder "220901" none none]

open OrderManager in
theorem replay_recovers_settled : ∃ after : LiveContext machineCache,
    exec step (start [TradeIdKey.fromTrade (fillOf "T1" 10)] none) settledOperations = some after ∧
      after.log.length = 5 ∧ after.Recovers (after.recover (fun _ => true) fun round => round) := by
  have runs : (exec step (start [TradeIdKey.fromTrade (fillOf "T1" 10)] none : LiveContext machineCache)
      settledOperations).map (fun after => decide (after.log.length = 5 ∧
        after.manager.book.orders = reported after.log)) = some true := by
    decide +kernel
  obtain ⟨after, run, met⟩ := Option.map_eq_some_iff.mp runs
  obtain ⟨events, orders⟩ := of_decide_eq_true met
  refine ⟨after, run, events, (replay_recovers _ none (fun _ => true) settledOperations after run (by decide +kernel)
    fun round => round).mpr fun id => ?_⟩
  rw [orders]

open OrderManager in
/-- The trade of an order is processed for good when it is applied, so that its replay is a duplicate. -/
theorem position_not_recovered :
    (exec step (start [] none : LiveContext machineCache)
      [.upsertOrder (tenShares .OPEN 0) 0, .recordTrade (fillOf "T1" 10) 1]).map (fun after =>
        ((after.positions.positions.get "RELIANCE:NSE").map fun position => (position.quantity, position.avgPrice),
          ((after.recover (fun _ => true) fun round => round).positions.positions.get "RELIANCE:NSE").map
            fun position => (position.quantity, position.avgPrice))) = some (some (10, 2500), none) ∧
    ¬ ∀ (operations : List BookOperation) (after : LiveContext machineCache),
      exec step (start [] none) operations = some after →
        after.Recovers (after.recover (fun _ => true) fun round => round) := by
  have runs : (exec step (start [] none : LiveContext machineCache)
      [.upsertOrder (tenShares .OPEN 0) 0, .recordTrade (fillOf "T1" 10) 1]).map (fun after =>
        ((after.positions.positions.get "RELIANCE:NSE").map fun position => (position.quantity, position.avgPrice),
          ((after.recover (fun _ => true) fun round => round).positions.positions.get "RELIANCE:NSE").map
            fun position => (position.quantity, position.avgPrice))) = some (some (10, 2500), none) := by
    decide +kernel
  refine ⟨runs, fun claim => ?_⟩
  obtain ⟨after, run, figures⟩ := Option.map_eq_some_iff.mp runs
  obtain ⟨live, recovered⟩ := Prod.mk.inj figures
  have same := (claim _ after run).2 "RELIANCE:NSE"
  rw [live, recovered] at same
  cases same

end LiveContext

end TradeX.V1
