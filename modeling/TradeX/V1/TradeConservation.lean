import TradeX.Lib.Runs
import TradeX.V1.TradeRecorder
import TradeX.V1.PositionManager

/-! A stream of trades through the order manager and, for the accepted ones, on to the
position manager. Three layers look for duplicates: the processed trades, the reducer
and the window of the position manager. -/

namespace TradeX.V1

open Lib

/-- The three layers, with what an observer notes: the accepted trades, the latest
first, and the trades that a layer took for a duplicate although no trade with their
key had been accepted. -/
structure TradeFeed where
  book : OrderBook
  recorder : TradeRecorder
  positions : PositionManager := {}
  accepted : List Trade := []
  falseDuplicates : List Trade := []

namespace TradeFeed

def acceptedKeys (feed : TradeFeed) : List TradeIdKey := feed.accepted.map TradeIdKey.fromTrade

/-- A trade with this key was accepted, in this run or by an earlier process. -/
def known (feed : TradeFeed) (key : TradeIdKey) : Bool :=
  feed.recorder.isProcessed key || decide (key ∈ feed.acceptedKeys)

/-- The trade was taken for a duplicate. -/
def suspect (feed : TradeFeed) (trade : Trade) : List Trade :=
  if feed.known (.fromTrade trade) = true then feed.falseDuplicates else trade :: feed.falseDuplicates

/-- `record_trade`, and `on_trade_applied` for a trade that was applied. -/
def step (feed : TradeFeed) (event : Trade × ℚ) : Option TradeFeed :=
  let recorded := feed.recorder.recordTrade feed.book event.1 event.2
  let after := { feed with recorder := recorded.1, book := recorded.2.1 }
  match recorded.2.2 with
  | .applied _ =>
    let positioned := feed.positions.onTradeApplied event.1
    some { after with
      positions := positioned.1
      accepted := event.1 :: feed.accepted
      falseDuplicates :=
        if positioned.2 = .duplicate then feed.suspect event.1 else feed.falseDuplicates }
  | .duplicate | .rejected (.duplicate _) => some { after with falseDuplicates := feed.suspect event.1 }
  | _ => some after

/-- A whole quantity, and a raw trade id that agrees with the key: it is not the id of an
accepted trade with another key and, where no repository keeps the keys, it is the id of
the accepted trade with this key. The condition is on trades for orders in the book whose
key no repository holds. -/
def agrees (feed : TradeFeed) (event : Trade × ℚ) : Prop :=
  feed.recorder.isProcessed (.fromTrade event.1) = false →
    feed.book.orders.contains event.1.orderId = true →
      Decimal.Whole event.1.quantity ∧
      (∀ earlier ∈ feed.accepted, earlier.tradeId = event.1.tradeId →
        TradeIdKey.fromTrade earlier = .fromTrade event.1) ∧
      (feed.recorder.processedTrades = none → ∀ earlier ∈ feed.accepted,
        TradeIdKey.fromTrade earlier = .fromTrade event.1 → earlier.tradeId = event.1.tradeId)

instance (feed : TradeFeed) (event : Trade × ℚ) : Decidable (feed.agrees event) :=
  inferInstanceAs (Decidable (_ → _ → _ ∧ _ ∧ (_ → _)))

/-- The signed quantity that the trades add to a position. -/
def signedFor (key : String) (trades : List Trade) : ℚ :=
  (trades.map fun trade =>
    if key = makePositionKey trade.symbol trade.exchange then
      (match trade.side with | .BUY => trade.quantity | .SELL => -trade.quantity) else 0).sum

/-- Before the first trade: any book, any processed keys and any ledger. -/
def fresh (book : OrderBook) (processedTrades : Option (List TradeIdKey))
    (executionLedger : Option ExecutionLedger) (pending : Dict String (List Trade)) : TradeFeed where
  book := book
  recorder := {
    processedTrades := processedTrades
    executionLedger := executionLedger
    pendingTradesByOrder := pending }

/-- Every accepted key is applied once, orders and positions add up the accepted trades,
and no trade with a new key was taken for a duplicate. -/
structure Conserved (start : OrderBook) (feed : TradeFeed) : Prop where
  once : feed.acceptedKeys.Nodup
  filled : ∀ orderId, feed.book.filled orderId = start.filled orderId + quantityFor orderId feed.accepted
  positions : ∀ key, (feed.positions.quantity key : ℚ) = signedFor key feed.accepted
  noFalseDuplicates : feed.falseDuplicates = []

/-- The three collections of ids hold what was accepted, and the machines of the
positions are faithful. -/
structure Aligned (start : OrderBook) (feed : TradeFeed) : Prop where
  conserved : Conserved start feed
  seen : feed.recorder.fillReducer.seenFillIds = feed.accepted.map Trade.tradeId
  processed : ∀ keys, feed.recorder.processedTrades = some keys → ∀ key ∈ feed.acceptedKeys, key ∈ keys
  window : ∀ id ∈ feed.positions.processedTradeIdSet, id ∈ feed.accepted.map Trade.tradeId
  faithful : feed.positions.Faithful

theorem signedFor_cons (key : String) (trade : Trade) (trades : List Trade) (whole : Decimal.Whole trade.quantity) :
    signedFor key (trade :: trades) = signedFor key trades +
      ((if key = makePositionKey trade.symbol trade.exchange then trade.delta else 0 : ℤ) : ℚ) := by
  unfold signedFor
  rw [List.map_cons, List.sum_cons, add_comm]
  congr 1
  split
  · unfold Trade.delta
    cases trade.side with
    | BUY => exact whole.symm
    | SELL => rw [Int.cast_neg, whole]
  · rw [Int.cast_zero]

variable {start : OrderBook} {feed after : TradeFeed} {event : Trade × ℚ}

theorem suspect_known (trade : Trade) (known : feed.known (.fromTrade trade) = true) :
    feed.suspect trade = feed.falseDuplicates := if_pos known

/-- A trade that is not applied leaves everything aligned. -/
theorem Aligned.kept (aligned : Aligned start feed) {recorder : TradeRecorder}
    (processed : recorder.processedTrades = feed.recorder.processedTrades)
    (reducer : recorder.fillReducer = feed.recorder.fillReducer) :
    Aligned start { feed with recorder := recorder } where
  conserved := ⟨aligned.conserved.once, aligned.conserved.filled, aligned.conserved.positions,
    aligned.conserved.noFalseDuplicates⟩
  seen := by
    rw [reducer]
    exact aligned.seen
  processed keys attached := by
    rw [processed] at attached
    exact aligned.processed keys attached
  window := aligned.window
  faithful := aligned.faithful

/-- The key of a trade that was applied is new among the accepted ones. -/
theorem Aligned.newKey (aligned : Aligned start feed) {trade : Trade} {now : ℚ}
    (agrees : feed.agrees (trade, now)) (contained : feed.book.orders.contains trade.orderId = true)
    (unprocessed : feed.recorder.isProcessed (.fromTrade trade) = false)
    (unseen : trade.tradeId ∉ feed.recorder.fillReducer.seenFillIds) :
    TradeIdKey.fromTrade trade ∉ feed.acceptedKeys := by
  intro member
  cases attached : feed.recorder.processedTrades with
  | some keys =>
    have present := aligned.processed keys attached _ member
    rw [TradeRecorder.isProcessed, attached, Option.elim_some, decide_eq_false_iff_not] at unprocessed
    exact unprocessed present
  | none =>
    obtain ⟨earlier, acceptedEarlier, sameKey⟩ := List.mem_map.mp member
    obtain ⟨-, -, raw⟩ := agrees unprocessed contained
    rw [aligned.seen] at unseen
    exact unseen (List.mem_map.mpr ⟨earlier, acceptedEarlier, raw attached earlier acceptedEarlier sameKey⟩)

/-- A trade that a layer calls a duplicate leaves everything aligned where its key is known. -/
theorem Aligned.duplicate (aligned : Aligned start feed) {recorder : TradeRecorder} (trade : Trade)
    (processed : recorder.processedTrades = feed.recorder.processedTrades)
    (reducer : recorder.fillReducer = feed.recorder.fillReducer)
    (known : feed.known (.fromTrade trade) = true) :
    Aligned start { feed with recorder := recorder, falseDuplicates := feed.suspect trade } := by
  rw [suspect_known trade known]
  exact aligned.kept processed reducer

/-- The reducer calls only a trade with a known key a duplicate. -/
theorem Aligned.seenKnown (aligned : Aligned start feed) {trade : Trade} {now : ℚ}
    (agrees : feed.agrees (trade, now)) (member : trade.tradeId ∈ feed.recorder.fillReducer.seenFillIds)
    (contained : feed.book.orders.contains trade.orderId = true) :
    feed.known (.fromTrade trade) = true := by
  cases unprocessed : feed.recorder.isProcessed (.fromTrade trade) with
  | true => rw [known, unprocessed, Bool.true_or]
  | false =>
    obtain ⟨-, raw, -⟩ := agrees unprocessed contained
    rw [aligned.seen] at member
    obtain ⟨earlier, acceptedEarlier, sameId⟩ := List.mem_map.mp member
    have sameKey := raw earlier acceptedEarlier sameId
    rw [known, decide_eq_true, Bool.or_true]
    exact List.mem_map.mpr ⟨earlier, acceptedEarlier, sameKey⟩

/-- A trade that is applied is added once in the order and once in the position. -/
theorem Aligned.applied (aligned : Aligned start feed) {trade : Trade} {now : ℚ} {recorder : TradeRecorder}
    {order updated : Order} {book : OrderBook} (agrees : feed.agrees (trade, now))
    (unprocessed : feed.recorder.isProcessed (.fromTrade trade) = false)
    (unseen : trade.tradeId ∉ feed.recorder.fillReducer.seenFillIds)
    (fills : Fills feed.book trade order updated book)
    (processed : recorder.processedTrades =
      feed.recorder.processedTrades.map (TradeIdKey.fromTrade trade :: ·))
    (seen : recorder.fillReducer.seenFillIds = trade.tradeId :: feed.recorder.fillReducer.seenFillIds) :
    (∃ position, (feed.positions.onTradeApplied trade).2 = .applied position) ∧
    Aligned start { feed with
      recorder := recorder
      book := book
      positions := (feed.positions.onTradeApplied trade).1
      accepted := trade :: feed.accepted } := by
  have contained : feed.book.orders.contains trade.orderId = true := by
    rw [Dict.contains, fills.known]
    rfl
  have newKey := aligned.newKey agrees contained unprocessed unseen
  have newId : trade.tradeId ∉ feed.positions.processedTradeIdSet := by
    intro member
    rw [aligned.seen] at unseen
    exact unseen (aligned.window _ member)
  obtain ⟨positioned, faithful, window, quantities⟩ :=
    PositionManager.onTradeApplied_new aligned.faithful newId
  refine ⟨positioned, ⟨List.nodup_cons.mpr ⟨newKey, aligned.conserved.once⟩, fun orderId => ?_, fun key => ?_,
    aligned.conserved.noFalseDuplicates⟩, ?_, fun keys attached key member => ?_, fun id member => ?_, faithful⟩
  · rw [fills.filled_eq, aligned.conserved.filled, quantityFor_cons]
    ring
  · rw [quantities, signedFor_cons _ _ _ (agrees unprocessed contained).1, Int.cast_add,
      aligned.conserved.positions]
  · rw [seen, aligned.seen, List.map_cons]
  · rw [processed] at attached
    obtain ⟨earlierKeys, earlier, rfl⟩ := Option.map_eq_some_iff.mp attached
    rcases List.mem_cons.mp member with rfl | member
    · exact List.mem_cons_self
    · exact List.mem_cons_of_mem _ (aligned.processed earlierKeys earlier key member)
  · rcases window id member with rfl | member
    · exact List.mem_cons_self
    · exact List.mem_cons_of_mem _ (aligned.window id member)

theorem Aligned.step (aligned : Aligned start feed) (agrees : feed.agrees event)
    (taken : feed.step event = some after) : Aligned start after := by
  obtain ⟨trade, now⟩ := event
  have records := recordTrade_records feed.recorder feed.book trade now
  unfold TradeFeed.step at taken
  dsimp only at taken
  generalize feed.recorder.recordTrade feed.book trade now = recorded at records taken
  obtain ⟨recorder, book, outcome⟩ := recorded
  cases records with
  | kept _ unaccepted processed reducer duplicate rejected =>
    have kept := aligned.kept processed reducer
    cases outcome with
    | applied updated => cases unaccepted
    | duplicate =>
      cases taken
      refine aligned.duplicate trade processed reducer ?_
      rw [known, duplicate rfl, Bool.true_or]
    | unknownOrder =>
      cases taken
      exact kept
    | raised error =>
      cases taken
      exact kept
    | rejected reason =>
      cases reason with
      | decreased =>
        cases taken
        exact kept
      | exceeds =>
        cases taken
        exact kept
      | duplicate id =>
        cases taken
        obtain ⟨member, contained⟩ := rejected id rfl
        exact aligned.duplicate trade processed reducer (aligned.seenKnown agrees member contained)
  | applied order updated _ unprocessed unseen fills processed seen =>
    obtain ⟨⟨position, positioned⟩, alignedAfter⟩ :=
      aligned.applied agrees unprocessed unseen fills processed seen
    dsimp only at taken
    rw [positioned] at taken
    cases taken
    exact alignedAfter

/-- Over every sequence of trades, from any book, accepted trades are applied exactly once
and conserved in orders and positions, and no layer takes a new trade for a duplicate, as
long as every trade agrees with the accepted ones. -/
theorem trades_conserved (book : OrderBook) (processedTrades : Option (List TradeIdKey))
    (executionLedger : Option ExecutionLedger) (pending : Dict String (List Trade))
    (trades : List (Trade × ℚ)) (after : TradeFeed)
    (run : exec step (fresh book processedTrades executionLedger pending) trades = some after)
    (met : Meets step agrees (fresh book processedTrades executionLedger pending) trades) :
    Conserved book after := by
  have initial : Aligned book (fresh book processedTrades executionLedger pending) := by
    refine ⟨⟨List.nodup_nil, fun orderId => ?_, fun key => ?_, rfl⟩, rfl, ?_, ?_, fun key => ?_⟩
    · exact (add_zero _).symm
    · exact Int.cast_zero
    · rintro keys - key ⟨⟩
    · rintro id ⟨⟩
    · exact ⟨by rintro ⟨⟩, fun opened => absurd rfl opened⟩
  have aligned : Aligned book after :=
    exec_invariant (fun _ _ _ held allowed taken => held.step allowed taken) initial met run
  exact aligned.conserved

/-- Two orders in the book, nothing filled. -/
def openBook : OrderBook :=
  (OrderBook.store {} {
    orderId := "220901"
    symbol := "RELIANCE"
    exchange := "NSE"
    side := .BUY
    orderType := .LIMIT
    quantity := 10 }).store {
      orderId := "220902"
      symbol := "RELIANCE"
      exchange := "NSE"
      side := .SELL
      orderType := .LIMIT
      quantity := 10 }

def tradeOf (tradeId orderId : String) (side : OrderSide) (quantity : ℚ) : Trade where
  tradeId := tradeId
  orderId := orderId
  symbol := "RELIANCE"
  exchange := "NSE"
  side := side
  quantity := quantity
  price := 2500

/-- Fills of both orders, one of them delivered twice. -/
def redelivered : List (Trade × ℚ) := [
  (tradeOf "T1" "220901" .BUY 4, 1), (tradeOf "T2" "220902" .SELL 3, 2),
  (tradeOf "T1" "220901" .BUY 4, 3), (tradeOf "T3" "220901" .BUY 6, 4)]

theorem trades_conserved_redelivered :
    ∃ after, exec step (fresh openBook (some []) none ∅) redelivered = some after ∧
      after.accepted.length = 3 ∧ Conserved openBook after := by
  have runs : (exec step (fresh openBook (some []) none ∅) redelivered).map (·.accepted.length) = some 3 := by
    decide +kernel
  obtain ⟨after, run, three⟩ := Option.map_eq_some_iff.mp runs
  exact ⟨after, run, three, trades_conserved openBook (some []) none ∅ _ after run (by decide +kernel)⟩

/-- One trade id on two orders: the reducer takes the second trade for a duplicate of the
first, although their keys differ. -/
def sharedId : List (Trade × ℚ) := [
  (tradeOf "T1" "220901" .BUY 4, 1), (tradeOf "T1" "220902" .SELL 3, 2)]

theorem shared_id_dropped :
    TradeIdKey.fromTrade (tradeOf "T1" "220901" .BUY 4) ≠ .fromTrade (tradeOf "T1" "220902" .SELL 3) ∧
    (exec step (fresh openBook (some []) none ∅) sharedId).map (·.falseDuplicates) =
      some [tradeOf "T1" "220902" .SELL 3] ∧
    ¬ ∀ (book : OrderBook) (processedTrades : Option (List TradeIdKey))
        (executionLedger : Option ExecutionLedger) (pending : Dict String (List Trade))
        (trades : List (Trade × ℚ)) (after : TradeFeed),
      exec step (fresh book processedTrades executionLedger pending) trades = some after →
      Conserved book after := by
  have dropped : (exec step (fresh openBook (some []) none ∅) sharedId).map (·.falseDuplicates) =
      some [tradeOf "T1" "220902" .SELL 3] := by decide +kernel
  refine ⟨by decide +kernel, dropped, fun claim => ?_⟩
  obtain ⟨after, run, lost⟩ := Option.map_eq_some_iff.mp dropped
  have conserved := claim openBook (some []) none ∅ sharedId after run
  rw [conserved.noFalseDuplicates] at lost
  cases lost

end TradeFeed

end TradeX.V1
