import TradeX.V2.Accounting
import TradeX.V2.Submission

/-! The paper gateway behind the engine. It keeps a book of positions of its own, at the prices at which
it fills; the position manager books the same orders at the prices that they carry. -/

namespace TradeX.V2

open Lib

structure Quote where
  bid : ℚ
  ask : ℚ
  deriving DecidableEq, Repr

/-- `DEFAULT_FILL_PRICE`. -/
def defaultFillPrice : ℚ := 100

/-- `PAPER_STARTING_CASH`. -/
def paperStartingCash : ℚ := 1000000

/-- `PaperConnection`, connected. -/
structure PaperConnection where
  cash : ℚ := paperStartingCash
  autoFill : Bool := true
  quotes : Dict InstrumentId Quote := ∅
  orders : Dict OrderId Order := ∅
  positions : Dict InstrumentId Position := ∅

namespace PaperConnection

variable (connection : PaperConnection)

def setQuote (instrumentId : InstrumentId) (bid ask : ℚ) : PaperConnection :=
  { connection with quotes := connection.quotes.set instrumentId ⟨bid, ask⟩ }

/-- `_fill_price`. -/
def fillPrice (command : PlaceOrderCommand) : ℚ :=
  match command.orderType, command.price with
  | .LIMIT, some price => price
  | _, _ =>
    match connection.quotes.get command.instrumentId with
    | some quote => (quote.bid + quote.ask) / 2
    | none => defaultFillPrice

/-- The position that `_apply_fill` leaves of the one it finds. -/
def fillPosition (instrumentId : InstrumentId) (delta price : ℚ) : Option Position → Option Position
  | none => some {
      instrumentId := instrumentId
      quantity := delta
      avgPrice := price
      realizedPnl := 0
      unrealizedPnl := 0 }
  | some pos =>
    let newQty := pos.quantity + delta
    if newQty = 0 then none
    else if decide (pos.quantity > 0) = decide (delta > 0) then
      some { pos with avgPrice := (|pos.quantity| * pos.avgPrice + |delta| * price) / |newQty|, quantity := newQty }
    else if decide (pos.quantity > 0) ≠ decide (newQty > 0) then
      some { pos with avgPrice := price, quantity := newQty }
    else some { pos with quantity := newQty }

/-- `_apply_fill`. -/
def applyFill (side : OrderSide) (instrumentId : InstrumentId) (qty price : ℚ) : PaperConnection :=
  let delta := side.signed qty
  { connection with
    cash := match side with
      | .BUY => connection.cash - price * qty
      | .SELL => connection.cash + price * qty
    positions := match fillPosition instrumentId delta price (connection.positions.get instrumentId) with
      | some position => connection.positions.set instrumentId position
      | none => connection.positions.pop instrumentId }

/-- `place_order`, with the id that `uuid4` draws. -/
def placeOrder (orderId : OrderId) (command : PlaceOrderCommand) : Except Failure (PaperConnection × OrderId) := do
  let submitted ← submittedFromCommand command orderId
  if connection.autoFill = true then
    let order ← submitted.transitionTo .FILLED
    let filled := connection.applyFill command.side command.instrumentId command.quantity (connection.fillPrice command)
    return ({ filled with orders := filled.orders.set orderId { order with filledQuantity := command.quantity } }, orderId)
  else return ({ connection with orders := connection.orders.set orderId submitted }, orderId)

/-- `get_order`. -/
def getOrder (orderId : OrderId) : Except Failure Order :=
  match connection.orders.get orderId with
  | none => .error (.orderNotFound orderId)
  | some order => .ok order

/-- `PaperFillSource.submit` over the gateway: the placement, and the order that it looks up. -/
def submit (orderId : OrderId) (command : PlaceOrderCommand) : PaperConnection × Except Failure (Option Order) :=
  match connection.placeOrder orderId command with
  | .error failure => (connection, .error failure)
  | .ok placed => (placed.1, (placed.1.getOrder placed.2).map some)

/-- The gateway as a venue, at one placement. -/
def venue (orderId : OrderId) (command : PlaceOrderCommand) : Venue where
  place := some fun command => (connection.placeOrder orderId command).map fun placed => .orderId placed.2
  getOrder := some fun found => match found with
    | none => .error .noneAttribute
    | some found => ((connection.submit orderId command).1.getOrder found).map some

variable {connection}

theorem submit_venue (orderId : OrderId) (command : PlaceOrderCommand) :
    PaperFillSource.submit (some (connection.venue orderId command)) orderId command =
      (connection.submit orderId command).2 := by
  unfold PaperFillSource.submit
  dsimp only [venue, bind, Except.bind, pure, Except.pure]
  unfold submit
  cases connection.placeOrder orderId command with
  | error failure => rfl
  | ok placed => rfl

/-- The quantity and the average price of an entry; an absent one is flat. -/
def figures (position : Option Position) : ℚ × ℚ :=
  (position.map fun position => (position.quantity, position.avgPrice)).getD (0, 0)

variable {instrumentId : InstrumentId} {delta : ℚ} {held : Option Position} {holding : Holding ℚ}

/-- The gateway's own fill is that of a holding, save for an empty fill that opens an entry. -/
theorem fillPosition_figures (price : ℚ) (same : figures held = (holding.quantity, holding.average))
    (met : delta ≠ 0 ∨ held ≠ none) : figures (fillPosition instrumentId delta price held) =
      ((holding.fill delta price).quantity, (holding.fill delta price).average) := by
  cases held with
  | none =>
    have flat : holding.quantity = 0 := (congrArg Prod.fst same).symm
    rw [Holding.fill_opens price flat (met.resolve_right fun found => found rfl)]
    rfl
  | some pos =>
    obtain ⟨quantity, average⟩ := Prod.mk.inj same
    unfold fillPosition
    dsimp only
    rw [quantity, average]
    cases fillMeets holding.quantity delta with
    | idle flat empty =>
      rw [Holding.fill_idle price flat empty, flat, empty, add_zero, if_pos rfl]
      rfl
    | opens flat full =>
      rw [Holding.fill_opens price flat full, flat, zero_add, if_neg full]
      have size : |delta| ≠ 0 := abs_ne_zero.mpr full
      rcases lt_or_gt_of_ne full with sells | buys
      · rw [if_pos (by simp [sells.le])]
        simp [figures, mul_div_cancel_left₀ _ size]
      · rw [if_neg (by simp [buys]), if_pos (by simp [buys])]
        rfl
    | stays some empty =>
      rw [Holding.fill_stays price some empty, empty, add_zero, if_neg some]
      have size : |holding.quantity| ≠ 0 := abs_ne_zero.mpr some
      rcases lt_or_gt_of_ne some with short | long
      · rw [if_pos (by simp [short.le])]
        simp [figures, mul_div_cancel_left₀ _ size]
      · rw [if_neg (by simp [long]), if_neg (by simp)]
        simp [figures]
    | adds along =>
      rw [Holding.fill_adds price along, if_neg (along_ne_zero along)]
      rcases along with ⟨long, buys⟩ | ⟨short, sells⟩
      · rw [if_pos (by simp [long, buys]), abs_of_pos long, abs_of_pos buys, abs_of_pos (add_pos long buys)]
        rfl
      · rw [if_pos (by simp [short.not_gt, sells.not_gt]), abs_of_neg short, abs_of_neg sells, abs_of_neg (add_neg short sells)]
        have turned : (-holding.quantity * holding.average + -delta * price) / -(holding.quantity + delta) =
            (holding.quantity * holding.average + delta * price) / (holding.quantity + delta) := by
          rw [← neg_div_neg_eq]
          ring_nf
        rw [turned]
        rfl
    | reduces against part =>
      have left : holding.quantity + delta ≠ 0 := fun whole => part.ne (against.abs_eq_iff.mp whole)
      rw [Holding.fill_reduces price against part, if_neg left]
      rcases against with ⟨long, sells⟩ | ⟨short, buys⟩
      · rw [abs_of_pos long, abs_of_neg sells] at part
        have long' : 0 < holding.quantity + delta := by linarith
        rw [if_neg (by simp [long, sells.le]), if_neg (by simp [long, long'])]
        simp [figures]
      · rw [abs_of_neg short, abs_of_pos buys] at part
        have short' : holding.quantity + delta < 0 := by linarith
        rw [if_neg (by simp [short.le, buys]), if_neg (by simp [short.not_gt, short'.not_gt])]
        simp [figures]
    | closes against whole =>
      rw [Holding.fill_closes price against whole, if_pos whole]
      rfl
    | reverses against beyond =>
      have left : holding.quantity + delta ≠ 0 := fun whole => beyond.ne' (against.abs_eq_iff.mp whole)
      rw [Holding.fill_reverses price against beyond, if_neg left]
      rcases against with ⟨long, sells⟩ | ⟨short, buys⟩
      · rw [abs_of_pos long, abs_of_neg sells] at beyond
        have short' : holding.quantity + delta < 0 := by linarith
        rw [if_neg (by simp [long, sells.le]), if_pos (by simp [long, short'.le])]
        rfl
      · rw [abs_of_neg short, abs_of_pos buys] at beyond
        have long' : 0 < holding.quantity + delta := by linarith
        rw [if_neg (by simp [short.le, buys]), if_pos (by simp [short.le, long'])]
        rfl

/-- The two fills leave the same figures where the prices are the same or do not tell. -/
theorem fill_figures_iff (own price : ℚ) (same : figures held = (holding.quantity, holding.average)) :
    ((holding.fill delta own).quantity, (holding.fill delta own).average) =
        figures (fillPosition instrumentId delta price held) ↔
      if delta = 0 then held ≠ none ∨ price = 0
      else own = price ∨ (Against holding.quantity delta ∧ |delta| ≤ |holding.quantity|) := by
  by_cases empty : delta = 0
  · rw [if_pos empty]
    cases held with
    | none =>
      have flat : holding.quantity = 0 := (congrArg Prod.fst same).symm
      rw [Holding.fill_idle own flat empty]
      simp only [fillPosition, figures, empty, Option.map_some, Option.getD_some, Prod.mk.injEq, true_and, ne_eq,
        not_true_eq_false, false_or]
      exact eq_comm
    | some pos =>
      rw [fillPosition_figures price same (.inr (Option.some_ne_none pos))]
      refine iff_of_true ?_ (.inl (Option.some_ne_none pos))
      by_cases flat : holding.quantity = 0
      · rw [Holding.fill_idle own flat empty, Holding.fill_idle price flat empty]
      · rw [Holding.fill_stays own flat empty, Holding.fill_stays price flat empty]
  · rw [if_neg empty, fillPosition_figures price same (.inl empty), Prod.mk.injEq]
    have quantity : (holding.fill delta own).quantity = (holding.fill delta price).quantity := rfl
    rw [← Holding.fill_average_eq_iff empty]
    exact and_iff_right quantity

/-- An order that the auto-filling gateway places is filled, at the gateway's price in its own book. -/
theorem submit_fills (auto : connection.autoFill = true) (orderId : OrderId) (command : PlaceOrderCommand) :
    connection.submit orderId command = ({ connection.applyFill command.side command.instrumentId command.quantity
        (connection.fillPrice command) with orders := connection.orders.set orderId (command.filledOrder orderId) },
      .ok (some (command.filledOrder orderId))) := by
  unfold submit placeOrder
  rw [submittedFromCommand_ok]
  dsimp only [bind, Except.bind]
  rw [if_pos auto]
  dsimp only [Order.transitionTo]
  rw [if_pos (by decide)]
  dsimp only [pure, Except.pure]
  unfold getOrder
  rw [Dict.get_set_self]
  rfl

theorem applyFill_positions (side : OrderSide) (qty price : ℚ) (other : InstrumentId) :
    (connection.applyFill side instrumentId qty price).positions.get other =
      if other = instrumentId then fillPosition instrumentId (side.signed qty) price (connection.positions.get instrumentId)
      else connection.positions.get other := by
  unfold applyFill
  dsimp only
  cases fillPosition instrumentId (side.signed qty) price (connection.positions.get instrumentId) with
  | none =>
    dsimp only
    rw [Dict.get_pop]
  | some position =>
    dsimp only
    rw [Dict.get_set]

end PaperConnection

theorem PositionManager.figures_eq (cache : TradingCache) (instrumentId : InstrumentId) :
    PaperConnection.figures (cache.getPosition instrumentId) =
      ((holding cache instrumentId).quantity, (holding cache instrumentId).average) := by
  unfold PaperConnection.figures holding
  cases cache.getPosition instrumentId with
  | none => rfl
  | some position => rfl

theorem PositionManager.held_eq (cache : TradingCache) (instrumentId : InstrumentId) :
    cache.held instrumentId = (holding cache instrumentId).quantity := by
  unfold TradingCache.held holding
  cases cache.getPosition instrumentId with
  | none => rfl
  | some position => rfl

/-- A filled order is booked at the price that it carries. -/
theorem Engine.applyOms_holding {engine : Engine} {order : Order} (keyed : PositionManager.Keyed engine.cache)
    (filled : order.status = .FILLED) (instrumentId : InstrumentId) :
    PositionManager.holding (engine.applyOms order).cache instrumentId =
      if order.instrumentId = instrumentId then
        (PositionManager.holding engine.cache instrumentId).fill (order.side.signed order.filledQuantity) (order.price.getD 0)
      else PositionManager.holding engine.cache instrumentId := by
  have stored : PositionManager.Keyed (OrderManager.upsert (engine.cache.setOrder order) order) := keyed
  unfold applyOms
  dsimp only
  rw [if_pos filled]
  exact PositionManager.applyTrade_holding stored _ instrumentId

/-- The engine over the gateway. -/
structure PaperSession where
  engine : Engine
  connection : PaperConnection

inductive PaperEvent where
  /-- `submit` is called; the id is the one that the gateway draws. -/
  | submit (orderId : OrderId) (command : PlaceOrderCommand)
  | setQuote (instrumentId : InstrumentId) (bid ask : ℚ)
  deriving DecidableEq, Repr

namespace PaperSession

/-- The call reaches the gateway exactly where it comes to the fill source. -/
def next (s : PaperSession) : PaperEvent → PaperSession
  | .submit orderId command => {
      engine := (s.engine.submit (fun command => (s.connection.submit orderId command).2) command).1
      connection := if (s.engine.begin command).2 = .filling then (s.connection.submit orderId command).1
        else s.connection }
  | .setQuote instrumentId bid ask => { s with connection := s.connection.setQuote instrumentId bid ask }

def step (s : PaperSession) (event : PaperEvent) : Option PaperSession := some (s.next event)

/-- A fresh engine over a fresh gateway. -/
def start (risk : RiskManager) (cash : ℚ) : PaperSession where
  engine := { risk := risk }
  connection := { cash := cash }

/-- The two books have the same quantity and average price of every instrument. -/
def Agree (s : PaperSession) : Prop := ∀ instrumentId, PaperConnection.figures (s.engine.cache.getPosition instrumentId) =
  PaperConnection.figures (s.connection.positions.get instrumentId)

/-- A command that reaches the gateway is filled at the price that it carries, or only closes what is
held; a command for nothing finds an entry, or is filled at the price of nothing. -/
def pricedAlike (s : PaperSession) : PaperEvent → Prop
  | .submit _ command => (s.engine.begin command).2 = .filling →
      let held := s.engine.cache.held command.instrumentId
      if command.signedQuantity = 0 then
        s.connection.positions.get command.instrumentId ≠ none ∨ s.connection.fillPrice command = 0
      else command.price.getD 0 = s.connection.fillPrice command ∨
        (Against held command.signedQuantity ∧ |command.signedQuantity| ≤ |held|)
  | .setQuote .. => True

/-- What every session keeps. -/
structure Kept (s : PaperSession) : Prop where
  keyed : PositionManager.Keyed s.engine.cache
  auto : s.connection.autoFill = true

variable {s t : PaperSession} {event : PaperEvent} {events : List PaperEvent}

/-- What a call that reaches the gateway does to the two books. -/
theorem next_fills (auto : s.connection.autoFill = true) {command : PlaceOrderCommand} (orderId : OrderId)
    (filling : (s.engine.begin command).2 = .filling) :
    (s.next (.submit orderId command)).engine.cache = (s.engine.applyOms (command.filledOrder orderId)).cache ∧
      (s.next (.submit orderId command)).connection.autoFill = true ∧
      ∀ other, (s.next (.submit orderId command)).connection.positions.get other =
        if other = command.instrumentId then PaperConnection.fillPosition command.instrumentId command.signedQuantity
          (s.connection.fillPrice command) (s.connection.positions.get command.instrumentId)
        else s.connection.positions.get other := by
  have submitted := PaperConnection.submit_fills auto orderId command
  have answered : (s.connection.submit orderId command).2 = .ok (some (command.filledOrder orderId)) := by
    rw [submitted]
  have booked := (@Engine.submit_filled s.engine command (fun command => (s.connection.submit orderId command).2) _
    filling answered).2.1
  unfold next
  dsimp only
  rw [if_pos filling, submitted]
  exact ⟨booked, auto, PaperConnection.applyFill_positions _ _ _⟩

/-- A call that does not reach the gateway changes neither book. -/
theorem next_stopped {command : PlaceOrderCommand} (orderId : OrderId) (stopped : (s.engine.begin command).2 ≠ .filling) :
    (s.next (.submit orderId command)).engine.cache = s.engine.cache ∧
      (s.next (.submit orderId command)).connection = s.connection := by
  refine ⟨?_, if_neg stopped⟩
  exact (@Engine.submit_unfilled _ _ _ command.correlationId (command.filledOrder orderId) stopped).2.1

theorem next_kept (kept : s.Kept) (event : PaperEvent) : (s.next event).Kept := by
  cases event with
  | setQuote instrumentId bid ask => exact ⟨kept.keyed, kept.auto⟩
  | submit orderId command =>
    by_cases filling : (s.engine.begin command).2 = .filling
    · obtain ⟨cache, auto, -⟩ := next_fills kept.auto orderId filling
      refine ⟨?_, auto⟩
      rw [cache]
      exact Engine.applyOms_keyed kept.keyed _
    · obtain ⟨cache, connection⟩ := next_stopped orderId filling
      constructor
      · rw [cache]
        exact kept.keyed
      · rw [connection]
        exact kept.auto

/-- From agreeing books a step leads to agreeing books exactly when it is priced alike. -/
theorem next_agree_iff (kept : s.Kept) (agree : s.Agree) (event : PaperEvent) :
    (s.next event).Agree ↔ s.pricedAlike event := by
  cases event with
  | setQuote instrumentId bid ask => exact iff_of_true agree trivial
  | submit orderId command =>
    by_cases filling : (s.engine.begin command).2 = .filling
    · obtain ⟨cache, -, positions⟩ := next_fills kept.auto orderId filling
      have booked : ∀ other, PositionManager.holding (s.engine.applyOms (command.filledOrder orderId)).cache other =
          if command.instrumentId = other then
            (PositionManager.holding s.engine.cache other).fill command.signedQuantity (command.price.getD 0)
          else PositionManager.holding s.engine.cache other := Engine.applyOms_holding kept.keyed rfl
      have here := agree command.instrumentId
      rw [PositionManager.figures_eq] at here
      have fills := @PaperConnection.fill_figures_iff command.instrumentId command.signedQuantity _ _
        (command.price.getD 0) (s.connection.fillPrice command) here.symm
      rw [← PositionManager.held_eq] at fills
      constructor
      · intro agreeNext _
        have there := agreeNext command.instrumentId
        rw [cache, PositionManager.figures_eq, booked, positions, if_pos rfl, if_pos rfl] at there
        exact fills.mp there
      · intro alike other
        rw [cache, PositionManager.figures_eq, booked, positions]
        by_cases same : command.instrumentId = other
        · subst same
          rw [if_pos rfl, if_pos rfl]
          exact fills.mpr (alike filling)
        · rw [if_neg same, if_neg (Ne.symm same), ← PositionManager.figures_eq]
          exact agree other
    · obtain ⟨cache, connection⟩ := next_stopped orderId filling
      refine iff_of_true (fun instrumentId => ?_) fun reaches => absurd reaches filling
      rw [cache, connection]
      exact agree instrumentId

/-- The books agree after every submit of a run, whatever the quotes, exactly when every command that
reaches the gateway is priced alike. -/
theorem paper_books_agree_iff (risk : RiskManager) (cash : ℚ) (events : List PaperEvent) :
    Meets step (fun s event => (s.next event).Agree) (start risk cash) events ↔
      Meets step pricedAlike (start risk cash) events := by
  have initial : (start risk cash).Kept ∧ (start risk cash).Agree := by
    refine ⟨⟨?_, rfl⟩, fun _ => rfl⟩
    intro instrumentId position found
    cases found
  refine @meets_iff _ _ step _ _ events (fun s => s.Kept ∧ s.Agree) _ (fun s event held => ?_)
    (fun s event t held agrees taken => ?_) initial
  · exact next_agree_iff held.1 held.2 event
  · obtain rfl := Option.some.inj taken
    exact ⟨next_kept held.1 event, agrees⟩

/-- A market order carries no price. -/
def marketBuy : PlaceOrderCommand where
  instrumentId := ⟨"NSE:RELIANCE"⟩
  side := .BUY
  orderType := .MARKET
  quantity := 10
  price := none
  timeInForce := .DAY
  correlationId := ⟨"6f1c"⟩

/-- The gateway fills a market order at its default price, and the position manager books it at zero. -/
theorem paper_books_differ :
    let after := (start (riskFromConfig {}) paperStartingCash).next (.submit ⟨"paper-1"⟩ marketBuy)
    PaperConnection.figures (after.engine.cache.getPosition ⟨"NSE:RELIANCE"⟩) = (10, 0) ∧
      PaperConnection.figures (after.connection.positions.get ⟨"NSE:RELIANCE"⟩) = (10, 100) ∧
      ¬ ∀ (risk : RiskManager) (cash : ℚ) (events : List PaperEvent),
        Meets step (fun s event => (s.next event).Agree) (start risk cash) events := by
  have own : PaperConnection.figures (((start (riskFromConfig {}) paperStartingCash).next
      (.submit ⟨"paper-1"⟩ marketBuy)).engine.cache.getPosition ⟨"NSE:RELIANCE"⟩) = (10, 0) := by decide +kernel
  have gateway : PaperConnection.figures (((start (riskFromConfig {}) paperStartingCash).next
      (.submit ⟨"paper-1"⟩ marketBuy)).connection.positions.get ⟨"NSE:RELIANCE"⟩) = (10, 100) := by decide +kernel
  refine ⟨own, gateway, fun claim => ?_⟩
  have agree := (claim (riskFromConfig {}) paperStartingCash [.submit ⟨"paper-1"⟩ marketBuy]).1 ⟨"NSE:RELIANCE"⟩
  rw [own, gateway] at agree
  exact absurd agree (by decide +kernel)

/-- A limit order is filled at its own price, and a market order that closes it has no price to tell. -/
example : PaperConnection.figures ((((start (riskFromConfig {}) paperStartingCash).next
    (.submit ⟨"paper-1"⟩ { marketBuy with orderType := .LIMIT, price := some 2500 })).next
    (.submit ⟨"paper-2"⟩ { marketBuy with side := .SELL, quantity := 4, correlationId := ⟨"6f1d"⟩ })).engine.cache.getPosition
      ⟨"NSE:RELIANCE"⟩) = (6, 2500) := by
  decide +kernel

end PaperSession

end TradeX.V2
