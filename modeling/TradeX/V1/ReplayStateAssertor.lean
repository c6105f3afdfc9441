import TradeX.Lib.Binary64
import TradeX.V1.ReducingGate
import TradeX.V1.SimulationMoves

/-! The assertion of a replayed session against the events that were recorded: from the events it derives the
number of trades, the trades, the equity and whether a position is open, and compares each with the session. An
event stands for a fill; a trade of the session stands for an opening and its close. -/

namespace TradeX.V1

open Lib

/-- A value in the payload of an event. -/
inductive PayloadValue where
  | none
  | text (chars : String)
  | side (side : OrderSide)
  | int (value : ℤ)
  | float (value : ℚ)
  deriving DecidableEq, Repr

/-- What `float` and `int` raise. -/
inductive NumberError where
  | typeError
  | valueError
  deriving DecidableEq, Repr

namespace PayloadValue

/-- `str`. The side is a member of an enumeration, which shows its class. -/
def str : PayloadValue → String
  | none => "None"
  | text chars => chars
  | side order => "OrderSide." ++ order.value
  | int value => toString value
  | float value => Binary64.text (.finite value)

/-- `str(value).upper()`. -/
def upper (value : PayloadValue) : String := String.ofList (Text.upper value.str)

/-- `float`. -/
def toFloat : PayloadValue → Except NumberError ℚ
  | none => .error .typeError
  | text chars => (Decimal.ofText chars).elim (.error .valueError) .ok
  | side _ => .error .valueError
  | int value => .ok value
  | float value => .ok value

/-- `int`. -/
def toInt : PayloadValue → Except NumberError ℤ
  | none => .error .typeError
  | text chars => (Decimal.readInteger ((Text.strip chars).toList.filter (· ≠ '_'))).elim (.error .valueError) .ok
  | side _ => .error .valueError
  | int value => .ok value
  | float value => .ok (Decimal.toInt value)

/-- What `==` compares: a side is the text of its value, and an integer the number that a float may be. -/
def compared : PayloadValue → Option (String ⊕ ℚ)
  | none => .none
  | text chars => some (.inl chars)
  | side order => some (.inl order.value)
  | int value => some (.inr value)
  | float value => some (.inr value)

end PayloadValue

/-- A domain event, with what the assertion reads of it. -/
structure RecordedEvent where
  eventType : String
  payload : Dict String PayloadValue := ∅
  symbol : Option String := none

/-- An item of the replay stream; a bar has no event. -/
structure ReplayItem where
  event : Option RecordedEvent := none

/-- A trade as the assertion compares it. -/
structure TradeDetail where
  symbol : PayloadValue
  side : String
  quantity : PayloadValue
  price : String
  deriving DecidableEq, Repr

def TradeDetail.compared (detail : TradeDetail) : Option (String ⊕ ℚ) × String × Option (String ⊕ ℚ) × String :=
  (detail.symbol.compared, detail.side, detail.quantity.compared, detail.price)

namespace RecordedEvent

variable (event : RecordedEvent)

def isTrade : Bool := decide (event.eventType = "TRADE" ∨ event.eventType = "TRADE_APPLIED")

/-- `payload.get(key, default)`. -/
def field (key : String) (default : PayloadValue) : PayloadValue := (event.payload.get key).getD default

/-- `payload.get("price", payload.get("entry_price", 0))`. -/
def price : PayloadValue := event.field "price" (event.field "entry_price" (.int 0))

def quantity : PayloadValue := event.field "quantity" (.int 0)

/-- The symbol of the event, or else of its payload. -/
def tradedSymbol : PayloadValue :=
  match event.symbol.filter (· ≠ "") with
  | some symbol => .text symbol
  | none => event.field "symbol" (.text "UNKNOWN")

def detail : TradeDetail where
  symbol := event.tradedSymbol
  side := (event.field "side" (.text "UNKNOWN")).str
  quantity := event.quantity
  price := event.price.str

end RecordedEvent

/-- What the equity is derived under. -/
structure EquityTerms where
  initialCapital : ℚ := 100000
  commissionPerTrade : ℚ := 20
  slippageBps : ℚ := 5

/-- The capital, the open position with its entry price, and the valid trades so far. -/
structure ExpectedEquity where
  capital : ℚ
  position : Option (ℚ × ℤ) := none
  validTrades : ℕ := 0

/-- One trade event of the loop of `derive_expected_equity`. -/
def ExpectedEquity.trade (terms : EquityTerms) (state : ExpectedEquity) (event : RecordedEvent) :
    Except NumberError ExpectedEquity := do
  let slip := max 0 terms.slippageBps / 10000
  let side := (event.field "side" (.text "")).upper
  let price ← event.price.toFloat
  let qty ← event.quantity.toInt
  if price ≤ 0 ∨ qty ≤ 0 then return state
  else if side = "BUY" then
    let px := price * (1 + slip)
    return {
      capital := state.capital - px * qty - terms.commissionPerTrade
      position := match state.position with
        | none => some (px, qty)
        | some (ep, q0) => some ((ep * q0 + px * qty) / ((q0 + qty : ℤ) : ℚ), q0 + qty)
      validTrades := state.validTrades + 1 }
  else if side = "SELL" then
    let px := price * (1 - slip)
    return {
      capital := state.capital + px * qty - terms.commissionPerTrade
      position := state.position.bind fun held => if held.2 - qty ≤ 0 then none else some (held.1, held.2 - qty)
      validTrades := state.validTrades + 1 }
  else return { state with validTrades := state.validTrades + 1 }

namespace ReplayStateAssertor

/-- The trade events of the stream. -/
def tradeEvents (eventItems : List ReplayItem) : List RecordedEvent :=
  (eventItems.filterMap ReplayItem.event).filter RecordedEvent.isTrade

/-- `derive_expected_equity`. -/
def deriveExpectedEquity (terms : EquityTerms) (eventItems : List ReplayItem) : Except NumberError (Option ℚ) :=
  if tradeEvents eventItems = [] then return none
  else do
    let state ← (tradeEvents eventItems).foldlM (ExpectedEquity.trade terms) { capital := terms.initialCapital }
    if state.validTrades = 0 then return none
    else return some (state.capital + (state.position.map fun held => held.1 * (held.2 : ℚ)).getD 0)

/-- `derive_expected_trades`. -/
def deriveExpectedTrades (eventItems : List ReplayItem) : List TradeDetail :=
  (tradeEvents eventItems).map RecordedEvent.detail

/-- One item of the loop of `derive_expected_position_state`. -/
def positionState (hasOpen : Bool) (item : ReplayItem) : Bool :=
  match item.event with
  | none => hasOpen
  | some event =>
    if event.isTrade then
      let side := (event.field "side" (.text "")).upper
      if side = "BUY" then true else if side = "SELL" then false else hasOpen
    else if event.eventType = "POSITION_CLOSED" then false
    else hasOpen

/-- `derive_expected_position_state`. -/
def deriveExpectedPositionState (eventItems : List ReplayItem) : Bool := eventItems.foldl positionState false

end ReplayStateAssertor

namespace SimulationSession

variable (session : SimulationSession)

def totalTrades : ℕ := session.trades.length

/-- The orders whose fills the pipeline of the session has accepted, in order. -/
def acceptedOrders : List SimulatedOrder := (session.booked.filter Booking.accepted).map Booking.order

/-- The last equity of the curve. -/
def finalEquity : ℚ := (session.equityCurve.getLast?.map Prod.snd).getD 0

/-- The property `position`, which shows the first open symbol. -/
def firstPosition : Option PositionView := session.openSymbols.head?.bind session.view

end SimulationSession

/-- A trade of the session as the assertion compares it. -/
def SimulatedTrade.detail (trade : SimulatedTrade) : TradeDetail where
  symbol := .text trade.symbol
  side := (PayloadValue.side trade.side).str
  quantity := .int trade.quantity
  price := (PayloadValue.float trade.entryPrice).str

structure ReplayResult where
  session : SimulationSession

/-- An entry of the state difference. -/
structure Mismatch (α : Type) where
  expected : α
  actual : α
  difference : Option ℚ := none
  deriving DecidableEq, Repr

structure StateDiff where
  error : Option String := none
  tradeCount : Option (Mismatch ℕ) := none
  equityFinal : Option (Mismatch ℚ) := none
  trades : Option (Mismatch (List TradeDetail)) := none
  hasOpenPosition : Option (Mismatch Bool) := none
  deriving DecidableEq, Repr

namespace ReplayStateAssertor

def equityTolerance : ℚ := 1 / 100

/-- The entry of the equity, where one is expected and the other is not within the tolerance of it. -/
def equityMismatch (expected : Option ℚ) (actual : ℚ) : Option (Mismatch ℚ) :=
  expected.bind fun expected =>
    if equityTolerance < |expected - actual| then some ⟨expected, actual, some |expected - actual|⟩ else none

/-- The entry of the trades, where any are expected. -/
def tradesMismatch (expected actual : List TradeDetail) : Option (Mismatch (List TradeDetail)) :=
  if expected ≠ [] ∧ expected.map TradeDetail.compared ≠ actual.map TradeDetail.compared then
    some { expected := expected, actual := actual }
  else none

/-- `assert_state`: whether the state matches, and where it does not. -/
def assertState (result : Option ReplayResult) (eventItems : List ReplayItem) :
    Except NumberError (Bool × StateDiff) :=
  match result with
  | none =>
    if eventItems.isEmpty then return (true, {}) else return (false, { error := some "replay_result is None" })
  | some result => do
    let expectedEquity ← deriveExpectedEquity {} eventItems
    let expectedCount := (tradeEvents eventItems).length
    let actualCount := result.session.totalTrades
    let expectedOpen := deriveExpectedPositionState eventItems
    let actualOpen := result.session.firstPosition.isSome
    let diff : StateDiff := {
      tradeCount := if expectedCount ≠ actualCount then
        some { expected := expectedCount, actual := actualCount } else none
      equityFinal := equityMismatch expectedEquity result.session.finalEquity
      trades := tradesMismatch (deriveExpectedTrades eventItems) (result.session.trades.map SimulatedTrade.detail)
      hasOpenPosition := if expectedOpen ≠ actualOpen then
        some { expected := expectedOpen, actual := actualOpen } else none }
    return (diff = {}, diff)

variable {session : SimulationSession} {items changed : List ReplayItem}

/-- The state matches exactly where every comparison agrees. -/
theorem assertState_matches : assertState (some ⟨session⟩) items = .ok (true, {}) ↔
    (∃ equity, deriveExpectedEquity {} items = .ok equity ∧
      ∀ expected ∈ equity, |expected - session.finalEquity| ≤ equityTolerance) ∧
    (tradeEvents items).length = session.totalTrades ∧
    (deriveExpectedTrades items = [] ∨ (deriveExpectedTrades items).map TradeDetail.compared =
      (session.trades.map SimulatedTrade.detail).map TradeDetail.compared) ∧
    deriveExpectedPositionState items = session.firstPosition.isSome := by
  have equityNone (expected : Option ℚ) : equityMismatch expected session.finalEquity = none ↔
      ∀ value ∈ expected, |value - session.finalEquity| ≤ equityTolerance := by
    cases expected with
    | none => simp [equityMismatch]
    | some value => simp [equityMismatch]
  have tradesNone (expected actual : List TradeDetail) : tradesMismatch expected actual = none ↔
      expected = [] ∨ expected.map TradeDetail.compared = actual.map TradeDetail.compared := by
    simp only [tradesMismatch]
    split
    · next differ =>
      simp only [reduceCtorEq, false_iff, not_or]
      exact differ
    · next agree =>
      simp only [true_iff]
      by_contra neither
      exact agree (not_or.mp neither)
  simp only [assertState]
  cases deriveExpectedEquity {} items with
  | error raised => simp [bind, Except.bind]
  | ok equity =>
    simp [bind, Except.bind, pure, Except.pure, equityNone, tradesNone]
    tauto

/-- An event of the stream stands for the fill of the order. -/
structure TellsFill (event : RecordedEvent) (order : SimulatedOrder) : Prop where
  symbol : event.tradedSymbol.compared = some (.inl order.symbol)
  side : (event.field "side" (.text "")).upper = order.side.value ∨ event.payload.get "side" = some (.side order.side)
  quantity : event.quantity.toFloat = .ok (order.quantity : ℚ)
  price : event.price.toFloat = .ok order.price

/-- The trade events of the stream are one for each fill that the pipeline of the session has accepted, in order. -/
def TellsFills (items : List ReplayItem) (session : SimulationSession) : Prop :=
  List.Forall₂ TellsFill (tradeEvents items) session.acceptedOrders

/-- One trade event of the stream is removed, or is there twice, or has another quantity. -/
inductive Tampered : List ReplayItem → List ReplayItem → Prop where
  | removed (before after : List ReplayItem) (event : RecordedEvent) (trade : event.isTrade = true) :
      Tampered (before ++ ⟨some event⟩ :: after) (before ++ after)
  | duplicated (before between after : List ReplayItem) (event : RecordedEvent) (trade : event.isTrade = true) :
      Tampered (before ++ ⟨some event⟩ :: (between ++ after))
        (before ++ ⟨some event⟩ :: (between ++ ⟨some event⟩ :: after))
  | requantified (before after : List ReplayItem) (event : RecordedEvent) (quantity : PayloadValue)
      (trade : event.isTrade = true) (other : quantity.compared ≠ event.quantity.compared) :
      Tampered (before ++ ⟨some event⟩ :: after)
        (before ++ ⟨some { event with payload := event.payload.set "quantity" quantity }⟩ :: after)

/-- The assertion holds of the session with the stream, and of no stream with a trade event tampered with. -/
structure Detects (session : SimulationSession) (items : List ReplayItem) : Prop where
  holds : assertState (some ⟨session⟩) items = .ok (true, {})
  refuses : ∀ changed, Tampered items changed → ∃ diff, assertState (some ⟨session⟩) changed = .ok (false, diff)

end ReplayStateAssertor

/-- An opening and a close have different order ids. -/
theorem simOpen_ne_simClose (symbol other : String) (barCount count : Nat) :
    simOpen symbol barCount ≠ simClose other count := by
  intro same
  have chars := congrArg (fun id : String => id.toList[4]?) same
  simp [simOpen, simClose, String.toList_append] at chars

namespace SimulationSession

/-- What the trades and the positions of a replayed session have to do with its accepted fills. -/
structure Replayed (session : SimulationSession) : Prop where
  counted : ∀ orderId, session.fillPipeline.filledByOrder.get orderId ≠ none →
    ∃ fill ∈ session.acceptedOrders, fill.orderId = orderId
  openings : ∀ fill ∈ session.acceptedOrders, fill.side = .BUY →
    ∃ symbol barCount, fill.orderId = simOpen symbol barCount
  positions : ∀ key position, session.fillPipeline.projector.positions.get key = some position →
    session.acceptedOrders ≠ []
  closes : session.trades ≠ [] → ∃ fill ∈ session.acceptedOrders, fill.side = .SELL
  long : ∀ trade ∈ session.trades, trade.side = .BUY

variable {viaLedger : Bool} {symbols : List String} {start reached after session : SimulationSession}
  {order : SimulatedOrder} {delta commission : ℚ}

theorem replayed_new (capital ledger : ℚ) (curve : List (ℚ × ℚ)) (peak : ℚ) :
    Replayed { capital := capital, ledger := ledger, equityCurve := curve, peakEquity := peak } where
  counted := by
    intro orderId counted
    exact absurd rfl counted
  openings := by rintro _ ⟨⟩
  positions := by rintro _ _ ⟨⟩
  closes := by
    intro some_
    exact absurd rfl some_
  long := by rintro _ ⟨⟩

theorem Quiet.acceptedOrders (quiet : Quiet reached after) : after.acceptedOrders = reached.acceptedOrders := by
  simp only [SimulationSession.acceptedOrders, quiet.booked]

theorem Replayed.quiet (replayed : Replayed reached) (quiet : Quiet reached after)
    (trades : after.trades = reached.trades) : Replayed after where
  counted := by
    rw [quiet.filledByOrder, quiet.acceptedOrders]
    exact replayed.counted
  openings := by
    rw [quiet.acceptedOrders]
    exact replayed.openings
  positions := by
    intro key position found
    obtain ⟨before, here, -⟩ := quiet.position_quantity found
    rw [quiet.acceptedOrders]
    exact replayed.positions key before here
  closes := by
    rw [trades, quiet.acceptedOrders]
    exact replayed.closes
  long := by
    rw [trades]
    exact replayed.long

theorem acceptedOrders_bookFill : (session.bookFill viaLedger delta commission order).acceptedOrders =
    session.acceptedOrders ++ if (session.fillPipeline.record order).2 then [order] else [] := by
  simp only [acceptedOrders, bookFill, List.filter_append, List.map_append]
  cases (session.fillPipeline.record order).2 with
  | false => rfl
  | true => rfl

/-- A booking keeps what the trades have to do with the accepted fills, and its order id is counted behind it. -/
theorem Replayed.book (replayed : Replayed session) (tracks : session.fillPipeline.Tracks) (named : order.Named)
    (opening : order.side = .BUY → ∃ symbol barCount, order.orderId = simOpen symbol barCount) :
    Replayed (session.bookFill viaLedger delta commission order) ∧
      ∃ fill ∈ (session.bookFill viaLedger delta commission order).acceptedOrders, fill.orderId = order.orderId := by
  by_cases unused : session.fillPipeline.filledByOrder.get order.orderId = none
  · obtain ⟨fill, recorded, -⟩ := tracks.record_unused named unused
    have fills : (session.bookFill viaLedger delta commission order).acceptedOrders =
        session.acceptedOrders ++ [order] := by
      rw [acceptedOrders_bookFill, recorded, if_pos rfl]
    refine ⟨?_, ?_⟩
    · constructor
      · intro orderId counted
        rw [fills]
        simp only [bookFill, recorded, Dict.get_set] at counted
        split at counted
        · next same => exact ⟨order, List.mem_append_right _ List.mem_cons_self, same.symm⟩
        · obtain ⟨earlier, member, same⟩ := replayed.counted orderId counted
          exact ⟨earlier, List.mem_append_left _ member, same⟩
      · intro other member side
        rw [fills] at member
        rcases List.mem_append.mp member with earlier | last
        · exact replayed.openings other earlier side
        · obtain rfl := List.mem_singleton.mp last
          exact opening side
      · intro key position found
        rw [fills]
        exact List.append_ne_nil_of_right_ne_nil _ (List.cons_ne_nil _ _)
      · intro closed
        obtain ⟨earlier, member, side⟩ := replayed.closes closed
        rw [fills]
        exact ⟨earlier, List.mem_append_left _ member, side⟩
      · exact replayed.long
    · rw [fills]
      exact ⟨order, List.mem_append_right _ List.mem_cons_self, rfl⟩
  · have recorded := tracks.record_used named unused
    have fills : (session.bookFill viaLedger delta commission order).acceptedOrders = session.acceptedOrders := by
      rw [acceptedOrders_bookFill, recorded]
      exact List.append_nil _
    rw [fills]
    refine ⟨?_, replayed.counted _ unused⟩
    constructor
    · rw [fills]
      simp only [bookFill, recorded]
      exact replayed.counted
    · rw [fills]
      exact replayed.openings
    · rw [fills]
      simp only [bookFill, recorded]
      exact replayed.positions
    · rw [fills]
      exact replayed.closes
    · exact replayed.long

/-- One step of an engine keeps what the trades have to do with the accepted fills. -/
theorem replayed_kept : Kept viaLedger symbols start Replayed := by
  intro session after sound replayed moves
  cases moves with
  | rests quiet trades => exact replayed.quiet quiet trades
  | @opens order delta commission bookable flat side named quiet trades =>
    obtain ⟨barCount, opening⟩ := named
    obtain ⟨booked, -⟩ := replayed.book sound.tracks bookable.named fun _ => ⟨_, _, opening⟩
    exact booked.quiet quiet trades
  | @sells order delta commission view trade bookable seen quantity side named quiet trades pnl long =>
    obtain ⟨barCount, closing⟩ := named
    obtain ⟨booked, fill, member, same⟩ := replayed.book sound.tracks bookable.named
      fun buys => by rw [side] at buys; cases buys
    -- The accepted fill of the close's order id is a sale, for an opening has another order id.
    have sale : fill.side = .SELL := by
      cases sided : fill.side with
      | SELL => rfl
      | BUY =>
        obtain ⟨symbol, count, opened⟩ := booked.openings fill member sided
        exact absurd (opened.symm.trans (same.trans closing)) (simOpen_ne_simClose symbol order.symbol count barCount)
    constructor
    · rw [quiet.filledByOrder, quiet.acceptedOrders]
      exact booked.counted
    · rw [quiet.acceptedOrders]
      exact booked.openings
    · intro key position found
      obtain ⟨before, here, -⟩ := quiet.position_quantity found
      rw [quiet.acceptedOrders]
      exact booked.positions key before here
    · intro _
      rw [quiet.acceptedOrders]
      exact ⟨fill, member, sale⟩
    · intro other told
      rw [trades] at told
      rcases List.mem_append.mp told with earlier | last
      · exact replayed.long other earlier
      · rw [List.mem_singleton.mp last]
        exact long

/-- Without an accepted fill there are no trades and nothing is open. -/
theorem Replayed.idle (replayed : Replayed session) (idle : session.acceptedOrders = []) :
    session.trades = [] ∧ session.firstPosition = none := by
  constructor
  · by_contra closed
    obtain ⟨fill, member, -⟩ := replayed.closes closed
    rw [idle] at member
    cases member
  · have none_held : session.fillPipeline.projector.positions.values = [] := by
      rw [List.eq_nil_iff_forall_not_mem]
      intro position held
      obtain ⟨⟨key, value⟩, entry, rfl⟩ := List.mem_map.mp held
      exact replayed.positions key value (Dict.get_eq_some.mpr entry) idle
    rw [firstPosition, openSymbols, none_held]
    rfl

end SimulationSession

open SimulationSession

/-- The runs of the replay engine without an adapter. -/
inductive ReplayRun (σ φ : Type) where
  | single (engine : ReplayEngine σ φ) (state : σ) (symbol : String) (bars : List HistoricalBar)
  | multiSymbol (engine : ReplayEngine σ φ) (state : σ) (bars : List HistoricalBar)

namespace ReplayRun

variable {σ φ : Type}

def simulation : ReplayRun σ φ → SimulationRun σ φ
  | single engine state symbol bars => .replaySingle engine state symbol bars
  | multiSymbol engine state bars => .replayMulti engine state bars

/-- The session that the run answers. -/
def session (run : ReplayRun σ φ) : SimulationSession := run.simulation.final

theorem replayed (run : ReplayRun σ φ) : Replayed run.session :=
  (run.simulation.final_kept replayed_kept replayed_new).2

end ReplayRun

namespace ReplayStateAssertor

variable {session : SimulationSession} {items changed : List ReplayItem}

theorem TellsFills.told (told : TellsFills items session) {fill : SimulatedOrder}
    (member : fill ∈ session.acceptedOrders) :
    ∃ event ∈ tradeEvents items, TellsFill event fill := by
  simp only [TellsFills] at told
  generalize tradeEvents items = events at told
  generalize session.acceptedOrders = fills at told member
  induction told with
  | nil => cases member
  | cons tells _ ih =>
    rcases List.mem_cons.mp member with rfl | later
    · exact ⟨_, List.mem_cons_self, tells⟩
    · obtain ⟨event, among, tells⟩ := ih later
      exact ⟨event, List.mem_cons_of_mem _ among, tells⟩

/-- A sale is not told with the side that a trade of the session shows. -/
theorem TellsFill.shown_side {event : RecordedEvent} {fill : SimulatedOrder} (tells : TellsFill event fill)
    (sale : fill.side = .SELL) : event.detail.side ≠ (PayloadValue.side .BUY).str := by
  have told := tells.side
  simp only [RecordedEvent.detail, RecordedEvent.field, sale] at told ⊢
  intro shown
  rcases told with upper | named
  · cases found : event.payload.get "side" with
    | none =>
      rw [found] at upper
      revert upper
      decide
    | some value =>
      rw [found, Option.getD_some] at upper shown
      rw [PayloadValue.upper, shown] at upper
      revert upper
      decide
  · rw [named] at shown
    revert shown
    decide

/-- Where a fill is accepted and all of them are told, the state does not match. -/
theorem told_unmatched (replayed : Replayed session) (told : TellsFills items session)
    (traded : session.acceptedOrders ≠ []) : assertState (some ⟨session⟩) items ≠ .ok (true, {}) := by
  intro agrees
  obtain ⟨-, count, details, -⟩ := assertState_matches.mp agrees
  rw [told.length_eq, SimulationSession.totalTrades] at count
  have closed : session.trades ≠ [] := by
    intro untraded
    rw [untraded] at count
    exact traded (List.eq_nil_of_length_eq_zero count)
  obtain ⟨fill, member, sale⟩ := replayed.closes closed
  obtain ⟨event, among, tells⟩ := told.told member
  rcases details with nothing | same
  · rw [deriveExpectedTrades, List.map_eq_nil_iff] at nothing
    rw [nothing] at among
    cases among
  · -- The events tell of a sale, and every trade of the session has the side of its opening.
    have shown : event.detail.compared ∈ (session.trades.map SimulatedTrade.detail).map TradeDetail.compared := by
      rw [← same]
      exact List.mem_map_of_mem (List.mem_map_of_mem among)
    obtain ⟨detail, held, equal⟩ := List.mem_map.mp shown
    obtain ⟨trade, kept, rfl⟩ := List.mem_map.mp held
    have side : trade.detail.side = event.detail.side := congrArg (fun key => key.2.1) equal
    apply tells.shown_side sale
    rw [← side, SimulatedTrade.detail, replayed.long trade kept]

theorem tradeEvents_eq_nil : tradeEvents items = [] ↔
    ∀ item ∈ items, ∀ event, item.event = some event → event.isTrade = false := by
  simp only [tradeEvents, List.filter_eq_nil_iff, List.mem_filterMap, Bool.not_eq_true]
  constructor
  · intro untraded item member event found
    exact untraded event ⟨item, member, found⟩
  · rintro untraded event ⟨item, member, found⟩
    exact untraded item member event found

theorem Tampered.traded (tampered : Tampered items changed) : tradeEvents items ≠ [] := by
  have here (before after : List ReplayItem) (event : RecordedEvent) (trade : event.isTrade = true) :
      tradeEvents (before ++ ⟨some event⟩ :: after) ≠ [] := by
    intro untraded
    have other := tradeEvents_eq_nil.mp untraded _ (List.mem_append_right _ List.mem_cons_self) event rfl
    rw [trade] at other
    cases other
  cases tampered with
  | removed before after event trade => exact here before after event trade
  | duplicated before between after event trade => exact here before _ event trade
  | requantified before after event quantity trade => exact here before after event trade

theorem positionState_untraded (untraded : tradeEvents items = []) : deriveExpectedPositionState items = false := by
  rw [tradeEvents_eq_nil] at untraded
  simp only [deriveExpectedPositionState]
  induction items with
  | nil => rfl
  | cons item rest ih =>
    have still : positionState false item = false := by
      simp only [positionState]
      split
      · rfl
      · next event found => rw [untraded item List.mem_cons_self event found, if_neg Bool.false_ne_true, ite_self]
    rw [List.foldl_cons, still]
    exact ih fun other member => untraded other (List.mem_cons_of_mem _ member)

/-- Where no fill is accepted and no event tells of one, the state matches. -/
theorem idle_matches (replayed : Replayed session) (told : TellsFills items session)
    (idle : session.acceptedOrders = []) :
    tradeEvents items = [] ∧ assertState (some ⟨session⟩) items = .ok (true, {}) := by
  simp only [TellsFills, idle, List.forall₂_nil_right_iff] at told
  obtain ⟨trades, closed⟩ := replayed.idle idle
  refine ⟨told, assertState_matches.mpr ⟨⟨none, ?_, ?_⟩, ?_, .inl ?_, ?_⟩⟩
  · rw [deriveExpectedEquity, if_pos told]
    rfl
  · rintro _ ⟨⟩
  · rw [told, SimulationSession.totalTrades, trades]
    rfl
  · rw [deriveExpectedTrades, told, List.map_nil]
  · rw [positionState_untraded told, closed, Option.isSome_none]

end ReplayStateAssertor

namespace ReplayRun

open ReplayStateAssertor

/-- Told of every accepted fill of a replay, the assertion holds of its session and detects what is tampered with
exactly where no fill was accepted. -/
theorem detects_iff {σ φ : Type} (run : ReplayRun σ φ) (items : List ReplayItem) (told : TellsFills items run.session) :
    Detects run.session items ↔ run.session.acceptedOrders = [] := by
  have replayed := run.replayed
  constructor
  · intro detects
    by_contra traded
    exact told_unmatched replayed told traded detects.holds
  · intro idle
    obtain ⟨untraded, holds⟩ := idle_matches replayed told idle
    exact ⟨holds, fun changed tampered => absurd untraded tampered.traded⟩

/-- A replay that buys a hundred shares on the first bar and sells them on the second. -/
def roundTrip : ReplayRun Unit ℚ :=
  .single
    { config :=
        { initialCapital := 100000
          maxPositionPct := 10
          slippagePct := 0
          commissionFlat := 20
          fillModel := .CURRENT_CLOSE
          warmupBars := 0
          windowSize := 0
          slippage_nonneg := ReplayConfig.no_cost
          position_pos := by norm_num
          warmup_nonneg := ReplayConfig.no_warmup
          commission_nonneg := by norm_num }
      research :=
        { features := fun window => window.getLast?.map HistoricalBar.timestamp
          evaluateSingle := fun _ symbol _ timestamp =>
            ([{ symbol := symbol, signalType := if timestamp = 1 then .BUY else .SELL }], ()) } }
    () "RELIANCE" [⟨"RELIANCE", 1, 100, 101, 99, 100, 10⟩, ⟨"RELIANCE", 2, 110, 111, 109, 110, 10⟩]

/-- The event of a fill of a hundred shares. -/
def hundredShares (side : OrderSide) (price : ℚ) : ReplayItem where
  event := some {
    eventType := "TRADE"
    payload := ((∅ : Dict String PayloadValue).set "side" (.text side.value)).set "price" (.float price)
      |>.set "quantity" (.int 100)
    symbol := some "RELIANCE" }

theorem roundTrip_told : TellsFills [hundredShares .BUY 100, hundredShares .SELL 110] roundTrip.session := by
  have fills : roundTrip.session.acceptedOrders =
      [⟨"sim-open:RELIANCE:1", "RELIANCE", .BUY, 100, 100, 1, "open"⟩,
        ⟨"sim-close:RELIANCE:2", "RELIANCE", .SELL, 100, 110, 2, "close"⟩] := by
    decide +kernel
  rw [TellsFills, fills]
  refine .cons ⟨?_, ?_, ?_, ?_⟩ (.cons ⟨?_, ?_, ?_, ?_⟩ .nil)
  · decide
  · exact .inl (by decide)
  · rfl
  · rfl
  · decide
  · exact .inl (by decide)
  · rfl
  · rfl

theorem detects_iff_roundTrip : Detects roundTrip.session [hundredShares .BUY 100, hundredShares .SELL 110] ↔
    roundTrip.session.acceptedOrders = [] :=
  roundTrip.detects_iff _ roundTrip_told

/-- Two fills are told, and the session has one trade. -/
theorem fills_are_not_trades : ¬ ∀ (run : ReplayRun Unit ℚ) (items : List ReplayItem),
    run.simulation.initialCapital = 100000 → TellsFills items run.session → Detects run.session items := by
  intro claim
  obtain ⟨holds, -⟩ := claim roundTrip _ rfl roundTrip_told
  obtain ⟨-, count, -⟩ := assertState_matches.mp holds
  have one : roundTrip.session.totalTrades = 1 := by decide +kernel
  rw [one] at count
  revert count
  decide

end ReplayRun

end TradeX.V1
