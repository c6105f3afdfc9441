import TradeX.V1.Simulation

/-! The bookings of a simulation session: when the fill pipeline accepts the fill of a booking, and what
holds of the cash and the positions behind any sequence of bookings. Both engines change their session
by bookings and by steps that touch neither cash nor fills. -/

namespace TradeX.V1

open Lib

namespace SimulatedOrder

variable (order : SimulatedOrder)

/-- The quantity, negative for a sale. -/
def signed : ℤ :=
  match order.side with
  | .BUY => order.quantity
  | .SELL => -order.quantity

/-- The ids are those of the engines, and there is something to fill. -/
structure Named : Prop where
  orderId : ∃ barCount, order.orderId = simOpen order.symbol barCount ∨ order.orderId = simClose order.symbol barCount
  tradeTag : ':' ∉ order.tradeTag.toList
  positive : 0 < order.quantity

variable {order}

theorem toTrade_delta : order.toTrade.delta = order.signed := by
  cases side : order.side with
  | BUY => simp only [Trade.delta, toTrade, Decimal.toInt_intCast, signed, side]
  | SELL => simp only [Trade.delta, toTrade, Decimal.toInt_intCast, signed, side]

theorem Named.letter (named : order.Named) : 's' ∈ order.orderId.toList := by
  obtain ⟨barCount, opened | closed⟩ := named.orderId
  · rw [opened, simOpen, String.toList_append, String.toList_append, String.toList_append]
    simp only [List.mem_append]
    exact .inl (.inl (.inl (by decide)))
  · rw [closed, simClose, String.toList_append, String.toList_append, String.toList_append]
    simp only [List.mem_append]
    exact .inl (.inl (.inl (by decide)))

theorem Named.orderId_present (named : order.Named) : blank order.orderId = false :=
  decide_eq_false (Text.strip_ne_empty named.letter (by decide))

theorem Named.tradeId_present (named : order.Named) : blank order.toTrade.tradeId = false := by
  have letter : 's' ∈ order.toTrade.tradeId.toList := by
    simp only [toTrade, String.toList_append, List.mem_append]
    exact .inl (.inl named.letter)
  exact decide_eq_false (Text.strip_ne_empty letter (by decide))

theorem Named.orderId_ne (named : order.Named) : order.orderId ≠ "" := by
  intro empty
  have letter := named.letter
  rw [empty] at letter
  cases letter

end SimulatedOrder

namespace SimulationFillPipeline

/-- The two counts of an order agree, what is counted is positive, and every seen fill id is made of an
order id that is counted. -/
structure Tracks (pipeline : SimulationFillPipeline) : Prop where
  positive : ∀ orderId quantity, pipeline.filledByOrder.get orderId = some quantity → 0 < quantity
  cumulative : ∀ orderId, (pipeline.reducer.cumulativeByOrder.get orderId).getD 0 =
    ((pipeline.filledByOrder.get orderId).getD 0 : ℚ)
  seen : ∀ id ∈ pipeline.reducer.seenFillIds, ∃ orderId tag, id = orderId ++ ":" ++ tag ∧ ':' ∉ tag.toList ∧
    pipeline.filledByOrder.get orderId ≠ none

variable {pipeline : SimulationFillPipeline} {order : SimulatedOrder}

theorem tracks_new : ({} : SimulationFillPipeline).Tracks := by
  constructor
  · rintro _ _ ⟨⟩
  · intro orderId
    exact Int.cast_zero.symm
  · rintro _ ⟨⟩

/-- The fill id of an order that is not counted is new. -/
theorem Tracks.unseen (tracks : pipeline.Tracks) (named : order.Named)
    (unused : pipeline.filledByOrder.get order.orderId = none) :
    order.toTrade.tradeId ∉ pipeline.reducer.seenFillIds := by
  intro member
  obtain ⟨orderId, tag, same, plain, counted⟩ := tracks.seen _ member
  have chars := congrArg String.toList same
  simp only [SimulatedOrder.toTrade, String.toList_append, List.append_assoc] at chars
  have orderIds := Text.append_mark_inj chars named.tradeTag plain
  rw [String.toList_injective orderIds] at unused
  exact counted unused

/-- The event of the order's fill, behind what is counted for the order. -/
theorem event_built (named : order.Named) {prior : ℤ} (nonneg : 0 ≤ prior) : ∃ fill,
    FillReducer.fillFromTrade order.toTrade.tradeId order.orderId order.quantity prior order.price = .ok fill := by
  have quantity : (0 : ℚ) ≤ order.quantity := by exact_mod_cast named.positive.le
  have counted : (0 : ℚ) ≤ prior := by exact_mod_cast nonneg
  simp only [FillReducer.fillFromTrade]
  rw [dif_pos named.tradeId_present, dif_pos named.orderId_present, dif_pos quantity,
    dif_pos (add_nonneg counted quantity)]
  exact ⟨_, rfl⟩

/-- The record of a named order is one validation against its own quantity. -/
theorem record_eq (named : order.Named) {prior : ℤ} {fill : FillEvent}
    (counted : (pipeline.filledByOrder.get order.orderId).getD 0 = prior)
    (built : FillReducer.fillFromTrade order.toTrade.tradeId order.orderId order.quantity prior order.price =
      .ok fill) :
    pipeline.record order =
      match pipeline.reducer.validate fill order.quantity prior with
      | some _ => (pipeline, false)
      | none => ({
          reducer := pipeline.reducer.commit fill
          projector := pipeline.projector.applyTrade order.toTrade
          filledByOrder := pipeline.filledByOrder.set order.orderId (prior + order.quantity) }, true) := by
  have something : ¬ (order.orderId = "" ∨ order.quantity ≤ 0) := by
    rintro (empty | nothing)
    · exact named.orderId_ne empty
    · exact absurd named.positive (not_lt.mpr nothing)
  have positive : ¬ order.toTrade.quantity ≤ 0 := by
    change ¬ (order.quantity : ℚ) ≤ 0
    exact_mod_cast not_le.mpr named.positive
  have tradeOrder : order.toTrade.orderId = order.orderId := rfl
  have shares : Decimal.toInt order.toTrade.quantity = order.quantity := Decimal.toInt_intCast _
  have price : order.toTrade.price = order.price := rfl
  simp only [record, if_neg something, feed, applyTrade, if_neg positive, tradeOrder, if_neg named.orderId_ne, shares,
    counted, price, built, Option.getD_some]
  cases pipeline.reducer.validate fill order.quantity prior with
  | none => rfl
  | some reason => rfl

/-- A fill is accepted exactly when its order id is not counted yet. -/
theorem Tracks.record_unused (tracks : pipeline.Tracks) (named : order.Named)
    (unused : pipeline.filledByOrder.get order.orderId = none) : ∃ fill : FillEvent,
    pipeline.record order = ({
      reducer := pipeline.reducer.commit fill
      projector := pipeline.projector.applyTrade order.toTrade
      filledByOrder := pipeline.filledByOrder.set order.orderId order.quantity }, true) ∧
    fill.fillId = order.toTrade.tradeId ∧ fill.orderId = order.orderId ∧ fill.cumulativeQuantity = order.quantity := by
  obtain ⟨fill, built⟩ := event_built named (le_refl 0)
  obtain ⟨fillId, orderId, -, cumulative, -⟩ := FillReducer.fillFromTrade_ok built
  have counted : (pipeline.filledByOrder.get order.orderId).getD 0 = 0 := by rw [unused, Option.getD_none]
  have baseline : pipeline.reducer.baseline order.orderId ((0 : ℤ) : ℚ) = 0 := by
    rw [FillReducer.baseline, tracks.cumulative, counted, max_self, Int.cast_zero]
  have quantity : (0 : ℚ) ≤ order.quantity := by exact_mod_cast named.positive.le
  rw [Int.cast_zero, zero_add] at cumulative
  have valid : pipeline.reducer.validate fill order.quantity ((0 : ℤ) : ℚ) = none := by
    rw [FillReducer.validate, fillId, if_neg (tracks.unseen named unused), orderId, baseline, cumulative,
      if_neg (not_lt.mpr quantity), if_neg (lt_irrefl _)]
  refine ⟨fill, ?_, fillId, orderId, cumulative⟩
  rw [record_eq named counted built, valid, zero_add]

theorem Tracks.record_used (tracks : pipeline.Tracks) (named : order.Named)
    (used : pipeline.filledByOrder.get order.orderId ≠ none) : pipeline.record order = (pipeline, false) := by
  obtain ⟨prior, found⟩ := Option.ne_none_iff_exists'.mp used
  have positive := tracks.positive _ _ found
  obtain ⟨fill, built⟩ := event_built named positive.le
  obtain ⟨-, -, -, cumulative, -⟩ := FillReducer.fillFromTrade_ok built
  have counted : (pipeline.filledByOrder.get order.orderId).getD 0 = prior := by rw [found, Option.getD_some]
  rw [record_eq named counted built]
  cases answer : pipeline.reducer.validate fill order.quantity prior with
  | some reason => rfl
  | none =>
    obtain ⟨-, -, fits⟩ := FillReducer.validate_accepted answer
    rw [cumulative] at fits
    have room : prior + order.quantity ≤ order.quantity := by exact_mod_cast fits
    omega

/-- A position behind a fill is an earlier one, or the one that the order's trade moves. -/
theorem Tracks.record_position (tracks : pipeline.Tracks) (named : order.Named) {key : String} {position : Position}
    (found : (pipeline.record order).1.projector.positions.get key = some position) :
    pipeline.projector.positions.get key = some position ∨
      key = order.toTrade.positionKey ∧
        position = projectTrade ((pipeline.projector.positions.get key).getD order.toTrade.opening) order.toTrade := by
  by_cases unused : pipeline.filledByOrder.get order.orderId = none
  · obtain ⟨fill, recorded, -⟩ := tracks.record_unused named unused
    rw [recorded] at found
    simp only [PortfolioProjector.applyTrade, Dict.get_set] at found
    split at found
    · next same =>
      cases found
      exact .inr ⟨same, by rw [same]⟩
    · exact .inl found
  · rw [tracks.record_used named unused] at found
    exact .inl found

theorem Tracks.record_accepted (tracks : pipeline.Tracks) (named : order.Named) :
    (pipeline.record order).2 = true ↔ pipeline.filledByOrder.get order.orderId = none := by
  by_cases unused : pipeline.filledByOrder.get order.orderId = none
  · obtain ⟨fill, recorded, -⟩ := tracks.record_unused named unused
    rw [recorded]
    exact ⟨fun _ => unused, fun _ => rfl⟩
  · rw [tracks.record_used named unused]
    constructor
    · rintro ⟨⟩
    · intro same
      exact absurd same unused

theorem Tracks.record (tracks : pipeline.Tracks) (named : order.Named) : (pipeline.record order).1.Tracks := by
  by_cases unused : pipeline.filledByOrder.get order.orderId = none
  · obtain ⟨fill, recorded, fillId, orderId, cumulative⟩ := tracks.record_unused named unused
    rw [recorded]
    constructor
    · intro other quantity found
      rw [Dict.get_set] at found
      split at found
      · cases found
        exact named.positive
      · exact tracks.positive other quantity found
    · intro other
      simp only [FillReducer.commit, orderId, cumulative, Dict.get_set]
      split
      · rfl
      · exact tracks.cumulative other
    · intro id member
      rcases List.mem_cons.mp member with rfl | earlier
      · refine ⟨order.orderId, order.tradeTag, fillId, named.tradeTag, ?_⟩
        rw [Dict.get_set_self]
        exact Option.some_ne_none _
      · obtain ⟨other, tag, same, plain, counted⟩ := tracks.seen id earlier
        refine ⟨other, tag, same, plain, ?_⟩
        rw [Dict.get_set]
        split
        · exact Option.some_ne_none _
        · exact counted
  · rw [tracks.record_used named unused]
    exact tracks

end SimulationFillPipeline

namespace Position

variable (position : Position)

/-- The position apart from its mark, which only moves while the position is open. -/
def unmarked : Position := if position.quantity = 0 then position else { position with ltp := 0, unrealizedPnl := 0 }

@[simp] theorem unmarked_quantity : position.unmarked.quantity = position.quantity := by
  simp only [unmarked]
  split
  · rfl
  · rfl

@[simp] theorem unmarked_symbol : position.unmarked.symbol = position.symbol := by
  simp only [unmarked]
  split
  · rfl
  · rfl

@[simp] theorem unmarked_avgPrice : position.unmarked.avgPrice = position.avgPrice := by
  simp only [unmarked]
  split
  · rfl
  · rfl

theorem withLtp_unmarked (opened : position.quantity ≠ 0) (ltp : ℚ) :
    (position.withLtp ltp).unmarked = position.unmarked := by
  have still : (position.withLtp ltp).quantity ≠ 0 := opened
  simp only [unmarked, if_neg opened, if_neg still]
  rfl

end Position

/-- What the fill adds to the cash, without the sign of its cost: the signed quantity at the price, and
the commission. -/
def Booking.cost (booking : Booking) : ℚ := booking.order.signed * booking.order.price + booking.commission

/-- No fill of the booking's order id was accepted before the booking. -/
def Booking.Unused (booking : Booking) : Prop := booking.before.filledByOrder.get booking.order.orderId = none

instance (booking : Booking) : Decidable booking.Unused := inferInstanceAs (Decidable (_ = _))

namespace SimulationSession

/-- The cash is the initial capital less what the accepted fills cost, and every fill that has moved
cash is accepted. -/
structure Conserves (initial : ℚ) (session : SimulationSession) : Prop where
  cash : session.capital = initial - ((session.booked.filter Booking.accepted).map Booking.cost).sum
  accepted : ∀ booking ∈ session.booked, booking.accepted = true

/-- Neither cash nor fills differ; marks may. -/
structure Quiet (before after : SimulationSession) : Prop where
  capital : after.capital = before.capital
  ledger : after.ledger = before.ledger
  booked : after.booked = before.booked
  reducer : after.fillPipeline.reducer = before.fillPipeline.reducer
  filledByOrder : after.fillPipeline.filledByOrder = before.fillPipeline.filledByOrder
  positions : ∀ key, (after.fillPipeline.projector.positions.get key).map Position.unmarked =
    (before.fillPipeline.projector.positions.get key).map Position.unmarked

/-- What an engine may book: an opening of a symbol without a position, or a close of all of one. -/
structure Bookable (symbols : List String) (session : SimulationSession) (order : SimulatedOrder)
    (delta commission : ℚ) : Prop where
  symbol : order.symbol ∈ symbols
  named : order.Named
  trade : (order.side = .BUY ∧ session.hasPosition order.symbol = false ∧
      delta = -(order.price * order.quantity + commission)) ∨
    ∃ position, session.position order.symbol = some position ∧ position.quantity ≠ 0 ∧
      order.quantity = |position.quantity| ∧ (0 < position.quantity → order.side = .SELL) ∧
      delta = order.price * order.quantity - commission

/-- The second session comes from the first by bookings and quiet steps. -/
inductive Books (viaLedger : Bool) (symbols : List String) (start : SimulationSession) : SimulationSession → Prop where
  | refl : Books viaLedger symbols start start
  | quiet {reached after : SimulationSession} : Books viaLedger symbols start reached → Quiet reached after →
      Books viaLedger symbols start after
  | book {reached : SimulationSession} (order : SimulatedOrder) (delta commission : ℚ) :
      Books viaLedger symbols start reached → Bookable symbols reached order delta commission →
      Books viaLedger symbols start (reached.bookFill viaLedger delta commission order)

variable {viaLedger : Bool} {symbols : List String} {start reached after session : SimulationSession}
  {order : SimulatedOrder} {delta commission initial : ℚ} {symbol : String}

theorem Books.trans (first : Books viaLedger symbols start reached) (second : Books viaLedger symbols reached after) :
    Books viaLedger symbols start after := by
  induction second with
  | refl => exact first
  | quiet _ quiet ih => exact ih.quiet quiet
  | book order delta commission _ bookable ih => exact ih.book order delta commission bookable

theorem Quiet.refl : Quiet session session := ⟨rfl, rfl, rfl, rfl, rfl, fun _ => rfl⟩

theorem Quiet.trans (first : Quiet start reached) (second : Quiet reached after) : Quiet start after where
  capital := second.capital.trans first.capital
  ledger := second.ledger.trans first.ledger
  booked := second.booked.trans first.booked
  reducer := second.reducer.trans first.reducer
  filledByOrder := second.filledByOrder.trans first.filledByOrder
  positions key := (second.positions key).trans (first.positions key)

theorem markSymbol_quiet (session : SimulationSession) (symbol : String) (price : ℚ) :
    Quiet session (session.markSymbol symbol price) := by
  refine ⟨rfl, rfl, rfl, rfl, rfl, fun key => ?_⟩
  simp only [markSymbol, PortfolioProjector.markLtp]
  cases found : session.fillPipeline.projector.positions.get (makePositionKey symbol defaultExchange) with
  | none => rfl
  | some position =>
    dsimp only
    split
    · rfl
    · next opened =>
      rw [Dict.get_set]
      split
      · next same =>
        rw [same, found, Option.map_some, Option.map_some, position.withLtp_unmarked opened price]
      · rfl

theorem markOpen_quiet (session : SimulationSession) (bar : HistoricalBar) : Quiet session (session.markOpen bar) := by
  simp only [markOpen]
  split
  · exact markSymbol_quiet session bar.symbol bar.close
  · exact .refl

theorem markOpen_trades (session : SimulationSession) (bar : HistoricalBar) :
    (session.markOpen bar).trades = session.trades := by
  simp only [markOpen]
  split
  · rfl
  · rfl

/-- What holds of a session that an engine has come to. -/
structure Sound (viaLedger : Bool) (symbols : List String) (start session : SimulationSession) : Prop where
  ledger : session.ledger = if viaLedger then start.ledger + (session.booked.map Booking.delta).sum else start.ledger
  capital : session.capital = if viaLedger ∧ session.booked ≠ [] then session.ledger
    else start.capital + (session.booked.map Booking.delta).sum
  tracks : session.fillPipeline.Tracks
  long : ∀ key position, session.fillPipeline.projector.positions.get key = some position → 0 ≤ position.quantity
  keyed : ∀ key position, session.fillPipeline.projector.positions.get key = some position →
    makePositionKey position.symbol defaultExchange = key ∧ position.symbol ∈ symbols
  accepted : ∀ booking ∈ session.booked, booking.accepted = true ↔ booking.Unused
  costs : ∀ booking ∈ session.booked, booking.delta = -booking.cost

theorem Quiet.position_quantity (quiet : Quiet reached after) {key : String} {position : Position}
    (found : after.fillPipeline.projector.positions.get key = some position) : ∃ before,
      reached.fillPipeline.projector.positions.get key = some before ∧ before.quantity = position.quantity ∧
        before.symbol = position.symbol := by
  have same := quiet.positions key
  rw [found, Option.map_some] at same
  obtain ⟨before, here, equal⟩ := Option.map_eq_some_iff.mp same.symm
  have quantity := congrArg Position.quantity equal
  have symbol := congrArg Position.symbol equal
  rw [Position.unmarked_quantity, Position.unmarked_quantity] at quantity
  rw [Position.unmarked_symbol, Position.unmarked_symbol] at symbol
  exact ⟨before, here, quantity, symbol⟩

theorem Sound.quiet (sound : Sound viaLedger symbols start reached) (quiet : Quiet reached after) :
    Sound viaLedger symbols start after where
  ledger := by
    rw [quiet.ledger, quiet.booked]
    exact sound.ledger
  capital := by
    rw [quiet.capital, quiet.booked, quiet.ledger]
    exact sound.capital
  tracks := by
    obtain ⟨positive, cumulative, seen⟩ := sound.tracks
    constructor
    · rw [quiet.filledByOrder]
      exact positive
    · rw [quiet.filledByOrder, quiet.reducer]
      exact cumulative
    · rw [quiet.filledByOrder, quiet.reducer]
      exact seen
  long := by
    intro key position found
    obtain ⟨before, here, quantity, -⟩ := quiet.position_quantity found
    exact quantity ▸ sound.long key before here
  keyed := by
    intro key position found
    obtain ⟨before, here, -, symbol⟩ := quiet.position_quantity found
    exact symbol ▸ sound.keyed key before here
  accepted := by
    rw [quiet.booked]
    exact sound.accepted
  costs := by
    rw [quiet.booked]
    exact sound.costs

/-- The open position that a close of the session closes is long. -/
theorem Sound.closing_long (sound : Sound viaLedger symbols start session) {position : Position}
    (found : session.position symbol = some position) (opened : position.quantity ≠ 0) : 0 < position.quantity :=
  lt_of_le_of_ne (sound.long _ position found) opened.symm

theorem Sound.delta_cost (sound : Sound viaLedger symbols start session)
    (bookable : Bookable symbols session order delta commission) :
    delta = -((order.signed : ℚ) * order.price + commission) := by
  rcases bookable.trade with ⟨side, -, moved⟩ | ⟨position, found, opened, quantity, closing, moved⟩
  · simp only [SimulatedOrder.signed, side]
    rw [moved]
    ring
  · simp only [SimulatedOrder.signed, closing (sound.closing_long found opened)]
    rw [moved]
    push_cast
    ring

/-- The position of the order's symbol behind its accepted fill: nothing after a close, the order's
quantity after an opening. -/
theorem Sound.booked_quantity (sound : Sound viaLedger symbols start session)
    (bookable : Bookable symbols session order delta commission) :
    (projectTrade ((session.position order.symbol).getD order.toTrade.opening) order.toTrade).quantity =
      if order.side = .BUY then order.quantity else 0 := by
  rw [PositionManager.projectTrade_quantity, SimulatedOrder.toTrade_delta]
  rcases bookable.trade with ⟨side, flat, -⟩ | ⟨position, found, opened, quantity, closing, -⟩
  · simp only [SimulatedOrder.signed, side, if_true]
    have nothing : ((session.position order.symbol).getD order.toTrade.opening).quantity = 0 := by
      cases found : session.position order.symbol with
      | none => rfl
      | some position =>
        simp only [hasPosition, found, Option.any_some, decide_eq_false_iff_not, not_not] at flat
        exact flat
    rw [nothing, zero_add]
  · have long := sound.closing_long found opened
    simp only [SimulatedOrder.signed, closing long, found, Option.getD_some, quantity, abs_of_pos long]
    rw [if_neg (by decide)]
    omega

theorem Sound.book (sound : Sound viaLedger symbols start reached)
    (bookable : Bookable symbols reached order delta commission) :
    Sound viaLedger symbols start (reached.bookFill viaLedger delta commission order) where
  ledger := by
    simp only [bookFill, List.map_append, List.sum_append, List.map_cons, List.map_nil, List.sum_singleton]
    have ledger := sound.ledger
    split
    · next via =>
      rw [if_pos via] at ledger
      rw [ledger, add_assoc]
    · next direct =>
      rw [if_neg direct] at ledger
      exact ledger
  capital := by
    simp only [bookFill, List.map_append, List.sum_append, List.map_cons, List.map_nil, List.sum_singleton]
    have capital := sound.capital
    cases viaLedger with
    | true =>
      simp only [if_true, ne_eq, List.append_eq_nil_iff, List.cons_ne_self, and_false, not_false_eq_true, and_self]
    | false =>
      simp only [Bool.false_eq_true, false_and, if_false] at capital ⊢
      rw [capital, add_assoc]
  tracks := sound.tracks.record bookable.named
  long := by
    intro key position found
    rcases sound.tracks.record_position bookable.named found with earlier | ⟨rfl, rfl⟩
    · exact sound.long key position earlier
    · refine le_of_le_of_eq ?_ (sound.booked_quantity bookable).symm
      split
      · exact bookable.named.positive.le
      · exact le_rfl
  keyed := by
    intro key position found
    rcases sound.tracks.record_position bookable.named found with earlier | ⟨rfl, rfl⟩
    · exact sound.keyed key position earlier
    · cases held : reached.fillPipeline.projector.positions.get order.toTrade.positionKey with
      | none => exact ⟨rfl, bookable.symbol⟩
      | some before => exact sound.keyed _ before held
  accepted := by
    intro booking member
    rcases List.mem_append.mp member with earlier | last
    · exact sound.accepted booking earlier
    · obtain rfl := List.mem_singleton.mp last
      exact sound.tracks.record_accepted bookable.named
  costs := by
    intro booking member
    rcases List.mem_append.mp member with earlier | last
    · exact sound.costs booking earlier
    · obtain rfl := List.mem_singleton.mp last
      exact sound.delta_cost bookable

theorem Books.sound (books : Books viaLedger symbols reached session) (sound : Sound viaLedger symbols start reached) :
    Sound viaLedger symbols start session := by
  induction books with
  | refl => exact sound
  | quiet _ quiet ih => exact ih.quiet quiet
  | book order delta commission _ bookable ih => exact ih.book bookable

/-- A new session is sound. -/
theorem sound_new (capital ledger : ℚ) (curve : List (ℚ × ℚ)) (peak : ℚ) :
    Sound viaLedger symbols
      { capital := capital, ledger := ledger, equityCurve := curve, peakEquity := peak }
      { capital := capital, ledger := ledger, equityCurve := curve, peakEquity := peak } where
  ledger := by
    change ledger = if viaLedger = true then ledger + 0 else ledger
    rw [add_zero, ite_self]
  capital := by
    change capital = if viaLedger = true ∧ ([] : List Booking) ≠ [] then ledger else capital + 0
    rw [if_neg fun claim => claim.2 rfl, add_zero]
  tracks := SimulationFillPipeline.tracks_new
  long := by rintro _ _ ⟨⟩
  keyed := by rintro _ _ ⟨⟩
  accepted := by rintro _ ⟨⟩
  costs := by rintro _ ⟨⟩

theorem hasPosition_iff : session.hasPosition symbol = true ↔
    ∃ position, session.position symbol = some position ∧ position.quantity ≠ 0 := by
  simp only [hasPosition, Option.any_eq_true, decide_eq_true_eq]

theorem Quiet.hasPosition (quiet : Quiet reached after) (symbol : String) :
    after.hasPosition symbol = reached.hasPosition symbol := by
  have same := quiet.positions (makePositionKey symbol defaultExchange)
  simp only [SimulationSession.hasPosition, position]
  cases found : after.fillPipeline.projector.positions.get (makePositionKey symbol defaultExchange) with
  | none =>
    rw [found, Option.map_none] at same
    rw [Option.map_eq_none_iff.mp same.symm]
  | some position =>
    obtain ⟨before, here, quantity, -⟩ := quiet.position_quantity found
    rw [here, Option.any_some, Option.any_some, quantity]

/-- One fill of the symbol is booked, and the rest is quiet. -/
def BooksOnce (viaLedger : Bool) (symbols : List String) (symbol : String) (session after : SimulationSession) : Prop :=
  ∃ order delta commission, order.symbol = symbol ∧ Bookable symbols session order delta commission ∧
    Quiet (session.bookFill viaLedger delta commission order) after

theorem BooksOnce.books (once : BooksOnce viaLedger symbols symbol session after) :
    Books viaLedger symbols session after := by
  obtain ⟨order, delta, commission, -, bookable, quiet⟩ := once
  exact (Books.refl.book order delta commission bookable).quiet quiet

theorem BooksOnce.quiet (once : BooksOnce viaLedger symbols symbol session reached) (quiet : Quiet reached after) :
    BooksOnce viaLedger symbols symbol session after := by
  obtain ⟨order, delta, commission, same, bookable, settled⟩ := once
  exact ⟨order, delta, commission, same, bookable, settled.trans quiet⟩

/-- Behind an accepted close of the symbol it has no position, and no other symbol has a new one. -/
theorem BooksOnce.flat (once : BooksOnce viaLedger symbols symbol session after)
    (sound : Sound viaLedger symbols start session) (opened : session.hasPosition symbol = true)
    (accepted : ∀ booking ∈ after.booked, booking.accepted = true) (other : String)
    (flat : session.hasPosition other = false ∨ other = symbol) : after.hasPosition other = false := by
  obtain ⟨order, delta, commission, rfl, bookable, quiet⟩ := once
  rw [quiet.hasPosition]
  have recordedHere : (session.fillPipeline.record order).2 = true := by
    have last : (⟨order, delta, commission, session.fillPipeline, (session.fillPipeline.record order).2⟩ : Booking) ∈
        after.booked := by
      rw [quiet.booked]
      exact List.mem_append_right _ List.mem_cons_self
    exact accepted _ last
  obtain ⟨fill, recorded, -⟩ := sound.tracks.record_unused bookable.named
    ((sound.tracks.record_accepted bookable.named).mp recordedHere)
  have sale : order.side = .SELL := by
    rcases bookable.trade with ⟨-, nothing, -⟩ | ⟨position, found, quantity, -, closing, -⟩
    · rw [opened] at nothing
      cases nothing
    · exact closing (sound.closing_long found quantity)
  have quantity := sound.booked_quantity bookable
  rw [sale, if_neg (by decide)] at quantity
  have positions : (session.bookFill viaLedger delta commission order).position other =
      if makePositionKey other defaultExchange = makePositionKey order.symbol defaultExchange then
        some (projectTrade ((session.position order.symbol).getD order.toTrade.opening) order.toTrade)
      else session.position other := by
    change (session.fillPipeline.record order).1.projector.positions.get (makePositionKey other defaultExchange) = _
    rw [recorded]
    exact Dict.get_set _ _ _ _
  rw [SimulationSession.hasPosition, positions]
  split
  · rw [Option.any_some, quantity]
    rfl
  · next apart =>
    rcases flat with flat | same
    · exact flat
    · exact absurd (congrArg (makePositionKey · defaultExchange) same) apart

/-- The bookings behind are among those later on. -/
theorem Books.earlier (books : Books viaLedger symbols reached after) : reached.booked <+: after.booked := by
  induction books with
  | refl => exact List.prefix_refl _
  | quiet _ quiet ih =>
    rw [quiet.booked]
    exact ih
  | book order delta commission _ _ ih => exact ih.trans (List.prefix_append _ _)

end SimulationSession

/-- The bookings of signals are bookings of the session. -/
structure SignalProcessorHooks.Settles (h : SignalProcessorHooks) (viaLedger : Bool) : Prop where
  buys : ∀ (symbols : List String) (session : SimulationSession) (bar : HistoricalBar) (signal : Signal) (price : ℚ)
    (quantity : ℤ) (barCount : Nat), bar.symbol ∈ symbols → 0 < quantity → session.hasPosition bar.symbol = false →
    session.BooksOnce viaLedger symbols bar.symbol
      (h.bookBuyFill session bar signal price quantity (simOpen bar.symbol barCount))
  sells : ∀ (symbols : List String) (session : SimulationSession) (bar : HistoricalBar) (signal : Signal)
    (view : PositionView) (price basePrice : ℚ) (barCount : Nat), bar.symbol ∈ symbols →
    session.view bar.symbol = some view → session.BooksOnce viaLedger symbols bar.symbol
      (h.bookSellFill session bar signal view price basePrice (simClose bar.symbol barCount))

/-- The bookings of exits are bookings of the session. -/
def PositionCloserHooks.Settles (h : PositionCloserHooks) (viaLedger : Bool) : Prop :=
  ∀ (symbols : List String) (session : SimulationSession) (symbol : String) (view : PositionView) (price timestamp : ℚ)
    (reason : String) (barCount : Nat), symbol ∈ symbols → ':' ∉ reason.toList → session.view symbol = some view →
    session.BooksOnce viaLedger symbols symbol
      (h.bookCloseFill session symbol view price timestamp reason (simClose symbol barCount))

namespace SimulationSession

variable {viaLedger : Bool} {symbols : List String} {session : SimulationSession} {symbol : String}

theorem clearPosition_quiet (session : SimulationSession) (symbol : String) :
    Quiet session (session.clearPosition symbol) := ⟨rfl, rfl, rfl, rfl, rfl, fun _ => rfl⟩

theorem recordEquity_quiet (session : SimulationSession) (timestamp : ℚ) :
    Quiet session (session.recordEquity timestamp) := ⟨rfl, rfl, rfl, rfl, rfl, fun _ => rfl⟩

/-- What the view of a symbol shows of its position. -/
theorem view_position {view : PositionView} (seen : session.view symbol = some view) : ∃ position,
    session.position symbol = some position ∧ position.quantity ≠ 0 ∧ view.quantity = |position.quantity| ∧
      view.entryPrice = position.avgPrice ∧ view.long = decide (0 < position.quantity) := by
  obtain ⟨position, kept, rfl⟩ := Option.map_eq_some_iff.mp seen
  obtain ⟨found, opened⟩ := Option.filter_eq_some_iff.mp kept
  exact ⟨position, found, of_decide_eq_true opened, rfl, rfl, rfl⟩

/-- An open position of a sound session is long. -/
theorem Sound.view_long {start : SimulationSession} (sound : Sound viaLedger symbols start session)
    {view : PositionView} (seen : session.view symbol = some view) : view.long = true ∧ 0 < view.quantity := by
  obtain ⟨position, found, opened, quantity, -, long⟩ := view_position seen
  have positive := sound.closing_long found opened
  rw [long, quantity]
  exact ⟨decide_eq_true positive, abs_pos.mpr opened⟩

end SimulationSession

/-- A property of sessions that the bookings of signals keep, and every step that moves neither cash nor
fills nor trades. -/
structure SignalProcessorHooks.Keeps (h : SignalProcessorHooks) (symbols : List String)
    (P : SimulationSession → Prop) : Prop where
  quiet : ∀ {session after : SimulationSession}, P session → SimulationSession.Quiet session after →
    after.trades = session.trades → P after
  buys : ∀ (session : SimulationSession) (bar : HistoricalBar) (signal : Signal) (price : ℚ) (quantity : ℤ)
    (barCount : Nat), P session → bar.symbol ∈ symbols → 0 < quantity → session.hasPosition bar.symbol = false →
    P (h.bookBuyFill session bar signal price quantity (simOpen bar.symbol barCount))
  sells : ∀ (session : SimulationSession) (bar : HistoricalBar) (signal : Signal) (view : PositionView)
    (price basePrice : ℚ) (barCount : Nat), P session → bar.symbol ∈ symbols → session.view bar.symbol = some view →
    P (h.bookSellFill session bar signal view price basePrice (simClose bar.symbol barCount))

/-- A property of sessions that the bookings of exits keep, and every step that moves neither cash nor fills
nor trades. -/
structure PositionCloserHooks.Keeps (h : PositionCloserHooks) (symbols : List String)
    (P : SimulationSession → Prop) : Prop where
  quiet : ∀ {session after : SimulationSession}, P session → SimulationSession.Quiet session after →
    after.trades = session.trades → P after
  closes : ∀ (session : SimulationSession) (symbol : String) (view : PositionView) (price timestamp : ℚ)
    (reason : String) (barCount : Nat), P session → symbol ∈ symbols → ':' ∉ reason.toList →
    session.view symbol = some view →
    P (h.bookCloseFill session symbol view price timestamp reason (simClose symbol barCount))

namespace SignalProcessorHooks.Keeps

variable {h : SignalProcessorHooks} {symbols : List String} {P : SimulationSession → Prop} {session : SimulationSession}

theorem process (keeps : h.Keeps symbols P) (signal : Signal) (bar : HistoricalBar) (fillPrice : Option ℚ)
    (known : bar.symbol ∈ symbols) (held : P session) : P (h.process signal bar session fillPrice) := by
  simp only [SignalProcessorHooks.process]
  split
  · exact held
  · split
    · next buys =>
      split
      · exact held
      · split
        · exact held
        · next sized =>
          exact keeps.buys session bar signal _ _ session.barCount held known (not_le.mp sized) buys.2
    · split
      · split
        · exact held
        · next view seen =>
          split
          · exact held
          · have sold := keeps.sells session bar signal view (fillPrice.getD bar.close * (1 - h.slippagePct bar / 100))
              (fillPrice.getD bar.close) session.barCount held known seen
            exact keeps.quiet sold (SimulationSession.clearPosition_quiet _ _) rfl
      · exact held

theorem processAll (keeps : h.Keeps symbols P) (signals : List Signal) (bar : HistoricalBar) (fillPrice : Option ℚ)
    (known : bar.symbol ∈ symbols) (held : P session) : P (h.processAll signals bar session fillPrice) := by
  induction signals generalizing session with
  | nil => exact held
  | cons signal rest ih => exact ih (keeps.process signal bar fillPrice known held)

theorem flushPending (keeps : h.Keeps symbols P) (pending : Dict String (List Signal))
    {lastBars : Dict String HistoricalBar} (known : ∀ key bar, lastBars.get key = some bar → bar.symbol ∈ symbols)
    (held : P session) : P (h.flushPending pending lastBars session) := by
  simp only [SignalProcessorHooks.flushPending]
  generalize pending.entries = entries
  induction entries generalizing session with
  | nil => exact held
  | cons entry rest ih =>
    rw [List.foldl_cons]
    apply ih
    split
    · exact held
    · next bar found => exact keeps.processAll entry.2 bar _ (known entry.1 bar found) held

end SignalProcessorHooks.Keeps

namespace PositionCloserHooks.Keeps

variable {h : PositionCloserHooks} {symbols : List String} {P : SimulationSession → Prop} {session : SimulationSession}

theorem close (keeps : h.Keeps symbols P) (symbol : String) (price timestamp : ℚ) {reason : String}
    (known : symbol ∈ symbols) (plain : ':' ∉ reason.toList) (held : P session) :
    P (h.close session symbol price timestamp reason) := by
  simp only [PositionCloserHooks.close]
  split
  · exact held
  · next view seen =>
    have closed := keeps.closes session symbol view price timestamp reason session.barCount held known plain seen
    exact keeps.quiet closed (SimulationSession.clearPosition_quiet _ _) rfl

theorem checkExits (keeps : h.Keeps symbols P) (bar : HistoricalBar) (known : bar.symbol ∈ symbols) (held : P session) :
    P (h.checkExits session bar) := by
  simp only [PositionCloserHooks.checkExits]
  split
  · exact held
  · split
    · exact keeps.close bar.symbol _ _ known (by decide) held
    · split
      · exact keeps.close bar.symbol _ _ known (by decide) held
      · exact held

end PositionCloserHooks.Keeps

namespace SimulationSession

variable {viaLedger : Bool} {symbols : List String} {start session : SimulationSession} {symbol : String}

/-- Whatever an engine books in a row is booked from where it starts. -/
theorem keeps_books {h : SignalProcessorHooks} (settles : h.Settles viaLedger) :
    h.Keeps symbols (Books viaLedger symbols start) where
  quiet books quiet _ := books.quiet quiet
  buys session bar signal price quantity barCount books known positive flat :=
    books.trans (settles.buys symbols session bar signal price quantity barCount known positive flat).books
  sells session bar signal view price basePrice barCount books known seen :=
    books.trans (settles.sells symbols session bar signal view price basePrice barCount known seen).books

theorem processAll_books {h : SignalProcessorHooks} (settles : h.Settles viaLedger) (signals : List Signal)
    (bar : HistoricalBar) (fillPrice : Option ℚ) (known : bar.symbol ∈ symbols) (session : SimulationSession) :
    Books viaLedger symbols session (h.processAll signals bar session fillPrice) :=
  (keeps_books settles).processAll signals bar fillPrice known .refl

end SimulationSession

end TradeX.V1
