import TradeX.V1.SimulationMoves

/-! What the trades of a session tell of its cash. Every booking moves cash; the profit or loss of a trade is
taken from the average price of the position that it closes, less the commission of the close. What an opening
pays for its commission, and what moves under an order id that is used already, no trade tells. -/

namespace TradeX.V1

open Lib

namespace Booking

variable (booking : Booking)

/-- The average price of the position that the booking finds. -/
def entryPrice : ℚ :=
  ((booking.before.projector.positions.get (makePositionKey booking.order.symbol defaultExchange)).map
    Position.avgPrice).getD 0

/-- What the booking takes from the cash and no trade and no position shows: the commission of an opening, and
its whole price where its fill is not accepted; where the fill of a sale is not accepted, the position stays
and the trade has told of it already. -/
def untold : ℚ :=
  match booking.order.side with
  | .BUY => booking.commission + if booking.Unused then 0 else booking.order.quantity * booking.order.price
  | .SELL => if booking.Unused then 0 else -(booking.order.quantity * booking.entryPrice)

variable {booking}

theorem untold_buy (side : booking.order.side = .BUY) : booking.untold = booking.commission +
    if booking.before.filledByOrder.get booking.order.orderId = none then 0
    else booking.order.quantity * booking.order.price := by
  simp only [untold, side]
  exact congrArg (booking.commission + ·) (if_congr Iff.rfl rfl rfl)

theorem untold_sell (side : booking.order.side = .SELL) : booking.untold =
    if booking.before.filledByOrder.get booking.order.orderId = none then 0
    else -(booking.order.quantity * booking.entryPrice) := by
  simp only [untold, side]
  exact if_congr Iff.rfl rfl rfl

end Booking

namespace Position

variable (position : Position)

/-- What the shares of the position have cost. -/
def basis : ℚ := position.quantity * position.avgPrice

theorem basis_unmarked : position.unmarked.basis = position.basis := by
  simp only [basis, unmarked_quantity, unmarked_avgPrice]

theorem basis_flat (flat : position.quantity = 0) : position.basis = 0 := by
  simp only [basis, flat, Int.cast_zero, zero_mul]

end Position

namespace SimulationSession

/-- What all positions have cost. -/
def invested (session : SimulationSession) : ℚ :=
  (session.fillPipeline.projector.positions.values.map Position.basis).sum

/-- The cash that the fills have moved is what the trades tell, less what no trade tells and what is invested. -/
def Told (session : SimulationSession) : Prop :=
  (session.booked.map Booking.delta).sum = (session.trades.map SimulatedTrade.pnl).sum -
    (session.booked.map Booking.untold).sum - session.invested

variable {viaLedger : Bool} {symbols : List String} {start reached after session : SimulationSession}
  {order : SimulatedOrder} {delta commission : ℚ}

theorem Quiet.invested (quiet : Quiet reached after) : after.invested = reached.invested := by
  apply Dict.sum_values_congr
  intro key
  have basis : Position.basis = Position.basis ∘ Position.unmarked :=
    funext fun position => position.basis_unmarked.symm
  rw [basis, ← Option.map_map, ← Option.map_map, quiet.positions]

theorem Told.quiet (told : Told reached) (quiet : Quiet reached after) (trades : after.trades = reached.trades) :
    Told after := by
  simp only [Told, quiet.booked, trades, quiet.invested]
  exact told

/-- The basis of the order's symbol before its fill. -/
def basisBefore (session : SimulationSession) (order : SimulatedOrder) : ℚ :=
  ((session.position order.symbol).map Position.basis).getD 0

/-- The basis of the order's symbol behind its accepted fill. -/
def basisAfter (session : SimulationSession) (order : SimulatedOrder) : ℚ :=
  (projectTrade ((session.position order.symbol).getD order.toTrade.opening) order.toTrade).basis

theorem Sound.invested_book (sound : Sound viaLedger symbols start session)
    (bookable : Bookable symbols session order delta commission) :
    (session.bookFill viaLedger delta commission order).invested =
      if session.fillPipeline.filledByOrder.get order.orderId = none then
        session.invested - session.basisBefore order + session.basisAfter order
      else session.invested := by
  simp only [SimulationSession.invested, bookFill]
  split
  · next unused =>
    obtain ⟨fill, recorded, -⟩ := sound.tracks.record_unused bookable.named unused
    rw [recorded]
    exact Dict.sum_values_set Position.basis
  · next used => rw [sound.tracks.record_used bookable.named used]

theorem basis_opening (flat : session.hasPosition order.symbol = false) (side : order.side = .BUY) :
    session.basisBefore order = 0 ∧ session.basisAfter order = order.quantity * order.price := by
  have nothing : ∀ position, session.position order.symbol = some position → position.quantity = 0 := by
    intro position found
    simpa [hasPosition, found] using flat
  have empty : ((session.position order.symbol).getD order.toTrade.opening).quantity = 0 := by
    cases found : session.position order.symbol with
    | none => rfl
    | some position => exact nothing position found
  constructor
  · simp only [basisBefore]
    cases found : session.position order.symbol with
    | none => rfl
    | some position => exact position.basis_flat (nothing position found)
  · have delta : order.toTrade.delta = order.quantity := by
      rw [SimulatedOrder.toTrade_delta, SimulatedOrder.signed, side]
    simp only [basisAfter, Position.basis, projectTrade, Position.withFill, Position.computeAvgPrice, empty, if_true,
      zero_add, delta]
    rfl

theorem Sound.basis_close (sound : Sound viaLedger symbols start session)
    (bookable : Bookable symbols session order delta commission) {view : PositionView}
    (seen : session.view order.symbol = some view) (quantity : order.quantity = view.quantity)
    (side : order.side = .SELL) :
    session.basisBefore order = order.quantity * view.entryPrice ∧ session.basisAfter order = 0 := by
  obtain ⟨position, found, opened, size, entry, -⟩ := view_position seen
  have long := sound.closing_long found opened
  constructor
  · rw [basisBefore, found, Option.map_some, Option.getD_some, Position.basis, quantity, size, abs_of_pos long, entry]
  · apply Position.basis_flat
    rw [sound.booked_quantity bookable, side]
    rfl

/-- An opening leaves out its commission, and its price where it is not accepted. -/
theorem Told.opened (told : Told session) (sound : Sound viaLedger symbols start session)
    (bookable : Bookable symbols session order delta commission) (flat : session.hasPosition order.symbol = false)
    (side : order.side = .BUY) : Told (session.bookFill viaLedger delta commission order) := by
  have cost := sound.delta_cost bookable
  obtain ⟨before, behind⟩ := basis_opening flat side
  have invested := sound.invested_book bookable
  rw [before, behind, sub_zero] at invested
  simp only [SimulatedOrder.signed, side] at cost
  simp only [Told] at told
  simp only [Told, invested]
  simp only [bookFill, List.map_append, List.sum_append, List.map_cons, List.map_nil, List.sum_singleton]
  rw [Booking.untold_buy side]
  dsimp only
  split
  · rw [told, cost]
    ring
  · rw [told, cost]
    ring

/-- The trade of a sale tells all that the sale moves, where it is accepted. -/
theorem Told.sold (told : Told session) (sound : Sound viaLedger symbols start session)
    (bookable : Bookable symbols session order delta commission) {view : PositionView}
    (seen : session.view order.symbol = some view) (quantity : order.quantity = view.quantity)
    (side : order.side = .SELL) {trade : SimulatedTrade}
    (quiet : Quiet (session.bookFill viaLedger delta commission order) after)
    (trades : after.trades = session.trades ++ [trade])
    (pnl : trade.pnl = (order.price - view.entryPrice) * order.quantity - commission) : Told after := by
  have cost := sound.delta_cost bookable
  obtain ⟨before, behind⟩ := sound.basis_close bookable seen quantity side
  have invested := sound.invested_book bookable
  rw [before, behind, add_zero] at invested
  obtain ⟨position, found, -, -, entry, -⟩ := view_position seen
  have price : Booking.entryPrice ⟨order, delta, commission, session.fillPipeline,
      (session.fillPipeline.record order).2⟩ = view.entryPrice := by
    have here : session.fillPipeline.projector.positions.get (makePositionKey order.symbol defaultExchange) =
        some position := found
    rw [Booking.entryPrice, here, entry]
    rfl
  simp only [SimulatedOrder.signed, side, Int.cast_neg] at cost
  simp only [Told] at told
  simp only [Told, quiet.invested, quiet.booked, trades, invested]
  simp only [bookFill, List.map_append, List.sum_append, List.map_cons, List.map_nil, List.sum_singleton, pnl]
  rw [Booking.untold_sell side, price]
  dsimp only
  split
  · rw [told, cost]
    ring
  · rw [told, cost]
    ring

/-- What an engine comes to is sound, and its trades tell what they have to. -/
def Accounts (viaLedger : Bool) (symbols : List String) (start session : SimulationSession) : Prop :=
  Sound viaLedger symbols start session ∧ Told session

/-- One step of an engine keeps what the trades tell. -/
theorem told_kept : Kept viaLedger symbols start Told := by
  intro session after sound told moves
  cases moves with
  | rests quiet trades => exact told.quiet quiet trades
  | opens bookable flat side _ quiet trades => exact (told.opened sound bookable flat side).quiet quiet trades
  | sells bookable seen quantity side _ quiet trades pnl _ =>
    exact told.sold sound bookable seen quantity side quiet trades pnl

/-- Where nothing is open, nothing is invested. -/
theorem Sound.invested_flat (sound : Sound viaLedger symbols start session)
    (flat : ∀ symbol, session.hasPosition symbol = false) : session.invested = 0 := by
  apply List.sum_eq_zero
  intro basis member
  obtain ⟨position, held, rfl⟩ := List.mem_map.mp member
  obtain ⟨⟨key, value⟩, entry, rfl⟩ := List.mem_map.mp held
  apply Position.basis_flat
  have found := Dict.get_eq_some.mpr entry
  have nothing := flat value.symbol
  simpa [hasPosition, position, (sound.keyed key value found).1, found] using nothing

theorem told_new (capital ledger : ℚ) (curve : List (ℚ × ℚ)) (peak : ℚ) :
    Told { capital := capital, ledger := ledger, equityCurve := curve, peakEquity := peak } := by
  change (0 : ℚ) = 0 - 0 - 0
  norm_num

end SimulationSession

open SimulationSession

namespace SimulationRun

variable {σ φ : Type} (run : SimulationRun σ φ)

theorem final_accounts : Accounts run.viaLedger run.symbols run.start run.final := run.final_kept told_kept told_new

/-- The cash that the bookings of the run move on from: in the paper engine the ledger's, once anything is
booked, and else the session's. -/
def openingCash : ℚ := if run.viaLedger ∧ run.final.booked ≠ [] then run.start.ledger else run.start.capital

theorem final_capital : run.final.capital = run.openingCash + (run.final.booked.map Booking.delta).sum := by
  obtain ⟨sound, -⟩ := run.final_accounts
  rw [sound.capital, openingCash]
  split
  · next via => rw [sound.ledger, if_pos via.1]
  · rfl

/-- In a run that leaves nothing open, the trades tell what the run has made of its initial capital exactly
where what the bookings leave untold adds up to what the cash that they move on from has more than it. -/
theorem trade_pnl_reconciles_iff (flat : ∀ symbol, run.final.hasPosition symbol = false) :
    run.final.capital - run.initialCapital = (run.final.trades.map SimulatedTrade.pnl).sum ↔
      (run.final.booked.map Booking.untold).sum = run.openingCash - run.initialCapital := by
  obtain ⟨sound, told⟩ := run.final_accounts
  have capital := run.final_capital
  rw [told, sound.invested_flat flat] at capital
  rw [capital]
  constructor
  · intro reconciles
    linarith only [reconciles]
  · intro balanced
    linarith only [balanced]

/-- Where no order id is used again, what no trade tells are the commissions of the openings. -/
theorem untold_of_unused (unused : ∀ booking ∈ run.final.booked, booking.Unused) :
    (run.final.booked.map Booking.untold).sum =
      ((run.final.booked.filter fun booking => booking.order.side = .BUY).map Booking.commission).sum := by
  generalize run.final.booked = booked at unused
  induction booked with
  | nil => rfl
  | cons booking rest ih =>
    have fresh : booking.before.filledByOrder.get booking.order.orderId = none := unused booking List.mem_cons_self
    have later := ih fun other member => unused other (List.mem_cons_of_mem _ member)
    rw [List.map_cons, List.sum_cons, later]
    cases side : booking.order.side with
    | BUY =>
      rw [Booking.untold_buy side, if_pos fresh, add_zero, List.filter_cons_of_pos (by simpa using side), List.map_cons,
        List.sum_cons]
    | SELL =>
      rw [Booking.untold_sell side, if_pos fresh, zero_add, List.filter_cons_of_neg (by simp [side])]

theorem flat_of_openSymbols (none_open : run.final.openSymbols = []) (symbol : String) :
    run.final.hasPosition symbol = false := by
  rcases run.final_accounts.1.openSymbols_cover symbol with flat | ⟨sym, member, -⟩
  · exact flat
  · rw [none_open] at member
    cases member

/-- A replay that buys on the first bar and sells on the second, at a flat commission. -/
def inAndOut (commission : ℕ) : SimulationRun Unit ℚ :=
  .replaySingle
    { config :=
        { initialCapital := 1000
          maxPositionPct := 50
          slippagePct := 0
          commissionFlat := commission
          fillModel := .CURRENT_CLOSE
          warmupBars := 0
          windowSize := 0
          slippage_nonneg := ReplayConfig.no_cost
          position_pos := by norm_num
          warmup_nonneg := ReplayConfig.no_warmup
          commission_nonneg := Nat.cast_nonneg commission }
      research :=
        { features := fun window => window.getLast?.map HistoricalBar.timestamp
          evaluateSingle := fun _ symbol _ timestamp =>
            ([{ symbol := symbol, signalType := if timestamp = 1 then .BUY else .SELL }], ()) } }
    () "RELIANCE" [⟨"RELIANCE", 1, 100, 101, 99, 100, 10⟩, ⟨"RELIANCE", 2, 110, 111, 109, 110, 10⟩]

theorem trade_pnl_reconciles_iff_free :
    (inAndOut 0).final.capital - 1000 = ((inAndOut 0).final.trades.map SimulatedTrade.pnl).sum ↔
      ((inAndOut 0).final.booked.map Booking.untold).sum = (inAndOut 0).openingCash - 1000 :=
  (inAndOut 0).trade_pnl_reconciles_iff ((inAndOut 0).flat_of_openSymbols (by decide +kernel))

/-- At a commission of 10 the cash has grown by 30 and the only trade tells 40. -/
theorem opening_commission_untold : ¬ ∀ run : SimulationRun Unit ℚ,
    (∀ symbol, run.final.hasPosition symbol = false) →
      run.final.capital - run.initialCapital = (run.final.trades.map SimulatedTrade.pnl).sum := by
  intro claim
  have flat := (inAndOut 10).flat_of_openSymbols (by decide +kernel)
  have capital : (inAndOut 10).final.capital - 1000 = 30 := by decide +kernel
  have told : ((inAndOut 10).final.trades.map SimulatedTrade.pnl).sum = 40 := by decide +kernel
  have same := claim (inAndOut 10) flat
  rw [told] at same
  have both : (30 : ℚ) = 40 := capital.symm.trans same
  norm_num at both

end SimulationRun

end TradeX.V1
