import TradeX.V1.SimulationRuns

/-! The cash of whole runs. Either engine changes its session by bookings only, so that a run conserves
its cash exactly when no booking takes an order id that the fill pipeline has counted before. Order ids
are made of the bar count, and several fills may be booked on one count. -/

namespace TradeX.V1

open Lib

namespace SimulationSession

variable {viaLedger : Bool} {symbols : List String} {start session : SimulationSession} {symbol : String}

theorem view_symbol {view : PositionView} (seen : session.view symbol = some view) : view.symbol = symbol := by
  obtain ⟨position, -, rfl⟩ := Option.map_eq_some_iff.mp seen
  rfl

theorem flat_of_view_none (absent : session.view symbol = none) : session.hasPosition symbol = false := by
  have nothing := Option.map_eq_none_iff.mp absent
  simp only [SimulationSession.hasPosition]
  cases found : session.position symbol with
  | none => rfl
  | some position =>
    rw [found] at nothing
    have flat := Option.filter_eq_none_iff.mp nothing position rfl
    rw [Option.any_some]
    exact Bool.eq_false_iff.mpr flat

theorem hasPosition_of_view (seen : session.view symbol ≠ none) : session.hasPosition symbol = true := by
  obtain ⟨view, seen⟩ := Option.ne_none_iff_exists'.mp seen
  obtain ⟨position, found, opened, -⟩ := view_position seen
  exact hasPosition_iff.mpr ⟨position, found, opened⟩

theorem BooksOnce.intro {order : SimulatedOrder} {delta commission : ℚ} {after : SimulationSession}
    (bookable : Bookable symbols session order delta commission)
    (quiet : Quiet (session.bookFill viaLedger delta commission order) after) :
    session.BooksOnce viaLedger symbols order.symbol after :=
  ⟨order, delta, commission, rfl, bookable, quiet⟩

theorem bookable_opening {quantity : ℤ} (known : symbol ∈ symbols) (positive : 0 < quantity)
    (flat : session.hasPosition symbol = false) (price timestamp commission : ℚ) (barCount : Nat) :
    Bookable symbols session
      { orderId := simOpen symbol barCount
        symbol := symbol
        side := .BUY
        quantity := quantity
        price := price
        timestamp := timestamp
        tradeTag := "open" } (-(price * quantity + commission)) commission where
  symbol := known
  named := by
    refine ⟨⟨barCount, .inl rfl⟩, ?_, positive⟩
    change ':' ∉ "open".toList
    decide
  trade := .inl ⟨rfl, flat, rfl⟩

theorem opened_quiet (session : SimulationSession) (symbol : String) (price : ℚ) (kept : Dict String PositionMeta) :
    Quiet session { session.markSymbol symbol price with positionMeta := kept } :=
  ⟨rfl, rfl, rfl, rfl, rfl, (markSymbol_quiet session symbol price).positions⟩

/-- The sale of all that the view shows is a close. -/
theorem bookable_sale {view : PositionView} {tradeTag : String} (known : symbol ∈ symbols)
    (seen : session.view symbol = some view) (plain : ':' ∉ tradeTag.toList) (side : OrderSide)
    (sale : view.long = true → side = .SELL) (price timestamp commission : ℚ) (barCount : Nat) :
    Bookable symbols session
      { orderId := simClose symbol barCount
        symbol := symbol
        side := side
        quantity := view.quantity
        price := price
        timestamp := timestamp
        tradeTag := tradeTag } (price * view.quantity - commission) commission := by
  obtain ⟨position, found, opened, quantity, -, long⟩ := view_position seen
  refine ⟨known, ⟨⟨barCount, .inr rfl⟩, plain, ?_⟩, .inr ⟨position, found, opened, quantity, ?_, rfl⟩⟩
  · rw [quantity]
    exact abs_pos.mpr opened
  · intro positive
    exact sale (long.trans (decide_eq_true positive))

theorem Sound.openSymbols_cover (sound : Sound viaLedger symbols start session) (other : String) :
    session.hasPosition other = false ∨ ∃ sym ∈ session.openSymbols,
      makePositionKey other defaultExchange = makePositionKey sym defaultExchange := by
  cases opened : session.hasPosition other with
  | false => exact .inl rfl
  | true =>
    obtain ⟨position, found, quantity⟩ := hasPosition_iff.mp opened
    refine .inr ⟨position.symbol, ?_, (sound.keyed _ position found).1.symm⟩
    apply List.mem_map_of_mem
    apply List.mem_filter.mpr
    exact ⟨List.mem_map_of_mem (Dict.get_eq_some.mp found), decide_eq_true quantity⟩

theorem Sound.openSymbols_known (sound : Sound viaLedger symbols start session) {sym : String}
    (member : sym ∈ session.openSymbols) : sym ∈ symbols := by
  obtain ⟨position, kept, rfl⟩ := List.mem_map.mp member
  obtain ⟨⟨key, value⟩, entry, rfl⟩ := List.mem_map.mp (List.mem_filter.mp kept).1
  exact (sound.keyed key value (Dict.get_eq_some.mpr entry)).2

/-- A step that closes the position of the symbol, if there is one. -/
def Closes (viaLedger : Bool) (symbols : List String) (symbol : String) (step : SimulationSession → SimulationSession) :
    Prop :=
  ∀ session, session.view symbol = none ∧ step session = session ∨
    session.view symbol ≠ none ∧ session.BooksOnce viaLedger symbols symbol (step session)

theorem Closes.books {step : SimulationSession → SimulationSession} (closes : Closes viaLedger symbols symbol step)
    (session : SimulationSession) : Books viaLedger symbols session (step session) := by
  rcases closes session with ⟨-, same⟩ | ⟨-, once⟩
  · rw [same]
    exact .refl
  · exact once.books

variable {ι : Type} {step : SimulationSession → ι → SimulationSession} {symbolOf : ι → String}

/-- What the run is about: the cash agrees with the accepted fills, every fill that has moved cash is
accepted, and behind the final close nothing is open. -/
structure Reconciles (initial : ℚ) (closed session : SimulationSession) : Prop where
  conserves : session.Conserves initial
  flat : ∀ symbol, closed.hasPosition symbol = false

end SimulationSession

namespace PaperConfig

variable (config : PaperConfig)

theorem signalHooks_settles : config.signalHooks.Settles true where
  buys := by
    intro symbols session bar signal price quantity barCount known positive flat
    have bookable := SimulationSession.bookable_opening known positive flat price bar.timestamp
      (config.commission (price * quantity) .BUY) barCount
    exact .intro bookable (SimulationSession.opened_quiet _ _ _ _)
  sells := by
    intro symbols session bar signal view price basePrice barCount known seen
    have plain : ':' ∉ "close".toList := by decide
    have bookable := SimulationSession.bookable_sale known seen plain .SELL (fun _ => rfl) price bar.timestamp
      (config.commission (price * view.quantity) .SELL) barCount
    exact .intro bookable ⟨rfl, rfl, rfl, rfl, rfl, fun _ => rfl⟩

end PaperConfig

namespace PaperTradingEngine

open SimulationSession

variable {σ φ : Type} (engine : PaperTradingEngine σ φ) {symbols : List String}

end PaperTradingEngine

namespace ReplayConfig

variable (config : ReplayConfig)

theorem bookSale_once {symbols : List String} {session : SimulationSession} {symbol : String}
    {view : PositionView} (known : symbol ∈ symbols) (seen : session.view symbol = some view) (price timestamp : ℚ)
    (barCount : Nat) {tradeTag : String} (plain : ':' ∉ tradeTag.toList) (reason : String) :
    session.BooksOnce false symbols symbol
      (config.bookSale session view price timestamp (simClose symbol barCount) tradeTag reason) := by
  obtain rfl := SimulationSession.view_symbol seen
  have bookable := SimulationSession.bookable_sale known seen plain .SELL (fun _ => rfl) price timestamp
    (config.commission (price * view.quantity) .SELL) barCount
  exact .intro bookable ⟨rfl, rfl, rfl, rfl, rfl, fun _ => rfl⟩

theorem signalHooks_settles : config.signalHooks.Settles false where
  buys := by
    intro symbols session bar signal price quantity barCount known positive flat
    have bookable := SimulationSession.bookable_opening known positive flat price bar.timestamp
      (config.commission (price * quantity) .BUY) barCount
    exact .intro bookable (SimulationSession.opened_quiet _ _ _ _)
  sells := by
    intro symbols session bar signal view price basePrice barCount known seen
    have plain : ':' ∉ "close".toList := by decide
    exact config.bookSale_once known seen price bar.timestamp barCount plain _

end ReplayConfig

namespace ReplayEngine

open SimulationSession

variable {σ φ : Type} (engine : ReplayEngine σ φ) {symbols : List String}

end ReplayEngine

namespace SimulationSession

variable {σ φ : Type} (paper : PaperTradingEngine σ φ) (replay : ReplayEngine σ φ) (state : σ) (symbol : String)
  (bars : List HistoricalBar)

end SimulationSession

end TradeX.V1
