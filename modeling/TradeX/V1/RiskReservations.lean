import TradeX.V1.OrderStore

/-! The pending exposure that the risk manager reserves when a check passes, reduces on fills and
releases, over runs of an order manager with a risk manager. -/

namespace TradeX.V1

open Lib

/-- `resolve_effective_price`. -/
def resolveEffectivePrice (orderPrice : ℚ) (refPrice : Option ℚ) : Option ℚ :=
  if 0 < orderPrice then some orderPrice else refPrice.filter fun ref => 0 < ref

/-- `resolve_multiplier`. -/
def resolveMultiplier : Option ℚ → ℚ
  | none => 1
  | some multiplier => if 0 < multiplier then multiplier else 1

/-- `effective_notional`. -/
def effectiveNotional (quantity orderPrice : ℚ) (refPrice multiplier : Option ℚ) : Option ℚ :=
  (resolveEffectivePrice orderPrice refPrice).map fun price =>
    |(Decimal.toInt quantity : ℚ)| * price * resolveMultiplier multiplier

theorem effectiveNotional_nonneg {quantity orderPrice notional : ℚ} {refPrice multiplier : Option ℚ}
    (sized : effectiveNotional quantity orderPrice refPrice multiplier = some notional) : 0 ≤ notional := by
  obtain ⟨price, priced, rfl⟩ := Option.map_eq_some_iff.mp sized
  have positive : 0 < price := by
    unfold resolveEffectivePrice at priced
    split at priced
    · next given =>
      cases priced
      exact given
    · exact of_decide_eq_true (Option.filter_eq_some_iff.mp priced).2
  have factor : 0 < resolveMultiplier multiplier := by
    unfold resolveMultiplier
    split
    · exact one_pos
    · split
      · next given => exact given
      · exact one_pos
  positivity

/-- `_PENDING_TTL_SECONDS`. -/
def pendingTtlSeconds : ℚ := 600

structure MarginChecker where
  pendingByCorrelation : Dict String ℚ := ∅
  pendingMeta : Dict String (String × String) := ∅
  pendingAt : Dict String ℚ := ∅

/-- What the risk manager meets in one check beside the reservations: the reasons of the policies in
front of the sizing, the market context, the exposure limits over the pending amounts of the symbol
and of the book and the notional, and the reason behind them. -/
structure RiskAnswers where
  now : ℚ
  early : Option String := none
  refPrice : Option ℚ := none
  multiplier : Option ℚ := none
  limits : ℚ → ℚ → ℚ → Option String := fun _ _ _ => none
  late : Option String := none

namespace MarginChecker

variable (margin : MarginChecker)

/-- The three entries of a correlation id are dropped together. -/
def drop (correlationId : String) : MarginChecker where
  pendingByCorrelation := margin.pendingByCorrelation.pop correlationId
  pendingMeta := margin.pendingMeta.pop correlationId
  pendingAt := margin.pendingAt.pop correlationId

/-- The reservations older than the TTL. -/
def expired (now : ℚ) : List String :=
  (margin.pendingAt.entries.filter fun entry => pendingTtlSeconds ≤ now - entry.2).map Prod.fst

/-- `_sweep_expired`. -/
def sweepExpired (now : ℚ) : MarginChecker := (margin.expired now).foldl drop margin

/-- `release_pending`. -/
def releasePending : Option String → MarginChecker
  | none => margin
  | some correlationId => if correlationId = "" then margin else margin.drop correlationId

/-- The pending exposure held for the correlation id. -/
def held (correlationId : String) : ℚ := (margin.pendingByCorrelation.get correlationId).getD 0

/-- `reduce_pending`. -/
def reducePending (correlationId : String) (filledQuantity : ℤ) (price : ℚ) : MarginChecker :=
  if correlationId = "" then margin
  else
    let newPending := max 0 (margin.held correlationId - filledQuantity * price)
    if newPending ≤ 0 then margin.drop correlationId
    else { margin with pendingByCorrelation := margin.pendingByCorrelation.set correlationId newPending }

/-- `reserve_pending`. -/
def reservePending (order : Order) (notional now : ℚ) : MarginChecker :=
  let swept := margin.sweepExpired now
  match order.filedUnder with
  | none => swept
  | some correlationId => {
      pendingByCorrelation := swept.pendingByCorrelation.set correlationId notional
      pendingMeta := swept.pendingMeta.set correlationId (order.symbol, order.exchange)
      pendingAt := swept.pendingAt.set correlationId now }

/-- The sum of `pending_gross`, behind its sweep. -/
def pendingGross : ℚ := margin.pendingByCorrelation.values.sum

/-- The sum of `pending_symbol_notional`, behind its sweep. -/
def pendingSymbolNotional (symbol exchange : String) : ℚ :=
  ((margin.pendingMeta.entries.filter fun entry => entry.2 = (symbol, exchange)).map fun entry =>
    margin.held entry.1).sum

/-- `RiskManager.check_order`, with the notional that it reserves or the reason of the rejection. -/
def checkOrder (order : Order) (answers : RiskAnswers) : MarginChecker × Except String ℚ :=
  match answers.early with
  | some reason => (margin, .error reason)
  | none =>
    match effectiveNotional order.quantity order.price answers.refPrice answers.multiplier with
    | none => (margin, .error ("Cannot size risk for " ++ order.symbol ++
        ": no limit/ref price (MARKET orders require LTP/ref price)"))
    | some notional =>
      let swept := margin.sweepExpired answers.now
      match answers.limits (swept.pendingSymbolNotional order.symbol order.exchange) swept.pendingGross
          notional with
      | some reason => (swept, .error reason)
      | none =>
        match answers.late with
        | some reason => (swept, .error reason)
        | none => (swept.reservePending order notional answers.now, .ok notional)

variable {margin} {swept : MarginChecker} {order : Order} {answers : RiskAnswers}
  {correlationId other : String} {notional now price : ℚ} {filledQuantity : ℤ}

theorem drop_held : (margin.drop correlationId).held other =
    if other = correlationId then 0 else margin.held other := by
  unfold held drop
  rw [Dict.get_pop]
  split <;> rfl

/-- The second checker is the first after sweeps up to the time. -/
structure Sweeps (margin swept : MarginChecker) (now : ℚ) : Prop where
  held : ∀ correlationId, swept.held correlationId = margin.held correlationId ∨
    swept.held correlationId = 0 ∧ ∃ started, margin.pendingAt.get correlationId = some started ∧
      pendingTtlSeconds ≤ now - started
  started : ∀ correlationId started, swept.pendingAt.get correlationId = some started →
    margin.pendingAt.get correlationId = some started

theorem Sweeps.refl (margin : MarginChecker) (now : ℚ) : Sweeps margin margin now :=
  ⟨fun _ => .inl rfl, fun _ _ found => found⟩

theorem Sweeps.trans {last : MarginChecker} (first : Sweeps margin swept now) (second : Sweeps swept last now) :
    Sweeps margin last now := by
  constructor
  · intro correlationId
    rcases second.held correlationId with kept | ⟨zero, started, found, old⟩
    · rcases first.held correlationId with same | ⟨zero, expired⟩
      · exact .inl (kept.trans same)
      · exact .inr ⟨kept.trans zero, expired⟩
    · exact .inr ⟨zero, started, first.started _ _ found, old⟩
  · intro correlationId started found
    exact first.started _ _ (second.started _ _ found)

theorem sweepExpired_sweeps (margin : MarginChecker) (now : ℚ) : Sweeps margin (margin.sweepExpired now) now := by
  have dropped : ∀ (ids : List String) (reached : MarginChecker), Sweeps margin reached now →
      (∀ id ∈ ids, ∃ started, margin.pendingAt.get id = some started ∧ pendingTtlSeconds ≤ now - started) →
      Sweeps margin (ids.foldl drop reached) now := by
    intro ids
    induction ids with
    | nil => exact fun reached sweeps _ => sweeps
    | cons id rest ih =>
      intro reached sweeps old
      refine ih _ ⟨fun other => ?_, fun other started found => ?_⟩ fun later member =>
        old later (List.mem_cons_of_mem _ member)
      · rw [drop_held]
        split
        · next same =>
          subst same
          exact .inr ⟨rfl, old other List.mem_cons_self⟩
        · exact sweeps.held other
      · change (reached.pendingAt.pop id).get other = some started at found
        rw [Dict.get_pop] at found
        split at found
        · cases found
        · exact sweeps.started other started found
  refine dropped _ margin (.refl margin now) fun id member => ?_
  obtain ⟨entry, listed, rfl⟩ := List.mem_map.mp member
  obtain ⟨present, old⟩ := List.mem_filter.mp listed
  exact ⟨entry.2, Dict.get_eq_some.mpr present, of_decide_eq_true old⟩

theorem releasePending_held (named : correlationId ≠ "") : (margin.releasePending (some correlationId)).held other =
    if other = correlationId then 0 else margin.held other := by
  unfold releasePending
  dsimp only
  rw [if_neg named, drop_held]

theorem reducePending_held (named : correlationId ≠ "") :
    (margin.reducePending correlationId filledQuantity price).held other =
      if other = correlationId then max 0 (margin.held correlationId - filledQuantity * price)
      else margin.held other := by
  unfold reducePending
  dsimp only
  rw [if_neg named]
  split
  · next spent =>
    rw [drop_held]
    split
    · exact le_antisymm (le_max_left _ _) spent
    · rfl
  · unfold held
    rw [Dict.get_set]
    split <;> rfl

theorem reducePending_started {started : ℚ}
    (found : (margin.reducePending correlationId filledQuantity price).pendingAt.get other = some started) :
    margin.pendingAt.get other = some started := by
  unfold reducePending at found
  dsimp only at found
  split at found
  · exact found
  · split at found
    · change (margin.pendingAt.pop correlationId).get other = some started at found
      rw [Dict.get_pop] at found
      split at found
      · cases found
      · exact found
    · exact found

theorem releasePending_started {started : ℚ} {released : Option String}
    (found : (margin.releasePending released).pendingAt.get other = some started) :
    margin.pendingAt.get other = some started := by
  unfold releasePending at found
  split at found
  · exact found
  · next correlationId =>
    split at found
    · exact found
    · change (margin.pendingAt.pop correlationId).get other = some started at found
      rw [Dict.get_pop] at found
      split at found
      · cases found
      · exact found

/-- What a check does to the reservations: it sweeps, and when it passes the order's notional is
reserved behind the sweep. -/
inductive Checks (margin : MarginChecker) (order : Order) (now : ℚ) : MarginChecker → Except String ℚ → Prop where
  | rejected (swept : MarginChecker) (reason : String) : Sweeps margin swept now →
      Checks margin order now swept (.error reason)
  | passed (swept after : MarginChecker) (notional : ℚ) : 0 ≤ notional → Sweeps margin swept now →
      (∀ id, after.held id = if order.filedUnder = some id then notional else swept.held id) →
      (∀ id, after.pendingAt.get id = if order.filedUnder = some id then some now else swept.pendingAt.get id) →
      Checks margin order now after (.ok notional)

theorem checkOrder_checks (margin : MarginChecker) (order : Order) (answers : RiskAnswers) :
    Checks margin order answers.now (margin.checkOrder order answers).1 (margin.checkOrder order answers).2 := by
  unfold checkOrder
  split
  · exact .rejected _ _ (.refl _ _)
  · split
    · exact .rejected _ _ (.refl _ _)
    · next notional sized =>
      have first := sweepExpired_sweeps margin answers.now
      dsimp only
      split
      · exact .rejected _ _ first
      · split
        · exact .rejected _ _ first
        · have sweeps := first.trans (sweepExpired_sweeps _ answers.now)
          refine .passed _ _ notional (effectiveNotional_nonneg sized) sweeps (fun id => ?_) fun id => ?_
          · unfold reservePending
            cases order.filedUnder with
            | none => rfl
            | some correlationId =>
              unfold held
              dsimp only
              rw [Dict.get_set]
              by_cases same : id = correlationId
              · subst same
                rw [if_pos rfl, if_pos rfl, Option.getD_some]
              · rw [if_neg same, if_neg fun equal => same (Option.some.inj equal).symm]
          · unfold reservePending
            cases order.filedUnder with
            | none => rfl
            | some correlationId =>
              dsimp only
              rw [Dict.get_set]
              by_cases same : id = correlationId
              · subst same
                rw [if_pos rfl, if_pos rfl]
              · rw [if_neg same, if_neg fun equal => same (Option.some.inj equal).symm]

end MarginChecker

/-- The part of the order that is not filled. -/
def Order.unfilled (order : Order) : ℚ := 1 - order.filledQuantity / order.quantity

/-- The order is open and nothing of it is filled. -/
def Order.Untouched (order : Order) : Prop := order.status.isTerminal = false ∧ order.filledQuantity = 0

instance (order : Order) : Decidable order.Untouched := inferInstanceAs (Decidable (_ ∧ _))

/-- What was reserved for a correlation id, and when. -/
structure Reservation where
  amount : ℚ
  started : ℚ
  deriving DecidableEq

/-- The exposure held for the order is what the claim on it says: the unfilled part of the
reservation while it is open and within the TTL, and nothing once it is terminal. -/
def Reservation.Matches (reservation : Reservation) (held clock : ℚ) (order : Order) : Prop :=
  (order.status.isTerminal = true → held = 0) ∧
  (order.status.isTerminal = false → clock - reservation.started < pendingTtlSeconds →
    held = reservation.amount * order.unfilled)

instance (reservation : Reservation) (held clock : ℚ) (order : Order) :
    Decidable (reservation.Matches held clock order) :=
  inferInstanceAs (Decidable (_ ∧ _))

/-- Time and sweeps that do not reach into the TTL keep the match. -/
theorem Reservation.Matches.later {reservation : Reservation} {held clock heldLater later : ℚ} {order : Order}
    (fits : reservation.Matches held clock order) (passes : clock ≤ later)
    (keeps : heldLater = held ∨ heldLater = 0 ∧ pendingTtlSeconds ≤ later - reservation.started) :
    reservation.Matches heldLater later order := by
  constructor
  · intro terminal
    rcases keeps with same | ⟨zero, -⟩
    · exact same.trans (fits.1 terminal)
    · exact zero
  · intro openOrder within
    rcases keeps with same | ⟨-, old⟩
    · rw [same]
      exact fits.2 openOrder (lt_of_le_of_lt (sub_le_sub_right passes _) within)
    · exact absurd within (not_lt.mpr old)

namespace OrderBook

variable (book : OrderBook)

/-- The index files an order of the id under the correlation id. -/
def refers (correlationId orderId : String) : Bool :=
  decide ((book.byCorrelation.get correlationId).map Order.orderId = some orderId)

/-- The order of the correlation id, as the book holds it. -/
def orderOf (correlationId : String) : Option Order :=
  (book.byCorrelation.get correlationId).bind fun filed => book.orders.get filed.orderId

/-- Every order of the index is in the book. -/
def Filed : Prop :=
  ∀ correlationId filed, book.byCorrelation.get correlationId = some filed →
    ∃ order, book.orders.get filed.orderId = some order

variable {book} {order : Order} {correlationId orderId : String}

theorem store_byCorrelation : (book.store order).byCorrelation.get correlationId =
    if order.filedUnder = some correlationId then some order else book.byCorrelation.get correlationId := by
  unfold store
  cases order.filedUnder with
  | none => rfl
  | some filedId =>
    refine (Dict.get_set ..).trans ?_
    by_cases same : correlationId = filedId
    · subst same
      rw [if_pos rfl, if_pos rfl]
    · rw [if_neg same, if_neg fun equal => same (Option.some.inj equal).symm]
      rfl

/-- A stored order is the one of the ids that it is filed under or that already refer to it. -/
theorem store_orderOf : (book.store order).orderOf correlationId =
    if order.filedUnder = some correlationId ∨ book.refers correlationId order.orderId = true then some order
    else book.orderOf correlationId := by
  unfold orderOf refers
  rw [store_byCorrelation]
  by_cases filed : order.filedUnder = some correlationId
  · rw [if_pos filed, if_pos (.inl filed), Option.bind_some, store_get, if_pos rfl]
  · rw [if_neg filed]
    cases found : book.byCorrelation.get correlationId with
    | none => simp [filed]
    | some earlier =>
      simp only [Option.bind_some, store_get, Option.map_some, Option.some.injEq, decide_eq_true_eq, filed, false_or]

theorem Filed.store (filed : book.Filed) : (book.store order).Filed := by
  intro correlationId earlier found
  rw [store_byCorrelation] at found
  simp only [store_get]
  split at found
  · cases found
    exact ⟨order, if_pos rfl⟩
  · split
    · exact ⟨order, rfl⟩
    · exact filed correlationId earlier found

end OrderBook

/-- An order manager with the reservations of its risk manager, the clock, and the last reservation
that was made for each correlation id. -/
structure RiskedManager (cache : TTLCache.{0, v} Nat) where
  manager : OrderManager cache
  margin : MarginChecker := {}
  clock : ℚ := 0
  reserved : Dict String Reservation := ∅

/-- The operations of an order manager with a risk manager. Reading the pending exposure sweeps. -/
inductive RiskedOperation where
  | checkOrder (order : Order) (risk : RiskAnswers)
  | pendingGross (now : ℚ)
  | placeOrder (request : OmsOrderCommand) (answers : OrderManager.PlaceAnswers) (risk : RiskAnswers)
  | upsertOrder (order : Order) (now : ℚ)
  | recordTrade (trade : Trade) (now : ℚ)
  | cancelOrder (orderId : String) (blocked : Option String) (answer : Option OrderManager.BrokerAnswer)
  | modifyOrder (request : OrderManager.ModifyOrderRequest) (blocked : Option String)
      (answer : Option OrderManager.BrokerAnswer)

namespace RiskedManager

variable {cache : TTLCache.{0, v} Nat} (risked : RiskedManager cache)

/-- The reservations with the one that the check made. -/
def noted (order : Order) (now : ℚ) : Except String ℚ → Dict String Reservation
  | .error _ => risked.reserved
  | .ok amount =>
    match order.filedUnder with
    | none => risked.reserved
    | some correlationId => risked.reserved.set correlationId ⟨amount, now⟩

/-- `check_order`. -/
def checkOrder (order : Order) (risk : RiskAnswers) : RiskedManager cache :=
  let checked := risked.margin.checkOrder order risk
  { risked with
    margin := checked.1
    clock := risk.now
    reserved := risked.noted order risk.now checked.2 }

/-- The reason that a check gives to the validator. -/
def reason : Except String ℚ → Option String
  | .error reason => some reason
  | .ok _ => none

/-- `place_order`: the risk manager is asked behind the idempotency guard and the gate, and a placement
that is turned down behind the guard releases the reservation. -/
def placeOrder (request : OmsOrderCommand) (answers : OrderManager.PlaceAnswers) (risk : RiskAnswers) :
    RiskedManager cache :=
  let free := (risked.manager.checkAndReserve request.correlationId answers.now answers.durable).2 = none
  if free ∧ answers.gate = none then
    let order := OrderManager.builtOrder request answers.orderId
    let checked := risked.margin.checkOrder order risk
    let asked := { answers with risk := reason checked.2 }
    { manager := (risked.manager.placeOrder request asked).1
      margin := if risked.manager.placedOrder request asked = none then
          checked.1.releasePending (some request.correlationId) else checked.1
      clock := risk.now
      reserved := risked.noted order risk.now checked.2 }
  else
    { risked with
      manager := (risked.manager.placeOrder request answers).1
      margin := if free then risked.margin.releasePending (some request.correlationId) else risked.margin
      clock := risk.now }

/-- The release behind a read of `is_terminal`. -/
def releaseTerminal (margin : MarginChecker) (order : Order) : MarginChecker :=
  match order.status.readIsTerminal with
  | .ok true => margin.releasePending order.correlationId
  | _ => margin

/-- `upsert_order`. -/
def upsertOrder (order : Order) (now : ℚ) : RiskedManager cache :=
  let upserted := risked.manager.upsertOrder order now
  { risked with
    manager := upserted.1
    margin := if upserted.2.2 = none then releaseTerminal risked.margin order else risked.margin }

/-- `record_trade`. -/
def recordTrade (trade : Trade) (now : ℚ) : RiskedManager cache :=
  let recorded := risked.manager.recordTrade trade now
  { risked with
    manager := recorded.1
    margin :=
      if recorded.2.accepted = true then
        match recorded.1.book.orders.get trade.orderId with
        | none => risked.margin
        | some order =>
          match order.filedUnder with
          | none => risked.margin
          | some correlationId => releaseTerminal
              (risked.margin.reducePending correlationId (Decimal.toInt trade.quantity) trade.price) order
      else risked.margin }

/-- One operation. The clock does not run backwards, and the id drawn for a placement is new. -/
def step : RiskedOperation → Option (RiskedManager cache)
  | .checkOrder order risk => if risk.now < risked.clock then none else some (risked.checkOrder order risk)
  | .pendingGross now =>
    if now < risked.clock then none
    else some { risked with margin := risked.margin.sweepExpired now, clock := now }
  | .placeOrder request answers risk =>
    if risk.now < risked.clock ∨ risked.manager.book.orders.contains answers.orderId = true then none
    else some (risked.placeOrder request answers risk)
  | .upsertOrder order now => some (risked.upsertOrder order now)
  | .recordTrade trade now => some (risked.recordTrade trade now)
  | .cancelOrder orderId blocked answer =>
    some { risked with manager := (risked.manager.cancelOrder orderId blocked answer).1 }
  | .modifyOrder request blocked answer =>
    some { risked with manager := (risked.manager.modifyOrder request blocked answer).1 }

/-- The exposure held for each reserved correlation id follows its order. -/
def Proportional : Prop :=
  ∀ correlationId reservation order, risked.reserved.get correlationId = some reservation →
    risked.manager.book.orderOf correlationId = some order →
    reservation.Matches (risked.margin.held correlationId) risked.clock order

/-- The exposure held for the correlation id is what the order leaves of the reservation. -/
def Fits (correlationId : String) (order : Order) : Prop :=
  ∀ reservation ∈ risked.reserved.get correlationId,
    reservation.Matches (risked.margin.held correlationId) risked.clock order

instance (correlationId : String) (order : Order) : Decidable (risked.Fits correlationId order) :=
  inferInstanceAs (Decidable (∀ _ ∈ _, _))

/-- The fill is taken off at the reserved price: its notional without the multiplier is the filled part
of the reservation while the order stays open, and all that is still held when the fill completes it. -/
def Pays (correlationId : String) (order : Order) (trade : Trade) : Prop :=
  ∀ reservation ∈ risked.reserved.get correlationId,
    if order.quantity ≤ order.filledQuantity + trade.quantity then
      risked.margin.held correlationId ≤ Decimal.toInt trade.quantity * trade.price
    else risked.clock - reservation.started < pendingTtlSeconds →
      Decimal.toInt trade.quantity * trade.price = reservation.amount * (trade.quantity / order.quantity)

instance (correlationId : String) (order : Order) (trade : Trade) :
    Decidable (risked.Pays correlationId order trade) :=
  inferInstanceAs (Decidable (∀ _ ∈ _, _))

/-- Whatever the operation makes of an order, the exposure that is held for it follows. A check or a
placement reserves for an untouched order; an order from outside leaves what is held; a fill is taken
off at the reserved price, for every correlation id that refers to its order. -/
def follows : RiskedOperation → Prop
  | .checkOrder order risk =>
    (risked.margin.checkOrder order risk).2.toOption ≠ none →
      ∀ correlationId ∈ order.filedUnder, ∀ known ∈ risked.manager.book.orderOf correlationId, known.Untouched
  | .pendingGross _ => True
  | .placeOrder request answers risk =>
    (risked.manager.book.byCorrelation.get request.correlationId = none → ∀ order ∈ answers.durable.order,
      risked.Fits request.correlationId ((risked.manager.book.orders.get order.orderId).getD order)) ∧
    (risked.manager.Admits request { answers with risk := none } →
      (risked.margin.checkOrder (OrderManager.builtOrder request answers.orderId) risk).2.toOption ≠ none →
      ∃ order ∈ answers.accepted request, order.Untouched ∧
        ∀ other ∈ risked.reserved.keys, other ≠ request.correlationId →
          risked.manager.book.refers other order.orderId = true → risked.Fits other order)
  | .upsertOrder order now =>
    risked.manager.passes order now = true →
      (∀ correlationId ∈ risked.reserved.keys,
        order.filedUnder = some correlationId ∨ risked.manager.book.refers correlationId order.orderId = true →
          risked.Fits correlationId order) ∧
      (risked.manager.changesStatus order = false →
        ∀ trade ∈ (risked.manager.recorder.pendingTradesByOrder.get order.orderId).getD [],
          risked.manager.recorder.skips (risked.manager.book.store order) trade = true)
  | .recordTrade trade _ =>
    risked.manager.recorder.skips risked.manager.book trade = false →
      ∀ order ∈ risked.manager.book.orders.get trade.orderId,
        order.allows (OrderPositionUpdater.filledStatus order trade) = true →
        ∀ correlationId ∈ risked.reserved.keys,
          (order.filedUnder = some correlationId ↔ risked.manager.book.refers correlationId trade.orderId = true) ∧
          (order.filedUnder = some correlationId → risked.Pays correlationId order trade)
  | .cancelOrder .. => True
  | .modifyOrder .. => True

/-- What holds in every state: the index is filed, the starting times are those of the reservations,
and the exposure follows the orders. -/
structure Sound (risked : RiskedManager cache) : Prop where
  filed : risked.manager.book.Filed
  started : ∀ correlationId started, risked.margin.pendingAt.get correlationId = some started →
    ∃ reservation, risked.reserved.get correlationId = some reservation ∧ reservation.started = started
  amounts : ∀ correlationId reservation, risked.reserved.get correlationId = some reservation → 0 ≤ reservation.amount
  proportional : risked.Proportional

variable {risked} {after : RiskedManager cache} {order : Order} {trade : Trade} {request : OmsOrderCommand}
  {answers : OrderManager.PlaceAnswers} {risk : RiskAnswers} {now : ℚ} {swept : MarginChecker} {correlationId : String}

/-- Sweeps keep the exposure of a reservation within its TTL. -/
theorem Sound.sweeps (sound : risked.Sound) (sweeps : risked.margin.Sweeps swept now) {reservation : Reservation}
    (reserved : risked.reserved.get correlationId = some reservation) :
    swept.held correlationId = risked.margin.held correlationId ∨
      swept.held correlationId = 0 ∧ pendingTtlSeconds ≤ now - reservation.started := by
  rcases sweeps.held correlationId with kept | ⟨zero, started, found, old⟩
  · exact .inl kept
  · obtain ⟨noted, same, rfl⟩ := sound.started _ _ found
    rw [reserved] at same
    cases same
    exact .inr ⟨zero, old⟩

/-- The orders that change are fitted to the reservations, and time and sweeps pass. -/
theorem Sound.rewritten (sound : risked.Sound) {manager : OrderManager cache} (filed : manager.book.Filed)
    (later : risked.clock ≤ now) (sweeps : risked.margin.Sweeps swept now)
    (writes : ∀ correlationId ∈ risked.reserved.keys, ∀ order, manager.book.orderOf correlationId = some order →
      risked.manager.book.orderOf correlationId = some order ∨ risked.Fits correlationId order) :
    Sound { risked with manager := manager, margin := swept, clock := now } := by
  refine ⟨filed, fun id started found => ?_, sound.amounts, fun id reservation order reserved found => ?_⟩
  · exact sound.started id started (sweeps.started id started found)
  · have fits : reservation.Matches (risked.margin.held id) risked.clock order := by
      rcases writes id (Dict.mem_keys reserved) order found with same | fits
      · exact sound.proportional id reservation order reserved same
      · exact fits reservation reserved
    exact fits.later later (sound.sweeps sweeps reserved)

/-- A release for a correlation id without an order. -/
theorem Sound.released (sound : risked.Sound) (named : correlationId ≠ "")
    (free : risked.manager.book.orderOf correlationId = none) :
    Sound { risked with margin := risked.margin.releasePending (some correlationId) } := by
  refine ⟨sound.filed, fun id started found => ?_, sound.amounts, fun id reservation order reserved found => ?_⟩
  · exact sound.started id started (MarginChecker.releasePending_started found)
  · have other : id ≠ correlationId := by
      rintro rfl
      rw [free] at found
      cases found
    dsimp only
    rw [MarginChecker.releasePending_held named, if_neg other]
    exact sound.proportional id reservation order reserved found

theorem noted_get {verdict : Except String ℚ} (id : String) : (risked.noted order now verdict).get id =
    match verdict with
    | .error _ => risked.reserved.get id
    | .ok amount => if order.filedUnder = some id then some ⟨amount, now⟩ else risked.reserved.get id := by
  unfold noted
  cases verdict with
  | error reason => rfl
  | ok amount =>
    cases order.filedUnder with
    | none => rfl
    | some filedId =>
      dsimp only
      rw [Dict.get_set]
      by_cases same : id = filedId
      · subst same
        rw [if_pos rfl, if_pos rfl]
      · rw [if_neg same, if_neg fun equal => same (Option.some.inj equal).symm]

/-- A check that passes reserves for an untouched order, if there is one. -/
theorem Sound.checked (sound : risked.Sound) {manager : OrderManager cache} {verdict : Except String ℚ}
    (filed : manager.book.Filed) (later : risked.clock ≤ now) (checks : risked.margin.Checks order now swept verdict)
    (untouched : verdict.toOption ≠ none → ∀ id, order.filedUnder = some id →
      ∀ known, manager.book.orderOf id = some known → known.Untouched)
    (others : ∀ id ∈ risked.reserved.keys, verdict.toOption = none ∨ order.filedUnder ≠ some id →
      ∀ known, manager.book.orderOf id = some known → risked.Fits id known) :
    Sound { manager := manager, margin := swept, clock := now, reserved := risked.noted order now verdict } := by
  cases checks with
  | rejected _ reason sweeps =>
    have same := sound.rewritten filed later sweeps fun id member known found =>
      .inr (others id member (.inl rfl) known found)
    exact same
  | passed middle _ notional nonneg sweeps held started =>
    refine ⟨filed, fun id begun found => ?_, fun id reservation reserved => ?_,
      fun id reservation known reserved found => ?_⟩
    · dsimp only at found ⊢
      rw [started] at found
      rw [noted_get]
      dsimp only
      split at found
      · next here =>
        cases found
        rw [if_pos here]
        exact ⟨_, rfl, rfl⟩
      · next other =>
        rw [if_neg other]
        exact sound.started id begun (sweeps.started id begun found)
    · dsimp only at reserved
      rw [noted_get] at reserved
      dsimp only at reserved
      split at reserved
      · cases reserved
        exact nonneg
      · exact sound.amounts id reservation reserved
    · dsimp only at reserved found ⊢
      rw [noted_get] at reserved
      dsimp only at reserved
      rw [held]
      split at reserved
      · next here =>
        cases reserved
        obtain ⟨isOpen, unfilled⟩ := untouched (Option.some_ne_none notional) id here known found
        rw [if_pos here]
        refine ⟨fun terminal => ?_, fun _ _ => ?_⟩
        · rw [isOpen] at terminal
          cases terminal
        · rw [Order.unfilled, unfilled, zero_div, sub_zero, mul_one]
      · next other =>
        rw [if_neg other]
        have fits := others id (Dict.mem_keys reserved) (.inr other) known found
        exact (fits reservation reserved).later later (sound.sweeps sweeps reserved)

theorem Sound.fits (sound : risked.Sound) (id : String) (known : Order)
    (found : risked.manager.book.orderOf id = some known) : risked.Fits id known :=
  fun reservation reserved => sound.proportional id reservation known reserved found

theorem Sound.checkOrder (sound : risked.Sound) (follows : risked.follows (.checkOrder order risk))
    (later : risked.clock ≤ risk.now) : (risked.checkOrder order risk).Sound :=
  sound.checked sound.filed later (MarginChecker.checkOrder_checks _ _ _)
    (fun passes id here known found => follows passes id here known found)
    fun id _ _ known found => sound.fits id known found

theorem builtOrder_filedUnder (request : OmsOrderCommand) (orderId : String) :
    (OrderManager.builtOrder request orderId).filedUnder = some request.correlationId :=
  Option.filter_eq_some_iff.mpr ⟨rfl, decide_eq_true request.correlationId_present⟩

/-- What an early end makes of the orders fits the reservations. -/
theorem Sound.fileUnder (sound : risked.Sound) {existing : Order} {id : String} (orders : OrderBook)
    (held : orders.orders.get existing.orderId = some existing) (fits : risked.Fits id existing)
    (same : orders.byCorrelation = risked.manager.book.byCorrelation)
    (kept : ∀ filed order, risked.manager.book.orders.get filed = some order → orders.orders.get filed = some order) :
    (orders.fileUnder id existing).Filed ∧ ∀ correlationId ∈ risked.reserved.keys, ∀ order,
      (orders.fileUnder id existing).orderOf correlationId = some order →
      risked.manager.book.orderOf correlationId = some order ∨ risked.Fits correlationId order := by
  have index : ∀ correlationId, (orders.fileUnder id existing).byCorrelation.get correlationId =
      if correlationId = id then some existing else risked.manager.book.byCorrelation.get correlationId := by
    intro correlationId
    rw [← same]
    exact Dict.get_set ..
  constructor
  · intro correlationId filed found
    rw [index] at found
    split at found
    · cases found
      exact ⟨existing, held⟩
    · obtain ⟨order, here⟩ := sound.filed correlationId filed found
      exact ⟨order, kept _ _ here⟩
  · intro correlationId member order found
    unfold OrderBook.orderOf at found ⊢
    rw [index] at found
    split at found
    · next here =>
      subst here
      rw [Option.bind_some] at found
      cases held.symm.trans found
      exact .inr fits
    · obtain ⟨filed, indexed, here⟩ := Option.bind_eq_some_iff.mp found
      obtain ⟨known, there⟩ := sound.filed correlationId filed indexed
      cases (kept _ _ there).symm.trans here
      exact .inl (Option.bind_eq_some_iff.mpr ⟨filed, indexed, there⟩)

theorem Sound.placeOrder (sound : risked.Sound) (follows : risked.follows (.placeOrder request answers risk))
    (later : risked.clock ≤ risk.now) (fresh : risked.manager.book.orders.get answers.orderId = none) :
    (risked.placeOrder request answers risk).Sound := by
  obtain ⟨recovers, accepts⟩ := follows
  have filedUnder := builtOrder_filedUnder request answers.orderId
  unfold RiskedManager.placeOrder
  dsimp only
  split
  · next asks =>
    obtain ⟨free, gate⟩ := asks
    obtain ⟨-, missed, -, durable⟩ := OrderManager.checkAndReserve_free free
    have unordered : risked.manager.book.orderOf request.correlationId = none := by
      unfold OrderBook.orderOf
      rw [missed, Option.bind_none]
    have checks := risked.margin.checkOrder_checks (OrderManager.builtOrder request answers.orderId) risk
    generalize risked.margin.checkOrder (OrderManager.builtOrder request answers.orderId) risk = checked at checks accepts ⊢
    have asked : risked.manager.Admits request { answers with risk := reason checked.2 } →
        risked.manager.Admits request { answers with risk := none } := fun admitted =>
      ⟨admitted.unfiled, admitted.durable, admitted.idle, admitted.gate, rfl, admitted.unblocked⟩
    have allowed : reason checked.2 = none → checked.2.toOption ≠ none := by
      intro given
      cases verdict : checked.2 with
      | error rejection =>
        rw [verdict] at given
        cases given
      | ok notional => exact Option.some_ne_none notional
    have places := @OrderManager.placeOrder_places _ risked.manager request
      { answers with risk := reason checked.2 } fresh
    generalize risked.manager.placedOrder request { answers with risk := reason checked.2 } = placed at places ⊢
    cases places with
    | kept same =>
      rw [if_pos rfl]
      have checkedSound : Sound {
          manager := (risked.manager.placeOrder request { answers with risk := reason checked.2 }).1
          margin := checked.1
          clock := risk.now
          reserved := risked.noted (OrderManager.builtOrder request answers.orderId) risk.now checked.2 } := by
        refine sound.checked ?_ later checks (fun _ id here known found => ?_) fun id _ _ known found => ?_
        · rw [same]
          exact sound.filed
        · rw [filedUnder] at here
          cases here
          rw [same, unordered] at found
          cases found
        · rw [same] at found
          exact sound.fits id known found
      refine checkedSound.released request.correlationId_present ?_
      dsimp only
      rw [same, unordered]
    | known order existing missed recovered =>
      rw [durable] at recovered
      cases recovered
    | recovered order missed recovered =>
      rw [durable] at recovered
      cases recovered
    | left admitted unaccepted =>
      obtain ⟨order, accepted, -⟩ := accepts (asked admitted) (allowed admitted.risk)
      cases accepted.symm.trans unaccepted
    | recorded order admitted accepted written filed =>
      rw [if_neg (Option.some_ne_none order)]
      obtain ⟨other, same, untouched, others⟩ := accepts (asked admitted) (allowed admitted.risk)
      cases same.symm.trans accepted
      refine sound.checked (fun id earlier indexed => ?_) later checks (fun _ id here known found => ?_)
        fun id member apart known found => ?_
      · rw [filed] at indexed
        rw [written]
        split at indexed
        · cases indexed
          exact ⟨order, if_pos rfl⟩
        · split
          · exact ⟨order, rfl⟩
          · exact sound.filed id earlier indexed
      · rw [filedUnder] at here
        cases here
        unfold OrderBook.orderOf at found
        rw [filed, if_pos rfl, Option.bind_some, written, if_pos rfl] at found
        cases found
        exact untouched
      · have elsewhere : id ≠ request.correlationId := by
          rintro rfl
          rcases apart with rejected | unfiled
          · exact allowed admitted.risk rejected
          · exact unfiled filedUnder
        unfold OrderBook.orderOf at found
        rw [filed, if_neg elsewhere] at found
        obtain ⟨earlier, indexed, here⟩ := Option.bind_eq_some_iff.mp found
        rw [written] at here
        split at here
        · next same =>
          cases here
          refine others id member elsewhere ?_
          unfold OrderBook.refers
          rw [indexed, Option.map_some, same, decide_eq_true rfl]
        · exact sound.fits id known (Option.bind_eq_some_iff.mpr ⟨earlier, indexed, here⟩)
  · next unasked =>
    have places := @OrderManager.placeOrder_places _ risked.manager request answers fresh
    have unadmitted : ¬ risked.manager.Admits request answers := fun admitted =>
      unasked ⟨admitted.free, admitted.gate⟩
    have recoveredEarly : ∀ order, answers.durable = .recovered order →
        (risked.manager.checkAndReserve request.correlationId answers.now answers.durable).2 ≠ none := by
      intro order recovered free
      obtain ⟨-, -, -, durable⟩ := OrderManager.checkAndReserve_free free
      rw [recovered] at durable
      cases durable
    generalize risked.manager.placedOrder request answers = placed at places
    cases places with
    | kept same =>
      have waited := sound.rewritten (by rw [same]; exact sound.filed) later (.refl _ _)
        fun id _ order found => .inl (same ▸ found)
      split
      · next free =>
        obtain ⟨-, missed, -⟩ := OrderManager.checkAndReserve_free free
        refine waited.released request.correlationId_present ?_
        dsimp only
        unfold OrderBook.orderOf
        rw [same, missed, Option.bind_none]
      · exact waited
    | known order existing missed durable found filed =>
      have fits := recovers missed order (by rw [durable]; rfl)
      rw [found, Option.getD_some] at fits
      have sameId := risked.manager.book.keyed _ _ found
      obtain ⟨stillFiled, writes⟩ := sound.fileUnder risked.manager.book (by rw [sameId, found]) fits rfl
        fun _ _ here => here
      rw [if_neg (recoveredEarly order durable)]
      exact sound.rewritten (by rw [filed]; exact stillFiled) later (.refl _ _) (by rw [filed]; exact writes)
    | recovered order missed durable unknown filed =>
      have fits := recovers missed order (by rw [durable]; rfl)
      rw [unknown, Option.getD_none] at fits
      obtain ⟨stillFiled, writes⟩ := sound.fileUnder (risked.manager.book.put order)
        (Dict.get_set_self ..) fits rfl fun id known here => by
          refine (Dict.get_set ..).trans ((if_neg ?_).trans here)
          rintro rfl
          rw [unknown] at here
          cases here
      rw [if_neg (recoveredEarly order durable)]
      exact sound.rewritten (by rw [filed]; exact stillFiled) later (.refl _ _) (by rw [filed]; exact writes)
    | left admitted => exact absurd admitted unadmitted
    | recorded order admitted => exact absurd admitted unadmitted

theorem Sound.upsertOrder (sound : risked.Sound) (follows : risked.follows (.upsertOrder order now)) :
    (risked.upsertOrder order now).Sound := by
  have writes : ∀ {manager : OrderManager cache}, manager.book = risked.manager.book.store order →
      risked.manager.passes order now = true → Sound { risked with manager := manager } := by
    intro manager stores passes
    have filed : manager.book.Filed := by
      rw [stores]
      exact sound.filed.store
    refine sound.rewritten filed le_rfl (.refl _ _) fun id member known found => ?_
    rw [stores, OrderBook.store_orderOf] at found
    split at found
    · next concerned =>
      cases found
      exact .inr ((follows passes).1 id member concerned)
    · exact .inl found
  have upserts := risked.manager.upsertOrder_upserts order now
  unfold RiskedManager.upsertOrder
  dsimp only
  generalize risked.manager.upsertOrder order now = upserted at upserts ⊢
  cases upserts with
  | refused validator error refused =>
    exact sound.rewritten sound.filed le_rfl (.refl _ _) fun id member known found => .inl found
  | changed validator error passed changes =>
    exact writes rfl passed
  | flushed validator recorder book ends passed stays flushes =>
    have skips := (follows passed).2 stays
    have flushed := flushes.symm.trans (TradeRecorder.flushPendingTradesLocked_skips skips)
    cases flushed
    exact writes rfl passed

theorem applied_filedUnder {updated : Order} (applied : OrderPositionUpdater.applyTrade order trade = .ok updated) :
    updated.filedUnder = order.filedUnder := by
  unfold Order.filedUnder
  rw [(OrderPositionUpdater.applyTrade_ok applied).2.1]

/-- The reduction behind an applied fill. -/
theorem reduced_margin (margin : MarginChecker) (updated : Order) (filledQuantity : ℤ) (price : ℚ) :
    ∃ reduced : MarginChecker,
      (match updated.filedUnder with
        | none => margin
        | some correlationId => releaseTerminal (margin.reducePending correlationId filledQuantity price) updated) =
          reduced ∧
      (∀ id, reduced.held id =
        if updated.filedUnder = some id then max 0 (margin.held id - filledQuantity * price) else margin.held id) ∧
      ∀ id started, reduced.pendingAt.get id = some started → margin.pendingAt.get id = some started := by
  refine ⟨_, rfl, fun id => ?_, fun id started found => ?_⟩
  · cases filed : updated.filedUnder with
    | none => rfl
    | some correlationId =>
      have named : correlationId ≠ "" := of_decide_eq_true (Option.filter_eq_some_iff.mp filed).2
      refine (MarginChecker.reducePending_held named).trans ?_
      by_cases same : id = correlationId
      · subst same
        rw [if_pos rfl, if_pos rfl]
      · rw [if_neg same, if_neg fun equal => same (Option.some.inj equal).symm]
  · split at found
    · exact found
    · exact MarginChecker.reducePending_started found

/-- A fill that pays keeps the exposure of its order. -/
theorem Pays.matches {reservation : Reservation} {book written : OrderBook} {updated : Order}
    (pays : risked.Pays correlationId order trade) (reserved : risked.reserved.get correlationId = some reservation)
    (nonneg : 0 ≤ reservation.amount) (fills : Fills book trade order updated written)
    (fits : reservation.Matches (risked.margin.held correlationId) risked.clock order) :
    reservation.Matches (max 0 (risked.margin.held correlationId - Decimal.toInt trade.quantity * trade.price))
      risked.clock updated := by
  have paid := pays reservation reserved
  obtain ⟨-, -, filled, status⟩ := OrderPositionUpdater.applyTrade_ok fills.applied
  have quantity := OrderPositionUpdater.applyTrade_quantity fills.applied
  unfold OrderPositionUpdater.filledStatus OrderPositionUpdater.deriveStatus at status
  split at paid
  · next complete =>
    rw [if_pos complete] at status
    refine ⟨fun _ => max_eq_left (sub_nonpos.mpr paid), fun isOpen _ => ?_⟩
    rw [status] at isOpen
    cases isOpen
  · next partly =>
    rw [if_neg partly] at status
    refine ⟨fun terminal => ?_, fun _ within => ?_⟩
    · rw [status] at terminal
      cases terminal
    · have isOpen : order.status.isTerminal = false := by
        by_contra terminal
        rw [Bool.not_eq_false] at terminal
        have same := OrderPositionUpdater.applyTrade_terminal terminal fills.applied
        rw [← same, status] at terminal
        cases terminal
      rw [fits.2 isOpen within, paid within, ← mul_sub]
      have rest : order.unfilled - trade.quantity / order.quantity = updated.unfilled := by
        unfold Order.unfilled
        rw [filled, quantity, add_div]
        ring
      have total : 0 < order.quantity := lt_of_le_of_lt fills.cumulative (not_le.mp partly)
      have left : 0 ≤ updated.unfilled := by
        unfold Order.unfilled
        rw [filled, quantity, sub_nonneg, div_le_one total]
        exact fills.room
      rw [rest, max_eq_right (mul_nonneg nonneg left)]

theorem Sound.recordTrade (sound : risked.Sound) (follows : risked.follows (.recordTrade trade now)) :
    (risked.recordTrade trade now).Sound := by
  have records := recordTrade_records risked.manager.recorder risked.manager.book trade now
  have skips := @TradeRecorder.recordTrade_skips risked.manager.recorder risked.manager.book trade now
  unfold RiskedManager.recordTrade OrderManager.recordTrade
  dsimp only
  generalize risked.manager.recorder.recordTrade risked.manager.book trade now = recorded at records skips ⊢
  obtain ⟨recorder, book, outcome⟩ := recorded
  cases records with
  | kept =>
    have unaccepted : outcome.accepted = false := by assumption
    dsimp only
    rw [unaccepted]
    exact sound.rewritten sound.filed le_rfl (.refl _ _) fun id _ known found => .inl found
  | applied known updated _ _ _ fills =>
    have stores : book = risked.manager.book.store updated := fills.stored
    have orderId : updated.orderId = trade.orderId := fills.orderId_eq
    have filedUnder := applied_filedUnder fills.applied
    have found : book.orders.get trade.orderId = some updated := by
      rw [stores, OrderBook.store_get, if_pos orderId.symm]
    have considered : risked.manager.recorder.skips risked.manager.book trade = false := by
      rw [Bool.eq_false_iff]
      intro skipped
      cases (skips skipped).2
    have allowed : known.allows (OrderPositionUpdater.filledStatus known trade) = true := by
      by_contra refused
      rw [Bool.not_eq_true] at refused
      have raised := OrderPositionUpdater.applyTrade_refused refused
      rw [fills.applied] at raised
      cases raised
    have concerns := follows considered known fills.known allowed
    obtain ⟨reduced, same, held, started⟩ := reduced_margin risked.margin updated (Decimal.toInt trade.quantity) trade.price
    change Sound { risked with
      manager := { risked.manager with recorder := recorder, book := book }
      margin := match book.orders.get trade.orderId with
        | none => risked.margin
        | some order =>
          match order.filedUnder with
          | none => risked.margin
          | some correlationId => releaseTerminal
              (risked.margin.reducePending correlationId (Decimal.toInt trade.quantity) trade.price) order }
    rw [found]
    dsimp only
    rw [same]
    refine ⟨?_, fun id begun here => ?_, sound.amounts, fun id reservation order reserved ordered => ?_⟩
    · dsimp only
      rw [stores]
      exact sound.filed.store
    · exact sound.started id begun (started id begun here)
    · dsimp only at reserved ordered ⊢
      obtain ⟨refers, pays⟩ := concerns id (Dict.mem_keys reserved)
      simp only [stores, OrderBook.store_orderOf, filedUnder, orderId, ← refers, or_self] at ordered
      rw [held, filedUnder]
      split at ordered
      · next here =>
        cases ordered
        rw [if_pos here]
        have ordered : risked.manager.book.orderOf id = some known := by
          have referred := of_decide_eq_true (refers.mp here)
          obtain ⟨earlier, indexed, earlierId⟩ := Option.map_eq_some_iff.mp referred
          unfold OrderBook.orderOf
          rw [indexed, Option.bind_some, earlierId, fills.known]
        exact (pays here).matches reserved (sound.amounts id reservation reserved) fills
          (sound.proportional id reservation known reserved ordered)
      · next elsewhere =>
        rw [if_neg elsewhere]
        exact sound.proportional id reservation order reserved ordered

/-- One operation that the exposure follows. -/
theorem Sound.step {operation : RiskedOperation} (sound : risked.Sound) (follows : risked.follows operation)
    (taken : risked.step operation = some after) : after.Sound := by
  cases operation with
  | checkOrder order risk =>
    simp only [RiskedManager.step] at taken
    split at taken
    · cases taken
    · next later =>
      cases taken
      exact sound.checkOrder follows (not_lt.mp later)
  | pendingGross now =>
    simp only [RiskedManager.step] at taken
    split at taken
    · cases taken
    · next later =>
      cases taken
      exact sound.rewritten sound.filed (not_lt.mp later) (MarginChecker.sweepExpired_sweeps _ _)
        fun id _ known found => .inl found
  | placeOrder request answers risk =>
    simp only [RiskedManager.step] at taken
    split at taken
    · cases taken
    · next enabled =>
      cases taken
      obtain ⟨later, absent⟩ := not_or.mp enabled
      rw [Bool.not_eq_true, Dict.contains, Option.isSome_eq_false_iff, Option.isNone_iff_eq_none] at absent
      exact sound.placeOrder follows (not_lt.mp later) absent
  | upsertOrder order now =>
    rw [← Option.some.inj taken]
    exact sound.upsertOrder follows
  | recordTrade trade now =>
    rw [← Option.some.inj taken]
    exact sound.recordTrade follows
  | cancelOrder orderId blocked answer =>
    cases taken
    rw [OrderManager.cancelOrder_kept]
    exact sound
  | modifyOrder request blocked answer =>
    cases taken
    rw [OrderManager.modifyOrder_kept]
    exact sound

instance (risked : RiskedManager cache) : (operation : RiskedOperation) → Decidable (risked.follows operation)
  | .checkOrder order risk =>
    inferInstanceAs (Decidable ((risked.margin.checkOrder order risk).2.toOption ≠ none →
      ∀ correlationId ∈ order.filedUnder, ∀ known ∈ risked.manager.book.orderOf correlationId, known.Untouched))
  | .pendingGross _ => isTrue trivial
  | .placeOrder request answers risk =>
    inferInstanceAs (Decidable
      ((risked.manager.book.byCorrelation.get request.correlationId = none → ∀ order ∈ answers.durable.order,
        risked.Fits request.correlationId ((risked.manager.book.orders.get order.orderId).getD order)) ∧
      (risked.manager.Admits request { answers with risk := none } →
        (risked.margin.checkOrder (OrderManager.builtOrder request answers.orderId) risk).2.toOption ≠ none →
        ∃ order ∈ answers.accepted request, order.Untouched ∧
          ∀ other ∈ risked.reserved.keys, other ≠ request.correlationId →
            risked.manager.book.refers other order.orderId = true → risked.Fits other order)))
  | .upsertOrder order now =>
    inferInstanceAs (Decidable (risked.manager.passes order now = true →
      (∀ correlationId ∈ risked.reserved.keys,
        order.filedUnder = some correlationId ∨ risked.manager.book.refers correlationId order.orderId = true →
          risked.Fits correlationId order) ∧
      (risked.manager.changesStatus order = false →
        ∀ trade ∈ (risked.manager.recorder.pendingTradesByOrder.get order.orderId).getD [],
          risked.manager.recorder.skips (risked.manager.book.store order) trade = true)))
  | .recordTrade trade _ =>
    inferInstanceAs (Decidable (risked.manager.recorder.skips risked.manager.book trade = false →
      ∀ order ∈ risked.manager.book.orders.get trade.orderId,
        order.allows (OrderPositionUpdater.filledStatus order trade) = true →
        ∀ correlationId ∈ risked.reserved.keys,
          (order.filedUnder = some correlationId ↔ risked.manager.book.refers correlationId trade.orderId = true) ∧
          (order.filedUnder = some correlationId → risked.Pays correlationId order trade)))
  | .cancelOrder .. => isTrue trivial
  | .modifyOrder .. => isTrue trivial

/-- A new order manager with its risk manager, over an order store. -/
def start (store : SqliteOrderStore) (processed : Option (List TradeIdKey)) (ledger : Option ExecutionLedger)
    (validator : OrderStateValidator cache) (clock : ℚ) : RiskedManager cache where
  manager := (StoredManager.start store processed ledger validator).manager
  clock := clock

theorem hydrate_filed (store : SqliteOrderStore) : (hydrate store).Filed := by
  have folded : ∀ (orders : List Order) (book : OrderBook), book.Filed → (orders.foldl OrderBook.store book).Filed := by
    intro orders
    induction orders with
    | nil => exact fun book filed => filed
    | cons order rest ih => exact fun book filed => ih _ filed.store
  apply folded
  intro correlationId filed found
  cases found

/-- Over every run in which the exposure follows each operation, what is held for a reserved
correlation id is the unfilled part of the reservation while its order is open and within the TTL, and
nothing once its order is terminal. -/
theorem reservations_proportional (store : SqliteOrderStore) (processed : Option (List TradeIdKey))
    (ledger : Option ExecutionLedger) (validator : OrderStateValidator cache) (clock : ℚ)
    (operations : List RiskedOperation) (after : RiskedManager cache)
    (run : exec step (start store processed ledger validator clock) operations = some after)
    (met : Meets step follows (start store processed ledger validator clock) operations) :
    after.Proportional := by
  have initial : (start store processed ledger validator clock).Sound := by
    refine ⟨hydrate_filed store, ?_, ?_, ?_⟩
    · rintro _ _ ⟨⟩
    · rintro _ _ ⟨⟩
    · rintro _ _ _ ⟨⟩
  have sound : after.Sound := exec_invariant (fun _ _ _ sound follows taken => sound.step follows taken) initial met run
  exact sound.proportional

/-- The broker accepts a limit order for ten shares at 2500. -/
def acceptedOrder : RiskedOperation :=
  .placeOrder
    { symbol := "RELIANCE", exchange := "NSE", side := .BUY, quantity := 10, price := 2500, orderType := .LIMIT,
      correlationId := "6f1c", correlationId_present := sampleId_present }
    { now := 0, orderId := "OM-1", submission := some { brokerCall := .ok {
        orderId := "220901", symbol := "RELIANCE", exchange := "NSE", side := .BUY, orderType := .LIMIT,
        quantity := 10, price := 2500, correlationId := some "6f1c" } } }
    { now := 0 }

/-- A fill of four shares. -/
def fillAt (tradeId : String) (price : ℚ) : RiskedOperation :=
  .recordTrade
    { tradeId := tradeId, orderId := "220901", symbol := "RELIANCE", exchange := "NSE", side := .BUY,
      quantity := 4, price := price } 1

/-- Two fills at the reserved price. -/
theorem reservations_proportional_at_price : ∃ after,
    exec step (start {} none none ({} : OrderStateValidator (leastRecentlyUsed Nat 10000 86400)) 0)
      [acceptedOrder, fillAt "T1" 2500, .pendingGross 60, fillAt "T2" 2500] = some after ∧
    after.margin.held "6f1c" = 5000 ∧ after.Proportional := by
  have runs : (exec step (start {} none none ({} : OrderStateValidator (leastRecentlyUsed Nat 10000 86400)) 0)
      [acceptedOrder, fillAt "T1" 2500, .pendingGross 60, fillAt "T2" 2500]).map (·.margin.held "6f1c") =
        some 5000 := by decide +kernel
  obtain ⟨after, run, held⟩ := Option.map_eq_some_iff.mp runs
  exact ⟨after, run, held, reservations_proportional {} none none {} 0 _ after run (by decide +kernel)⟩

/-- The reservation is 25000; a fill of four tenths at 2400 takes only 9600 off. -/
theorem reservations_disproportionate :
    (exec step (start {} none none ({} : OrderStateValidator (leastRecentlyUsed Nat 10000 86400)) 0)
      [acceptedOrder, fillAt "T1" 2400]).map (fun after => (after.margin.held "6f1c", after.clock,
        after.reserved.get "6f1c", (after.manager.book.orderOf "6f1c").map fun order =>
          (order.status.isTerminal, order.unfilled))) =
      some (15400, 0, some ⟨25000, 0⟩, some (false, 3 / 5)) ∧
    ¬ ∀ (operations : List RiskedOperation) (after : RiskedManager (leastRecentlyUsed Nat 10000 86400)),
      exec step (start {} none none {} 0) operations = some after → after.Proportional := by
  have disproportionate :
      (exec step (start {} none none ({} : OrderStateValidator (leastRecentlyUsed Nat 10000 86400)) 0)
        [acceptedOrder, fillAt "T1" 2400]).map (fun after => (after.margin.held "6f1c", after.clock,
          after.reserved.get "6f1c", (after.manager.book.orderOf "6f1c").map fun order =>
            (order.status.isTerminal, order.unfilled))) =
        some (15400, 0, some ⟨25000, 0⟩, some (false, 3 / 5)) := by decide +kernel
  refine ⟨disproportionate, fun claim => ?_⟩
  obtain ⟨after, run, ends⟩ := Option.map_eq_some_iff.mp disproportionate
  rw [Prod.mk.injEq, Prod.mk.injEq, Prod.mk.injEq] at ends
  obtain ⟨held, clock, reserved, ordered⟩ := ends
  obtain ⟨order, found, terms⟩ := Option.map_eq_some_iff.mp ordered
  rw [Prod.mk.injEq] at terms
  obtain ⟨isOpen, unfilled⟩ := terms
  have proportional := (claim _ after run "6f1c" _ order reserved found).2 isOpen
  rw [held, clock, unfilled] at proportional
  have equal := proportional (by decide +kernel)
  revert equal
  decide +kernel

end RiskedManager

end TradeX.V1
