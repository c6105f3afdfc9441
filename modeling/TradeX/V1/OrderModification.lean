import TradeX.V1.PlaceVersusFill

/-! One modification under way while trades and snapshots of its order arrive. The order is read before
`modify_fn` is called and written after it, each under the lock, the call between them outside it. -/

namespace TradeX.V1

open Lib
open OrderManager (BrokerAnswer ModifyOrderRequest applyModifyFields)

/-- Where a call of `modify_order` stands. -/
inductive ModifyStage where
  | start
  /-- The order has been read; the mutation guard is next. -/
  | guarding (order : Order)
  | asking (order : Order)
  | answered (order : Order)
  | ended (ending : OperationEnd)
  deriving DecidableEq, Repr

/-- The order that a modification holds between two sections. -/
def ModifyStage.order : ModifyStage → Option Order
  | .guarding order | .asking order | .answered order => some order
  | _ => none

inductive ModifyStep where
  | read
  | guard (blocked : Option String)
  | ask (answer : Option BrokerAnswer)
  | store
  deriving DecidableEq, Repr

namespace OrderManager

variable {cache : TTLCache.{0, v} Nat} (manager : OrderManager cache) (request : ModifyOrderRequest)

/-- One section of `modify_order`. -/
def modifyAct (stage : ModifyStage) : ModifyStep → Option (OrderManager cache × ModifyStage)
  | .read =>
    match stage with
    | .start =>
      match manager.openOrder request.orderId with
      | .error ending => some (manager, .ended ending)
      | .ok order => some (manager, .guarding order)
    | _ => none
  | .guard blocked =>
    match stage with
    | .guarding order =>
      match blocked with
      | some reason => some (manager, .ended (.returned { success := false, error := some reason }))
      | none => some (manager, .asking order)
    | _ => none
  | .ask answer =>
    match stage with
    | .asking order =>
      match answer with
      | some (.failed error) => some (manager, .ended (.returned { success := false, error := some error }))
      | _ => some (manager, .answered order)
    | _ => none
  | .store =>
    match stage with
    | .answered order =>
      let stored := manager.storeModified order request
      some (stored.1, .ended stored.2)
    | _ => none

/-- The sections one after the other, each that is still due. -/
def modifySections : OrderManager cache × ModifyStage → List ModifyStep → OrderManager cache × ModifyStage
  | reached, [] => reached
  | reached, step :: rest => modifySections ((reached.1.modifyAct request reached.2 step).getD reached) rest

/-- Nothing between its sections: the modification is `modify_order`. -/
theorem modifySections_eq (blocked : Option String) (answer : Option BrokerAnswer) :
    modifySections request (manager, .start) [.read, .guard blocked, .ask answer, .store] =
      ((manager.modifyOrder request blocked answer).1, .ended (manager.modifyOrder request blocked answer).2) := by
  unfold modifyOrder
  simp only [modifySections, modifyAct]
  cases manager.openOrder request.orderId with
  | error ending => rfl
  | ok order =>
    cases blocked with
    | some reason => rfl
    | none =>
      cases answer with
      | none => rfl
      | some ends => cases ends <;> rfl

variable {request} {order : Order}

theorem applyModifyFields_kept (order : Order) (request : ModifyOrderRequest) :
    (applyModifyFields order request).orderId = order.orderId ∧
      (applyModifyFields order request).filledQuantity = order.filledQuantity ∧
      (applyModifyFields order request).status = order.status := by
  unfold applyModifyFields
  cases request.price <;> cases request.quantity <;> cases request.orderType <;> exact ⟨rfl, rfl, rfl⟩

/-- Only the last section writes. -/
theorem modifyAct_kept {stage reached : ModifyStage} {modifyStep : ModifyStep} {after : OrderManager cache}
    (inside : modifyStep ≠ .store) (acted : manager.modifyAct request stage modifyStep = some (after, reached)) :
    after = manager := by
  cases modifyStep with
  | read =>
    simp only [modifyAct] at acted
    split at acted
    · split at acted <;> cases acted <;> rfl
    · cases acted
  | guard blocked =>
    simp only [modifyAct] at acted
    split at acted
    · split at acted <;> cases acted <;> rfl
    · cases acted
  | ask answer =>
    simp only [modifyAct] at acted
    split at acted
    · split at acted <;> cases acted <;> rfl
    · cases acted
  | store => exact absurd rfl inside

/-- A section goes on with the order of the section before. -/
theorem modifyAct_order {stage reached : ModifyStage} {modifyStep : ModifyStep} {after : OrderManager cache}
    (acted : manager.modifyAct request stage modifyStep = some (after, reached)) :
    reached.order = none ∨ reached.order = stage.order := by
  obtain ⟨ending, refused⟩ := manager.openOrder_error request.orderId
  cases modifyStep with
  | read =>
    simp only [modifyAct, refused] at acted
    split at acted <;> cases acted
    exact Or.inl rfl
  | guard blocked =>
    simp only [modifyAct] at acted
    split at acted
    · split at acted <;> cases acted
      · exact Or.inl rfl
      · exact Or.inr rfl
    · cases acted
  | ask answer =>
    simp only [modifyAct] at acted
    split at acted
    · split at acted <;> cases acted
      · exact Or.inl rfl
      · exact Or.inr rfl
    · cases acted
  | store =>
    simp only [modifyAct] at acted
    split at acted <;> cases acted
    exact Or.inl rfl

end OrderManager

namespace OrderStatus

/-- No transition of the table leads back. -/
theorem successors_progress {status other : OrderStatus} (member : other ∈ status.successors) :
    status.progress ≤ other.progress := by
  revert member
  cases status <;> cases other <;> decide

end OrderStatus

/-- The order manager and a modification under way. -/
structure ModifyRace (cache : TTLCache.{0, v} Nat) where
  manager : OrderManager cache
  stage : ModifyStage := .start

inductive ModifyEvent where
  | modify (step : ModifyStep)
  | recordTrade (trade : Trade) (now : ℚ)
  | upsertOrder (order : Order) (now : ℚ)

namespace ModifyRace

variable {cache : TTLCache.{0, v} Nat} (request : ModifyOrderRequest) (race : ModifyRace cache)

/-- One section of the modification, or one call for a trade or a snapshot. -/
def step : ModifyEvent → Option (ModifyRace cache)
  | .modify modifyStep =>
    (race.manager.modifyAct request race.stage modifyStep).map fun after => ⟨after.1, after.2⟩
  | .recordTrade trade now => some { race with manager := (race.manager.recordTrade trade now).1 }
  | .upsertOrder order now => some { race with manager := (race.manager.upsertOrder order now).1 }

/-- The order that the modification is about, as the book holds it. -/
def order : Option Order := race.manager.book.orders.get request.orderId

/-- The filled quantity does not fall and the status does not go back; a modification of an order that is
not final goes on to the broker, and its last section merges the request into the order of the book. -/
structure Lawful (event : ModifyEvent) (after : ModifyRace cache) : Prop where
  filled : race.manager.book.filled request.orderId ≤ after.manager.book.filled request.orderId
  status : ∀ status ∈ race.manager.book.status request.orderId,
    ∃ reached ∈ after.manager.book.status request.orderId, status.progress ≤ reached.progress
  goesOn : event = .modify .read → ∀ order ∈ race.order request, order.status.isTerminal = false →
    after.stage = .guarding order
  merged : event = .modify .store →
    after.order request = (race.order request).map fun current => applyModifyFields current request

/-- What the event does is lawful. -/
def Keeps (event : ModifyEvent) : Prop := ∀ after, race.step request event = some after → race.Lawful request event after

/-- A snapshot of the order that passes is not behind the book. -/
def Current : ModifyEvent → Prop
  | .upsertOrder order now => order.orderId = request.orderId → race.manager.passes order now = true →
      race.manager.book.filled request.orderId ≤ order.filledQuantity ∧
      ∀ status ∈ race.manager.book.status request.orderId, status.progress ≤ order.status.progress
  | _ => True

/-- The modification reads no order that is not final, and at its end the order of the book differs from the
one that it read only in what the request replaces. -/
def Undisturbed : ModifyEvent → Prop
  | .modify .read => race.stage = .start → ∀ order ∈ race.order request, order.status.isTerminal = true
  | .modify .store => match race.stage with
    | .answered order => (race.order request).map (fun current => applyModifyFields current request) =
        some (applyModifyFields order request)
    | _ => True
  | _ => True

/-- The modification holds the order of its request. -/
def Keyed : Prop := ∀ order ∈ race.stage.order, order.orderId = request.orderId

variable {request race} {event : ModifyEvent} {after : ModifyRace cache} {book later : OrderBook} {orderId : String}

/-- A book that has not lost anything of the order. -/
structure Ahead (orderId : String) (book later : OrderBook) : Prop where
  filled : book.filled orderId ≤ later.filled orderId
  status : ∀ status ∈ book.status orderId, ∃ reached ∈ later.status orderId, status.progress ≤ reached.progress

theorem Ahead.refl (book : OrderBook) : Ahead orderId book book :=
  ⟨le_refl _, fun status held => ⟨status, held, le_refl _⟩⟩

theorem Ahead.trans {last : OrderBook} (first : Ahead orderId book later) (second : Ahead orderId later last) :
    Ahead orderId book last where
  filled := first.filled.trans second.filled
  status status held := by
    obtain ⟨reached, middle, further⟩ := first.status status held
    obtain ⟨final, last, furthest⟩ := second.status reached middle
    exact ⟨final, last, further.trans furthest⟩

/-- A fill adds to the order and takes it along a transition of the table. -/
theorem ahead_fills {trade : Trade} {order updated : Order} (fills : Fills book trade order updated later) :
    Ahead orderId book later where
  filled := by
    rw [fills.filled_eq]
    refine le_add_of_nonneg_right ?_
    split
    · exact fills.nonneg
    · exact le_refl 0
  status status held := by
    rw [fills.status_eq]
    split
    · next same =>
      subst same
      rw [OrderBook.status_of_get fills.known] at held
      cases held
      refine ⟨updated.status, rfl, ?_⟩
      obtain ⟨rfl, same | successor⟩ := Order.withStatus_ok fills.applied
      · exact same.symm ▸ le_refl _
      · exact OrderStatus.successors_progress successor
    · exact ⟨status, held, le_refl _⟩

theorem ahead_fillsAll {trades : List Trade} (fills : FillsAll book trades later) : Ahead orderId book later := by
  induction fills with
  | nil => exact Ahead.refl _
  | cons first _ ih => exact (ahead_fills first).trans ih

/-- A snapshot that is not behind the book is stored over it. -/
theorem ahead_store {order : Order} (current : order.orderId = orderId →
      book.filled orderId ≤ order.filledQuantity ∧
      ∀ status ∈ book.status orderId, status.progress ≤ order.status.progress) :
    Ahead orderId book (book.store order) where
  filled := by
    rw [OrderBook.store_filled]
    split
    · next same => exact (current same.symm).1
    · exact le_refl _
  status status held := by
    rw [OrderBook.store_status]
    split
    · next same => exact ⟨order.status, rfl, (current same.symm).2 status held⟩
    · exact ⟨status, held, le_refl _⟩

/-- The call for a snapshot that is not behind loses nothing. -/
theorem ahead_upsert {order : Order} {now : ℚ} (current : race.Current request (.upsertOrder order now)) :
    Ahead request.orderId race.manager.book (race.manager.upsertOrder order now).1.book := by
  obtain ⟨passes, fills⟩ | ⟨-, kept, -⟩ := race.manager.upsertOrder_book order now
  · exact (ahead_store fun same => current same passes).trans (ahead_fillsAll fills)
  · rw [kept]
    exact Ahead.refl _

/-- A step that is not a section of the modification is lawful where it loses nothing. -/
theorem Ahead.lawful (ahead : Ahead request.orderId race.manager.book after.manager.book)
    (outside : ∀ modifyStep, event ≠ .modify modifyStep) : race.Lawful request event after where
  filled := ahead.filled
  status := ahead.status
  goesOn read := absurd read (outside _)
  merged store := absurd store (outside _)

/-- A section before the last leaves the book. -/
theorem lawful_kept {modifyStep : ModifyStep} {stage : ModifyStage} (inside : modifyStep ≠ .store)
    (goesOn : modifyStep = .read → ∀ order ∈ race.order request, order.status.isTerminal = false →
      stage = .guarding order) :
    race.Lawful request (.modify modifyStep) ⟨race.manager, stage⟩ where
  filled := le_refl _
  status := (Ahead.refl _).status
  goesOn read := by
    cases read
    exact goesOn rfl
  merged store := by
    cases store
    exact absurd rfl inside

/-- The read of a known order raises, whatever its status is. -/
theorem openOrder_known {manager : OrderManager cache} {order : Order}
    (known : manager.book.orders.get orderId = some order) : manager.openOrder orderId =
      .error (.raised (.attributeError "'OrderStatus' object has no attribute 'is_terminal'")) := by
  unfold OrderManager.openOrder
  rw [known]
  rfl

/-- The first section is lawful exactly where it finds no order that is not final. -/
theorem keeps_read : race.Keeps request (.modify .read) ↔ race.Undisturbed request (.modify .read) := by
  obtain ⟨ending, refused⟩ := race.manager.openOrder_error request.orderId
  have ends : race.stage = .start →
      race.step request (.modify .read) = some ⟨race.manager, .ended ending⟩ := by
    intro start
    unfold step OrderManager.modifyAct
    simp only [start, refused, Option.map_some]
  constructor
  · intro keeps start order found
    by_contra notFinal
    have going := (keeps _ (ends start)).goesOn rfl order found (Bool.eq_false_iff.mpr notFinal)
    cases going
  · intro undisturbed after taken
    by_cases start : race.stage = .start
    · rw [ends start] at taken
      cases taken
      refine lawful_kept (by decide) fun _ order found notFinal => ?_
      rw [undisturbed start order found] at notFinal
      cases notFinal
    · unfold step OrderManager.modifyAct at taken
      dsimp only at taken
      split at taken
      · next at_ => exact absurd at_ start
      · cases taken

/-- The last section is lawful exactly where the order that it writes is the one of the book with the
request merged into it. -/
theorem keeps_store (keyed : race.Keyed request) :
    race.Keeps request (.modify .store) ↔ race.Undisturbed request (.modify .store) := by
  obtain ⟨manager, stage⟩ := race
  cases stage with
  | answered order =>
    obtain ⟨orderId, filled, status⟩ := OrderManager.applyModifyFields_kept order request
    have written : ((manager.storeModified order request).1.book).orders.get request.orderId =
        some (applyModifyFields order request) := by
      change (manager.book.store _).orders.get _ = _
      rw [OrderBook.store_get, if_pos (orderId.trans (keyed order rfl)).symm]
    constructor
    · intro keeps
      have merged := (keeps _ rfl).merged rfl
      exact merged.symm.trans written
    · rintro merges after ⟨⟩
      obtain ⟨current, found, same⟩ := Option.map_eq_some_iff.mp
        (show (manager.book.orders.get request.orderId).map _ = some _ from merges)
      obtain ⟨-, currentFilled, currentStatus⟩ := OrderManager.applyModifyFields_kept current request
      have ahead : Ahead request.orderId manager.book (manager.storeModified order request).1.book := by
        refine ahead_store fun _ => ⟨?_, fun reached held => ?_⟩
        · rw [← same, currentFilled, OrderBook.filled_of_get found]
        · rw [OrderBook.status_of_get found] at held
          cases held
          rw [← same, currentStatus]
      exact ⟨ahead.filled, ahead.status, (fun read => nomatch read), fun _ => written.trans merges.symm⟩
  | _ =>
    refine ⟨fun _ => trivial, fun _ after taken => ?_⟩
    cases taken

theorem keeps_iff (keyed : race.Keyed request) (current : race.Current request event) :
    race.Keeps request event ↔ race.Undisturbed request event := by
  cases event with
  | modify modifyStep =>
    cases modifyStep with
    | read => exact keeps_read
    | store => exact keeps_store keyed
    | guard blocked =>
      refine ⟨fun _ => trivial, fun _ after taken => ?_⟩
      obtain ⟨⟨manager, stage⟩, acted, rfl⟩ := Option.map_eq_some_iff.mp taken
      obtain rfl : manager = race.manager := OrderManager.modifyAct_kept _ (by rintro ⟨⟩) acted
      exact lawful_kept (by rintro ⟨⟩) (by rintro ⟨⟩)
    | ask answer =>
      refine ⟨fun _ => trivial, fun _ after taken => ?_⟩
      obtain ⟨⟨manager, stage⟩, acted, rfl⟩ := Option.map_eq_some_iff.mp taken
      obtain rfl : manager = race.manager := OrderManager.modifyAct_kept _ (by rintro ⟨⟩) acted
      exact lawful_kept (by rintro ⟨⟩) (by rintro ⟨⟩)
  | recordTrade trade now =>
    refine ⟨fun _ => trivial, fun _ after taken => ?_⟩
    rw [← Option.some.inj taken]
    have ahead : Ahead request.orderId race.manager.book (race.manager.recordTrade trade now).1.book :=
      ahead_fillsAll (race.manager.recordTrade_fills trade now)
    exact ⟨ahead.filled, ahead.status, (fun read => nomatch read), (fun store => nomatch store)⟩
  | upsertOrder order now =>
    refine ⟨fun _ => trivial, fun _ after taken => ?_⟩
    rw [← Option.some.inj taken]
    exact (ahead_upsert current).lawful (by rintro _ ⟨⟩)

theorem Keyed.step (keyed : race.Keyed request) (taken : race.step request event = some after) :
    after.Keyed request := by
  cases event with
  | modify modifyStep =>
    obtain ⟨⟨manager, stage⟩, acted, rfl⟩ := Option.map_eq_some_iff.mp taken
    rcases OrderManager.modifyAct_order _ acted with absent | same
    · intro order held
      rw [show ModifyStage.order _ = none from absent] at held
      cases held
    · intro order held
      exact keyed order (same ▸ held)
  | recordTrade trade now =>
    rw [← Option.some.inj taken]
    intro order held
    exact keyed order held
  | upsertOrder order now =>
    rw [← Option.some.inj taken]
    intro order held
    exact keyed order held

/-- A modification that has not been asked of the broker: it has not begun, or has ended with nothing changed. -/
def Unasked (race : ModifyRace cache) : Prop := race.stage = .start ∨ ∃ ending, race.stage = .ended ending

theorem Unasked.step (unasked : race.Unasked) (taken : race.step request event = some after) :
    after.Unasked ∧ ∀ modifyStep, event = .modify modifyStep → after.manager = race.manager := by
  cases event with
  | modify modifyStep =>
    obtain ⟨⟨manager, stage⟩, acted, rfl⟩ := Option.map_eq_some_iff.mp taken
    obtain ⟨ending, refused⟩ := race.manager.openOrder_error request.orderId
    rcases unasked with start | ⟨ending, ended⟩
    · rw [start] at acted
      cases modifyStep with
      | read =>
        simp only [OrderManager.modifyAct, refused] at acted
        cases acted
        exact ⟨Or.inr ⟨ending, rfl⟩, fun _ _ => rfl⟩
      | _ => cases acted
    · rw [ended] at acted
      cases modifyStep <;> cases acted
  | recordTrade trade now =>
    rw [← Option.some.inj taken]
    refine ⟨?_, by rintro _ ⟨⟩⟩
    rcases unasked with start | ended
    · exact .inl start
    · exact .inr ended
  | upsertOrder order now =>
    rw [← Option.some.inj taken]
    refine ⟨?_, by rintro _ ⟨⟩⟩
    rcases unasked with start | ended
    · exact .inl start
    · exact .inr ended

/-- Over every interleaving of a modification, at whatever section, with trades and with snapshots that are
not behind the book: the filled quantity never falls, the status never goes back, an order that is not final
is modified, and the request is merged into the order as the book then holds it, exactly when the
modification reads no order that is not final and writes the order of the book with the request merged into
it. A modification from its beginning asks no broker and changes nothing. -/
theorem modification_keeps (request : ModifyOrderRequest) (race : ModifyRace cache) (events : List ModifyEvent)
    (keyed : race.Keyed request) :
    (Meets (step request) (fun race event => race.Current request event ∧ race.Keeps request event) race events ↔
      Meets (step request) (fun race event => race.Current request event ∧ race.Undisturbed request event)
        race events) ∧
    (race.stage = .start → Meets (step request) (fun race event => race.Unasked ∧
      ∀ modifyStep, event = .modify modifyStep → ∀ after, race.step request event = some after →
        after.manager = race.manager) race events) := by
  constructor
  · refine meets_iff (fun race event keyed => ?_) (fun race event after keyed _ taken => keyed.step taken) keyed
    exact and_congr_right fun current => keeps_iff keyed current
  · intro start
    have kept : ∀ (race : ModifyRace cache) event after, race.Unasked → True →
        race.step request event = some after → after.Unasked :=
      fun _ _ _ unasked _ taken => (unasked.step taken).1
    have all : Meets (step request) (fun _ _ => True) race events := meets_of_forall fun _ _ => trivial
    refine (meets_invariant kept (Or.inl start) all).mono fun race event held => ⟨held.1, ?_⟩
    exact fun modifyStep section_ after taken => (held.1.step taken).2 modifyStep section_

/-- The order of ten shares, of which the book knows these as filled. -/
def limitOrder (status : OrderStatus) (filledQuantity : ℚ) : Order where
  orderId := "220901"
  symbol := "RELIANCE"
  exchange := "NSE"
  side := .BUY
  orderType := .LIMIT
  quantity := 10
  filledQuantity := filledQuantity
  status := status
  price := 2500

/-- The price is to be raised. -/
def raisedPrice : ModifyOrderRequest where
  orderId := "220901"
  price := some 2550

def fourFilled : Trade where
  tradeId := "T1"
  orderId := "220901"
  symbol := "RELIANCE"
  exchange := "NSE"
  side := .BUY
  quantity := 4
  price := 2500

/-- The book holds the open order, and a modification of it is at the stage. -/
def modifying (stage : ModifyStage) : ModifyRace (leastRecentlyUsed Nat 10000 86400) where
  manager := { book := OrderBook.store {} (limitOrder .OPEN 0), recorder := { processedTrades := some [] } }
  stage := stage

instance : (event : ModifyEvent) → Decidable (race.Current request event)
  | .upsertOrder _ _ => inferInstanceAs (Decidable (_ → _ → _ ∧ ∀ _, _))
  | .modify _ | .recordTrade _ _ => isTrue trivial

/-- The answered modification is stored before the trade arrives. -/
theorem modification_keeps_price :
    Meets (step raisedPrice) (fun race event => race.Current raisedPrice event ∧ race.Keeps raisedPrice event)
      (modifying (.answered (limitOrder .OPEN 0))) [.modify .store, .recordTrade fourFilled 1] := by
  have keyed : (modifying (.answered (limitOrder .OPEN 0))).Keyed raisedPrice := by
    rintro order ⟨⟩
    rfl
  exact (modification_keeps raisedPrice _ _ keyed).1.mpr ⟨⟨trivial, rfl⟩, ⟨trivial, trivial⟩, trivial⟩

/-- The modification of the open order raises before the broker is asked; from behind the read, a fill that
arrives during the call is overwritten by the order that was read. -/
theorem modification_lost :
    ((modifying .start).step raisedPrice (.modify .read)).map (fun after => (after.stage, after.order raisedPrice)) =
        some (.ended (.raised (.attributeError "'OrderStatus' object has no attribute 'is_terminal'")),
          some (limitOrder .OPEN 0)) ∧
      ¬ (modifying .start).Keeps raisedPrice (.modify .read) ∧
      (exec (step raisedPrice) (modifying (.asking (limitOrder .OPEN 0)))
          [.recordTrade fourFilled 1, .modify (.ask (some .succeeded)), .modify .store]).map
        (fun after => (after.manager.book.filled "220901", after.manager.book.status "220901")) =
        some (0, some .OPEN) := by
  refine ⟨by decide +kernel, fun keeps => ?_, by decide +kernel⟩
  have going := (keeps _ rfl).goesOn rfl (limitOrder .OPEN 0) rfl rfl
  cases going

end ModifyRace

end TradeX.V1
