import TradeX.V1.Placement

/-! One placement under way while trades and snapshots of its order arrive. The broker
may report the order before `submit_fn` returns, so that fills are accepted before the
placement writes the order that it got as an answer. -/

namespace TradeX.V1

open Lib

/-- How far an order has come: not filled, partly filled, final. -/
def OrderStatus.progress : OrderStatus → Nat
  | .PENDING | .SUBMITTED | .OPEN | .UNKNOWN => 0
  | .PARTIALLY_FILLED => 1
  | .FILLED | .CANCELLED | .PARTIALLY_CANCELLED | .REJECTED | .EXPIRED => 2

namespace OrderManager

/-- A trade that is accepted is filled, any other leaves the book. -/
theorem recordTrade_fills {cache : TTLCache.{0, v} Nat} (manager : OrderManager cache) (trade : Trade) (now : ℚ) :
    FillsAll manager.book (if (manager.recordTrade trade now).2.accepted = true then [trade] else [])
      (manager.recordTrade trade now).1.book := by
  have records := recordTrade_records manager.recorder manager.book trade now
  unfold OrderManager.recordTrade
  dsimp only
  generalize manager.recorder.recordTrade manager.book trade now = recorded at records ⊢
  obtain ⟨recorder, book, outcome⟩ := recorded
  cases records with
  | kept _ unaccepted =>
    rw [unaccepted]
    exact .nil _
  | applied order updated _ _ _ fills => exact .cons fills (.nil _)

end OrderManager

namespace PlaceStage

/-- The order that a section behind the registration writes into the book. -/
def written : PlaceStage → PlaceStep → Option Order
  | .failing order _, .markUnknown => (order.withStatus .UNKNOWN).toOption
  | .unrecorded order _, .markUnknown => (order.withStatus .UNKNOWN).toOption
  | .recording order, .record => some order
  | _, _ => none

/-- The status that `record_and_publish` takes over from the broker's answer. -/
def response : PlaceStage → PlaceStep → Option OrderStatus
  | .recording order, .record => some order.status
  | _, _ => none

/-- The result of the call carries the order of this id. -/
def reports (orderId : String) : PlaceStage → Bool
  | .marked result | .releasing (.returned result) | .ended (.returned result) =>
    result.order.any fun order => order.orderId = orderId
  | _ => false

end PlaceStage

/-- The order manager and a placement, with the sum of the accepted fills of one order and
the status that the latest of them gave it. -/
structure FillRace (cache : TTLCache.{0, v} Nat) where
  manager : OrderManager cache
  stage : PlaceStage
  accepted : ℚ
  reached : Option OrderStatus := none

inductive RaceEvent where
  | place (step : PlaceStep)
  | recordTrade (trade : Trade) (now : ℚ)
  | upsertOrder (order : Order) (now : ℚ)

namespace FillRace

variable {cache : TTLCache.{0, v} Nat} (request : OmsOrderCommand) (orderId : String) (race : FillRace cache)

/-- The filled quantity of the order in the book. -/
def filled : ℚ := race.manager.book.filled orderId

/-- The fills of the trades have been accepted. -/
def credited (manager : OrderManager cache) (applied : List Trade) : FillRace cache :=
  { race with
    manager := manager
    accepted := race.accepted + quantityFor orderId applied
    reached := if applied.any (fun trade => trade.orderId = orderId) = true then manager.book.status orderId
      else race.reached }

/-- The broker answers with the id that it assigned. -/
def assigns : PlaceStep → Prop
  | .returns placed => placed.orderId = orderId
  | _ => True

instance : (step : PlaceStep) → Decidable (assigns orderId step)
  | .returns placed => inferInstanceAs (Decidable (placed.orderId = orderId))
  | .check .. | .register .. | .intent _ | .raises _ | .outcome _ | .markUnknown | .record | .release =>
    isTrue trivial

/-- One section of the placement, or one call for a trade or a snapshot. -/
def step : RaceEvent → Option (FillRace cache)
  | .place placeStep =>
    if assigns orderId placeStep then
      (OrderManager.act request race.manager race.stage placeStep).map fun after =>
        { race with manager := after.1, stage := after.2 }
    else none
  | .recordTrade trade now =>
    let recorded := race.manager.recordTrade trade now
    some (race.credited orderId recorded.1 (if recorded.2.accepted = true then [trade] else []))
  | .upsertOrder order now =>
    let upserted := race.manager.upsertOrder order now
    some (race.credited orderId upserted.1 upserted.2.1)

/-- What is written over the order agrees with its fills: the placement writes the sum of
the accepted fills, no less than the book holds and with no earlier status, and a
snapshot that passes holds no less than the book and, once the call reports the order,
the sum of the accepted fills. -/
def fits : RaceEvent → Prop
  | .place placeStep =>
    (∀ order ∈ race.stage.written placeStep, order.orderId = orderId →
      order.filledQuantity = race.accepted ∧ race.filled orderId ≤ order.filledQuantity) ∧
    ∀ status ∈ race.stage.response placeStep, ∀ reached ∈ race.reached, reached.progress ≤ status.progress
  | .recordTrade _ _ => True
  | .upsertOrder order now => order.orderId = orderId → race.manager.passes order now = true →
      race.filled orderId ≤ order.filledQuantity ∧
      (race.stage.reports orderId = true → order.filledQuantity = race.accepted)

instance : (event : RaceEvent) → Decidable (race.fits orderId event)
  | .place _ => inferInstanceAs (Decidable (_ ∧ _))
  | .recordTrade _ _ => isTrue trivial
  | .upsertOrder _ _ => inferInstanceAs (Decidable (_ → _ → _))

/-- The event does not lower the filled quantity, and the broker's answer does not replace
the status that a fill gave by an earlier one. -/
def Kept (event : RaceEvent) : Prop := ∀ after, race.step request orderId event = some after →
  race.filled orderId ≤ after.filled orderId ∧
  ∀ placeStep, event = .place placeStep → race.stage.response placeStep ≠ none →
    ∀ reached ∈ race.reached, ∃ status, after.manager.book.status orderId = some status ∧
      reached.progress ≤ status.progress

/-- From the call of `submit_fn` on, with the status that earlier fills gave. -/
def calling (manager : OrderManager cache) (stub : Order) (reached : Option OrderStatus) : FillRace cache where
  manager := manager
  stage := .submitting stub
  accepted := manager.book.filled orderId
  reached := reached

/-- The placement is behind the call of `submit_fn`, writes only the order of this id, and
reports it only with the accepted fills. -/
structure Sound : Prop where
  called : match race.stage with
    | .start | .reserved | .registered _ => False
    | .answered placed | .unrecorded placed _ | .recording placed => placed.orderId = orderId
    | _ => True
  settled : race.stage.reports orderId = true → race.filled orderId = race.accepted

variable {request orderId race} {manager : OrderManager cache} {stage : PlaceStage} {after : FillRace cache}

/-- The mark of an order that agrees with the fills, if it is the order of the race. -/
theorem mark_filled {marked : Order} {correlationId : String} {accepted : ℚ}
    (agrees : marked.orderId = orderId →
      marked.filledQuantity = accepted ∧ manager.book.filled orderId ≤ marked.filledQuantity) :
    manager.book.filled orderId ≤ (manager.register marked correlationId).book.filled orderId ∧
      (marked.orderId = orderId → (manager.register marked correlationId).book.filled orderId = accepted) := by
  rw [OrderManager.register_filled]
  split
  · next same =>
    obtain ⟨settles, higher⟩ := agrees same.symm
    exact ⟨higher, fun _ => settles⟩
  · next other => exact ⟨le_refl _, fun same => absurd same.symm other⟩

/-- A section of the placement lowers nothing, keeps the reached status against the broker's
answer and leaves the placement sound. -/
theorem place_sound {placeStep : PlaceStep} (sound : Sound orderId race)
    (fits : race.fits orderId (.place placeStep)) (assigned : assigns orderId placeStep)
    (acts : OrderManager.Acts request race.manager race.stage placeStep manager stage) :
    race.filled orderId ≤ manager.book.filled orderId ∧
    (race.stage.response placeStep ≠ none → ∀ reached ∈ race.reached, ∃ status,
      manager.book.status orderId = some status ∧ reached.progress ≤ status.progress) ∧
    Sound orderId { race with manager := manager, stage := stage } := by
  obtain ⟨before, stage, accepted, reached⟩ := race
  obtain ⟨called, settled⟩ := sound
  have nothing : ∀ {next : PlaceStage} {goal : Prop}, next.reports orderId = false →
      next.reports orderId = true → goal := by
    intro next goal silent reports
    rw [silent] at reports
    cases reports
  cases acts with
  | early => cases called
  | reserve => cases called
  | refuse => cases called
  | direct => cases called
  | register => cases called
  | submit => cases called
  | unintended => cases called
  | returns stub placed => exact ⟨le_refl _, fun absent => absurd rfl absent, assigned, nothing rfl⟩
  | raises stub message => exact ⟨le_refl _, fun absent => absurd rfl absent, trivial, nothing rfl⟩
  | unmarkable stage error failing =>
    obtain ⟨order, message, rfl | rfl⟩ := failing
    · exact ⟨le_refl _, fun absent => absurd rfl absent, trivial, nothing rfl⟩
    · exact ⟨le_refl _, fun absent => absurd rfl absent, trivial, nothing rfl⟩
  | mark order message marked =>
    obtain ⟨higher, settles⟩ := mark_filled (fits.1 { order with status := .UNKNOWN } (by rw [PlaceStage.written, marked]; rfl))
    exact ⟨higher, fun absent => absurd rfl absent, trivial, fun reports => settles (of_decide_eq_true reports)⟩
  | markPlaced placed failure error marked =>
    obtain ⟨higher, settles⟩ := mark_filled (fits.1 { placed with status := .UNKNOWN } (by rw [PlaceStage.written, marked]; rfl))
    exact ⟨higher, fun absent => absurd rfl absent, trivial, fun reports => settles (of_decide_eq_true reports)⟩
  | outcome result failure ending ends =>
    refine ⟨le_refl _, fun absent => absurd rfl absent, trivial, ?_⟩
    obtain rfl | ⟨error, rfl⟩ := ends
    · exact settled
    · exact nothing rfl
  | accept placed => exact ⟨le_refl _, fun absent => absurd rfl absent, called, nothing rfl⟩
  | unrecord placed failure => exact ⟨le_refl _, fun absent => absurd rfl absent, called, nothing rfl⟩
  | record order =>
    subst called
    obtain ⟨agrees, higher⟩ := fits.1 order rfl rfl
    have written : (before.recordAndPublish order request.correlationId).book.orders.get order.orderId =
        some order := OrderManager.recordAndPublish_get
    rw [OrderBook.filled_of_get written]
    refine ⟨higher, fun _ status gave => ⟨order.status, OrderBook.status_of_get written, ?_⟩, trivial, fun _ => ?_⟩
    · exact fits.2 order.status rfl status gave
    · exact (OrderBook.filled_of_get written).trans agrees
  | release ending =>
    refine ⟨le_refl _, fun absent => absurd rfl absent, trivial, ?_⟩
    cases ending with
    | returned result => exact settled
    | raised error => exact nothing rfl

/-- Fills on top of a book that holds enough keep the placement sound. -/
theorem credited_sound {book : OrderBook} {applied : List Trade} (sound : Sound orderId race)
    (fills : FillsAll book applied manager.book) (higher : race.filled orderId ≤ book.filled orderId)
    (settles : race.stage.reports orderId = true → book.filled orderId = race.accepted) :
    race.filled orderId ≤ (race.credited orderId manager applied).filled orderId ∧
      Sound orderId (race.credited orderId manager applied) := by
  have total : (race.credited orderId manager applied).filled orderId =
      book.filled orderId + quantityFor orderId applied := fills.filled_eq
  have gained : 0 ≤ quantityFor orderId applied := fills.quantityFor_nonneg
  refine ⟨?_, sound.called, fun reports => ?_⟩
  · rw [total]
    exact le_add_of_le_of_nonneg higher gained
  · rw [total, settles reports]
    rfl

/-- What one event does to a sound race. -/
theorem step_sound {event : RaceEvent} (sound : Sound orderId race) (fits : race.fits orderId event)
    (taken : race.step request orderId event = some after) :
    race.filled orderId ≤ after.filled orderId ∧
    (∀ placeStep, event = .place placeStep → race.stage.response placeStep ≠ none →
      ∀ reached ∈ race.reached, ∃ status, after.manager.book.status orderId = some status ∧
        reached.progress ≤ status.progress) ∧
    Sound orderId after := by
  cases event with
  | place placeStep =>
    unfold step at taken
    dsimp only at taken
    split at taken
    · next assigned =>
      obtain ⟨⟨manager, stage⟩, acted, same⟩ := Option.map_eq_some_iff.mp taken
      cases same
      obtain ⟨higher, keeps, soundAfter⟩ := place_sound sound fits assigned (OrderManager.act_acts acted)
      refine ⟨higher, ?_, soundAfter⟩
      rintro _ ⟨⟩
      exact keeps
    · cases taken
  | recordTrade trade now =>
    rw [← Option.some.inj taken]
    obtain ⟨higher, soundAfter⟩ :=
      credited_sound sound (race.manager.recordTrade_fills trade now) (le_refl _) sound.settled
    exact ⟨higher, by rintro _ ⟨⟩, soundAfter⟩
  | upsertOrder order now =>
    rw [← Option.some.inj taken]
    obtain ⟨passes, fills⟩ | ⟨-, kept, silent⟩ := OrderManager.upsertOrder_book race.manager order now
    · obtain ⟨higher, soundAfter⟩ : race.filled orderId ≤ (race.credited orderId
          (race.manager.upsertOrder order now).1 (race.manager.upsertOrder order now).2.1).filled orderId ∧ _ := by
        refine credited_sound sound fills ?_ ?_
        · rw [OrderBook.store_filled]
          split
          · next same => exact (fits same.symm passes).1
          · exact le_refl _
        · intro reports
          rw [OrderBook.store_filled]
          split
          · next same => exact (fits same.symm passes).2 reports
          · exact sound.settled reports
      exact ⟨higher, by rintro _ ⟨⟩, soundAfter⟩
    · have unchanged : FillsAll race.manager.book (race.manager.upsertOrder order now).2.1
          (race.manager.upsertOrder order now).1.book := by
        rw [kept, silent]
        exact .nil _
      obtain ⟨higher, soundAfter⟩ := credited_sound sound unchanged (le_refl _) sound.settled
      exact ⟨higher, by rintro _ ⟨⟩, soundAfter⟩

/-- Over every interleaving of a placement with trades and snapshots that fit, the filled
quantity of the order never falls, no fill's status yields to an earlier one of the
broker's answer, and a call that returned with the order leaves the accepted fills. -/
theorem fills_kept (request : OmsOrderCommand) (orderId : String) (manager : OrderManager cache) (stub : Order)
    (reached : Option OrderStatus) (events : List RaceEvent) (after : FillRace cache)
    (run : exec (step request orderId) (calling orderId manager stub reached) events = some after)
    (met : Meets (step request orderId) (fits orderId) (calling orderId manager stub reached) events) :
    Meets (step request orderId) (Kept request orderId) (calling orderId manager stub reached) events ∧
    ∀ result order, after.stage = .ended (.returned result) → result.order = some order →
      order.orderId = orderId → after.filled orderId = after.accepted := by
  have initial : Sound orderId (calling orderId manager stub reached) := ⟨trivial, by rintro ⟨⟩⟩
  have preserved : ∀ (race : FillRace cache) event next, Sound orderId race → fits orderId race event →
      step request orderId race event = some next → Sound orderId next :=
    fun _ _ _ sound fits taken => (step_sound sound fits taken).2.2
  refine ⟨?_, fun result order ended carries same => ?_⟩
  · refine (meets_invariant preserved initial met).mono fun race event held next taken => ?_
    obtain ⟨higher, keeps, -⟩ := step_sound held.1 held.2 taken
    exact ⟨higher, keeps⟩
  · have sound := exec_invariant preserved initial met run
    refine sound.settled ?_
    rw [ended, PlaceStage.reports, carries]
    exact decide_eq_true same

/-- The order as the broker reports it and as it answers with. -/
def reported (status : OrderStatus) (filledQuantity : ℚ) : Order where
  orderId := "220901"
  symbol := "RELIANCE"
  exchange := "NSE"
  side := .BUY
  orderType := .LIMIT
  quantity := 10
  filledQuantity := filledQuantity
  status := status

def tenFilled : Trade where
  tradeId := "T1"
  orderId := "220901"
  symbol := "RELIANCE"
  exchange := "NSE"
  side := .BUY
  quantity := 10
  price := 2500

def limitOrder : OmsOrderCommand where
  symbol := "RELIANCE"
  exchange := "NSE"
  side := .BUY
  quantity := 10
  orderType := .LIMIT
  correlationId := "6f1c"
  correlationId_present := sampleId_present

/-- The stub that is registered before `submit_fn` is called. -/
def registeredStub : Order :=
  { reported .OPEN 0 with orderId := "OM-1", correlationId := some "6f1c" }

/-- A manager that has registered the stub. -/
def submittingManager : OrderManager (leastRecentlyUsed Nat 10000 86400) :=
  OrderManager.register { recorder := { processedTrades := some [] } } registeredStub "6f1c"

/-- The order is reported, answered and recorded before its fill arrives. -/
def filledAfterwards : List RaceEvent := [
  .upsertOrder (reported .OPEN 0) 0, .place (.returns (reported .OPEN 0)), .place (.outcome none),
  .place .record, .recordTrade tenFilled 1]

theorem fills_kept_afterwards :
    ∃ after, exec (step limitOrder "220901") (calling "220901" submittingManager registeredStub none)
      filledAfterwards = some after ∧ after.accepted = 10 ∧
      (Meets (step limitOrder "220901") (Kept limitOrder "220901")
        (calling "220901" submittingManager registeredStub none) filledAfterwards ∧
      ∀ result order, after.stage = .ended (.returned result) → result.order = some order →
        order.orderId = "220901" → after.filled "220901" = after.accepted) := by
  have runs : (exec (step limitOrder "220901") (calling "220901" submittingManager registeredStub none)
      filledAfterwards).map (·.accepted) = some 10 := by decide +kernel
  obtain ⟨after, run, ten⟩ := Option.map_eq_some_iff.mp runs
  exact ⟨after, run, ten, fills_kept limitOrder "220901" submittingManager registeredStub none _ after run
    (by decide +kernel)⟩

/-- The fill arrives while the call is out, and the answer was taken before it. -/
def filledMeanwhile : List RaceEvent := [
  .upsertOrder (reported .OPEN 0) 0, .recordTrade tenFilled 1, .place (.returns (reported .OPEN 0)),
  .place (.outcome none), .place .record]

theorem fills_lost :
    (exec (step limitOrder "220901") (calling "220901" submittingManager registeredStub none)
      filledMeanwhile).map (fun after => (after.filled "220901", after.accepted,
        after.manager.book.status "220901", after.reached)) = some (0, 10, some .OPEN, some .FILLED) ∧
    ¬ ∀ (request : OmsOrderCommand) (orderId : String) (manager : OrderManager (leastRecentlyUsed Nat 10000 86400))
        (stub : Order) (reached : Option OrderStatus) (events : List RaceEvent)
        (after : FillRace (leastRecentlyUsed Nat 10000 86400)),
      exec (step request orderId) (calling orderId manager stub reached) events = some after →
      Meets (step request orderId) (Kept request orderId) (calling orderId manager stub reached) events ∧
      ∀ result order, after.stage = .ended (.returned result) → result.order = some order →
        order.orderId = orderId → after.filled orderId = after.accepted := by
  have lost : (exec (step limitOrder "220901") (calling "220901" submittingManager registeredStub none)
      filledMeanwhile).map (fun after => (after.filled "220901", after.accepted,
        after.manager.book.status "220901", after.reached)) = some (0, 10, some .OPEN, some .FILLED) := by
    decide +kernel
  refine ⟨lost, fun claim => ?_⟩
  obtain ⟨after, run, ends⟩ := Option.map_eq_some_iff.mp lost
  have returned : (exec (step limitOrder "220901") (calling "220901" submittingManager registeredStub none)
      filledMeanwhile).map (·.stage) = some (.ended (.returned
        { success := true, order := some (reported .OPEN 0), state := some .ACCEPTED })) := by decide +kernel
  rw [run] at returned
  obtain ⟨-, settled⟩ := claim limitOrder "220901" submittingManager registeredStub none _ after run
  have same := settled _ _ (Option.some.inj returned) rfl rfl
  have nothing : after.filled "220901" = 0 := congrArg Prod.fst ends
  have ten : after.accepted = 10 := congrArg (·.2.1) ends
  rw [nothing, ten] at same
  exact absurd same (by decide)

end FillRace

end TradeX.V1
