import TradeX.V1.PaperOrders
import TradeX.V1.PositionStates

/-! The paper gateway against the order manager: every correlation id is filled once, and every
trade of the gateway is accepted and booked as the gateway books it. Only a fill under an order
that the order manager already has gets that far, so the rest of a run has to keep what the book
holds as filled. -/

namespace TradeX.V1

open Lib

/-- The gateway has issued every number up to this one, and the id is not one that it has yet to issue. -/
def Issued (seq : ℕ) (orderId : String) : Prop := ∀ n, orderId = paperOrderId n → n ≤ seq

theorem paperOrderId_value (n : ℕ) : Nat.ofDigitChars 10 ((paperOrderId n).toList.drop 4) 0 = n := by
  simp only [paperOrderId, String.toList_append]
  exact Decimal.zeroPadded_value 6 n

theorem issued_iff (seq : ℕ) (orderId : String) : Issued seq orderId ↔
    (orderId = paperOrderId (Nat.ofDigitChars 10 (orderId.toList.drop 4) 0) →
      Nat.ofDigitChars 10 (orderId.toList.drop 4) 0 ≤ seq) := by
  constructor
  · intro issued same
    exact issued _ same
  · intro issued n same
    subst same
    rw [paperOrderId_value] at issued
    exact issued rfl

instance (seq : ℕ) (orderId : String) : Decidable (Issued seq orderId) := decidable_of_iff' _ (issued_iff seq orderId)

theorem Issued.mono {seq later : ℕ} {orderId : String} (issued : Issued seq orderId) (more : seq ≤ later) :
    Issued later orderId :=
  fun n same => (issued n same).trans more

theorem issued_paperOrderId (seq : ℕ) : Issued seq (paperOrderId seq) := by
  intro n same
  have values := paperOrderId_value n
  rw [← same, paperOrderId_value] at values
  omega

theorem issued_omsOrderId (seq : ℕ) (drawn : String) : Issued seq (omsOrderId drawn) := by
  intro n same
  have heads := congrArg (fun id => id.toList.head?) same
  simp [omsOrderId, paperOrderId, String.toList_append] at heads

theorem paperTradeId_solid (n : ℕ) : Text.strip (paperTradeId n) = paperTradeId n := by
  apply Text.strip_of_solid
  intro c member
  simp only [paperTradeId, String.toList_append, List.mem_append] at member
  rcases member with letter | digit
  · have spelled : "PPR-T-".toList = ['P', 'P', 'R', '-', 'T', '-'] := by simp
    simp only [spelled, List.mem_cons, List.not_mem_nil, or_false] at letter
    rcases letter with rfl | rfl | rfl | rfl | rfl | rfl <;> rfl
  · exact Text.isWhitespace_of_isDigit (Decimal.zeroPadded_digits digit)

theorem paperTradeId_inj {m n : ℕ} (same : paperTradeId m = paperTradeId n) : m = n := by
  apply @Decimal.zeroPadded_inj 6
  exact String.append_right_inj _ |>.mp same

theorem paperTradeId_visible (n : ℕ) : blank (paperTradeId n) = false := by
  have letter : 'P' ∈ (paperTradeId n).toList := by
    simp only [paperTradeId, String.toList_append]
    exact List.mem_append_left _ List.mem_cons_self
  exact decide_eq_false (Text.strip_ne_empty letter (by decide))

namespace OrderBook

theorem store_index {book : OrderBook} {order : Order} {correlationId : String} :
    (book.store order).byCorrelation.get correlationId = book.byCorrelation.get correlationId ∨
      (book.store order).byCorrelation.get correlationId = some order := by
  unfold store
  split
  · exact .inl rfl
  · next filed _ =>
    by_cases here : correlationId = filed
    · right
      rw [here]
      exact Dict.get_set_self ..
    · left
      exact Dict.get_set_other _ _ _ _ here

/-- The order carries the filled quantity that the book holds for its id, and nothing filled is filed
under the correlation id of another one. -/
structure Writable (book : OrderBook) (seq : ℕ) (correlationId : String) (order : Order) : Prop where
  filled : order.filledQuantity = book.filled order.orderId
  room : order.filledQuantity ≤ order.quantity
  issued : Issued seq order.orderId
  prior : ∀ prior ∈ book.byCorrelation.get correlationId,
    prior.orderId = order.orderId ∨ book.filled prior.orderId = 0

instance (book : OrderBook) (seq : ℕ) (correlationId : String) (order : Order) :
    Decidable (book.Writable seq correlationId order) :=
  decidable_of_iff (order.filledQuantity = book.filled order.orderId ∧ order.filledQuantity ≤ order.quantity ∧
      Issued seq order.orderId ∧ ∀ prior ∈ book.byCorrelation.get correlationId,
        prior.orderId = order.orderId ∨ book.filled prior.orderId = 0)
    ⟨fun ⟨filled, room, issued, prior⟩ => ⟨filled, room, issued, prior⟩,
      fun writable => ⟨writable.filled, writable.room, writable.issued, writable.prior⟩⟩

/-- Orders are written with what the book holds as filled and dropped only without a fill, and a filled
order stays filed under a visible correlation id. -/
structure KeepsFills (seq : ℕ) (before after : OrderBook) : Prop where
  orders : ∀ id, after.orders.get id = before.orders.get id ∨
    (after.orders.get id = none ∧ before.filled id = 0) ∨
    ∃ order, after.orders.get id = some order ∧ order.filledQuantity = before.filled id ∧
      order.filledQuantity ≤ order.quantity ∧ Issued seq id
  filed : ∀ correlationId order, blank correlationId = false →
    before.byCorrelation.get correlationId = some order → 0 < before.filled order.orderId →
    ∃ later, after.byCorrelation.get correlationId = some later ∧ later.orderId = order.orderId

namespace KeepsFills

variable {seq : ℕ} {before middle after book : OrderBook} {order : Order} {id correlationId : String}

theorem filled (keeps : KeepsFills seq before after) (id : String) : after.filled id = before.filled id := by
  rcases keeps.orders id with kept | ⟨dropped, unfilled⟩ | ⟨order, written, same, -⟩
  · unfold OrderBook.filled
    rw [kept]
  · rw [unfilled, OrderBook.filled, dropped]
    rfl
  · rw [OrderBook.filled_of_get written, same]

theorem refl (seq : ℕ) (book : OrderBook) : KeepsFills seq book book where
  orders _ := .inl rfl
  filed _ order _ found _ := ⟨order, found, rfl⟩

theorem trans (first : KeepsFills seq before middle) (second : KeepsFills seq middle after) :
    KeepsFills seq before after where
  orders id := by
    rcases second.orders id with kept | ⟨dropped, unfilled⟩ | ⟨order, written, same, room, issued⟩
    · rw [kept]
      exact first.orders id
    · rw [first.filled] at unfilled
      exact .inr (.inl ⟨dropped, unfilled⟩)
    · rw [first.filled] at same
      exact .inr (.inr ⟨order, written, same, room, issued⟩)
  filed correlationId order visible found some := by
    obtain ⟨later, filedLater, sameLater⟩ := first.filed correlationId order visible found some
    have still : 0 < middle.filled later.orderId := by
      rw [sameLater, first.filled]
      exact some
    obtain ⟨last, filedLast, sameLast⟩ := second.filed correlationId later visible filedLater still
    exact ⟨last, filedLast, sameLast.trans sameLater⟩

theorem put (filled : order.filledQuantity = book.filled order.orderId)
    (room : order.filledQuantity ≤ order.quantity) (issued : Issued seq order.orderId) :
    KeepsFills seq book (book.put order) where
  orders id := by
    rw [show (book.put order).orders.get id = _ from Dict.get_set ..]
    split
    · next here =>
      subst here
      exact .inr (.inr ⟨order, rfl, filled, room, issued⟩)
    · exact .inl rfl
  filed _ filed _ found _ := ⟨filed, found, rfl⟩

theorem fileUnder (prior : ∀ prior ∈ book.byCorrelation.get correlationId,
      prior.orderId = order.orderId ∨ book.filled prior.orderId = 0) :
    KeepsFills seq book (book.fileUnder correlationId order) where
  orders _ := .inl rfl
  filed other filed _ found some := by
    rw [show (book.fileUnder correlationId order).byCorrelation.get other = _ from Dict.get_set ..]
    split
    · next here =>
      subst here
      rcases prior filed found with same | unfilled
      · exact ⟨order, rfl, same.symm⟩
      · rw [unfilled] at some
        exact absurd some (lt_irrefl 0)
    · exact ⟨filed, found, rfl⟩

theorem drop (unfilled : book.filled id = 0) : KeepsFills seq book (book.drop id) where
  orders other := by
    rw [show (book.drop id).orders.get other = _ from Dict.get_pop ..]
    split
    · next here =>
      subst here
      exact .inr (.inl ⟨rfl, unfilled⟩)
    · exact .inl rfl
  filed _ filed _ found _ := ⟨filed, found, rfl⟩

/-- Both indexes take a writable order. -/
theorem enter (writable : book.Writable seq correlationId order) :
    KeepsFills seq book ((book.put order).fileUnder correlationId order) := by
  have written : KeepsFills seq book (book.put order) := put writable.filled writable.room writable.issued
  apply written.trans
  apply fileUnder
  intro prior found
  rw [written.filled]
  exact writable.prior prior found

/-- `store_order` writes the index for the order's own correlation id, which nothing was filed under
before, or which is not visible. -/
theorem store (keeps : KeepsFills seq before after) (filled : order.filledQuantity = after.filled order.orderId)
    (room : order.filledQuantity ≤ order.quantity) (issued : Issued seq order.orderId)
    (unfiled : ∀ correlationId ∈ order.filedUnder, blank correlationId = false →
      before.byCorrelation.get correlationId = none) :
    KeepsFills seq before (after.store order) := by
  have written : KeepsFills seq before (after.put order) := keeps.trans (put filled room issued)
  unfold OrderBook.store
  split
  · exact written
  · next correlationId filed =>
    refine ⟨written.orders, ?_⟩
    intro other earlier visible found some
    have differs : other ≠ correlationId := by
      rintro rfl
      rw [unfiled other filed visible] at found
      cases found
    rw [show ((after.put order).fileUnder correlationId order).byCorrelation.get other = _ from
      Dict.get_set_other _ _ _ _ differs]
    exact written.filed other earlier visible found some

/-- What was applied to the orders stays applied. -/
theorem applied {recorder : TradeRecorder} {presented applied : List Trade} {durable : Bool}
    (keeps : KeepsFills seq before after) (held : Applied durable presented recorder before applied)
    (positive : ∀ trade ∈ applied, 0 < trade.quantity) : Applied durable presented recorder after applied where
  distinct := held.distinct
  presented := held.presented
  known trade listed := by
    rcases keeps.orders trade.orderId with kept | ⟨-, unfilled⟩ | ⟨order, written, -⟩
    · rw [Dict.contains, kept]
      exact held.known trade listed
    · rw [held.book_filled] at unfilled
      exact absurd unfilled (quantityFor_pos positive listed).ne'
    · rw [Dict.contains, written]
      rfl
  seen := held.seen
  processed := held.processed
  cumulative := held.cumulative
  filled id order found := by
    rcases keeps.orders id with kept | ⟨dropped, -⟩ | ⟨other, written, same, room, -⟩
    · rw [kept] at found
      exact held.filled id order found
    · rw [dropped] at found
      cases found
    · rw [written] at found
      cases found
      exact ⟨same.trans (held.book_filled id), room⟩
  ledger := held.ledger

end KeepsFills

end OrderBook

/-- The order that the ledger recovers for the check of the step. -/
def PlaceStep.recovered : PlaceStep → Option Order
  | .check _ durable => durable.order
  | _ => none

/-- Nothing outside the order manager refuses the order that is submitted. -/
def PaperAnswers.accepts (answers : PaperAnswers) : Prop :=
  answers.blocked = none ∧ answers.intentFails = none ∧ answers.outcomeFails = none

instance (answers : PaperAnswers) : Decidable answers.accepts := inferInstanceAs (Decidable (_ ∧ _ ∧ _))

namespace OrderManager

variable {cache : TTLCache.{0, v} Nat} {manager after : OrderManager cache} {request : OmsOrderCommand}
  {stage next : PlaceStage} {step : PlaceStep} {order filled : Order} {seq : ℕ} {correlationId : String} {now : ℚ}

theorem register_keeps (writable : manager.book.Writable seq correlationId order) :
    OrderBook.KeepsFills seq manager.book (manager.register order correlationId).book :=
  .enter writable

/-- The registered order may be written again, whatever its status becomes. -/
theorem register_writable (writable : manager.book.Writable seq correlationId order) :
    (manager.register order correlationId).book.Writable seq correlationId order where
  filled := by
    rw [(register_keeps writable).filled]
    exact writable.filled
  room := writable.room
  issued := writable.issued
  prior prior found := by
    rw [register_filed] at found
    cases found
    exact .inl rfl

theorem recordAndPublish_keeps (writable : manager.book.Writable seq correlationId order) :
    OrderBook.KeepsFills seq manager.book (manager.recordAndPublish order correlationId).book := by
  have entered : ∀ book : OrderBook, OrderBook.KeepsFills seq manager.book book →
      book.byCorrelation = manager.book.byCorrelation →
      OrderBook.KeepsFills seq manager.book ((book.put order).fileUnder correlationId order) := by
    intro book keeps index
    apply keeps.trans
    apply OrderBook.KeepsFills.enter
    constructor
    · rw [keeps.filled]
      exact writable.filled
    · exact writable.room
    · exact writable.issued
    · intro prior found
      rw [index] at found
      rw [keeps.filled]
      exact writable.prior prior found
  simp only [recordAndPublish, afterPrior, releasePending]
  split
  · exact entered _ (.refl seq _) rfl
  · next prior filed =>
    split
    · exact entered _ (.refl seq _) rfl
    · next other =>
      apply entered
      · apply OrderBook.KeepsFills.drop
        exact (writable.prior prior filed).resolve_left other
      · rfl

/-- Without an order that the ledger recovers, the check leaves the book. -/
theorem checkAndReserve_book {durable : DurableAnswer} (unrecovered : durable.order = none) :
    (manager.checkAndReserve correlationId now durable).1.book = manager.book := by
  cases durable with
  | recovered order => cases unrecovered
  | raises message =>
    simp only [checkAndReserve, lookupDurableOrder]
    split <;> rfl
  | nothing =>
    unfold checkAndReserve
    split
    · rfl
    · rw [lookupDurableOrder_nothing]
      dsimp only
      split
      · rfl
      · rfl

/-- A check that ends the call of an unfiled id without a recovered order does not report a success. -/
theorem checkAndReserve_unanswered {durable : DurableAnswer} {result : OrderResult}
    (unrecovered : durable.order = none) (unfiled : manager.book.byCorrelation.get correlationId = none)
    (ends : (manager.checkAndReserve correlationId now durable).2 = some (.returned result)) :
    result.success = false := by
  unfold checkAndReserve at ends
  rw [unfiled] at ends
  cases durable with
  | recovered order => cases unrecovered
  | raises message => cases ends
  | nothing =>
    rw [lookupDurableOrder_nothing] at ends
    dsimp only at ends
    split at ends
    · cases ends
      rfl
    · cases ends

/-- The order that a step brings in: the one built at the registration, the broker's answer, or the one
whose submission raised. -/
def brought (request : OmsOrderCommand) : PlaceStage → PlaceStep → Option Order
  | .reserved, .register orderId .. => some (builtOrder request orderId)
  | .submitting _, .returns placed => some placed
  | .submitting order, .raises _ => some order
  | _, _ => none

/-- What holds of a placement between two steps: its id is unfiled while it is only reserved, and the
order that it is to write is writable. -/
def Stands (seq : ℕ) (book : OrderBook) (request : OmsOrderCommand) : PlaceStage → Prop
  | .reserved => book.byCorrelation.get request.correlationId = none
  | .registered order | .failing order _ | .answered order | .unrecorded order _ | .recording order =>
    book.Writable seq request.correlationId order
  | _ => True

theorem Stands.mark {status : OrderStatus} (writable : manager.book.Writable seq correlationId order) :
    manager.book.Writable seq correlationId { order with status := status } :=
  ⟨writable.filled, writable.room, writable.issued, writable.prior⟩

/-- The registration brings in the built order, or it ends the call. -/
theorem act_reserved {orderId : String} {gate risk blocked : Option String} {submits : Bool}
    (taken : act request manager .reserved (.register orderId gate risk blocked submits) = some (after, next)) :
    (∃ ending, next = .releasing ending) ∨ next = .recording (builtOrder request orderId) ∨
      next = .registered (builtOrder request orderId) := by
  simp only [act] at taken
  split at taken
  · cases taken
    exact .inl ⟨_, rfl⟩
  · next order built =>
    obtain ⟨-, -, rfl⟩ := buildAndValidate_passes built
    split at taken
    · cases taken
      exact .inl ⟨_, rfl⟩
    · split at taken
      · cases taken
        exact .inr (.inr rfl)
      · cases taken
        exact .inr (.inl rfl)

/-- A step that brings in a writable order keeps what the book holds as filled. -/
theorem act_keeps (stands : Stands seq manager.book request stage)
    (writable : ∀ order ∈ brought request stage step, manager.book.Writable seq request.correlationId order)
    (unrecovered : step.recovered = none)
    (taken : act request manager stage step = some (after, next)) :
    OrderBook.KeepsFills seq manager.book after.book ∧ after.recorder = manager.recorder ∧
      Stands seq after.book request next := by
  have acts := act_acts taken
  cases acts with
  | early now durable ending ends =>
    have same : (manager.checkAndReserve request.correlationId now durable).1.book = manager.book :=
      checkAndReserve_book unrecovered
    rw [same]
    exact ⟨.refl seq _, (checkAndReserve_kept manager request.correlationId now durable).2, trivial⟩
  | reserve now durable missed idle => exact ⟨.refl seq _, rfl, missed⟩
  | refuse step result => exact ⟨.refl seq _, rfl, trivial⟩
  | direct step order =>
    cases step with
    | register orderId gate risk blocked submits =>
      rcases act_reserved taken with ⟨ending, ends⟩ | built | registered
      · cases ends
      · cases built
        exact ⟨.refl seq _, rfl, writable _ rfl⟩
      · cases registered
    | _ => cases taken
  | register step order =>
    cases step with
    | register orderId gate risk blocked submits =>
      rcases act_reserved taken with ⟨ending, ends⟩ | built | registered
      · cases ends
      · cases built
      · cases registered
        exact ⟨register_keeps (writable _ rfl), rfl, register_writable (writable _ rfl)⟩
    | _ => cases taken
  | submit order => exact ⟨.refl seq _, rfl, trivial⟩
  | unintended order failure => exact ⟨.refl seq _, rfl, stands⟩
  | returns order placed => exact ⟨.refl seq _, rfl, writable placed rfl⟩
  | raises order message => exact ⟨.refl seq _, rfl, writable order rfl⟩
  | unmarkable stage error => exact ⟨.refl seq _, rfl, trivial⟩
  | mark order message marks => exact ⟨register_keeps (Stands.mark stands), rfl, trivial⟩
  | markPlaced placed failure error marks => exact ⟨register_keeps (Stands.mark stands), rfl, trivial⟩
  | outcome result failure ending => exact ⟨.refl seq _, rfl, trivial⟩
  | accept placed => exact ⟨.refl seq _, rfl, stands⟩
  | unrecord placed failure => exact ⟨.refl seq _, rfl, stands⟩
  | record order => exact ⟨recordAndPublish_keeps stands, rfl, trivial⟩
  | release ending => exact ⟨.refl seq _, rfl, trivial⟩

/-- Behind the registration of an unfilled order another one may be written as before. -/
theorem register_writable_other (unfilled : order.filledQuantity = 0)
    (registered : manager.book.Writable seq correlationId order)
    (writable : manager.book.Writable seq correlationId filled) :
    (manager.register order correlationId).book.Writable seq correlationId filled where
  filled := by
    rw [(register_keeps registered).filled]
    exact writable.filled
  room := writable.room
  issued := writable.issued
  prior prior found := by
    rw [register_filed] at found
    cases found
    rw [(register_keeps registered).filled, ← registered.filled, unfilled]
    exact .inr rfl

/-- How a submission whose `submit_fn` is the simulated fill may end. -/
def SubmitsFill (seq : ℕ) (request : OmsOrderCommand) (answers : PaperAnswers) (filled : Order)
    (manager : OrderManager cache) : SubmitEnd → Prop
  | .placed order => order = filled ∧ answers.accepts ∧ manager.book.Writable seq request.correlationId filled
  | .rejected result => result.success = false
  | .raised _ => True

theorem submitToBroker_keeps {answers : PaperAnswers} (now : ℚ) (opened : order.status = .OPEN)
    (unfilled : order.filledQuantity = 0) (registered : manager.book.Writable seq request.correlationId order)
    (writable : answers.accepts ∨ ¬ filled.traded → manager.book.Writable seq request.correlationId filled) :
    OrderBook.KeepsFills seq manager.book (manager.submitToBroker order request answers.blocked
        (answers.forFill now filled).submission).1.book ∧
      SubmitsFill seq request answers filled (manager.submitToBroker order request answers.blocked
        (answers.forFill now filled).submission).1 (manager.submitToBroker order request answers.blocked
        (answers.forFill now filled).submission).2 := by
  have registers := register_keeps registered
  simp only [submitToBroker, PaperAnswers.forFill]
  cases blocks : answers.blocked with
  | some reason => exact ⟨.refl seq _, rfl⟩
  | none =>
    cases intends : answers.intentFails with
    | some failure =>
      have unknown : order.withStatus .UNKNOWN = .ok { order with status := .UNKNOWN } := by
        apply Order.withStatus_allowed
        simp only [Order.allows, opened]
        decide
      have marks := register_keeps (@Stands.mark _ _ _ _ _ .UNKNOWN (register_writable registered))
      simp only [unknown]
      cases answers.outcomeFails with
      | some failure => exact ⟨registers.trans marks, trivial⟩
      | none => exact ⟨registers.trans marks, rfl⟩
    | none =>
      cases ends : answers.outcomeFails with
      | none =>
        have accepts : answers.accepts := ⟨blocks, intends, ends⟩
        exact ⟨registers, rfl, accepts, register_writable_other unfilled registered (writable (.inl accepts))⟩
      | some failure =>
        -- an order that has traded cannot become unknown
        dsimp only
        cases unknown : filled.withStatus .UNKNOWN with
        | error error => exact ⟨registers, trivial⟩
        | ok marked =>
          obtain ⟨rfl, allowed⟩ := Order.withStatus_ok unknown
          have untraded : ¬ filled.traded := by
            rintro (complete | partly)
            · rw [complete] at allowed
              exact absurd allowed (by decide)
            · rw [partly] at allowed
              exact absurd allowed (by decide)
          have other := register_writable_other unfilled registered (writable (.inr untraded))
          exact ⟨registers.trans (register_keeps (Stands.mark other)), rfl⟩

/-- The order manager takes the simulated fill for a new order. -/
def TakesFill (manager : OrderManager cache) (request : OmsOrderCommand) (answers : PaperAnswers) (now : ℚ)
    (filled : Order) : Prop :=
  manager.Admits request (answers.forFill now filled) ∧ answers.accepts

instance (manager : OrderManager cache) (request : OmsOrderCommand) (answers : PaperAnswers) (now : ℚ)
    (filled : Order) : Decidable (manager.TakesFill request answers now filled) :=
  inferInstanceAs (Decidable (_ ∧ _))

theorem buildAndValidate_rejects {gate risk : Option String} {orderId : String} {rejection : OrderResult}
    (rejects : buildAndValidate gate risk orderId request = .error rejection) : rejection.success = false := by
  simp only [buildAndValidate] at rejects
  split at rejects
  · cases rejects
    rfl
  · split at rejects
    · cases rejects
      rfl
    · cases rejects

/-- A placement under an unfiled id keeps what the book holds as filled, where the simulated fill may be
written or never gets that far, and a success answers with the simulated fill. -/
theorem placeOrder_keeps {answers : PaperAnswers} (now : ℚ) (unrecovered : answers.durable.order = none)
    (unfiled : manager.book.byCorrelation.get request.correlationId = none)
    (built : manager.book.Writable seq request.correlationId (builtOrder request (omsOrderId answers.drawn)))
    (writable : manager.TakesFill request answers now filled ∨ ¬ filled.traded →
      manager.book.Writable seq request.correlationId filled) :
    OrderBook.KeepsFills seq manager.book (manager.placeOrder request (answers.forFill now filled)).1.book ∧
      ∀ result, (manager.placeOrder request (answers.forFill now filled)).2 = .returned result →
        result.success = true → result.order = some filled ∧ manager.TakesFill request answers now filled := by
  have same : (manager.checkAndReserve request.correlationId now answers.durable).1.book = manager.book :=
    checkAndReserve_book unrecovered
  have freed := @checkAndReserve_free _ manager request.correlationId now answers.durable
  have silent := fun result => @checkAndReserve_unanswered _ manager request.correlationId now answers.durable result
    unrecovered unfiled
  unfold placeOrder
  dsimp only [PaperAnswers.forFill]
  generalize manager.checkAndReserve request.correlationId now answers.durable = check at same freed silent ⊢
  obtain ⟨reserved, ending⟩ := check
  dsimp only at same freed silent ⊢
  cases ending with
  | some ending =>
    rw [same]
    refine ⟨.refl seq _, ?_⟩
    intro result ends success
    dsimp only at ends
    rw [ends] at silent
    rw [silent result rfl] at success
    cases success
  | none =>
    obtain ⟨-, -, idle, durable⟩ := freed rfl
    dsimp only
    cases validated : buildAndValidate answers.gate answers.risk (omsOrderId answers.drawn) request with
    | error rejection =>
      refine ⟨same ▸ .refl seq _, ?_⟩
      intro result ends success
      cases ends
      rw [buildAndValidate_rejects validated] at success
      cases success
    | ok stub =>
      obtain ⟨gate, risk, rfl⟩ := buildAndValidate_passes validated
      rw [← same] at built
      have taken : answers.accepts → manager.TakesFill request answers now filled :=
        fun accepts => ⟨⟨unfiled, durable, idle, gate, risk, accepts.1⟩, accepts⟩
      have submits := submitToBroker_keeps now rfl rfl built fun either => by
        rw [same]
        exact writable (either.imp_left taken)
      obtain ⟨keeps, ends⟩ := submits
      rw [same] at keeps
      dsimp only [PaperAnswers.forFill] at keeps ends ⊢
      generalize reserved.submitToBroker (builtOrder request (omsOrderId answers.drawn)) request answers.blocked _ =
        submitted at keeps ends ⊢
      obtain ⟨after, ending⟩ := submitted
      cases ending with
      | rejected rejection =>
        refine ⟨keeps, ?_⟩
        intro result returned success
        cases returned
        rw [show rejection.success = false from ends] at success
        cases success
      | raised error => exact ⟨keeps, by rintro result ⟨⟩⟩
      | placed order =>
        obtain ⟨rfl, accepts, other⟩ := ends
        refine ⟨keeps.trans (recordAndPublish_keeps other), ?_⟩
        intro result returned _
        cases returned
        exact ⟨rfl, taken accepts⟩

end OrderManager

namespace PaperCall

variable {call : PaperCall} {market : PaperMarket} {seq : ℕ} {drawn : String} {cmd : OmsOrderCommand}

theorem command_ok (commands : call.command seq drawn = .ok cmd) :
    0 < call.quantity ∧ cmd.quantity = call.quantity ∧ cmd.correlationId = call.correlation seq drawn := by
  simp only [command] at commands
  split at commands
  · cases commands
  · next positive =>
    split at commands
    · cases commands
    · rw [← Except.ok.inj commands]
      dsimp only
      exact ⟨not_le.mp positive, rfl, rfl⟩

theorem fill_terms : (call.fill market seq cmd).orderId = paperOrderId seq ∧
    (call.fill market seq cmd).quantity = cmd.quantity := by
  simp only [fill]
  split
  · exact ⟨rfl, rfl⟩
  · exact ⟨rfl, rfl⟩

theorem fill_traded (fills : call.fills market) : (call.fill market seq cmd).traded ∧
    (call.fill market seq cmd).filledQuantity = call.fillQty market := by
  simp only [fill, fills, if_true, and_true]
  split
  · exact .inr rfl
  · exact .inl rfl

theorem fill_untraded (rests : ¬ call.fills market) : ¬ (call.fill market seq cmd).traded ∧
    (call.fill market seq cmd).filledQuantity = 0 := by
  simp only [fill, rests, if_false, Order.traded, reduceCtorEq, or_self, not_false_eq_true, and_self]

/-- What fills, fills a positive quantity. -/
theorem fillQty_pos (positive : 0 < call.quantity) (fills : call.fills market) : 0 < call.fillQty market := by
  simp only [fillQty, fills.1, if_true]
  exact (PaperMarket.partialFillQuantity_bounds positive).1

/-- The id under which a rejected order is filed is the one of the command, or it is not visible. -/
theorem rejected_filedUnder {correlationId : String} (filed : correlationId ∈ (call.rejected seq).filedUnder)
    (visible : blank correlationId = false) : correlationId = call.correlation seq drawn := by
  have given : (call.correlationId.filter fun id => id ≠ "") = some correlationId := filed
  simp only [correlation, given, Option.getD_some, visible, Bool.false_eq_true, if_false]

end PaperCall

namespace PaperOrders

variable {gateway : PaperOrders}

/-- A quote that reaches no resting order fills none. -/
theorem fillCrossed_none {symbol exchange : String} {ltp now : ℚ} {orders : List Order}
    (none : ∀ order ∈ orders, ¬ crosses symbol exchange ltp order) :
    fillCrossed symbol exchange ltp now gateway orders = (gateway, orders, []) := by
  induction orders with
  | nil => rfl
  | cons order rest ih =>
    have others := ih fun later member => none later (List.mem_cons_of_mem _ member)
    simp only [fillCrossed, if_neg (none order List.mem_cons_self), others]

/-- A modification changes the gateway's orders only. -/
theorem modifyOrder_orders (request : OrderManager.ModifyOrderRequest) (risk : Option String) :
    ∃ orders, (gateway.modifyOrder request risk).1 = { gateway with orders := orders } := by
  simp only [modifyOrder]
  split
  · exact ⟨_, rfl⟩
  · split
    · exact ⟨_, rfl⟩
    · split
      · exact ⟨_, rfl⟩
      · exact ⟨_, rfl⟩

end PaperOrders

namespace PaperSession

variable {cache : TTLCache.{0, v} Nat} (session : PaperSession cache)

/-- Each correlation id is filled once, each trade of the gateway is accepted once, its trades of an
order add up to what the book shows as filled, and the positions built from the accepted trades are
those of the gateway. -/
structure Agrees : Prop where
  once : session.filledFor.Nodup
  sums : ∀ id, quantityFor id session.gateway.trades = session.manager.book.filled id
  accepted : ∀ trade ∈ session.gateway.trades, session.accepted.count trade = 1
  positions : ∀ key, session.positions.positions.get key = session.gateway.positions.get key

/-- The order that is filed under the correlation id is in the book without a fill and takes this one,
and the call spells its instrument as the position book does. -/
def takesFill (call : PaperCall) (market : PaperMarket) (existing : Order) : Prop :=
  makePositionKey call.symbol call.exchange = call.symbol ++ ":" ++ call.exchange ∧
    blank existing.orderId = false ∧
    ∃ order ∈ session.manager.book.orders.get existing.orderId, order.filledQuantity = 0 ∧
      call.fillQty market ≤ order.quantity ∧
      order.allows (OrderPositionUpdater.deriveStatus order (call.fillQty market)) = true

/-- The condition under which a step keeps the agreement: a placement fills only an order that takes the
fill, no quote reaches a resting order, and what a placement of the order manager brings in carries the
filled quantity of the book. -/
def agreeable : Event → Prop
  | .place call market answers =>
    match call.command (session.gateway.orderSeq + 1) answers.drawnIntent with
    | .error _ => True
    | .ok cmd =>
      match session.manager.book.byCorrelation.get cmd.correlationId with
      | some existing => call.fills market → session.takesFill call market existing
      | none => answers.durable.order = none ∧ session.manager.book.filled (omsOrderId answers.drawn) = 0 ∧
        (call.fills market → ¬ session.manager.TakesFill cmd answers market.now
          (call.fill market (session.gateway.orderSeq + 1) cmd))
  | .quote symbol exchange ltp _ =>
    0 < ltp → ∀ order ∈ session.gateway.orders, ¬ PaperOrders.crosses symbol exchange ltp order
  | .oms step =>
    match session.placing with
    | [] => True
    | (request, stage) :: _ => step.recovered = none ∧ ∀ order ∈ OrderManager.brought request stage step,
      session.manager.book.Writable session.gateway.orderSeq request.correlationId order
  | _ => True

/-- The books agree, the trades are told apart by the numbers that the gateway issued, and no trade
waits for an order. -/
structure Sound : Prop where
  presentable : Presentable true session.accepted
  held : Applied true session.accepted session.manager.recorder session.manager.book session.accepted
  trades : session.gateway.trades = session.accepted.reverse
  numbered : ∀ trade ∈ session.accepted, ∃ n ≤ session.gateway.tradeSeq, trade.tradeId = paperTradeId n
  silent : ∀ id, (session.manager.recorder.pendingTradesByOrder.get id).getD [] = []
  issued : ∀ id, session.manager.book.orders.contains id = true → Issued session.gateway.orderSeq id
  once : session.filledFor.Nodup
  filed : ∀ correlationId ∈ session.filledFor, blank correlationId = false ∧
    ∃ order, session.manager.book.byCorrelation.get correlationId = some order ∧
      0 < session.manager.book.filled order.orderId
  positions : ∀ key, session.positions.positions.get key = session.gateway.positions.get key
  faithful : session.positions.Faithful
  remembered : ∀ id ∈ session.positions.processedTradeIdSet, ∃ n ≤ session.gateway.tradeSeq, id = paperTradeId n

/-- The innermost placement stands between two of its steps, and the others wait for their `submit_fn`. -/
def Standing : Prop :=
  match session.placing with
  | [] => True
  | (request, stage) :: outer => OrderManager.Stands session.gateway.orderSeq session.manager.book request stage ∧
    ∀ call ∈ outer, ∃ order, call.2 = .submitting order

variable {session} {call : PaperCall} {market : PaperMarket} {answers : PaperAnswers} {cmd : OmsOrderCommand}

theorem Sound.agrees (sound : session.Sound) : session.Agrees where
  once := sound.once
  sums id := by
    rw [sound.trades, quantityFor_reverse, sound.held.book_filled]
  accepted trade member := by
    rw [sound.trades, List.mem_reverse] at member
    exact List.count_eq_one_of_mem sound.held.distinct member
  positions := sound.positions

/-- The order manager keeps what its book holds as filled, and the gateway its trades. -/
theorem Sound.rewritten {gateway : PaperOrders} {manager : OrderManager cache}
    {placing : List (OmsOrderCommand × PlaceStage)} (sound : session.Sound)
    (trades : gateway.trades = session.gateway.trades) (positions : gateway.positions = session.gateway.positions)
    (tradeSeq : gateway.tradeSeq = session.gateway.tradeSeq) (orderSeq : session.gateway.orderSeq ≤ gateway.orderSeq)
    (recorder : ∃ pending, manager.recorder = { session.manager.recorder with pendingTradesByOrder := pending } ∧
      ∀ id, (pending.get id).getD [] = [])
    (keeps : OrderBook.KeepsFills gateway.orderSeq session.manager.book manager.book) :
    Sound { session with gateway := gateway, manager := manager, placing := placing } := by
  obtain ⟨pending, recorder, silent⟩ := recorder
  have positive : ∀ trade ∈ session.accepted, 0 < trade.quantity := sound.presentable.positive rfl
  constructor
  · exact sound.presentable
  · dsimp only
    rw [recorder]
    exact (keeps.applied sound.held positive).pended pending
  · exact trades.trans sound.trades
  · intro trade member
    dsimp only
    rw [tradeSeq]
    exact sound.numbered trade member
  · dsimp only
    rw [recorder]
    exact silent
  · intro id contained
    dsimp only at contained ⊢
    rcases keeps.orders id with kept | ⟨dropped, -⟩ | ⟨order, -, -, -, issued⟩
    · rw [Dict.contains, kept] at contained
      exact (sound.issued id contained).mono orderSeq
    · rw [Dict.contains, dropped] at contained
      cases contained
    · exact issued
  · exact sound.once
  · intro correlationId member
    obtain ⟨visible, order, found, some⟩ := sound.filed correlationId member
    obtain ⟨later, filed, same⟩ := keeps.filed correlationId order visible found some
    refine ⟨visible, later, filed, ?_⟩
    dsimp only
    rw [same, keeps.filled]
    exact some
  · intro key
    dsimp only
    rw [positions]
    exact sound.positions key
  · exact sound.faithful
  · intro id member
    dsimp only
    rw [tradeSeq]
    exact sound.remembered id member

/-- A trade with the next number joins the accepted ones. -/
theorem Sound.presentable_next (sound : session.Sound) {trade : Trade}
    (numbered : trade.tradeId = paperTradeId (session.gateway.tradeSeq + 1))
    (ordered : blank trade.orderId = false) (positive : 0 < trade.quantity) :
    trade ∉ session.accepted ∧ Presentable true (trade :: session.accepted) := by
  have apart : ∀ earlier ∈ session.accepted, earlier.tradeId ≠ trade.tradeId := by
    intro earlier member same
    obtain ⟨n, least, named⟩ := sound.numbered earlier member
    rw [named, numbered] at same
    have next := paperTradeId_inj same
    omega
  have solid : ∀ earlier ∈ session.accepted, Text.strip earlier.tradeId = earlier.tradeId := by
    intro earlier member
    obtain ⟨n, -, named⟩ := sound.numbered earlier member
    rw [named, paperTradeId_solid]
  have keyed : ∀ earlier ∈ session.accepted, TradeIdKey.fromTrade earlier ≠ .fromTrade trade := by
    intro earlier member same
    have stripped : Text.strip earlier.tradeId = Text.strip trade.tradeId := congrArg TradeIdKey.tradeId same
    rw [solid earlier member, numbered, paperTradeId_solid, ← numbered] at stripped
    exact apart earlier member stripped
  have new : trade ∉ session.accepted := fun member => apart trade member rfl
  have former := sound.presentable
  refine ⟨new, ⟨List.nodup_cons.mpr ⟨new, former.distinct⟩, ?_, ?_, ?_, ?_, ?_⟩⟩
  · intro first firstListed second secondListed same
    rcases List.mem_cons.mp firstListed with rfl | firstEarlier
    · rcases List.mem_cons.mp secondListed with rfl | secondEarlier
      · rfl
      · rcases same with same | same
        · exact absurd same.symm (apart second secondEarlier)
        · exact absurd same.symm (keyed second secondEarlier)
    · rcases List.mem_cons.mp secondListed with rfl | secondEarlier
      · rcases same with same | same
        · exact absurd same (apart first firstEarlier)
        · exact absurd same (keyed first firstEarlier)
      · exact former.apart first firstEarlier second secondEarlier same
  · have visible : blank trade.tradeId = false := by
      rw [numbered]
      exact paperTradeId_visible _
    exact List.forall_mem_cons.mpr ⟨visible, former.named⟩
  · exact List.forall_mem_cons.mpr ⟨ordered, former.ordered⟩
  · exact List.forall_mem_cons.mpr ⟨positive.le, former.nonneg⟩
  · intro durable
    exact List.forall_mem_cons.mpr ⟨positive, former.positive durable⟩

/-- The positions of both sides take a trade alike when it spells its instrument as the key does. -/
theorem Sound.positions_next (sound : session.Sound) {trade : Trade}
    (spelled : makePositionKey trade.symbol trade.exchange = trade.symbol ++ ":" ++ trade.exchange)
    (unseen : trade.tradeId ∉ session.positions.processedTradeIdSet) (key : String) :
    (session.positions.onTradeApplied trade).1.positions.get key =
      (session.gateway.updatePosition trade).get key := by
  have current : session.positions.current trade =
      (session.gateway.positions.get (trade.symbol ++ ":" ++ trade.exchange)).getD
        { symbol := trade.symbol, exchange := trade.exchange } := by
    unfold PositionManager.current
    rw [spelled, sound.positions]
  rw [PositionManager.onTradeApplied_positions sound.faithful unseen, current, spelled, Dict.get_set]
  simp only [PaperOrders.updatePosition]
  rw [Dict.get_set, sound.positions]
  rfl

/-- The fill of an order that takes it is accepted, and both sides book it. -/
theorem Sound.reportFill {existing filled : Order} (sound : session.Sound) (positive : 0 < call.fillQty market)
    (visible : blank cmd.correlationId = false)
    (found : session.manager.book.byCorrelation.get cmd.correlationId = some existing)
    (takes : session.takesFill call market existing) (sameId : filled.orderId = existing.orderId)
    (quantity : filled.filledQuantity = call.fillQty market) :
    Sound (session.reportFill call market cmd filled).1 := by
  obtain ⟨spelled, named, order, known, unfilled, room, allowed⟩ := takes
  generalize same : call.trade market (session.gateway.tradeSeq + 1) filled = trade
  have tradeId : trade.tradeId = paperTradeId (session.gateway.tradeSeq + 1) := same ▸ rfl
  have orderId : trade.orderId = existing.orderId := same ▸ sameId
  have tradeQuantity : trade.quantity = call.fillQty market := same ▸ quantity
  have tradeKey : makePositionKey trade.symbol trade.exchange = trade.symbol ++ ":" ++ trade.exchange := same ▸ spelled
  have someQuantity : 0 < trade.quantity := by
    rw [tradeQuantity]
    exact_mod_cast positive
  obtain ⟨new, presentable⟩ := sound.presentable_next tradeId (orderId ▸ named) someQuantity
  have held := sound.held.mono fun earlier member => List.mem_cons_of_mem trade member
  have here : session.manager.book.orders.get trade.orderId = some order := orderId ▸ known
  have fits : order.filledQuantity + trade.quantity ≤ order.quantity := by
    rw [unfilled, tradeQuantity, zero_add]
    exact room
  have allows : order.allows (OrderPositionUpdater.filledStatus order trade) = true := by
    rw [OrderPositionUpdater.filledStatus, unfilled, tradeQuantity, zero_add]
    exact allowed
  obtain ⟨fill, persisted, reaches⟩ := held.reaches presentable List.mem_cons_self new here fits market.now
  obtain ⟨after, updated, recorded, applies, keeps⟩ := reaches.applies allows
  have unseen : trade.tradeId ∉ session.positions.processedTradeIdSet := by
    intro member
    obtain ⟨n, least, seen⟩ := sound.remembered _ member
    rw [tradeId] at seen
    have next := paperTradeId_inj seen
    omega
  obtain ⟨-, faithful, remembers, -⟩ := PositionManager.onTradeApplied_new sound.faithful unseen
  have stepped : (session.reportFill call market cmd filled).1 = { session with
      gateway := session.gateway.keepTrade trade
      manager := { session.manager with recorder := after, book := session.manager.book.store updated }
      positions := (session.positions.onTradeApplied trade).1
      filledFor := cmd.correlationId :: session.filledFor
      accepted := trade :: session.accepted } := by
    simp only [PaperSession.reportFill, recordTrade, OrderManager.recordTrade, same, recorded]
  have updatedId : updated.orderId = trade.orderId :=
    (OrderPositionUpdater.applyTrade_ok applies).1.trans (session.manager.book.keyed _ _ here)
  have grown := held.add List.mem_cons_self new here reaches.built fits applies keeps
  have filledAfter : ∀ id, (session.manager.book.store updated).filled id =
      session.manager.book.filled id + if id = trade.orderId then trade.quantity else 0 := by
    intro id
    rw [grown.book_filled, held.book_filled, quantityFor_cons, add_comm]
  have filedAfter : ∀ correlationId order, session.manager.book.byCorrelation.get correlationId = some order →
      0 < (session.manager.book.store updated).filled order.orderId → ∃ later,
        (session.manager.book.store updated).byCorrelation.get correlationId = some later ∧
          0 < (session.manager.book.store updated).filled later.orderId := by
    intro correlationId other filed some
    rcases @OrderBook.store_index session.manager.book updated correlationId with kept | written
    · exact ⟨other, kept.trans filed, some⟩
    · refine ⟨updated, written, ?_⟩
      have nonneg := sound.held.filled_nonneg sound.presentable updated.orderId
      rw [← sound.held.book_filled] at nonneg
      rw [filledAfter, if_pos updatedId]
      linarith
  rw [stepped]
  constructor
  · exact presentable
  · exact grown
  · dsimp only [PaperOrders.keepTrade]
    rw [sound.trades, List.reverse_cons]
  · intro listed member
    rcases List.mem_cons.mp member with rfl | earlier
    · exact ⟨_, le_refl _, tradeId⟩
    · obtain ⟨n, least, numbered⟩ := sound.numbered listed earlier
      exact ⟨n, least.trans (Nat.le_succ _), numbered⟩
  · intro id
    dsimp only
    rw [keeps.pending]
    exact sound.silent id
  · intro id contained
    apply sound.issued
    rw [Dict.contains, OrderBook.store_get, updatedId] at contained
    split at contained
    · next same =>
      rw [same, Dict.contains, here]
      rfl
    · exact contained
  · apply List.nodup_cons.mpr
    refine ⟨?_, sound.once⟩
    intro before
    obtain ⟨-, other, filed, some⟩ := sound.filed _ before
    rw [found] at filed
    cases filed
    rw [OrderBook.filled_of_get known, unfilled] at some
    exact lt_irrefl 0 some
  · intro correlationId member
    rcases List.mem_cons.mp member with rfl | earlier
    · refine ⟨visible, filedAfter _ existing found ?_⟩
      rw [filledAfter, if_pos orderId.symm, OrderBook.filled_of_get known, unfilled, zero_add]
      exact someQuantity
    · obtain ⟨visible, other, filed, some⟩ := sound.filed correlationId earlier
      refine ⟨visible, filedAfter _ other filed ?_⟩
      rw [filledAfter]
      split
      · linarith
      · linarith
  · intro key
    exact sound.positions_next tradeKey unseen key
  · exact faithful
  · intro id member
    rcases remembers id member with rfl | earlier
    · exact ⟨_, le_refl _, tradeId⟩
    · obtain ⟨n, least, same⟩ := sound.remembered id earlier
      exact ⟨n, least.trans (Nat.le_succ _), same⟩

theorem Standing.of_callable (standing : session.Standing) (callable : session.callable = true) :
    ∀ call ∈ session.placing, ∃ order, call.2 = .submitting order := by
  simp only [Standing] at standing
  simp only [PaperSession.callable] at callable
  split at standing
  · next empty =>
    rw [empty]
    rintro call ⟨⟩
  · next request stage outer placing =>
    rw [placing] at callable ⊢
    cases stage with
    | submitting order => exact List.forall_mem_cons.mpr ⟨⟨order, rfl⟩, standing.2⟩
    | _ => cases callable

theorem standing_of_submitting (submitting : ∀ call ∈ session.placing, ∃ order, call.2 = .submitting order) :
    session.Standing := by
  simp only [Standing]
  split
  · trivial
  · next request stage outer placing =>
    rw [placing] at submitting
    obtain ⟨⟨order, here⟩, others⟩ := List.forall_mem_cons.mp submitting
    dsimp only at here
    subst here
    exact ⟨trivial, others⟩

/-- A recorder that stays is one for which nothing waits. -/
theorem Sound.kept (sound : session.Sound) {manager : OrderManager cache}
    (same : manager.recorder = session.manager.recorder) : ∃ pending, manager.recorder =
      { session.manager.recorder with pendingTradesByOrder := pending } ∧ ∀ id, (pending.get id).getD [] = [] :=
  ⟨_, same, sound.silent⟩

/-- An order that the gateway has yet to issue is not in the book. -/
theorem Sound.unissued (sound : session.Sound) :
    session.manager.book.filled (paperOrderId (session.gateway.orderSeq + 1)) = 0 := by
  have absent : session.manager.book.orders.contains (paperOrderId (session.gateway.orderSeq + 1)) = false := by
    by_contra present
    have issued := sound.issued _ (Bool.not_eq_false _ ▸ present) _ rfl
    omega
  rw [OrderBook.filled, Option.isNone_iff_eq_none.mp (Option.isSome_eq_false_iff.mp absent)]
  rfl

theorem Sound.numbered_next (sound : session.Sound) : Sound { session with
    gateway := { session.gateway with orderSeq := session.gateway.orderSeq + 1 } } :=
  sound.rewritten rfl rfl rfl (Nat.le_succ _) (sound.kept rfl) (.refl _ _)

theorem Sound.keepOrder (sound : session.Sound) (order : Order) :
    Sound { session with gateway := session.gateway.keepOrder order } :=
  sound.rewritten rfl rfl rfl (le_refl _) (sound.kept rfl) (.refl _ _)

/-- Behind a placement of the order manager, a snapshot that the book may store is upserted without a fill. -/
theorem Sound.upsertOrder {manager : OrderManager cache} {order : Order} {now : ℚ} (sound : session.Sound)
    (recorder : manager.recorder = session.manager.recorder)
    (keeps : OrderBook.KeepsFills session.gateway.orderSeq session.manager.book manager.book)
    (stores : OrderBook.KeepsFills session.gateway.orderSeq session.manager.book (manager.book.store order)) :
    Sound (PaperSession.upsertOrder { session with manager := manager } order now).1 := by
  have silent : ∀ id, (manager.recorder.pendingTradesByOrder.get id).getD [] = [] := by
    rw [recorder]
    exact sound.silent
  obtain ⟨none, wrote, pended⟩ := (manager.upsertOrder_upserts order now).silent silent
  rw [recorder] at pended
  have kept : OrderBook.KeepsFills session.gateway.orderSeq session.manager.book
      (manager.upsertOrder order now).1.book := by
    rcases wrote with same | stored
    · rw [same]
      exact keeps
    · rw [stored]
      exact stores
  have rewritten := @Sound.rewritten _ session session.gateway (manager.upsertOrder order now).1
    session.placing sound rfl rfl rfl (le_refl _) pended kept
  simp only [PaperSession.upsertOrder, none, List.foldl_nil, List.reverse_nil, List.nil_append]
  exact rewritten

/-- A placement that fills, fills an order that takes it. -/
theorem Sound.fillExisting {existing : Order} (sound : session.Sound) (positive : 0 < call.quantity)
    (visible : blank cmd.correlationId = false)
    (found : session.manager.book.byCorrelation.get cmd.correlationId = some existing)
    (takes : call.fills market → session.takesFill call market existing) :
    Sound (session.fillExisting call market cmd existing).1 := by
  simp only [PaperSession.fillExisting]
  by_cases fills : call.fills market
  · have named : existing.orderId ≠ "" := by
      intro empty
      have visible := (takes fills).2.1
      rw [empty] at visible
      exact absurd visible (by decide)
    obtain ⟨traded, quantity⟩ := @PaperCall.fill_traded call market session.gateway.orderSeq cmd fills
    rw [if_neg named]
    split
    · exact (sound.keepOrder _).reportFill (PaperCall.fillQty_pos positive fills) visible found (takes fills) rfl quantity
    · next rests => exact absurd ⟨fills.1, traded⟩ rests
  · obtain ⟨untraded, -⟩ := @PaperCall.fill_untraded call market session.gateway.orderSeq cmd fills
    split
    · rw [if_neg fun trades => untraded trades.2]
      exact sound.keepOrder _
    · rw [if_neg fun trades => untraded trades.2]
      exact sound.keepOrder _

/-- A rejected placement is upserted without a fill. -/
theorem Sound.rejectOrder {manager : OrderManager cache} {drawn : String} {now : ℚ} (sound : session.Sound)
    (positive : 0 < call.quantity) (recorder : manager.recorder = session.manager.recorder)
    (keeps : OrderBook.KeepsFills session.gateway.orderSeq session.manager.book manager.book)
    (unfilled : session.manager.book.filled (paperOrderId session.gateway.orderSeq) = 0)
    (unfiled : session.manager.book.byCorrelation.get (call.correlation session.gateway.orderSeq drawn) = none) :
    Sound (PaperSession.rejectOrder { session with manager := manager } call now).1 := by
  apply (sound.keepOrder _).upsertOrder recorder keeps
  apply keeps.store
  · rw [keeps.filled]
    exact unfilled.symm
  · have nonneg : (0 : ℚ) ≤ call.quantity := by exact_mod_cast positive.le
    exact nonneg
  · exact issued_paperOrderId _
  · intro correlationId filed visible
    rw [@PaperCall.rejected_filedUnder call session.gateway.orderSeq drawn correlationId filed visible]
    exact unfiled

/-- A placement of a new order fills nothing. -/
theorem Sound.placeThrough {seq : ℕ} {drawn : String} (sound : session.Sound)
    (number : session.gateway.orderSeq = seq) (commands : call.command seq drawn = .ok cmd)
    (unissued : session.manager.book.filled (paperOrderId seq) = 0)
    (unfiled : session.manager.book.byCorrelation.get cmd.correlationId = none)
    (unrecovered : answers.durable.order = none) (unfilled : session.manager.book.filled (omsOrderId answers.drawn) = 0)
    (untaken : call.fills market → ¬ session.manager.TakesFill cmd answers market.now (call.fill market seq cmd)) :
    Sound (session.placeThrough call market answers cmd).1 := by
  subst number
  obtain ⟨positive, quantity, correlation⟩ := PaperCall.command_ok commands
  have nonneg : (0 : ℚ) ≤ cmd.quantity := by
    rw [quantity]
    exact_mod_cast positive.le
  have free : ∀ prior ∈ session.manager.book.byCorrelation.get cmd.correlationId, False := by
    intro prior found
    rw [unfiled] at found
    cases found
  obtain ⟨fillId, fillQuantity⟩ := @PaperCall.fill_terms call market session.gateway.orderSeq cmd
  have built : session.manager.book.Writable session.gateway.orderSeq cmd.correlationId
      (OrderManager.builtOrder cmd (omsOrderId answers.drawn)) :=
    ⟨unfilled.symm, nonneg, issued_omsOrderId _ _, fun prior found => (free prior found).elim⟩
  have writable : session.manager.TakesFill cmd answers market.now (call.fill market session.gateway.orderSeq cmd) ∨
      ¬ (call.fill market session.gateway.orderSeq cmd).traded →
      session.manager.book.Writable session.gateway.orderSeq cmd.correlationId
        (call.fill market session.gateway.orderSeq cmd) := by
    intro either
    by_cases fills : call.fills market
    · rcases either with taken | untraded
      · exact absurd taken (untaken fills)
      · exact absurd (PaperCall.fill_traded fills).1 untraded
    · obtain ⟨-, nothing⟩ := @PaperCall.fill_untraded call market session.gateway.orderSeq cmd fills
      refine ⟨?_, ?_, ?_, fun prior found => (free prior found).elim⟩
      · rw [nothing, fillId, unissued]
      · rw [nothing, fillQuantity]
        exact nonneg
      · rw [fillId]
        exact issued_paperOrderId _
  obtain ⟨keeps, ends⟩ := OrderManager.placeOrder_keeps market.now unrecovered unfiled built writable
  have recorder : (session.manager.placeOrder cmd (answers.forFill market.now
      (call.fill market session.gateway.orderSeq cmd))).1.recorder = session.manager.recorder :=
    OrderManager.placeOrder_kept.2
  simp only [PaperSession.placeThrough]
  generalize session.manager.placeOrder cmd (answers.forFill market.now
    (call.fill market session.gateway.orderSeq cmd)) = placed at keeps ends recorder ⊢
  obtain ⟨manager, ending⟩ := placed
  have placedSound := @Sound.rewritten _ session session.gateway manager session.placing sound rfl rfl rfl (le_refl _)
    (sound.kept recorder) keeps
  cases ending with
  | raised error => exact placedSound
  | returned result =>
    dsimp only at keeps ends recorder ⊢
    by_cases success : result.success = true
    · obtain ⟨answered, taken⟩ := ends result rfl success
      rw [if_pos success, answered]
      dsimp only
      by_cases fills : call.fills market
      · exact absurd taken (untaken fills)
      · rw [if_neg fun trades => (PaperCall.fill_untraded fills).1 trades.2]
        exact placedSound.keepOrder _
    · rw [if_neg success]
      exact sound.rejectOrder positive recorder keeps unissued (correlation ▸ unfiled)

theorem Sound.placeOrder (sound : session.Sound) (agreeable : session.agreeable (.place call market answers)) :
    Sound (session.placeOrder call market answers).1 := by
  simp only [PaperSession.agreeable] at agreeable
  simp only [PaperSession.placeOrder]
  split
  · exact sound.numbered_next
  · next cmd commands =>
    rw [commands] at agreeable
    obtain ⟨positive, -, correlation⟩ := PaperCall.command_ok commands
    dsimp only at agreeable
    split
    · next existing found =>
      rw [found] at agreeable
      apply sound.numbered_next.fillExisting positive
      · rw [correlation]
        exact call.correlation_visible _ _
      · exact found
      · exact agreeable
    · next unfiled =>
      rw [unfiled] at agreeable
      obtain ⟨unrecovered, unfilled, untaken⟩ := agreeable
      exact sound.numbered_next.placeThrough rfl commands sound.unissued unfiled unrecovered unfilled untaken

theorem tryFillOnQuote_none {symbol exchange : String} {ltp now : ℚ}
    (agreeable : session.agreeable (.quote symbol exchange ltp now)) :
    (session.tryFillOnQuote symbol exchange ltp now).1 = session := by
  simp only [PaperSession.tryFillOnQuote]
  split
  · rfl
  · next positive =>
    rw [PaperOrders.fillCrossed_none (agreeable (not_le.mp positive))]
    rfl

theorem reportFill_placing {order : Order} :
    (session.reportFill call market cmd order).1.placing = session.placing := by
  simp only [reportFill, recordTrade]
  split
  · rfl
  · rfl
  · rfl

/-- The gateway's own calls leave the placements of the order manager as they stand. -/
theorem placeOrder_placing : (session.placeOrder call market answers).1.placing = session.placing := by
  simp only [placeOrder]
  split
  · rfl
  · split
    · simp only [fillExisting]
      split
      · split
        · rw [reportFill_placing]
        · rfl
      · split
        · rw [reportFill_placing]
        · rfl
    · simp only [placeThrough]
      split
      · rfl
      · split
        · rfl
        · split
          · rw [reportFill_placing]
          · rfl

theorem step_sound {event : Event} {after : PaperSession cache} (sound : session.Sound) (standing : session.Standing)
    (agreeable : session.agreeable event) (taken : session.step event = some after) :
    after.Sound ∧ after.Standing := by
  cases event with
  | place call market answers =>
    simp only [step] at taken
    split at taken
    · next callable =>
      cases taken
      refine ⟨sound.placeOrder agreeable, ?_⟩
      apply standing_of_submitting
      rw [placeOrder_placing]
      exact standing.of_callable callable
    · cases taken
  | quote symbol exchange ltp now =>
    simp only [step] at taken
    split at taken
    · cases taken
      rw [tryFillOnQuote_none agreeable]
      exact ⟨sound, standing⟩
    · cases taken
  | cancel orderId =>
    simp only [step] at taken
    split at taken
    · cases taken
      exact ⟨sound.rewritten rfl rfl rfl (le_refl _) (sound.kept rfl) (.refl _ _), standing⟩
    · cases taken
  | modify request risk =>
    simp only [step] at taken
    split at taken
    · cases taken
      obtain ⟨orders, changed⟩ := @PaperOrders.modifyOrder_orders session.gateway request risk
      rw [changed]
      exact ⟨sound.rewritten rfl rfl rfl (le_refl _) (sound.kept rfl) (.refl _ _), standing⟩
    · cases taken
  | enter request =>
    simp only [step] at taken
    split at taken
    · next callable =>
      cases taken
      refine ⟨sound.rewritten rfl rfl rfl (le_refl _) (sound.kept rfl) (.refl _ _), trivial, ?_⟩
      exact standing.of_callable callable
    · cases taken
  | oms step =>
    simp only [PaperSession.step] at taken
    simp only [PaperSession.agreeable] at agreeable
    simp only [Standing] at standing
    split at taken
    · cases taken
    · next request stage outer placing =>
      rw [placing] at standing agreeable
      obtain ⟨unrecovered, writable⟩ := agreeable
      obtain ⟨stands, others⟩ := standing
      obtain ⟨⟨manager, next⟩, acted, rfl⟩ := Option.map_eq_some_iff.mp taken
      obtain ⟨keeps, recorder, standsNext⟩ := OrderManager.act_keeps stands writable unrecovered acted
      dsimp only
      split
      · refine ⟨sound.rewritten rfl rfl rfl (le_refl _) (sound.kept recorder) keeps, ?_⟩
        exact standing_of_submitting others
      · refine ⟨sound.rewritten rfl rfl rfl (le_refl _) (sound.kept recorder) keeps, standsNext, others⟩

/-- A new gateway with a new order manager and a new position book; the order manager may have a
repository of processed trades, a ledger and a risk manager. -/
def start (repository : Bool) (ledger : Option ExecutionLedger) (validator : OrderStateValidator cache)
    (enforce riskManaged : Bool) : PaperSession cache where
  manager := {
    recorder := { processedTrades := if repository = true then some [] else none, executionLedger := ledger }
    validator := validator }
  positions := PositionManager.opened enforce
  riskManaged := riskManaged

theorem start_sound {repository : Bool} {ledger : Option ExecutionLedger} {validator : OrderStateValidator cache}
    {enforce riskManaged : Bool} (takes : ∀ attached ∈ ledger, ∀ record, attached.refuses record = false) :
    (start repository ledger validator enforce riskManaged).Sound where
  presentable := .nil true
  held := .nil repository takes fun _ => rfl
  trades := rfl
  numbered := by rintro trade ⟨⟩
  silent _ := rfl
  issued := by rintro id ⟨⟩
  once := List.nodup_nil
  filed := by rintro correlationId ⟨⟩
  positions _ := rfl
  faithful := PositionManager.opened_faithful enforce
  remembered := by rintro id ⟨⟩

/-- Over every run of the gateway's calls, from outside or from inside a placement of the order manager,
the gateway and the order manager agree on every fill, as long as every step meets the condition and an
attached ledger takes every fill. -/
theorem gateway_agrees (repository enforce riskManaged : Bool) (ledger : Option ExecutionLedger)
    (validator : OrderStateValidator cache) (events : List Event) (after : PaperSession cache)
    (takes : ∀ attached ∈ ledger, ∀ record, attached.refuses record = false)
    (run : exec step (start repository ledger validator enforce riskManaged) events = some after)
    (met : Meets step agreeable (start repository ledger validator enforce riskManaged) events) :
    after.Agrees := by
  have preserved : ∀ (session : PaperSession cache) event next, session.Sound ∧ session.Standing →
      session.agreeable event → session.step event = some next → next.Sound ∧ next.Standing :=
    fun _ _ _ both agreeable taken => step_sound both.1 both.2 agreeable taken
  have ends := exec_invariant preserved ⟨start_sound takes, trivial⟩ met run
  exact ends.1.agrees

instance (session : PaperSession cache) (call : PaperCall) (market : PaperMarket) (existing : Order) :
    Decidable (session.takesFill call market existing) :=
  inferInstanceAs (Decidable (_ ∧ _ ∧ ∃ order ∈ session.manager.book.orders.get existing.orderId, _ ∧ _ ∧ _))

instance (session : PaperSession cache) : (event : Event) → Decidable (session.agreeable event)
  | .place call market answers =>
    match commands : call.command (session.gateway.orderSeq + 1) answers.drawnIntent with
    | .error _ => decidable_of_iff True (by simp only [agreeable, commands])
    | .ok cmd =>
      match found : session.manager.book.byCorrelation.get cmd.correlationId with
      | some existing => decidable_of_iff (call.fills market → session.takesFill call market existing)
          (by simp only [agreeable, commands, found])
      | none => decidable_of_iff (answers.durable.order = none ∧
            session.manager.book.filled (omsOrderId answers.drawn) = 0 ∧
            (call.fills market → ¬ session.manager.TakesFill cmd answers market.now
              (call.fill market (session.gateway.orderSeq + 1) cmd)))
          (by simp only [agreeable, commands, found])
  | .quote symbol exchange ltp _ => inferInstanceAs (Decidable (0 < ltp → ∀ order ∈ session.gateway.orders,
      ¬ PaperOrders.crosses symbol exchange ltp order))
  | .oms step =>
    match placing : session.placing with
    | [] => decidable_of_iff True (by simp only [agreeable, placing])
    | (request, stage) :: _ => decidable_of_iff (step.recovered = none ∧
          ∀ order ∈ OrderManager.brought request stage step,
            session.manager.book.Writable session.gateway.orderSeq request.correlationId order)
        (by simp only [agreeable, placing])
  | .cancel .. | .modify .. | .enter .. => isTrue trivial

def orderCache : TTLCache Nat := leastRecentlyUsed Nat 10000 86400

/-- The session of a new application without a ledger and a risk manager. -/
def newSession : PaperSession orderCache := start true none {} true false

def marketCall : PaperCall where
  symbol := "RELIANCE"
  quantity := 10
  correlationId := some "6f1c"

def limitCall : PaperCall where
  symbol := "RELIANCE"
  quantity := 10
  price := 95
  orderType := .LIMIT
  correlationId := some "6f1d"

def quoted : PaperMarket := { ltp := 100 }

def placeRequest : OmsOrderCommand where
  symbol := "RELIANCE"
  exchange := "NSE"
  side := .BUY
  quantity := 10
  correlationId := "6f1c"
  correlationId_present := sampleId_present

/-- The order manager's order as the fill from inside its `submit_fn` returns it. -/
def filledInside : Order where
  orderId := "OM-7d1f"
  symbol := "RELIANCE"
  exchange := "NSE"
  side := .BUY
  orderType := .MARKET
  quantity := 10
  filledQuantity := 10
  status := .FILLED
  avgPrice := 100
  correlationId := some "6f1c"

/-- A placement of the order manager whose `submit_fn` calls the gateway, and then a resting limit order
that no quote reaches. -/
def placedInside : List Event := [.enter placeRequest, .oms (.check 0 .nothing),
  .oms (.register "OM-7d1f" none none none true), .oms (.intent none),
  .place marketCall quoted { drawn := "90ab" }, .oms (.returns filledInside), .oms (.outcome none), .oms .record,
  .place limitCall quoted { drawn := "c3e4" }, .quote "RELIANCE" "NSE" 96 1, .cancel "PPR-000002"]

theorem gateway_agrees_inside : ∃ after, exec step newSession placedInside = some after ∧
    after.gateway.trades.map Trade.tradeId = ["PPR-T-000001"] ∧ after.manager.book.filled "OM-7d1f" = 10 ∧
    after.Agrees := by
  have runs : (exec step newSession placedInside).map (fun after =>
      (after.gateway.trades.map Trade.tradeId, after.manager.book.filled "OM-7d1f")) =
        some (["PPR-T-000001"], 10) := by decide +kernel
  obtain ⟨after, run, ends⟩ := Option.map_eq_some_iff.mp runs
  obtain ⟨trades, filled⟩ := Prod.mk.inj ends
  exact ⟨after, run, trades, filled, gateway_agrees true true false none {} placedInside after (by rintro attached ⟨⟩) run
    (by decide +kernel)⟩

/-- A market order that is placed directly. -/
def placedDirectly : List Event := [.place marketCall quoted { drawn := "90ab" }]

def placedTwice : List Event := placedDirectly ++ placedDirectly

/-- A resting limit order and the quote that reaches it. -/
def reachedByQuote : List Event :=
  [.place limitCall quoted { drawn := "c3e4" }, .quote "RELIANCE" "NSE" 94 1]

theorem gateway_disagrees :
    (exec step newSession placedDirectly).map (fun after =>
      (after.gateway.trades.map Trade.tradeId, after.accepted,
        (after.gateway.positions.get "RELIANCE:NSE").map Position.quantity,
        (after.positions.positions.get "RELIANCE:NSE").map Position.quantity)) =
      some (["PPR-T-000001"], [], some 10, none) ∧
    (exec step newSession placedTwice).map (fun after => (after.filledFor, after.gateway.trades.length,
      after.manager.book.filled "PPR-000001")) = some (["6f1c", "6f1c"], 2, 10) ∧
    (exec step newSession reachedByQuote).map (fun after => (after.gateway.trades.length, after.accepted)) =
      some (1, []) ∧
    ¬ ∀ (events : List Event) (after : PaperSession orderCache),
      exec step newSession events = some after → after.Agrees := by
  have unaccepted : (exec step newSession placedDirectly).map (fun after =>
      (after.gateway.trades.map Trade.tradeId, after.accepted,
        (after.gateway.positions.get "RELIANCE:NSE").map Position.quantity,
        (after.positions.positions.get "RELIANCE:NSE").map Position.quantity)) =
      some (["PPR-T-000001"], [], some 10, none) := by decide +kernel
  refine ⟨unaccepted, by decide +kernel, by decide +kernel, ?_⟩
  intro claim
  obtain ⟨after, run, ends⟩ := Option.map_eq_some_iff.mp unaccepted
  simp only [Prod.mk.injEq] at ends
  obtain ⟨-, -, gateway, oms⟩ := ends
  have same := (claim _ after run).positions "RELIANCE:NSE"
  rw [same, gateway] at oms
  cases oms

end PaperSession

end TradeX.V1
