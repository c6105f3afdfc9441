import TradeX.V1.OrderManager

/-! A trade whose application to its order raises: what the book, the execution ledger and
the processed trades hold afterwards, and what becomes of the trade when it is presented
again. The fill is recorded in the ledger before it is applied. -/

namespace TradeX.V1

open Lib

namespace TradeRecorder

variable {recorder persisted : TradeRecorder} {book : OrderBook} {trade : Trade} {order : Order}
  {fill : FillEvent} {now : ℚ}

theorem fillFromTrade_error {error : OmsError} {quantity prior price : ℚ} {tradeId orderId : String}
    (refused : FillReducer.fillFromTrade tradeId orderId quantity prior price = .error error) :
    ∃ message, error = .valueError message := by
  unfold FillReducer.fillFromTrade at refused
  split at refused
  · split at refused
    · split at refused
      · split at refused
        · cases refused
        · exact ⟨_, (Except.error.inj refused).symm⟩
      · exact ⟨_, (Except.error.inj refused).symm⟩
    · exact ⟨_, (Except.error.inj refused).symm⟩
  · exact ⟨_, (Except.error.inj refused).symm⟩

theorem persistFillToLedger_error {error : OmsError} {fromState toState : OrderStatus}
    (refused : recorder.persistFillToLedger fill order trade now = .error error) :
    error ≠ .illegalTransition fromState toState := by
  rintro rfl
  unfold persistFillToLedger at refused
  split at refused
  · cases refused
  · split at refused
    · next fails =>
      cases refused
      unfold ExecutionLedger.recordFill at fails
      split at fails
      · cases fails
      · split at fails
        · cases fails
        · split at fails
          · cases fails
          · split at fails <;> cases fails
    · cases refused

/-- Only the application to the order raises an illegal transition. -/
theorem recordTrade_illegal {fromState toState : OrderStatus}
    (raises : (recorder.recordTrade book trade now).2.2 = .raised (.illegalTransition fromState toState)) :
    ∃ order fill persisted, Reaches recorder book trade now order fill persisted ∧
      order.allows (OrderPositionUpdater.filledStatus order trade) = false := by
  unfold recordTrade at raises
  split at raises
  · cases raises
  · next named =>
    dsimp only at raises
    split at raises
    · cases raises
    · next unprocessed =>
      split at raises
      · cases raises
      · next order known =>
        split at raises
        · next error refused =>
          obtain ⟨message, rfl⟩ := fillFromTrade_error refused
          cases raises
        · next fill built =>
          split at raises
          · cases raises
          · next accepted =>
            split at raises
            · next error refused =>
              cases raises
              exact absurd rfl (persistFillToLedger_error refused)
            · next persisted persists =>
              refine ⟨order, fill, persisted, ⟨Bool.eq_false_iff.mpr named, Bool.eq_false_iff.mpr unprocessed,
                known, built, accepted, persists⟩, ?_⟩
              by_contra allowed
              obtain ⟨updated, applied⟩ := OrderPositionUpdater.applyTrade_allowed (Bool.not_eq_false _ ▸ allowed)
              rw [applied] at raises
              cases raises

/-- The recorder keeps its ledger exactly when there is none, or it holds the trade already. -/
theorem persistFillToLedger_ledger (persists : recorder.persistFillToLedger fill order trade now = .ok persisted) :
    persisted.executionLedger = recorder.executionLedger ↔
      ∀ ledger ∈ recorder.executionLedger, ledger.holds trade.tradeId = true := by
  unfold persistFillToLedger at persists
  cases attached : recorder.executionLedger with
  | none =>
    rw [attached] at persists
    cases persists
    exact ⟨fun _ _ absent => (by cases absent), fun _ => attached⟩
  | some ledger =>
    rw [attached] at persists
    dsimp only at persists
    split at persists
    · cases persists
    · next stored records =>
      cases persists
      have recorded : stored = if ledger.holds trade.tradeId = true then ledger
          else { ledger with fills := ledger.fills ++ [.ofFill fill order trade now] } :=
        ExecutionLedger.recordFill_ok records
      constructor
      · intro same other given
        cases given
        by_contra new
        rw [if_neg new] at recorded
        rw [recorded, Option.some.injEq] at same
        have lengths := congrArg (fun ledger => ledger.fills.length) same
        simp at lengths
      · intro held
        rw [if_pos (held ledger rfl)] at recorded
        exact congrArg some recorded

/-- A trade that reached its order reaches it again with another status of the order, if the
ledger takes its record at that time. -/
theorem Reaches.again {later : ℚ} {status : OrderStatus}
    (reaches : Reaches recorder book trade now order fill persisted)
    (taken : ∀ ledger ∈ recorder.executionLedger, ledger.refuses (.ofFill fill order trade later) = false) :
    ∃ after, Reaches persisted (book.store { order with status := status }) trade later
      { order with status := status } fill after := by
  obtain ⟨processed, -, reducer⟩ := persistFillToLedger_ok reaches.persists
  have persistsAgain : ∃ after,
      persisted.persistFillToLedger fill { order with status := status } trade later = .ok after := by
    have persists := reaches.persists
    unfold persistFillToLedger at persists ⊢
    cases attached : recorder.executionLedger with
    | none =>
      rw [attached] at persists
      cases persists
      rw [attached]
      exact ⟨_, rfl⟩
    | some ledger =>
      rw [attached] at persists
      dsimp only at persists
      split at persists
      · cases persists
      · next stored records =>
        cases persists
        obtain ⟨after, again⟩ : ∃ after, stored.recordFill (.ofFill fill order trade later) = .ok after :=
          ExecutionLedger.recordFill_again records rfl rfl rfl (taken ledger attached)
        have same : LedgerFillRecord.ofFill fill { order with status := status } trade later =
            .ofFill fill order trade later := rfl
        refine ⟨{ recorder with executionLedger := some after }, ?_⟩
        dsimp only
        rw [same, again]
  obtain ⟨after, persistsAgain⟩ := persistsAgain
  refine ⟨after, reaches.named, ?_, ?_, reaches.built, ?_, persistsAgain⟩
  · rw [isProcessed, processed]
    exact reaches.unprocessed
  · rw [OrderBook.store_get]
    exact if_pos (book.keyed _ _ reaches.known).symm
  · rw [reducer]
    exact reaches.accepted

end TradeRecorder

namespace OrderManager

variable {cache : TTLCache.{0, v} Nat}

/-- The book, the durable fills and the processed trades are the same. -/
def Untouched (manager after : OrderManager cache) : Prop :=
  after.book = manager.book ∧ after.recorder.executionLedger = manager.recorder.executionLedger ∧
    after.recorder.processedTrades = manager.recorder.processedTrades

/-- The trade is applied once its order has a status that allows it, where the ledger takes it then. -/
def Reappliable (manager after : OrderManager cache) (trade : Trade) : Prop :=
  ∀ order ∈ manager.book.orders.get trade.orderId, ∀ status later,
    Order.allows { order with status := status } (OrderPositionUpdater.filledStatus order trade) = true →
    (∀ ledger ∈ manager.recorder.executionLedger, ∀ fill, ledger.refuses (.ofFill fill order trade later) = false) →
    (OrderManager.recordTrade { after with book := after.book.store { order with status := status } }
      trade later).2.accepted = true

/-- A trade whose application raises leaves no trace and can be applied later. -/
def Atomic (manager : OrderManager cache) (trade : Trade) (now : ℚ) : Prop :=
  ∀ fromState toState, (manager.recordTrade trade now).2 = .raised (.illegalTransition fromState toState) →
    manager.Untouched (manager.recordTrade trade now).1 ∧
      manager.Reappliable (manager.recordTrade trade now).1 trade

/-- The trade reaches an order whose status does not allow it, and a ledger that does not
hold it yet. -/
def LeavesFill (manager : OrderManager cache) (trade : Trade) (now : ℚ) : Prop :=
  ∃ order fill persisted ledger,
    manager.recorder.Reaches manager.book trade now order fill persisted ∧
      order.allows (OrderPositionUpdater.filledStatus order trade) = false ∧
      manager.recorder.executionLedger = some ledger ∧ ledger.holds trade.tradeId = false

theorem recordTrade_outcome {manager : OrderManager cache} {trade : Trade} {now : ℚ} :
    (manager.recordTrade trade now).2 = (manager.recorder.recordTrade manager.book trade now).2.2 := by
  unfold recordTrade
  rfl

theorem recordTrade_raised {manager : OrderManager cache} {trade : Trade} {now : ℚ} {persisted : TradeRecorder}
    {error : OmsError} (raises : manager.recorder.recordTrade manager.book trade now =
      (persisted, manager.book, .raised error)) :
    manager.recordTrade trade now = ({ manager with recorder := persisted }, .raised error) := by
  unfold recordTrade
  rw [raises]

/-- For every state of the order manager and every trade: a failed application is atomic
exactly when it does not leave its fill in an execution ledger. -/
theorem fill_atomic_iff (manager : OrderManager cache) (trade : Trade) (now : ℚ) :
    manager.Atomic trade now ↔ ¬ manager.LeavesFill trade now := by
  constructor
  · rintro atomic ⟨order, fill, persisted, ledger, reaches, refused, attached, new⟩
    have raises := reaches.raises refused
    have reached := recordTrade_raised raises
    obtain ⟨⟨-, kept, -⟩, -⟩ := atomic _ _ (congrArg Prod.snd reached)
    rw [reached] at kept
    have held := (TradeRecorder.persistFillToLedger_ledger reaches.persists).mp kept ledger attached
    rw [held] at new
    cases new
  · intro leavesNone fromState toState raised
    rw [recordTrade_outcome] at raised
    obtain ⟨order, fill, persisted, reaches, refused⟩ := TradeRecorder.recordTrade_illegal raised
    have raises := reaches.raises refused
    rw [recordTrade_raised raises]
    obtain ⟨processed, -, -⟩ := TradeRecorder.persistFillToLedger_ok reaches.persists
    refine ⟨⟨rfl, ?_, processed⟩, ?_⟩
    · refine (TradeRecorder.persistFillToLedger_ledger reaches.persists).mpr fun ledger attached => ?_
      by_contra new
      exact leavesNone ⟨order, fill, persisted, ledger, reaches, refused, attached, Bool.eq_false_iff.mpr new⟩
    · intro known found status later allowed taken
      rw [Option.mem_def, reaches.known, Option.some.injEq] at found
      subst found
      obtain ⟨after, again⟩ : ∃ after, TradeRecorder.Reaches persisted (manager.book.store { order with status := status })
          trade later { order with status := status } fill after :=
        reaches.again fun ledger attached => taken ledger attached fill
      obtain ⟨reached, updated, applies, -⟩ := again.applies allowed
      rw [recordTrade_outcome]
      dsimp only
      rw [applies]
      rfl

/-- An order whose submission ended in an unknown state. -/
def unknownOrder : Order where
  orderId := "220901"
  symbol := "RELIANCE"
  exchange := "NSE"
  side := .BUY
  orderType := .LIMIT
  quantity := 10
  price := 2500
  status := .UNKNOWN

def fourFilled : Trade where
  tradeId := "T1"
  orderId := "220901"
  symbol := "RELIANCE"
  exchange := "NSE"
  side := .BUY
  quantity := 4
  price := 2500

/-- A manager with an empty execution ledger that takes every fill. -/
def ledgerManager : OrderManager (leastRecentlyUsed Nat 10000 86400) where
  book := OrderBook.store {} unknownOrder
  recorder := { processedTrades := some [], executionLedger := some { refuses := fun _ => false } }

theorem fill_left_behind :
    (ledgerManager.recordTrade fourFilled 1).2 = .raised (.illegalTransition .UNKNOWN .PARTIALLY_FILLED) ∧
    (ledgerManager.recordTrade fourFilled 1).1.recorder.executionLedger.map (·.fills.map (·.fillId)) =
      some ["T1"] ∧
    ¬ ledgerManager.Atomic fourFilled 1 := by
  have raises : (ledgerManager.recordTrade fourFilled 1).2 =
      .raised (.illegalTransition .UNKNOWN .PARTIALLY_FILLED) := by decide +kernel
  have left : (ledgerManager.recordTrade fourFilled 1).1.recorder.executionLedger.map (·.fills.map (·.fillId)) =
      some ["T1"] := by decide +kernel
  refine ⟨raises, left, fun atomic => ?_⟩
  obtain ⟨⟨-, kept, -⟩, -⟩ := atomic _ _ raises
  rw [kept] at left
  cases left

end OrderManager

end TradeX.V1
