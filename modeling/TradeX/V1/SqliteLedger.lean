import TradeX.Lib.Numerals
import TradeX.V1.OrderStore

/-! The SQLite execution ledger behind the order manager: intents are recorded in front of the broker
call and outcomes behind it, and a restart finds what the ledger gives back. -/

namespace TradeX.V1

open Lib

/-- The fields of an order intent of the ledger. -/
structure IntentFields where
  intentId : String
  orderId : String
  correlationId : String
  symbol : String
  exchange : String
  side : OrderSide
  quantity : ℚ
  price : ℚ
  orderType : OrderType
  productType : ProductType
  createdAt : ℚ
  deriving DecidableEq, Repr

structure OrderIntent extends IntentFields where
  identified : intentId ≠ "" ∧ orderId ≠ "" ∧ correlationId ≠ ""
  quantity_pos : 0 < quantity
  deriving DecidableEq

/-- The checks of an intent. -/
def IntentFields.check (fields : IntentFields) : Except OmsError OrderIntent :=
  if identified : fields.intentId ≠ "" ∧ fields.orderId ≠ "" ∧ fields.correlationId ≠ "" then
    if quantity_pos : 0 < fields.quantity then .ok { fields with identified, quantity_pos }
    else .error (.valueError "execution intent quantity must be positive")
  else .error (.valueError "execution intent identifiers are required")

/-- A row of `order_intents`: numbers in the quantity column, a text in the price column. -/
structure IntentRow where
  intentId : String
  orderId : String
  correlationId : String
  symbol : String
  exchange : String
  side : OrderSide
  quantity : ℚ
  price : String
  orderType : OrderType
  productType : ProductType
  createdAt : ℚ
  deriving DecidableEq

structure SubmissionOutcome where
  intentId : String
  state : SubmissionState
  brokerOrderId : String := ""
  reason : String := ""
  deriving DecidableEq

/-- `str(money)`: two places and the currency. -/
def moneyText (amount : ℚ) : String := Decimal.toFixed2 amount ++ " INR"

/-- What SQLite is given for a `Quantity`. It takes numbers, texts and bytes, and other objects only
through an adapter that was registered for their type. -/
abbrev QuantityAdapter : Type := ℚ → Option ℚ

/-- No adapter is registered. -/
def unadapted : QuantityAdapter := fun _ => none

/-- Every intent is stored under its id. -/
structure SqliteExecutionLedger where
  intents : Dict String IntentRow := ∅
  outcomes : Dict String SubmissionOutcome := ∅
  keyed : ∀ id row, intents.get id = some row → row.intentId = id := by intro _ _ found; cases found

namespace SqliteExecutionLedger

variable (ledger : SqliteExecutionLedger)

/-- The row of the correlation id, a unique column. -/
def rowFor (correlationId : String) : Option IntentRow :=
  ledger.intents.values.find? fun row => row.correlationId = correlationId

def insert (row : IntentRow) : SqliteExecutionLedger where
  intents := ledger.intents.set row.intentId row
  outcomes := ledger.outcomes
  keyed id other found := by
    rw [Dict.get_set] at found
    split at found
    · next same =>
      cases found
      exact same.symm
    · exact ledger.keyed id other found

/-- The `INSERT` of `record_intent`; the binding of the quantity raises without an adapter. -/
def insertIntent (adapt : QuantityAdapter) (intent : OrderIntent) : Except String SqliteExecutionLedger :=
  match adapt intent.quantity with
  | none => .error "Error binding parameter 7: type 'Quantity' is not supported"
  | some quantity => .ok (ledger.insert {
      intentId := intent.intentId
      orderId := intent.orderId
      correlationId := intent.correlationId
      symbol := intent.symbol
      exchange := intent.exchange
      side := intent.side
      quantity := quantity
      price := moneyText intent.price
      orderType := intent.orderType
      productType := intent.productType
      createdAt := intent.createdAt })

/-- `record_intent`, with the text of the exception it raises. -/
def recordIntent (adapt : QuantityAdapter) (intent : OrderIntent) : Except String SqliteExecutionLedger :=
  match ledger.intents.get intent.intentId with
  | some existing =>
    if existing.correlationId ≠ intent.correlationId then .error ("intent_id collision: " ++ intent.intentId)
    else .ok ledger
  | none =>
    match ledger.rowFor intent.correlationId with
    | some row =>
      if row.intentId ≠ intent.intentId then
        .error ("correlation_id collision: " ++ intent.correlationId)
      else ledger.insertIntent adapt intent
    | none => ledger.insertIntent adapt intent

/-- `record_outcome`. -/
def recordOutcome (outcome : SubmissionOutcome) : SqliteExecutionLedger :=
  { ledger with outcomes := ledger.outcomes.set outcome.intentId outcome }

/-- `outcome_for`. -/
def outcomeFor (intentId : String) : Option SubmissionOutcome := ledger.outcomes.get intentId

/-- `intent_for_correlation`. -/
def intentForCorrelation (correlationId : String) : Except OmsError (Option OrderIntent) :=
  match ledger.rowFor correlationId with
  | none => .ok none
  | some row =>
    match Decimal.ofText row.price with
    | none => .error (.ledger "[<class 'decimal.ConversionSyntax'>]")
    | some price =>
      let fields : IntentFields := {
        intentId := row.intentId
        orderId := row.orderId
        correlationId := row.correlationId
        symbol := row.symbol
        exchange := row.exchange
        side := row.side
        quantity := row.quantity
        price := price
        orderType := row.orderType
        productType := row.productType
        createdAt := row.createdAt }
      fields.check.map some

/-- The status that the durable lookup gives to a recovered order. -/
def recoveredStatus (intentId : String) : OrderStatus :=
  match (ledger.outcomeFor intentId).map SubmissionOutcome.state with
  | some .UNKNOWN => .UNKNOWN
  | some .REJECTED => .REJECTED
  | _ => .OPEN

/-- What `_lookup_durable_order` makes of the ledger: an exception of the read counts as nothing. -/
def lookup (correlationId : String) : DurableAnswer :=
  match ledger.intentForCorrelation correlationId with
  | .error _ => .nothing
  | .ok none => .nothing
  | .ok (some intent) => .recovered {
      orderId := intent.orderId
      correlationId := some intent.correlationId
      symbol := intent.symbol
      exchange := intent.exchange
      side := intent.side
      orderType := intent.orderType
      productType := intent.productType
      quantity := intent.quantity
      price := intent.price
      status := ledger.recoveredStatus intent.intentId }

/-- The price column of every row holds the text of a price. -/
def Priced : Prop := ∀ id row, ledger.intents.get id = some row → ∃ amount, row.price = moneyText amount

variable {ledger} {stored : SqliteExecutionLedger} {intent : OrderIntent} {adapt : QuantityAdapter}
  {correlationId id : String} {row : IntentRow}

theorem rowFor_some (found : ledger.rowFor correlationId = some row) :
    ledger.intents.get row.intentId = some row ∧ row.correlationId = correlationId := by
  unfold rowFor at found
  have named := List.find?_some found
  simp only [decide_eq_true_eq] at named
  obtain ⟨entry, listed, rfl⟩ := List.mem_map.mp (List.mem_of_find?_eq_some found)
  have here := Dict.get_eq_some.mpr listed
  rw [ledger.keyed _ _ here]
  exact ⟨here, named⟩

theorem rowFor_none (absent : ledger.rowFor correlationId = none) (found : ledger.intents.get id = some row) :
    row.correlationId ≠ correlationId := by
  intro same
  have listed : row ∈ ledger.intents.values := List.mem_map.mpr ⟨(id, row), Dict.get_eq_some.mp found, rfl⟩
  exact List.find?_eq_none.mp absent row listed (decide_eq_true same)

/-- A price text has a blank in front of the currency, so that it is no numeral. -/
theorem ofText_moneyText (amount : ℚ) : Decimal.ofText (moneyText amount) = none := by
  have spelled : (moneyText amount).toList = (Decimal.toFixed2 amount).toList ++ ' ' :: ['I', 'N', 'R'] := by
    unfold moneyText
    rw [String.toList_append]
    rfl
  exact Decimal.ofText_amount spelled ⟨'I', List.mem_cons_self, by decide⟩

/-- No intent comes back from a ledger of priced rows. -/
theorem Priced.unreadable (priced : ledger.Priced) (correlationId : String) (intent : OrderIntent) :
    ledger.intentForCorrelation correlationId ≠ .ok (some intent) := by
  intro reads
  unfold intentForCorrelation at reads
  split at reads
  · cases reads
  · next row found =>
    obtain ⟨amount, price⟩ := priced _ _ (rowFor_some found).1
    rw [price, ofText_moneyText] at reads
    cases reads

theorem Priced.lookup (priced : ledger.Priced) (correlationId : String) : ledger.lookup correlationId = .nothing := by
  unfold SqliteExecutionLedger.lookup
  split
  · rfl
  · rfl
  · next intent reads => exact absurd reads (priced.unreadable correlationId intent)

/-- What recording a new intent does: its correlation id had no row, and now it has one. -/
structure Records (ledger : SqliteExecutionLedger) (intent : OrderIntent) (stored : SqliteExecutionLedger) : Prop where
  fresh : ∀ id row, ledger.intents.get id = some row → row.correlationId ≠ intent.correlationId
  rows : ∃ row, stored = ledger.insert row ∧ row.intentId = intent.intentId ∧
    row.correlationId = intent.correlationId ∧ row.price = moneyText intent.price

theorem insertIntent_ok (inserts : ledger.insertIntent adapt intent = .ok stored) :
    ∃ row, stored = ledger.insert row ∧ row.intentId = intent.intentId ∧
      row.correlationId = intent.correlationId ∧ row.price = moneyText intent.price := by
  unfold insertIntent at inserts
  split at inserts
  · cases inserts
  · cases inserts
    exact ⟨_, rfl, rfl, rfl, rfl⟩

theorem recordIntent_records (new : ledger.intents.get intent.intentId = none)
    (records : ledger.recordIntent adapt intent = .ok stored) : Records ledger intent stored := by
  unfold recordIntent at records
  rw [new] at records
  dsimp only at records
  split at records
  · next row found =>
    split at records
    · cases records
    · next same =>
      have here := (rowFor_some found).1
      rw [not_not.mp same, new] at here
      cases here
  · next absent => exact ⟨fun id row found => rowFor_none absent found, insertIntent_ok records⟩

theorem insert_get : (ledger.insert row).intents.get id =
    if id = row.intentId then some row else ledger.intents.get id :=
  Dict.get_set ..

theorem Priced.insert (priced : ledger.Priced) {amount : ℚ} (price : row.price = moneyText amount) :
    (ledger.insert row).Priced := by
  intro id other found
  rw [insert_get] at found
  split at found
  · cases found
    exact ⟨amount, price⟩
  · exact priced id other found

end SqliteExecutionLedger

/-- What one placement meets outside the book and the ledger; `submit` is how `submit_fn` would end. -/
structure PlaceEnvironment where
  now : ℚ
  orderId : String
  gate : Option String := none
  risk : Option String := none
  blocked : Option String := none
  submit : Option (Except String Order)
  createdAt : ℚ := 0

/-- An order manager with its execution ledger, and the correlation ids that `submit_fn` was called
for, the latest first. -/
structure LedgeredManager (cache : TTLCache.{0, v} Nat) where
  manager : OrderManager cache
  ledger : SqliteExecutionLedger := {}
  submitted : List String := []

/-- A placement, a placement in which the process dies right behind `submit_fn`, and a restart. A new
process reads its book from the order store. -/
inductive LedgeredOperation where
  | place (request : OmsOrderCommand) (environment : PlaceEnvironment)
  | crash (request : OmsOrderCommand) (environment : PlaceEnvironment) (store : SqliteOrderStore)
  | restart (store : SqliteOrderStore)

namespace LedgeredManager

variable {cache : TTLCache.{0, v} Nat} (ledgered : LedgeredManager cache)

/-- The answers of a placement whose submission ends as given. -/
def answers (request : OmsOrderCommand) (environment : PlaceEnvironment)
    (submission : Option OrderManager.Submission) : OrderManager.PlaceAnswers where
  now := environment.now
  durable := ledgered.ledger.lookup request.correlationId
  orderId := environment.orderId
  gate := environment.gate
  risk := environment.risk
  blocked := environment.blocked
  submission := submission

/-- The intent that `submit_to_broker` builds for the order. -/
def intent (request : OmsOrderCommand) (environment : PlaceEnvironment) : Except OmsError OrderIntent :=
  let order := OrderManager.builtOrder request environment.orderId
  let fields : IntentFields := {
    intentId := order.orderId
    orderId := order.orderId
    correlationId := request.correlationId
    symbol := order.symbol
    exchange := order.exchange
    side := order.side
    quantity := order.quantity
    price := order.price
    orderType := order.orderType
    productType := order.productType
    createdAt := environment.createdAt }
  fields.check

/-- The ledger and the submission behind `submit_fn`, with the record of the outcome. An accepted
submission requires a broker order id. -/
def outcome (recorded : SqliteExecutionLedger) (intentId : String) :
    Except String Order → SqliteExecutionLedger × OrderManager.Submission
  | .error message =>
    (recorded.recordOutcome { intentId := intentId, state := .UNKNOWN, reason := message },
      { brokerCall := .error message })
  | .ok placed =>
    if placed.orderId = "" then
      (recorded, { brokerCall := .ok placed, outcomeFails := some "accepted submission requires broker_order_id" })
    else
      (recorded.recordOutcome { intentId := intentId, state := .ACCEPTED, brokerOrderId := placed.orderId },
        { brokerCall := .ok placed })

/-- `place_order`. The record of the intent stands in front of `submit_fn`, and an exception of either
marks the order unknown. An intent that fails its checks raises behind the mutation guard, which
leaves the book as a refusal of the guard does. -/
def place (adapt : QuantityAdapter) (request : OmsOrderCommand) (environment : PlaceEnvironment) :
    LedgeredManager cache :=
  let submitted := fun submission =>
    (ledgered.manager.placeOrder request (ledgered.answers request environment submission)).1
  match environment.submit with
  | none => { ledgered with manager := submitted none }
  | some response =>
    if ledgered.manager.Admits request (ledgered.answers request environment none) then
      match intent request environment with
      | .error _ =>
        let refused := { environment with blocked := some "execution intent" }
        { ledgered with manager := (ledgered.manager.placeOrder request (ledgered.answers request refused none)).1 }
      | .ok intent =>
        match ledgered.ledger.recordIntent adapt intent with
        | .error message =>
          let ended := outcome ledgered.ledger intent.intentId (.error message)
          { ledgered with manager := submitted (some ended.2), ledger := ended.1 }
        | .ok recorded =>
          let ended := outcome recorded intent.intentId response
          { manager := submitted (some ended.2)
            ledger := ended.1
            submitted := request.correlationId :: ledgered.submitted }
    else { ledgered with manager := submitted none }

/-- A new process over the order store. -/
def restarted (store : SqliteOrderStore) : OrderManager cache := { book := hydrate store }

/-- What a crash right behind `submit_fn` leaves to the next process, when the placement gets that far. -/
def crash (adapt : QuantityAdapter) (request : OmsOrderCommand) (environment : PlaceEnvironment)
    (store : SqliteOrderStore) : Option (LedgeredManager cache) :=
  if environment.submit.isSome ∧ ledgered.manager.Admits request (ledgered.answers request environment none) then
    (intent request environment).toOption.bind fun intent =>
      (ledgered.ledger.recordIntent adapt intent).toOption.map fun recorded => {
        manager := restarted store
        ledger := recorded
        submitted := request.correlationId :: ledgered.submitted }
  else none

/-- The id drawn for a placement is new to the book and to the ledger. -/
def draws (environment : PlaceEnvironment) : Bool :=
  !ledgered.manager.book.orders.contains environment.orderId &&
    !ledgered.ledger.intents.contains environment.orderId

def step (adapt : QuantityAdapter) (ledgered : LedgeredManager cache) :
    LedgeredOperation → Option (LedgeredManager cache)
  | .place request environment =>
    if ledgered.draws environment = true then some (ledgered.place adapt request environment) else none
  | .crash request environment store =>
    if ledgered.draws environment = true then ledgered.crash adapt request environment store else none
  | .restart store => some { ledgered with manager := restarted store }

/-- The state that the placement records for its submission. -/
def recordedState (environment : PlaceEnvironment) : SubmissionState :=
  match environment.submit with
  | some (.ok _) => .ACCEPTED
  | _ => .UNKNOWN

/-- The ledger gives the intent of the placement back with its correlation id, quantity, price and
submission state. -/
def ReadsBack (request : OmsOrderCommand) (environment : PlaceEnvironment) : Prop :=
  ∃ intent outcome, ledgered.ledger.intentForCorrelation request.correlationId = .ok (some intent) ∧
    intent.correlationId = request.correlationId ∧ intent.quantity = request.quantity ∧
    intent.price = request.price ∧ ledgered.ledger.outcomeFor intent.intentId = some outcome ∧
    outcome.state = recordedState environment

/-- Rows of prices only, and `submit_fn` was called once for each id, behind a row of it. -/
structure Sound : Prop where
  priced : ledgered.ledger.Priced
  recorded : ∀ correlationId ∈ ledgered.submitted,
    ∃ id row, ledgered.ledger.intents.get id = some row ∧ row.correlationId = correlationId
  once : ledgered.submitted.Nodup

variable {ledgered} {after : LedgeredManager cache} {adapt : QuantityAdapter} {request : OmsOrderCommand}
  {environment : PlaceEnvironment} {store : SqliteOrderStore} {operation : LedgeredOperation}

theorem ok_of_toOption {ε : Type u} {α : Type w} {answer : Except ε α} {value : α}
    (given : answer.toOption = some value) : answer = .ok value := by
  cases answer with
  | error error => cases given
  | ok value =>
    cases given
    rfl

theorem outcome_intents (recorded : SqliteExecutionLedger) (intentId : String) (response : Except String Order) :
    (outcome recorded intentId response).1.intents = recorded.intents := by
  unfold outcome
  split
  · rfl
  · split <;> rfl

theorem intent_ok {intent : OrderIntent} (built : LedgeredManager.intent request environment = .ok intent) :
    intent.intentId = environment.orderId ∧ intent.correlationId = request.correlationId := by
  unfold LedgeredManager.intent IntentFields.check at built
  dsimp only at built
  split at built
  · split at built
    · cases built
      exact ⟨rfl, rfl⟩
    · cases built
  · cases built

theorem draws_new (drawn : ledgered.draws environment = true) :
    ledgered.ledger.intents.get environment.orderId = none := by
  unfold draws at drawn
  have new := (Bool.and_eq_true _ _ ▸ drawn).2
  rw [Bool.not_eq_true', Dict.contains, Option.isSome_eq_false_iff, Option.isNone_iff_eq_none] at new
  exact new

/-- A ledger with the same rows. -/
theorem Sound.sameRows (sound : ledgered.Sound) {manager : OrderManager cache} {ledger : SqliteExecutionLedger}
    (same : ledger.intents = ledgered.ledger.intents) :
    Sound { ledgered with manager := manager, ledger := ledger } := by
  constructor
  · intro id row found
    rw [same] at found
    exact sound.priced id row found
  · intro correlationId member
    dsimp only
    rw [same]
    exact sound.recorded correlationId member
  · exact sound.once

/-- A recorded intent makes the correlation id one of the ledger, and it was none before. -/
theorem Sound.submits (sound : ledgered.Sound) (drawn : ledgered.draws environment = true) {intent : OrderIntent}
    {recorded ledger : SqliteExecutionLedger} {manager : OrderManager cache}
    (built : LedgeredManager.intent request environment = .ok intent)
    (records : ledgered.ledger.recordIntent adapt intent = .ok recorded) (same : ledger.intents = recorded.intents) :
    Sound {
      manager := manager
      ledger := ledger
      submitted := request.correlationId :: ledgered.submitted } := by
  obtain ⟨intentId, correlationId⟩ := intent_ok built
  have new : ledgered.ledger.intents.get intent.intentId = none := by rw [intentId, draws_new drawn]
  obtain ⟨fresh, row, rfl, rowId, named, price⟩ := SqliteExecutionLedger.recordIntent_records new records
  have absent : request.correlationId ∉ ledgered.submitted := by
    intro member
    obtain ⟨id, other, found, sameId⟩ := sound.recorded _ member
    exact fresh id other found (sameId.trans correlationId.symm)
  constructor
  · intro id other found
    rw [same] at found
    exact sound.priced.insert price id other found
  · intro later member
    dsimp only
    simp only [same, SqliteExecutionLedger.insert_get]
    rcases List.mem_cons.mp member with rfl | earlier
    · exact ⟨row.intentId, row, if_pos rfl, named.trans correlationId⟩
    · obtain ⟨id, other, found, sameId⟩ := sound.recorded later earlier
      have apart : id ≠ row.intentId := by
        rintro rfl
        rw [rowId, new] at found
        cases found
      exact ⟨id, other, (if_neg apart).trans found, sameId⟩
  · exact List.nodup_cons.mpr ⟨absent, sound.once⟩

theorem Sound.place (sound : ledgered.Sound) (drawn : ledgered.draws environment = true) :
    (ledgered.place adapt request environment).Sound := by
  unfold LedgeredManager.place
  dsimp only
  split
  · exact sound.sameRows rfl
  · split
    · split
      · exact sound.sameRows rfl
      · next intent built =>
        split
        · exact sound.sameRows (outcome_intents _ _ _)
        · next recorded records => exact sound.submits drawn built records (outcome_intents _ _ _)
    · exact sound.sameRows rfl

theorem Sound.step (sound : ledgered.Sound) (taken : step adapt ledgered operation = some after) : after.Sound := by
  cases operation with
  | place request environment =>
    simp only [LedgeredManager.step] at taken
    split at taken
    · next drawn =>
      cases taken
      exact sound.place drawn
    · cases taken
  | crash request environment store =>
    simp only [LedgeredManager.step] at taken
    split at taken
    · next drawn =>
      unfold LedgeredManager.crash at taken
      split at taken
      · obtain ⟨intent, built, rest⟩ := Option.bind_eq_some_iff.mp taken
        obtain ⟨recorded, records, rfl⟩ := Option.map_eq_some_iff.mp rest
        exact sound.submits drawn (ok_of_toOption built) (ok_of_toOption records) rfl
      · cases taken
    · cases taken
  | restart store =>
    cases taken
    exact sound.sameRows rfl

/-- A new process over an order store, and an empty ledger. -/
def start (store : SqliteOrderStore) (validator : OrderStateValidator cache) : LedgeredManager cache where
  manager := { book := hydrate store, validator := validator }

/-- Whatever adapter hands quantities to SQLite, none in the repository: in no run does the ledger give
back the intent of a placement, because no price text is read as a number. Over the same runs, with
restarts at any point behind the broker call, `submit_fn` is never called twice for a correlation id. -/
theorem intent_not_read_back (adapt : QuantityAdapter) (store : SqliteOrderStore)
    (validator : OrderStateValidator cache) (operations : List LedgeredOperation) (before after : LedgeredManager cache)
    (request : OmsOrderCommand) (environment : PlaceEnvironment)
    (run : exec (step adapt) (start store validator) operations = some before)
    (placed : step adapt before (.place request environment) = some after) :
    ¬ after.ReadsBack request environment ∧ after.submitted.Nodup := by
  have initial : (start store validator).Sound := by
    constructor
    · rintro _ _ ⟨⟩
    · rintro _ ⟨⟩
    · exact List.nodup_nil
  have everywhere : ∀ operation ∈ operations, True := fun _ _ => trivial
  have sound : before.Sound := exec_invariant (fun _ _ _ sound _ taken => sound.step taken) initial
    (meets_of_forall everywhere) run
  have soundAfter : after.Sound := sound.step placed
  refine ⟨?_, soundAfter.once⟩
  rintro ⟨intent, outcome, reads, -⟩
  exact soundAfter.priced.unreadable request.correlationId intent reads

/-- A limit order for ten shares at 2500. -/
def limitRequest : OmsOrderCommand where
  symbol := "RELIANCE"
  exchange := "NSE"
  side := .BUY
  quantity := 10
  price := 2500
  orderType := .LIMIT
  correlationId := "6f1c"
  correlationId_present := sampleId_present

/-- The broker would accept it as the order 220901. -/
def acceptingBroker (orderId : String) : PlaceEnvironment where
  now := 0
  orderId := orderId
  submit := some (.ok {
    orderId := "220901", symbol := "RELIANCE", exchange := "NSE", side := .BUY, orderType := .LIMIT,
    quantity := 10, price := 2500, correlationId := some "6f1c" })

/-- With an adapter the intent is recorded, and its price text keeps the restarted process from reading
it; the second placement ends at the collision of the correlation ids, in front of `submit_fn`. -/
theorem intent_not_read_back_adapted : ∃ before after,
    exec (step some) (start {} ({} : OrderStateValidator (leastRecentlyUsed Nat 10000 86400)))
      [.place limitRequest (acceptingBroker "OM-1"), .restart {}] = some before ∧
    step some before (.place limitRequest (acceptingBroker "OM-2")) = some after ∧
    (before.ledger.rowFor "6f1c").map IntentRow.price = some "2500.00 INR" ∧ after.submitted = ["6f1c"] ∧
    ¬ after.ReadsBack limitRequest (acceptingBroker "OM-2") := by
  have runs : (exec (step some) (start {} ({} : OrderStateValidator (leastRecentlyUsed Nat 10000 86400)))
      [.place limitRequest (acceptingBroker "OM-1"), .restart {}]).map (fun before =>
        ((before.ledger.rowFor "6f1c").map IntentRow.price,
          (step some before (.place limitRequest (acceptingBroker "OM-2"))).map LedgeredManager.submitted)) =
      some (some "2500.00 INR", some ["6f1c"]) := by decide +kernel
  obtain ⟨before, run, ends⟩ := Option.map_eq_some_iff.mp runs
  obtain ⟨price, placed⟩ := Prod.mk.inj ends
  obtain ⟨after, taken, submitted⟩ := Option.map_eq_some_iff.mp placed
  exact ⟨before, after, run, taken, price, submitted, (intent_not_read_back some {} {} _ before after _ _ run taken).1⟩

/-- As the repository is, the first placement already raises at the record of its intent. -/
theorem intent_lost :
    (step unadapted (start {} ({} : OrderStateValidator (leastRecentlyUsed Nat 10000 86400)))
      (.place limitRequest (acceptingBroker "OM-1"))).map (fun after =>
        (after.ledger.intentForCorrelation "6f1c", after.submitted, after.manager.book.status "OM-1")) =
      some (.ok none, [], some .UNKNOWN) ∧
    ¬ ∀ (operations : List LedgeredOperation) (before after : LedgeredManager (leastRecentlyUsed Nat 10000 86400))
      (request : OmsOrderCommand) (environment : PlaceEnvironment),
      exec (step unadapted) (start {} {}) operations = some before →
      step unadapted before (.place request environment) = some after → environment.submit ≠ none →
      before.manager.Admits request (before.answers request environment none) →
      after.ReadsBack request environment := by
  have lost : (step unadapted (start {} ({} : OrderStateValidator (leastRecentlyUsed Nat 10000 86400)))
      (.place limitRequest (acceptingBroker "OM-1"))).map (fun after =>
        (after.ledger.intentForCorrelation "6f1c", after.submitted, after.manager.book.status "OM-1")) =
      some (.ok none, [], some .UNKNOWN) := by decide +kernel
  refine ⟨lost, fun claim => ?_⟩
  obtain ⟨after, taken, ends⟩ := Option.map_eq_some_iff.mp lost
  obtain ⟨intent, outcome, reads, -⟩ := claim [] _ after limitRequest (acceptingBroker "OM-1") rfl taken
    (Option.some_ne_none _) (by decide +kernel)
  have nothing : after.ledger.intentForCorrelation "6f1c" = .ok none := congrArg Prod.fst ends
  have same : Except.ok none = Except.ok (some intent) := nothing.symm.trans reads
  cases same

end LedgeredManager

end TradeX.V1
