import TradeX.V1.ExecutionPlanner

/-! The trading orchestrator: candidate events are evaluated and their signals planned. Which order commands of a
sequence of events share a correlation id, and that a redelivery repeats the ids of its event. -/

namespace TradeX.V1.Trading

open Lib

/-- A value of a payload by its text and its truth value; what is true has a text. -/
structure PayloadValue where
  written : String
  truthy : Bool
  written_ne : truthy = true → written ≠ "" := by decide

/-- `Decimal(str(value))` does not raise. -/
def PayloadValue.isDecimal (value : PayloadValue) : Bool := (Extended.ofText value.written).isSome

structure CandidateEvent where
  eventId : String
  payload : Dict String PayloadValue
  correlationId : Option String := none

namespace CandidateEvent

variable (event : CandidateEvent)

/-- The correlation id of the event, else the candidate id of its payload, else the orchestrator's name with
the symbol. -/
def baseId (symbol : PayloadValue) : String :=
  let fallback := match event.payload.get "candidate_id" with
    | some candidateId => if candidateId.truthy then candidateId.written else "trading_orchestrator:" ++ symbol.written
    | none => "trading_orchestrator:" ++ symbol.written
  match event.correlationId with
  | some correlationId => if correlationId ≠ "" then correlationId else fallback
  | none => fallback

/-- The score and the metrics are converted to decimals; only these keys are no metrics. -/
def converts : Bool :=
  event.payload.entries.all fun entry => entry.1 = "symbol" || entry.1 = "reason" || entry.1 = "exchange" || entry.2.isDecimal

end CandidateEvent

/-- One call of `on_candidate`: the event, whether its features are fetched, what the strategies answer, and what
the planner looks up for each of the signals. -/
structure Delivery where
  event : CandidateEvent
  features : Bool := true
  signals : List Signal
  runtime : ℕ → Runtime

structure CandidateResult where
  plans : List (Signal × PlanResult) := []
  error : Bool := false

/-- `on_candidate`, with the plans of the signals in their order. An exception of the conversions is counted as an
error, like a missing symbol or missing features. -/
def onCandidate (planner : ExecutionPlanner) (delivery : Delivery) : CandidateResult :=
  match delivery.event.payload.get "symbol" with
  | none => { error := true }
  | some symbol =>
    if !symbol.truthy then { error := true }
    else if !delivery.event.converts then { error := true }
    else if !delivery.features then { error := true }
    else { plans := (coalesceStrategySignals delivery.signals).zipIdx.map fun (signal, i) =>
        (signal, planner.plan signal (delivery.event.baseId symbol) (delivery.runtime i)) }

/-- A command with the signal that it was made of, and its event. -/
structure Placed where
  event : CandidateEvent
  signal : Signal
  command : OmsOrderCommand

def Delivery.placed (planner : ExecutionPlanner) (delivery : Delivery) : List Placed :=
  (onCandidate planner delivery).plans.flatMap fun (signal, result) =>
    result.commands.map fun command => ⟨delivery.event, signal, command⟩

/-- The commands of a sequence of events. -/
def run (planner : ExecutionPlanner) (deliveries : List Delivery) : List Placed :=
  deliveries.flatMap (Delivery.placed planner)

namespace Placed

/-- Signals are told apart by their event, their strategy and their symbol. -/
def origin (placed : Placed) : CandidateEvent × String × String :=
  (placed.event, placed.signal.strategy, placed.signal.symbol)

/-- What stands in front of the name of the strategy. -/
def base (placed : Placed) : String :=
  match placed.event.payload.get "symbol" with
  | some symbol => placed.event.baseId symbol
  | none => ""

/-- The signals have one base and one name, or the base of one of them goes on where the name of the other does. -/
def Clashes (first second : Placed) : Prop :=
  (first.base = second.base ∧ first.signal.strategyName = second.signal.strategyName) ∨
  (∃ between, second.base = first.base ++ ":" ++ between ∧
    first.signal.strategyName = between ++ ":" ++ second.signal.strategyName) ∨
  ∃ between, first.base = second.base ++ ":" ++ between ∧
    second.signal.strategyName = between ++ ":" ++ first.signal.strategyName

end Placed

variable {planner : ExecutionPlanner} {delivery : Delivery} {deliveries : List Delivery} {placed first second : Placed}

theorem baseId_ne_empty (event : CandidateEvent) (symbol : PayloadValue) :
    event.baseId symbol ≠ "" := by
  have fallback : "trading_orchestrator:" ++ symbol.written ≠ "" := by
    intro empty
    have := congrArg String.toList empty
    simp at this
  simp only [CandidateEvent.baseId]
  split
  · split
    · assumption
    · split
      · split
        · next candidateId _ given => exact candidateId.written_ne given
        · exact fallback
      · exact fallback
  · split
    · split
      · next candidateId _ given => exact candidateId.written_ne given
      · exact fallback
    · exact fallback

/-- The id of a command is made of its event and the name of its strategy. -/
theorem placed_correlationId (member : placed ∈ run planner deliveries) :
    placed.command.correlationId = placed.base ++ ":" ++ placed.signal.strategyName := by
  obtain ⟨delivery, -, member⟩ := List.mem_flatMap.mp member
  obtain ⟨⟨signal, result⟩, planned, member⟩ := List.mem_flatMap.mp member
  obtain ⟨command, made, rfl⟩ := List.mem_map.mp member
  simp only [onCandidate] at planned
  split at planned
  · cases planned
  · next symbol found =>
    split at planned
    · cases planned
    split at planned
    · cases planned
    split at planned
    · cases planned
    · obtain ⟨⟨other, i⟩, -, same⟩ := List.mem_map.mp planned
      obtain ⟨rfl, rfl⟩ := Prod.mk.inj same
      simp only [Placed.base, found]
      exact ExecutionPlanner.plan_correlationId (baseId_ne_empty _ symbol) made

theorem correlationId_eq_iff (here : first ∈ run planner deliveries) (there : second ∈ run planner deliveries) :
    first.command.correlationId = second.command.correlationId ↔ first.Clashes second := by
  rw [placed_correlationId here, placed_correlationId there, ← String.toList_inj]
  have cut : ∀ start rest : String, (start ++ ":" ++ rest).toList = start.toList ++ ':' :: rest.toList := by
    intro start rest
    simp
  have spelled : ∀ cs : List Char, ∃ text : String, text.toList = cs := fun cs => ⟨String.ofList cs, by simp⟩
  rw [cut, cut, Text.append_mark_eq_iff]
  simp only [Placed.Clashes, ← String.toList_inj, cut]
  refine or_congr Iff.rfl (or_congr ?_ ?_)
  · constructor
    · rintro ⟨cs, longer, rest⟩
      obtain ⟨between, rfl⟩ := spelled cs
      exact ⟨between, longer, rest⟩
    · exact fun ⟨between, longer, rest⟩ => ⟨between.toList, longer, rest⟩
  · constructor
    · rintro ⟨cs, longer, rest⟩
      obtain ⟨between, rfl⟩ := spelled cs
      exact ⟨between, longer, rest⟩
    · exact fun ⟨between, longer, rest⟩ => ⟨between.toList, longer, rest⟩

/-- The base of a command and its name follow from the origin of its signal. -/
theorem Placed.clashes_of_origin (same : first.origin = second.origin) : first.Clashes second := by
  simp only [Placed.origin, Prod.mk.injEq] at same
  obtain ⟨event, strategy, -⟩ := same
  refine .inl ⟨?_, ?_⟩
  · rw [Placed.base, Placed.base, event]
  · rw [Signal.strategyName, Signal.strategyName, strategy]

/-- The commands of different signals have different ids if and only if no two of them clash; those of one signal
have one id, however often its event is delivered. -/
theorem correlationIds_iff (planner : ExecutionPlanner) (deliveries : List Delivery) :
    ((∀ first ∈ run planner deliveries, ∀ second ∈ run planner deliveries, first.origin ≠ second.origin →
        first.command.correlationId ≠ second.command.correlationId) ↔
      ∀ first ∈ run planner deliveries, ∀ second ∈ run planner deliveries, first.origin ≠ second.origin →
        ¬first.Clashes second) ∧
    ∀ first ∈ run planner deliveries, ∀ second ∈ run planner deliveries, first.origin = second.origin →
      first.command.correlationId = second.command.correlationId := by
  constructor
  · constructor
    · intro distinct first here second there different clash
      exact distinct first here second there different ((correlationId_eq_iff here there).mpr clash)
    · intro clear first here second there different same
      exact clear first here second there different ((correlationId_eq_iff here there).mp same)
  · intro first here second there same
    exact (correlationId_eq_iff here there).mpr (Placed.clashes_of_origin same)

def desk : ExecutionPlanner where
  minConfidence := 7 / 10
  isDryRun := false
  defaultOrderType := .MARKET
  defaultProductType := .INTRADAY
  defaultExchange := "NSE"
  maxPositionSizePct := 0

/-- A buy on a bar of a symbol, by an event without a correlation id and without a candidate id. -/
def barDelivery (eventId : String) : Delivery where
  event := {
    eventId := eventId
    payload := (Dict.empty.set "symbol" ⟨"TCS", true, by decide⟩).set "score" ⟨"80.0", true, by decide⟩ }
  signals := [{
    symbol := "TCS"
    exchange := "NSE"
    signalType := .BUY
    confidence := 4 / 5
    quantity := 1
    price := some 100
    strategy := "momentum" }]
  runtime := fun _ => ⟨0, fun _ _ => 0⟩

/-- The buys of two bars share their id. -/
theorem two_bars_share_an_id : ∃ first ∈ run desk [barDelivery "first", barDelivery "second"],
    ∃ second ∈ run desk [barDelivery "first", barDelivery "second"],
      first.origin ≠ second.origin ∧ first.command.correlationId = second.command.correlationId := by
  have ids : (run desk [barDelivery "first", barDelivery "second"]).map
      (fun placed => (placed.event.eventId, placed.command.correlationId)) =
      [("first", "trading_orchestrator:TCS:momentum"), ("second", "trading_orchestrator:TCS:momentum")] := by decide +kernel
  obtain ⟨first, here, firstId⟩ := List.mem_map.mp (ids ▸ List.mem_cons_self)
  obtain ⟨second, there, secondId⟩ := List.mem_map.mp (ids ▸ List.mem_cons_of_mem _ List.mem_cons_self)
  simp only [Prod.mk.injEq] at firstId secondId
  refine ⟨first, here, second, there, ?_, firstId.2.trans secondId.2.symm⟩
  intro same
  have events := congrArg (fun origin => origin.1.eventId) same
  rw [show first.origin.1.eventId = "first" from firstId.1] at events
  exact absurd (events.trans secondId.1) (by decide)

end TradeX.V1.Trading
