import TradeX.Lib.Dict

/-! The message bus and its replay from the in-memory log. The log is read while the replay runs,
and every message the replay publishes is appended to it: the reader finds it again at the end. -/

namespace TradeX.V2

open Lib

/-- A published object: its type, its `timestamp` attribute where it has one, and its content. -/
structure Message (β : Type) where
  kind : String
  timestamp : Option ℚ
  content : β
  deriving DecidableEq, Repr

/-- The test of `read`: without a window, or without a timestamp, a message is read. -/
def Message.within {β : Type} (start stop : Option ℚ) (message : Message β) : Bool :=
  match message.timestamp with
  | none => true
  | some ts => (start.all fun first => first ≤ ts) && stop.all fun last => ts ≤ last

structure DeadLetter (β : Type) where
  originalMessage : Message β
  handler : String
  error : String
  deriving DecidableEq, Repr

structure MessageBusMetrics where
  messagesPublished : Nat := 0
  messagesDelivered : Nat := 0
  messagesFailed : Nat := 0
  dlqCount : Nat := 0
  deriving DecidableEq, Repr

/-- The bus; `calls` are the handler calls it has made. -/
structure MessageBus (β : Type) where
  maxQueueSize : ℤ := 10000
  messageLog : Option (List (Message β)) := none
  subscribers : Dict String (List String) := ∅
  inflight : ℤ := 0
  metrics : MessageBusMetrics := {}
  deadLetters : List (DeadLetter β) := []
  calls : List (String × Message β) := []

/-- `backpressure: queue full`. -/
structure Backpressure where
  maxQueueSize : ℤ
  deriving DecidableEq, Repr

namespace MessageBus

/-- How a replay ends. -/
inductive Replay (β : Type) where
  | returned (bus : MessageBus β)
  | raised (error : Backpressure) (bus : MessageBus β)

section

-- what each handler call raises, by its number
variable {β : Type} (raises : Nat → Option String)

/-- `_deliver`. -/
def deliver (message : Message β) (bus : MessageBus β) (handler : String) : MessageBus β :=
  let called := { bus with calls := bus.calls ++ [(handler, message)] }
  match raises bus.calls.length with
  | none => { called with metrics.messagesDelivered := bus.metrics.messagesDelivered + 1 }
  | some error =>
    { called with
      metrics := { bus.metrics with
        messagesFailed := bus.metrics.messagesFailed + 1
        dlqCount := bus.metrics.dlqCount + 1 }
      deadLetters := bus.deadLetters ++ [⟨message, handler, error⟩] }

/-- The handlers of the message's own type. -/
def handlers (bus : MessageBus β) (message : Message β) : List String := (bus.subscribers.get message.kind).getD []

/-- `publish`, with handlers that do not publish. -/
def publish (bus : MessageBus β) (message : Message β) : Except Backpressure (MessageBus β) :=
  if bus.inflight ≥ bus.maxQueueSize then .error ⟨bus.maxQueueSize⟩
  else
    let entered := { bus with
      inflight := bus.inflight + 1
      metrics.messagesPublished := bus.metrics.messagesPublished + 1
      messageLog := bus.messageLog.map (· ++ [message]) }
    let delivered := (bus.handlers message).foldl (deliver raises message) entered
    .ok { delivered with inflight := delivered.inflight - 1 }

/-- The loop of `replay` over the reader of the log, which stands at `cursor`. -/
def replayFrom (start stop : Option ℚ) : Nat → MessageBus β → Nat → Option (Replay β)
  | 0, _, _ => none
  | fuel + 1, bus, cursor =>
    match (bus.messageLog.getD [])[cursor]? with
    | none => some (.returned bus)
    | some message =>
      if message.within start stop then
        match bus.publish raises message with
        | .error error => some (.raised error bus)
        | .ok published => replayFrom start stop fuel published (cursor + 1)
      else replayFrom start stop fuel bus (cursor + 1)

/-- `replay`, for as many rounds as the fuel allows. -/
def replay (start stop : Option ℚ) (fuel : Nat) (bus : MessageBus β) : Option (Replay β) :=
  match bus.messageLog with
  | none => some (.returned bus)
  | some _ => replayFrom raises start stop fuel bus 0

/-- The handler calls that each of the messages once, in their order, gives rise to. -/
def deliveries (bus : MessageBus β) (messages : List (Message β)) : List (String × Message β) :=
  messages.flatMap fun message => (bus.handlers message).map fun handler => (handler, message)

/-- The replay ends, the messages of the window have been handed to their handlers once and in the
order of the log, and the log is as it was. -/
def Replays (start stop : Option ℚ) (bus : MessageBus β) (log : List (Message β)) : Prop :=
  ∃ fuel after, replay raises start stop fuel bus = some (.returned after) ∧
    after.calls = bus.calls ++ bus.deliveries (log.filter (Message.within start stop)) ∧
    after.messageLog = some log

end

section

variable {β : Type} {raises : Nat → Option String} {start stop : Option ℚ} {bus : MessageBus β} {log : List (Message β)}
  {message : Message β}

theorem deliver_messageLog (message : Message β) (bus : MessageBus β) (handlers : List String) :
    (handlers.foldl (deliver raises message) bus).messageLog = bus.messageLog := by
  induction handlers generalizing bus with
  | nil => rfl
  | cons handler rest ih =>
    rw [List.foldl_cons, ih]
    unfold deliver
    dsimp only
    split <;> rfl

/-- A published message stands at the end of the log. -/
theorem publish_messageLog {published : MessageBus β} (attached : bus.messageLog = some log)
    (accepted : bus.publish raises message = .ok published) : published.messageLog = some (log ++ [message]) := by
  unfold publish at accepted
  split at accepted
  · cases accepted
  · cases accepted
    dsimp only
    rw [deliver_messageLog, attached]
    rfl

theorem deliver_room (message : Message β) (bus : MessageBus β) (handlers : List String) :
    (handlers.foldl (deliver raises message) bus).inflight = bus.inflight ∧
      (handlers.foldl (deliver raises message) bus).maxQueueSize = bus.maxQueueSize := by
  induction handlers generalizing bus with
  | nil => exact ⟨rfl, rfl⟩
  | cons handler rest ih =>
    rw [List.foldl_cons, (ih _).1, (ih _).2]
    unfold deliver
    dsimp only
    split <;> exact ⟨rfl, rfl⟩

/-- A publication leaves the room of the queue as it found it. -/
theorem publish_room {published : MessageBus β} (accepted : bus.publish raises message = .ok published) :
    published.inflight = bus.inflight ∧ published.maxQueueSize = bus.maxQueueSize := by
  unfold publish at accepted
  split at accepted
  · cases accepted
  · cases accepted
    dsimp only
    rw [(deliver_room ..).1, (deliver_room ..).2]
    exact ⟨add_sub_cancel_right .., rfl⟩

/-- A message of the window stands at the reader or behind it. -/
def Ahead (start stop : Option ℚ) (log : List (Message β)) (cursor : Nat) : Prop :=
  ∃ message ∈ log.drop cursor, message.within start stop = true

/-- The reader that passes a message of the window has it ahead again: the publication has put it at
the end. -/
theorem Ahead.republished {cursor : Nat} (here : log[cursor]? = some message)
    (within : message.within start stop = true) : Ahead start stop (log ++ [message]) (cursor + 1) := by
  have bound : cursor < log.length := (List.getElem?_eq_some_iff.mp here).1
  refine ⟨message, ?_, within⟩
  rw [List.drop_append_of_le_length bound]
  exact List.mem_append_right _ (List.mem_singleton_self _)

/-- The reader that skips a message outside the window keeps what is ahead. -/
theorem Ahead.skipped {cursor : Nat} (ahead : Ahead start stop log cursor) (here : log[cursor]? = some message)
    (outside : message.within start stop ≠ true) : Ahead start stop log (cursor + 1) := by
  obtain ⟨bound, read⟩ := List.getElem?_eq_some_iff.mp here
  obtain ⟨later, member, within⟩ := ahead
  rw [List.drop_eq_getElem_cons bound, read] at member
  rcases List.mem_cons.mp member with same | behind
  · exact absurd (same ▸ within) outside
  · exact ⟨later, behind, within⟩

/-- A round of the replay at a message of the log. -/
theorem replayFrom_round {cursor : Nat} (attached : bus.messageLog = some log) (here : log[cursor]? = some message)
    (fuel : Nat) :
    replayFrom raises start stop (fuel + 1) bus cursor =
      if message.within start stop then
        match bus.publish raises message with
        | .error error => some (.raised error bus)
        | .ok published => replayFrom raises start stop fuel published (cursor + 1)
      else replayFrom raises start stop fuel bus (cursor + 1) := by
  rw [replayFrom, attached, Option.getD_some, here]

/-- What a round of the replay does while a message of the window is ahead: it raises for want of
room, or goes on with a message of the window ahead. -/
theorem replayFrom_ahead {cursor : Nat} (attached : bus.messageLog = some log) (ahead : Ahead start stop log cursor)
    (fuel : Nat) :
    replayFrom raises start stop (fuel + 1) bus cursor = some (.raised ⟨bus.maxQueueSize⟩ bus) ∧
        bus.inflight ≥ bus.maxQueueSize ∨
      ∃ next log', replayFrom raises start stop (fuel + 1) bus cursor = replayFrom raises start stop fuel next (cursor + 1) ∧
        next.messageLog = some log' ∧ Ahead start stop log' (cursor + 1) ∧
        next.inflight = bus.inflight ∧ next.maxQueueSize = bus.maxQueueSize := by
  obtain ⟨message, here⟩ : ∃ message, log[cursor]? = some message := by
    obtain ⟨later, member, -⟩ := ahead
    have bound : cursor < log.length := by
      by_contra beyond
      rw [List.drop_eq_nil_of_le (not_lt.mp beyond)] at member
      cases member
    exact ⟨log[cursor], List.getElem?_eq_getElem bound⟩
  rw [replayFrom_round attached here]
  by_cases within : message.within start stop = true
  · rw [if_pos within]
    cases accepted : bus.publish raises message with
    | error error =>
      refine .inl ?_
      unfold publish at accepted
      split at accepted
      · next full =>
        cases accepted
        exact ⟨rfl, full⟩
      · cases accepted
    | ok published =>
      obtain ⟨inflight, room⟩ := publish_room accepted
      exact .inr ⟨published, _, rfl, publish_messageLog attached accepted, .republished here within, inflight, room⟩
  · rw [if_neg within]
    exact .inr ⟨bus, log, rfl, attached, ahead.skipped here within, rfl, rfl⟩

theorem replayFrom_never_returns {cursor : Nat} (attached : bus.messageLog = some log)
    (ahead : Ahead start stop log cursor) (fuel : Nat) (after : MessageBus β) :
    replayFrom raises start stop fuel bus cursor ≠ some (.returned after) := by
  induction fuel generalizing bus log cursor with
  | zero => exact nofun
  | succ fuel ih =>
    rcases replayFrom_ahead attached ahead fuel with ⟨raised, -⟩ | ⟨next, log', continues, kept, ahead', -⟩
    · rw [raised]
      exact nofun
    · rw [continues]
      exact ih kept ahead'

/-- With room in the queue the replay of a message of the window does not end at all. -/
theorem replay_never_ends (attached : bus.messageLog = some log) (room : bus.inflight < bus.maxQueueSize)
    (ahead : ∃ message ∈ log, message.within start stop = true) (fuel : Nat) :
    replay raises start stop fuel bus = none := by
  have endless : ∀ (bus : MessageBus β) (log : List (Message β)) (cursor : Nat), bus.messageLog = some log →
      bus.inflight < bus.maxQueueSize → Ahead start stop log cursor →
      replayFrom raises start stop fuel bus cursor = none := by
    induction fuel with
    | zero => exact fun _ _ _ _ _ _ => rfl
    | succ fuel ih =>
      intro bus log cursor attached room ahead
      rcases replayFrom_ahead attached ahead fuel with ⟨-, full⟩ | ⟨next, log', continues, kept, ahead', inflight, size⟩
      · exact absurd room (not_lt.mpr full)
      · rw [continues]
        exact ih next log' (cursor + 1) kept (by rw [inflight, size]; exact room) ahead'
  unfold replay
  rw [attached]
  exact endless bus log 0 attached room ahead

/-- Without a message of the window the reader comes to the end and nothing happens. -/
theorem replayFrom_outside {cursor fuel : Nat} (attached : bus.messageLog = some log)
    (outside : ∀ message ∈ log, message.within start stop ≠ true) (enough : log.length - cursor < fuel) :
    replayFrom raises start stop fuel bus cursor = some (.returned bus) := by
  induction fuel generalizing cursor with
  | zero => omega
  | succ fuel ih =>
    cases here : log[cursor]? with
    | none => rw [replayFrom, attached, Option.getD_some, here]
    | some message =>
      obtain ⟨bound, read⟩ := List.getElem?_eq_some_iff.mp here
      have skipped := outside message (read ▸ List.getElem_mem bound)
      rw [replayFrom_round attached here, if_neg skipped]
      exact ih (by omega)

/-- A replay does what it is for exactly when there is nothing to replay. -/
theorem replay_iff (raises : Nat → Option String) (start stop : Option ℚ) (attached : bus.messageLog = some log) :
    Replays raises start stop bus log ↔ ∀ message ∈ log, message.within start stop ≠ true := by
  constructor
  · rintro ⟨fuel, after, ended, -⟩ message member within
    unfold replay at ended
    rw [attached] at ended
    have ahead : Ahead start stop log 0 := ⟨message, member, within⟩
    exact replayFrom_never_returns attached ahead fuel after ended
  · intro outside
    have none_ : log.filter (Message.within start stop) = [] := List.filter_eq_nil_iff.mpr outside
    refine ⟨log.length + 1, bus, ?_, ?_, attached⟩
    · unfold replay
      rw [attached]
      exact replayFrom_outside attached outside (by omega)
    · rw [none_]
      exact (List.append_nil _).symm

/-- A bus whose log holds one message, of time nine. -/
def oneLogged : MessageBus Unit where
  messageLog := some [⟨"OrderPlaced", some 9, ()⟩]
  subscribers := Dict.set ∅ "OrderPlaced" ["audit"]

theorem replay_outside : Replays (fun _ => none) (some 10) none oneLogged [⟨"OrderPlaced", some 9, ()⟩] :=
  (replay_iff (fun _ => none) (some 10) none rfl).mpr (by decide +kernel)

/-- The one message of the log is replayed without end. -/
theorem replay_endless :
    ¬ ∀ (raises : Nat → Option String) (start stop : Option ℚ) (bus : MessageBus Unit) (log : List (Message Unit)),
      bus.messageLog = some log → Replays raises start stop bus log := by
  intro all
  obtain ⟨fuel, after, ended, -⟩ := all (fun _ => none) none none oneLogged _ rfl
  have room : oneLogged.inflight < oneLogged.maxQueueSize := by decide
  have logged : oneLogged.messageLog = some [⟨"OrderPlaced", some 9, ()⟩] := rfl
  have endless : replay (fun _ => none) none none fuel oneLogged = none :=
    replay_never_ends logged room ⟨_, List.mem_singleton_self _, rfl⟩ fuel
  rw [endless] at ended
  cases ended

end

end MessageBus

end TradeX.V2
