import TradeX.Lib.Dict
import TradeX.Lib.Runs

/-! The stream orchestrator: sessions opened and shared by subscriptions, one monitor task for each session that
reconnects it or moves it to another broker. An event is one stretch of a coroutine between two of its waits; what
the gateway answers and what the router decides are part of the event. -/

namespace TradeX.V1.Streams

open Lib

inductive TransportState where
  | DISCONNECTED
  | CONNECTING
  | AUTHENTICATING
  | CONNECTED
  | RECONNECTING
  deriving DecidableEq, Repr

inductive SubscriptionState where
  | IDLE
  | SUBSCRIBING
  | ACKNOWLEDGED
  | PARTIAL
  | DEGRADED
  deriving DecidableEq, Repr

inductive FreshnessState where
  | UNKNOWN
  | FRESH
  | STALE
  | NO_DATA
  deriving DecidableEq, Repr

inductive StreamKind where
  | market
  | order
  | portfolio
  deriving DecidableEq, Repr

def TransportState.isUsable (state : TransportState) : Bool := state = .CONNECTED

def SubscriptionState.isUsable (state : SubscriptionState) : Bool := state = .ACKNOWLEDGED ∨ state = .PARTIAL

def FreshnessState.withinSla (state : FreshnessState) : Bool := state = .FRESH

structure StreamHealth where
  transport : TransportState := .DISCONNECTED
  subscription : SubscriptionState := .IDLE
  freshness : FreshnessState := .UNKNOWN
  lastValidTickAt : Option ℚ := none
  staleSecondsThreshold : ℚ := 30
  deriving DecidableEq, Repr

def StreamHealth.healthy (health : StreamHealth) : Bool :=
  health.transport.isUsable && health.subscription.isUsable && health.freshness.withinSla

/-- Sessions and subscriptions are named by the identifiers that were drawn for them, in their order. -/
abbrev Uuid := ℕ

structure StreamSession where
  sessionId : Uuid
  brokerId : String
  streamKind : StreamKind
  instruments : Finset String
  modes : Finset String
  health : StreamHealth := {}
  reconnectGeneration : ℕ := 0
  deriving DecidableEq

namespace StreamSession

variable (session : StreamSession)

def isHealthy : Bool := session.health.healthy

def incrementReconnect : StreamSession := { session with reconnectGeneration := session.reconnectGeneration + 1 }

def updateTransport (state : TransportState) : StreamSession :=
  { session with health := { session.health with transport := state } }

def updateSubscription (state : SubscriptionState) : StreamSession :=
  { session with health := { session.health with subscription := state } }

/-- Fresh data comes with its instant. -/
def updateFreshness (state : FreshnessState) (now : Option ℚ) : StreamSession :=
  { session with health := { session.health with
      freshness := state
      lastValidTickAt := if state = .FRESH then now <|> session.health.lastValidTickAt else session.health.lastValidTickAt } }

/-- `_check_freshness` -/
def checkFreshness (now : ℚ) : StreamSession :=
  match session.health.lastValidTickAt with
  | none => session
  | some last =>
    if now - last > session.health.staleSecondsThreshold ∧ session.health.freshness ≠ .STALE then
      session.updateFreshness .STALE none
    else session

/-- What the monitor writes into a session whose stream is open again. -/
def reconnected : StreamSession :=
  ((session.updateTransport .CONNECTED).updateSubscription .ACKNOWLEDGED).updateFreshness .UNKNOWN none

end StreamSession

structure SubscriptionRequest where
  streamKind : StreamKind
  consumer : String
  instruments : Finset String := ∅
  modes : Finset String := ∅
  freshnessSlaS : ℚ := 30
  allowFailover : Bool := true
  deriving DecidableEq

/-- A market stream that may fail over. -/
def desk : SubscriptionRequest := { streamKind := .market, consumer := "desk", instruments := {"TCS:NSE"} }

structure ActiveSubscription where
  subId : Uuid
  sessionId : Uuid
  consumer : String
  request : SubscriptionRequest
  deriving DecidableEq

/-- The `on_raw_frame` closure of a session. -/
structure FrameHandler where
  sessionId : Uuid
  streamKind : StreamKind
  deriving DecidableEq, Repr

structure BrokerStreamPlan where
  instruments : Finset String
  modes : Finset String
  onRawFrame : Option FrameHandler
  deriving DecidableEq

/-- A call of `open_market_stream` or `open_order_stream`. -/
structure GatewayCall where
  brokerId : String
  market : Bool
  plan : BrokerStreamPlan
  deriving DecidableEq

abbrev Handle := ℕ

/-- The registry may not know the broker, and the gateway may raise. -/
inductive GatewayAnswer where
  | unknownBroker
  | raised
  | opened (handle : Handle)
  deriving DecidableEq, Repr

/-- Where the monitor task of a session waits. -/
inductive Phase where
  | spawned
  | polling
  | backingOff
  | failingOver
  | reopening
  | ended
  deriving DecidableEq, Repr

structure ReconnectTask where
  phase : Phase
  delay : ℕ
  allowFailover : Bool
  deriving DecidableEq, Repr

/-- What the monitors log of their attempts. -/
inductive Attempt where
  | reconnectOk (sessionId : Uuid) (reconnectGeneration : ℕ)
  | reconnectFailed (sessionId : Uuid)
  | failover (sessionId : Uuid)
  deriving DecidableEq, Repr

structure StreamOrchestrator where
  sessions : Dict Uuid StreamSession := .empty
  handles : Dict Uuid Handle := .empty
  subscriptions : Dict Uuid ActiveSubscription := .empty
  sessionFrameHandlers : Dict Uuid FrameHandler := .empty
  sessionReconnectTasks : Dict Uuid ReconnectTask := .empty
  running : Bool := false
  /-- The sessions that a stop has still to disconnect. -/
  stopping : List Uuid := []
  uuids : ℕ := 0
  calls : List GatewayCall := []
  /-- The handles that were returned for a session and not disconnected since. -/
  outstanding : List (Uuid × Handle) := []
  /-- The attempts of the monitors, the last one first. -/
  attempts : List Attempt := []

def HEALTH_POLL_INTERVAL_S : ℕ := 1
def RECONNECT_BASE_DELAY_S : ℕ := 1
def RECONNECT_MAX_DELAY_S : ℕ := 60
def MAX_RECONNECT_ATTEMPTS : ℕ := 5

namespace StreamOrchestrator

variable (orch : StreamOrchestrator)

/-- A gateway call for a session, with the handle that it returned. -/
def call (session : StreamSession) (plan : BrokerStreamPlan) : GatewayAnswer → StreamOrchestrator × Option Handle
  | .unknownBroker => (orch, none)
  | .raised => ({ orch with calls := orch.calls ++ [⟨session.brokerId, session.streamKind = .market, plan⟩] }, none)
  | .opened handle => ({ orch with
      calls := orch.calls ++ [⟨session.brokerId, session.streamKind = .market, plan⟩]
      outstanding := (session.sessionId, handle) :: orch.outstanding }, some handle)

/-- `handle.disconnect()`; what it raises is suppressed by every caller. -/
def disconnect (handle : Handle) : StreamOrchestrator :=
  { orch with outstanding := orch.outstanding.filter fun returned => returned.2 ≠ handle }

/-! The session manager. -/

def newSession (brokerId : String) (request : SubscriptionRequest) : StreamSession where
  sessionId := orch.uuids
  brokerId := brokerId
  streamKind := request.streamKind
  instruments := request.instruments
  modes := request.modes
  health := { staleSecondsThreshold := request.freshnessSlaS, transport := .CONNECTING }

/-- The session is stored before the gateway is called, and the frame handler before it answers. -/
def openSession (brokerId : String) (request : SubscriptionRequest) (answer : GatewayAnswer) :
    StreamOrchestrator × Option Uuid :=
  let sessionId := orch.uuids
  let session := orch.newSession brokerId request
  let stored := { orch with uuids := orch.uuids + 1, sessions := orch.sessions.set sessionId session }
  if answer = .unknownBroker then (stored, none)
  else
    let handler : FrameHandler := ⟨sessionId, request.streamKind⟩
    let plan : BrokerStreamPlan := ⟨request.instruments, request.modes, some handler⟩
    let handled := { stored with sessionFrameHandlers := stored.sessionFrameHandlers.set sessionId handler }
    match handled.call session plan answer with
    | (called, none) =>
      ({ called with sessions := called.sessions.set sessionId (session.updateTransport .DISCONNECTED) }, none)
    | (called, some handle) =>
      ({ called with
        handles := called.handles.set sessionId handle
        sessions := called.sessions.set sessionId ((session.updateTransport .CONNECTED).updateSubscription .ACKNOWLEDGED)
        sessionReconnectTasks := called.sessionReconnectTasks.set sessionId
          ⟨.spawned, RECONNECT_BASE_DELAY_S, request.allowFailover⟩ }, some sessionId)

/-- The monitor is cancelled and waited for before the tables are cleared. -/
def disconnectSession (sessionId : Uuid) : StreamOrchestrator :=
  let cleared := { orch with
    sessionReconnectTasks := orch.sessionReconnectTasks.pop sessionId
    sessionFrameHandlers := orch.sessionFrameHandlers.pop sessionId
    handles := orch.handles.pop sessionId
    sessions := orch.sessions.pop sessionId }
  match orch.handles.get sessionId with
  | none => cleared
  | some handle => cleared.disconnect handle

def findReusableSession (brokerId : String) (request : SubscriptionRequest) : Option StreamSession :=
  orch.sessions.values.find? fun session =>
    session.brokerId = brokerId && session.streamKind = request.streamKind && session.isHealthy

/-- The session with the instruments and modes of a further request. -/
def merged (session : StreamSession) (request : SubscriptionRequest) : StreamSession :=
  { session with
    instruments := session.instruments ∪ request.instruments
    modes := if request.modes = ∅ then session.modes else session.modes ∪ request.modes }

/-- `merge_instruments`, true where it does not raise. The handle that the gateway returns is not kept. -/
def mergeInstruments (session : StreamSession) (request : SubscriptionRequest) (answer : GatewayAnswer) :
    StreamOrchestrator × Bool :=
  let newInstruments := request.instruments \ session.instruments
  if newInstruments = ∅ then (orch, true)
  else
    let merged := merged session request
    let stored := { orch with sessions := orch.sessions.set session.sessionId merged }
    let plan : BrokerStreamPlan := {
      instruments := newInstruments
      modes := if request.modes = ∅ then merged.modes else request.modes
      onRawFrame := stored.sessionFrameHandlers.get session.sessionId }
    match stored.call merged plan answer with
    | (called, none) => (called, false)
    | (called, some _) =>
      ({ called with sessions := called.sessions.set session.sessionId (merged.updateSubscription .ACKNOWLEDGED) }, true)

/-! Subscriptions. -/

def register (sessionId : Uuid) (request : SubscriptionRequest) : StreamOrchestrator :=
  { orch with
    uuids := orch.uuids + 1
    subscriptions := orch.subscriptions.set orch.uuids ⟨orch.uuids, sessionId, request.consumer, request⟩ }

/-- `subscribe`; nothing is returned where it raises. The selection of a broker may raise, too. -/
def subscribe (request : SubscriptionRequest) (selected : Option String) (answer : GatewayAnswer) :
    StreamOrchestrator × Option Uuid :=
  match selected with
  | none => (orch, none)
  | some brokerId =>
    match orch.findReusableSession brokerId request with
    | some existing =>
      match orch.mergeInstruments existing request answer with
      | (merged, false) => (merged, none)
      | (merged, true) => (merged.register existing.sessionId request, some merged.uuids)
    | none =>
      match orch.openSession brokerId request answer with
      | (opened, none) => (opened, none)
      | (opened, some sessionId) => (opened.register sessionId request, some opened.uuids)

def unsubscribe (subId : Uuid) : StreamOrchestrator :=
  match orch.subscriptions.get subId with
  | none => orch
  | some sub =>
    let removed := { orch with subscriptions := orch.subscriptions.pop subId }
    if removed.subscriptions.values.any fun other => other.sessionId = sub.sessionId then removed
    else removed.disconnectSession sub.sessionId

def start : StreamOrchestrator := { orch with running := true }

/-- Every task is cancelled; the sessions that are there are disconnected one after another. -/
def stop : StreamOrchestrator :=
  { orch with
    running := false
    sessionReconnectTasks := orch.sessionReconnectTasks.mapValues fun task => { task with phase := .ended }
    stopping := orch.stopping ++ orch.sessions.keys }

/-- What a frame with a valid tick leaves in its session. -/
def handleFrame (sessionId : Uuid) (now : ℚ) : StreamOrchestrator :=
  match orch.sessions.get sessionId with
  | none => orch
  | some session =>
    if session.streamKind = .market then
      { orch with sessions := orch.sessions.set sessionId (session.updateFreshness .FRESH (some now)) }
    else orch

/-- One turn of `heartbeat_loop`. -/
def heartbeat (now : ℚ) : StreamOrchestrator :=
  { orch with sessions := orch.sessions.mapValues fun session => session.checkFreshness now }

/-! The reconnect controller. -/

def disconnectHandle (sessionId : Uuid) : StreamOrchestrator :=
  match orch.handles.get sessionId with
  | none => orch
  | some old => { orch.disconnect old with handles := orch.handles.pop sessionId }

/-- The monitor waits at another place. -/
def proceed (sessionId : Uuid) (task : ReconnectTask) : StreamOrchestrator :=
  { orch with sessionReconnectTasks := orch.sessionReconnectTasks.set sessionId task }

/-- The head of the loop. -/
def repeatLoop (sessionId : Uuid) (task : ReconnectTask) : StreamOrchestrator :=
  orch.proceed sessionId { task with phase := if orch.running then .polling else .ended }

/-- The poll of a session; `connected` is what its handle answers, if it has one. -/
def poll (sessionId : Uuid) (task : ReconnectTask) (connected : Bool) : StreamOrchestrator :=
  match orch.sessions.get sessionId with
  | none => orch.proceed sessionId { task with phase := .ended }
  | some session =>
    let transportOk := (orch.handles.get sessionId).isSome && connected
    if transportOk then orch.repeatLoop sessionId task
    else
      { orch with sessions := orch.sessions.set sessionId (session.updateTransport .RECONNECTING).incrementReconnect }.proceed
        sessionId { task with phase := .backingOff }

/-- The delay is over. -/
def wake (sessionId : Uuid) (task : ReconnectTask) (session : StreamSession) : StreamOrchestrator :=
  let delayed := { task with delay := min (task.delay * 2) RECONNECT_MAX_DELAY_S }
  if session.reconnectGeneration ≥ MAX_RECONNECT_ATTEMPTS ∧ task.allowFailover then
    { orch with attempts := .failover sessionId :: orch.attempts }.proceed sessionId { delayed with phase := .failingOver }
  else orch.proceed sessionId { delayed with phase := .reopening }

def plan (session : StreamSession) : BrokerStreamPlan where
  instruments := session.instruments
  modes := session.modes
  onRawFrame := orch.sessionFrameHandlers.get session.sessionId

/-- The old handle is closed, then the stream is opened at a broker. -/
def reopenAt (session : StreamSession) (brokerId : String) (answer : GatewayAnswer) : StreamOrchestrator × Option Handle :=
  let closed := orch.disconnectHandle session.sessionId
  closed.call { session with brokerId := brokerId } (closed.plan session) answer

/-- The fallback brokers in their order, with their answers. -/
def tryFailover (session : StreamSession) :
    StreamOrchestrator → List (String × GatewayAnswer) → StreamOrchestrator × Bool
  | orch, [] => (orch, false)
  | orch, (fallbackBroker, answer) :: rest =>
    if fallbackBroker = session.brokerId then tryFailover session orch rest
    else
      match orch.reopenAt session fallbackBroker answer with
      | (failed, none) => tryFailover session failed rest
      | (called, some handle) =>
        ({ called with
          handles := called.handles.set session.sessionId handle
          sessions := called.sessions.set session.sessionId { session.reconnected with
            reconnectGeneration := 0
            brokerId := fallbackBroker } }, true)

/-- `_try_failover`; the router may raise. The loop ends behind a failover. -/
def failover (sessionId : Uuid) (task : ReconnectTask) (session : StreamSession)
    (decision : Option (List (String × GatewayAnswer))) : StreamOrchestrator :=
  match decision with
  | none => orch.proceed sessionId { task with phase := .reopening }
  | some fallbackBrokers =>
    match tryFailover session orch fallbackBrokers with
    | (moved, true) => moved.proceed sessionId { task with phase := .ended }
    | (failed, false) => failed.proceed sessionId { task with phase := .reopening }

def reopen (sessionId : Uuid) (task : ReconnectTask) (session : StreamSession) (answer : GatewayAnswer) : StreamOrchestrator :=
  match orch.reopenAt session session.brokerId answer with
  | (failed, none) => { failed with attempts := .reconnectFailed sessionId :: failed.attempts }.repeatLoop sessionId task
  | (called, some handle) =>
    { called with
      handles := called.handles.set sessionId handle
      sessions := called.sessions.set sessionId session.reconnected
      attempts := .reconnectOk sessionId session.reconnected.reconnectGeneration :: called.attempts }.repeatLoop
      sessionId { task with delay := RECONNECT_BASE_DELAY_S }

end StreamOrchestrator

inductive Event where
  | start
  | stop
  | discard
  | subscribe (request : SubscriptionRequest) (selected : Option String) (answer : GatewayAnswer)
  | unsubscribe (subId : Uuid)
  | tick (sessionId : Uuid) (now : ℚ)
  | heartbeat (now : ℚ)
  | begin (sessionId : Uuid)
  | poll (sessionId : Uuid) (connected : Bool)
  | wake (sessionId : Uuid)
  | failover (sessionId : Uuid) (decision : Option (List (String × GatewayAnswer)))
  | reopen (sessionId : Uuid) (answer : GatewayAnswer)

namespace StreamOrchestrator

/-- A monitor goes on where it waits; the session that it took up stays in its hands until it is cancelled. -/
def monitor (orch : StreamOrchestrator) (sessionId : Uuid) (phase : Phase)
    (onward : ReconnectTask → StreamSession → StreamOrchestrator) : Option StreamOrchestrator :=
  match orch.sessionReconnectTasks.get sessionId, orch.sessions.get sessionId with
  | some task, some session => if task.phase = phase then some (onward task session) else none
  | _, _ => none

def step (orch : StreamOrchestrator) : Event → Option StreamOrchestrator
  | .start => some orch.start
  | .stop => some orch.stop
  | .discard =>
    match orch.stopping with
    | [] => none
    | sessionId :: rest => some ({ orch with stopping := rest }.disconnectSession sessionId)
  | .subscribe request selected answer => some (orch.subscribe request selected answer).1
  | .unsubscribe subId => some (orch.unsubscribe subId)
  | .tick sessionId now => some (orch.handleFrame sessionId now)
  | .heartbeat now => if orch.running then some (orch.heartbeat now) else none
  | .begin sessionId =>
    match orch.sessionReconnectTasks.get sessionId with
    | none => none
    | some task => if task.phase = .spawned then some (orch.repeatLoop sessionId task) else none
  | .poll sessionId connected =>
    match orch.sessionReconnectTasks.get sessionId with
    | none => none
    | some task => if task.phase = .polling then some (orch.poll sessionId task connected) else none
  | .wake sessionId => orch.monitor sessionId .backingOff (orch.wake sessionId)
  | .failover sessionId decision =>
    orch.monitor sessionId .failingOver fun task session => orch.failover sessionId task session decision
  | .reopen sessionId answer =>
    orch.monitor sessionId .reopening fun task session => orch.reopen sessionId task session answer

/-- How a subscription ends, with the state behind it and the identifier that it returns. -/
inductive Subscribed (orch : StreamOrchestrator) (request : SubscriptionRequest) :
    Option String → GatewayAnswer → StreamOrchestrator → Option Uuid → Prop where
  | unselected {answer} : Subscribed orch request none answer orch none
  | shared {brokerId existing answer} (reusable : orch.findReusableSession brokerId request = some existing)
      (known : request.instruments \ existing.instruments = ∅) :
      Subscribed orch request (some brokerId) answer (orch.register existing.sessionId request) (some orch.uuids)
  | mergeRaised {brokerId existing answer} (calls : List GatewayCall)
      (reusable : orch.findReusableSession brokerId request = some existing)
      (news : request.instruments \ existing.instruments ≠ ∅) (raised : ∀ handle, answer ≠ .opened handle) :
      Subscribed orch request (some brokerId) answer
        { orch with sessions := orch.sessions.set existing.sessionId (merged existing request), calls := calls } none
  | merged {brokerId existing handle} (calls : List GatewayCall)
      (reusable : orch.findReusableSession brokerId request = some existing)
      (news : request.instruments \ existing.instruments ≠ ∅) :
      Subscribed orch request (some brokerId) (.opened handle)
        (register { orch with
          sessions := (orch.sessions.set existing.sessionId (StreamOrchestrator.merged existing request)).set existing.sessionId
            ((StreamOrchestrator.merged existing request).updateSubscription .ACKNOWLEDGED)
          calls := calls
          outstanding := (existing.sessionId, handle) :: orch.outstanding } existing.sessionId request)
        (some orch.uuids)
  | openRaised {brokerId answer} (sessions : Dict Uuid StreamSession) (handlers : Dict Uuid FrameHandler)
      (calls : List GatewayCall) (unusable : orch.findReusableSession brokerId request = none)
      (raised : ∀ handle, answer ≠ .opened handle)
      (stored : ∃ session, session.sessionId = orch.uuids ∧ ∀ sessionId,
        sessions.get sessionId = if sessionId = orch.uuids then some session else orch.sessions.get sessionId) :
      Subscribed orch request (some brokerId) answer
        { orch with uuids := orch.uuids + 1, sessions := sessions, sessionFrameHandlers := handlers, calls := calls } none
  | opened {brokerId handle} (calls : List GatewayCall) (sessions : Dict Uuid StreamSession) (handlers : Dict Uuid FrameHandler)
      (unusable : orch.findReusableSession brokerId request = none)
      (stored : ∃ session, session.sessionId = orch.uuids ∧ session.reconnectGeneration = 0 ∧ ∀ sessionId,
        sessions.get sessionId = if sessionId = orch.uuids then some session else orch.sessions.get sessionId) :
      Subscribed orch request (some brokerId) (.opened handle)
        (register { orch with
          uuids := orch.uuids + 1
          sessions := sessions
          sessionFrameHandlers := handlers
          handles := orch.handles.set orch.uuids handle
          sessionReconnectTasks := orch.sessionReconnectTasks.set orch.uuids
            ⟨.spawned, RECONNECT_BASE_DELAY_S, request.allowFailover⟩
          calls := calls
          outstanding := (orch.uuids, handle) :: orch.outstanding } orch.uuids request)
        (some (orch.uuids + 1))

theorem subscribe_subscribed (orch : StreamOrchestrator) (request : SubscriptionRequest) (selected : Option String)
    (answer : GatewayAnswer) :
    Subscribed orch request selected answer (orch.subscribe request selected answer).1
      (orch.subscribe request selected answer).2 := by
  cases selected with
  | none => exact .unselected
  | some brokerId =>
    simp only [subscribe]
    cases reusable : orch.findReusableSession brokerId request with
    | some existing =>
      simp only [mergeInstruments]
      by_cases known : request.instruments \ existing.instruments = ∅
      · rw [if_pos known]
        exact .shared reusable known
      · rw [if_neg known]
        cases answer with
        | unknownBroker => exact .mergeRaised _ reusable known nofun
        | raised => exact .mergeRaised _ reusable known nofun
        | opened handle => exact .merged _ reusable known
    | none =>
      simp only [openSession]
      cases answer with
      | unknownBroker =>
        refine .openRaised _ orch.sessionFrameHandlers orch.calls reusable nofun ⟨orch.newSession brokerId request, rfl, ?_⟩
        intro sessionId
        exact Dict.get_set _ _ _ _
      | raised =>
        refine .openRaised _ _ _ reusable nofun ⟨(orch.newSession brokerId request).updateTransport .DISCONNECTED, rfl, ?_⟩
        intro sessionId
        simp only [Dict.get_set]
        split <;> rfl
      | opened handle =>
        refine .opened _ _ _ reusable
          ⟨((orch.newSession brokerId request).updateTransport .CONNECTED).updateSubscription .ACKNOWLEDGED, rfl, rfl, ?_⟩
        intro sessionId
        simp only [Dict.get_set]
        split <;> rfl

theorem disconnectHandle_frame (orch : StreamOrchestrator) (sessionId : Uuid) : ∃ handles outstanding,
    orch.disconnectHandle sessionId = { orch with handles := handles, outstanding := outstanding } := by
  simp only [disconnectHandle]
  cases orch.handles.get sessionId with
  | none => exact ⟨orch.handles, orch.outstanding, rfl⟩
  | some old => exact ⟨_, _, rfl⟩

theorem call_frame (orch : StreamOrchestrator) (session : StreamSession) (plan : BrokerStreamPlan) (answer : GatewayAnswer) :
    ∃ calls outstanding, (orch.call session plan answer).1 = { orch with calls := calls, outstanding := outstanding } := by
  cases answer with
  | unknownBroker => exact ⟨orch.calls, orch.outstanding, rfl⟩
  | raised => exact ⟨_, _, rfl⟩
  | opened handle => exact ⟨_, _, rfl⟩

/-- A stream that is opened again touches the handles and the gateway. -/
theorem reopenAt_frame (orch : StreamOrchestrator) (session : StreamSession) (brokerId : String) (answer : GatewayAnswer) :
    ∃ handles calls outstanding, (orch.reopenAt session brokerId answer).1 =
      { orch with handles := handles, calls := calls, outstanding := outstanding } := by
  obtain ⟨handles, closed, same⟩ := orch.disconnectHandle_frame session.sessionId
  obtain ⟨calls, outstanding, called⟩ := (orch.disconnectHandle session.sessionId).call_frame
    { session with brokerId := brokerId } ((orch.disconnectHandle session.sessionId).plan session) answer
  refine ⟨handles, calls, outstanding, ?_⟩
  rw [reopenAt, called, same]

theorem disconnectSession_sessions (orch : StreamOrchestrator) (sessionId : Uuid) :
    (orch.disconnectSession sessionId).sessions = orch.sessions.pop sessionId := by
  simp only [disconnectSession]
  cases orch.handles.get sessionId <;> rfl

theorem disconnectSession_tasks (orch : StreamOrchestrator) (sessionId : Uuid) :
    (orch.disconnectSession sessionId).sessionReconnectTasks = orch.sessionReconnectTasks.pop sessionId := by
  simp only [disconnectSession]
  cases orch.handles.get sessionId <;> rfl

/-- What a disconnected session leaves of the rest. -/
theorem disconnectSession_frame (orch : StreamOrchestrator) (sessionId : Uuid) :
    (orch.disconnectSession sessionId).running = orch.running ∧ (orch.disconnectSession sessionId).uuids = orch.uuids ∧
    (orch.disconnectSession sessionId).attempts = orch.attempts ∧
    (orch.disconnectSession sessionId).subscriptions = orch.subscriptions := by
  simp only [disconnectSession]
  cases orch.handles.get sessionId <;> exact ⟨rfl, rfl, rfl, rfl⟩

theorem reopenAt_returned (orch : StreamOrchestrator) (session : StreamSession) (brokerId : String) (answer : GatewayAnswer) :
    (orch.reopenAt session brokerId answer).2 = match answer with
      | .opened handle => some handle
      | _ => none := by
  cases answer <;> rfl

theorem checkFreshness_kept (session : StreamSession) (now : ℚ) : (session.checkFreshness now).sessionId = session.sessionId ∧
    (session.checkFreshness now).reconnectGeneration = session.reconnectGeneration := by
  simp only [StreamSession.checkFreshness]
  cases session.health.lastValidTickAt with
  | none => exact ⟨rfl, rfl⟩
  | some last =>
    dsimp only
    split <;> exact ⟨rfl, rfl⟩

theorem monitor_inv {orch after : StreamOrchestrator} {sessionId : Uuid} {phase : Phase} {onward : ReconnectTask → StreamSession → StreamOrchestrator}
    (taken : orch.monitor sessionId phase onward = some after) : ∃ task session,
      orch.sessionReconnectTasks.get sessionId = some task ∧ orch.sessions.get sessionId = some session ∧
      task.phase = phase ∧ after = onward task session := by
  simp only [StreamOrchestrator.monitor] at taken
  cases stored : orch.sessionReconnectTasks.get sessionId with
  | none => simp [stored] at taken
  | some task =>
    cases present : orch.sessions.get sessionId with
    | none => simp [stored, present] at taken
    | some session =>
      simp only [stored, present] at taken
      split at taken
      · next waits => exact ⟨task, session, rfl, rfl, waits, (Option.some.inj taken).symm⟩
      · cases taken

theorem discard_inv {orch after : StreamOrchestrator} (taken : orch.step .discard = some after) :
    ∃ sessionId rest, orch.stopping = sessionId :: rest ∧
      after = ({ orch with stopping := rest } : StreamOrchestrator).disconnectSession sessionId := by
  simp only [StreamOrchestrator.step] at taken
  split at taken
  · cases taken
  · next sessionId rest pending => exact ⟨sessionId, rest, pending, (Option.some.inj taken).symm⟩

theorem heartbeat_inv {orch after : StreamOrchestrator} {now : ℚ} (taken : orch.step (.heartbeat now) = some after) :
    after = orch.heartbeat now := by
  simp only [StreamOrchestrator.step] at taken
  split at taken
  · exact (Option.some.inj taken).symm
  · cases taken

theorem begin_inv {orch after : StreamOrchestrator} {sessionId : Uuid} (taken : orch.step (.begin sessionId) = some after) :
    ∃ task, orch.sessionReconnectTasks.get sessionId = some task ∧ task.phase = .spawned ∧
      after = orch.repeatLoop sessionId task := by
  simp only [StreamOrchestrator.step] at taken
  split at taken
  · cases taken
  · next task stored =>
    split at taken
    · next spawned => exact ⟨task, stored, spawned, (Option.some.inj taken).symm⟩
    · cases taken

theorem poll_inv {orch after : StreamOrchestrator} {sessionId : Uuid} {connected : Bool}
    (taken : orch.step (.poll sessionId connected) = some after) :
    ∃ task, orch.sessionReconnectTasks.get sessionId = some task ∧ task.phase = .polling ∧
      after = orch.poll sessionId task connected := by
  simp only [StreamOrchestrator.step] at taken
  split at taken
  · cases taken
  · next task stored =>
    split at taken
    · next polling => exact ⟨task, stored, polling, (Option.some.inj taken).symm⟩
    · cases taken

theorem monitor_step {orch : StreamOrchestrator} {sessionId : Uuid} {session : StreamSession} {task : ReconnectTask} {phase : Phase}
    (onward : ReconnectTask → StreamSession → StreamOrchestrator)
    (stored : orch.sessionReconnectTasks.get sessionId = some task) (waits : task.phase = phase)
    (present : orch.sessions.get sessionId = some session) :
    orch.monitor sessionId phase onward = some (onward task session) := by
  simp only [StreamOrchestrator.monitor, stored, present, waits, if_true]

end StreamOrchestrator

end TradeX.V1.Streams
