import TradeX.V1.StreamOrchestrator

/-! What a subscription that raises leaves behind, and which of the handles that the gateway returned are still
open when the last consumer of their session has gone. -/

namespace TradeX.V1.Streams

open Lib

namespace StreamOrchestrator

def HasConsumer (orch : StreamOrchestrator) (sessionId : Uuid) : Prop :=
  ∃ subId sub, orch.subscriptions.get subId = some sub ∧ sub.sessionId = sessionId

/-- The handles that were returned for a session without a consumer are disconnected. -/
def HandlesClosed (orch : StreamOrchestrator) : Prop :=
  ∀ sessionId handle, (sessionId, handle) ∈ orch.outstanding → orch.HasConsumer sessionId

/-- A subscription that raises leaves the sessions, their handles and their frame handlers. -/
def SubscribeAtomic (orch : StreamOrchestrator) (request : SubscriptionRequest) (selected : Option String)
    (answer : GatewayAnswer) : Prop :=
  (orch.subscribe request selected answer).2 = none →
    (orch.subscribe request selected answer).1.sessions = orch.sessions ∧
    (orch.subscribe request selected answer).1.handles = orch.handles ∧
    (orch.subscribe request selected answer).1.sessionFrameHandlers = orch.sessionFrameHandlers

/-- Where the subscription needs the gateway it gets a handle. -/
def GatewayAnswers (orch : StreamOrchestrator) (request : SubscriptionRequest) (selected : Option String)
    (answer : GatewayAnswer) : Prop :=
  ∀ brokerId, selected = some brokerId →
    (∃ existing, orch.findReusableSession brokerId request = some existing ∧
      request.instruments \ existing.instruments = ∅) ∨ ∃ handle, answer = .opened handle

/-- Where a session gets further instruments, the gateway returns the handle that the session has already. -/
def MergesKeepHandle (orch : StreamOrchestrator) : Event → Prop
  | .subscribe request selected answer => ∀ brokerId existing handle, selected = some brokerId →
      orch.findReusableSession brokerId request = some existing → request.instruments \ existing.instruments ≠ ∅ →
      answer = .opened handle → orch.handles.get existing.sessionId = some handle
  | _ => True

/-- Identifiers are drawn once, and what a session has on the way is for a consumer. -/
structure Served (orch : StreamOrchestrator) : Prop where
  named : ∀ sessionId session, orch.sessions.get sessionId = some session → session.sessionId = sessionId ∧
    sessionId < orch.uuids
  subscribed : ∀ subId sub, orch.subscriptions.get subId = some sub → subId < orch.uuids
  handled : ∀ sessionId handle, orch.handles.get sessionId = some handle → sessionId < orch.uuids ∧
    orch.HasConsumer sessionId
  monitored : ∀ sessionId task, orch.sessionReconnectTasks.get sessionId = some task → orch.HasConsumer sessionId

/-- Every handle that is open is the one of its session. -/
def Stored (orch : StreamOrchestrator) : Prop :=
  ∀ sessionId handle, (sessionId, handle) ∈ orch.outstanding → orch.handles.get sessionId = some handle

variable {orch after : StreamOrchestrator} {sessionId : Uuid} {session : StreamSession} {task : ReconnectTask}

theorem HasConsumer.congr (consumer : orch.HasConsumer sessionId) (same : after.subscriptions = orch.subscriptions) :
    after.HasConsumer sessionId := by
  obtain ⟨subId, sub, found, own⟩ := consumer
  exact ⟨subId, sub, same ▸ found, own⟩

theorem Stored.handlesClosed (stored : Stored orch) (served : Served orch) : orch.HandlesClosed :=
  fun sessionId handle member => (served.handled sessionId handle (stored sessionId handle member)).2

/-! The parts of the steps. -/

theorem Served.setSession (served : Served orch) (present : orch.sessions.get sessionId = some session)
    (next : StreamSession) (name : next.sessionId = session.sessionId) :
    Served { orch with sessions := orch.sessions.set sessionId next } where
  named := by
    intro other found stored
    rw [Dict.get_set] at stored
    split at stored
    · next own =>
      cases stored
      rw [name, own]
      exact served.named sessionId session present
    · exact served.named other found stored
  subscribed := served.subscribed
  handled := served.handled
  monitored := served.monitored

theorem Served.setHandle (served : Served orch) (drawn : sessionId < orch.uuids) (consumer : orch.HasConsumer sessionId)
    (handle : Handle) : Served { orch with handles := orch.handles.set sessionId handle } where
  named := served.named
  subscribed := served.subscribed
  handled := by
    intro other found stored
    rw [Dict.get_set] at stored
    split at stored
    · next own =>
      subst own
      exact ⟨drawn, consumer⟩
    · exact served.handled other found stored
  monitored := served.monitored

theorem Served.proceed (served : Served orch) (stored : orch.sessionReconnectTasks.get sessionId = some task)
    (next : ReconnectTask) : Served (orch.proceed sessionId next) where
  named := served.named
  subscribed := served.subscribed
  handled := served.handled
  monitored := by
    intro other found stored'
    rw [StreamOrchestrator.proceed, Dict.get_set] at stored'
    split at stored'
    · next own => exact own ▸ served.monitored sessionId task stored
    · exact served.monitored other found stored'

theorem Served.call (served : Served orch) (plan : BrokerStreamPlan) (answer : GatewayAnswer) :
    Served (orch.call session plan answer).1 := by
  obtain ⟨calls, outstanding, same⟩ := orch.call_frame session plan answer
  rw [same]
  exact ⟨served.named, served.subscribed, served.handled, served.monitored⟩

theorem Served.disconnectHandle (served : Served orch) (sessionId : Uuid) : Served (orch.disconnectHandle sessionId) := by
  simp only [StreamOrchestrator.disconnectHandle]
  cases orch.handles.get sessionId with
  | none => exact served
  | some old =>
    refine ⟨served.named, served.subscribed, ?_, served.monitored⟩
    intro other handle stored
    rw [Dict.get_pop] at stored
    split at stored
    · cases stored
    · exact served.handled other handle stored

/-- The handle of a session is closed where it is replaced, and no other one is left open for it. -/
theorem Stored.disconnectHandle (stored : Stored orch) (sessionId : Uuid) :
    Stored (orch.disconnectHandle sessionId) ∧ ∀ handle, (sessionId, handle) ∉ (orch.disconnectHandle sessionId).outstanding := by
  simp only [StreamOrchestrator.disconnectHandle]
  cases known : orch.handles.get sessionId with
  | none =>
    refine ⟨stored, ?_⟩
    intro handle member
    cases known.symm.trans (stored sessionId handle member)
  | some old =>
    have closed : ∀ handle, (sessionId, handle) ∉ (orch.disconnect old).outstanding := by
      intro handle member
      obtain ⟨open_, other⟩ := List.mem_filter.mp member
      cases known.symm.trans (stored sessionId handle open_)
      simp at other
    refine ⟨?_, closed⟩
    intro other handle member
    have different : other ≠ sessionId := fun own => closed handle (own ▸ member)
    rw [Dict.get_pop, if_neg different]
    exact stored other handle (List.mem_of_mem_filter member)

/-- The handle of a session goes with it. -/
theorem disconnectSession_handles (orch : StreamOrchestrator) (sessionId : Uuid) :
    (orch.disconnectSession sessionId).handles = orch.handles.pop sessionId := by
  simp only [StreamOrchestrator.disconnectSession]
  cases orch.handles.get sessionId <;> rfl

/-- A session is disconnected where it has lost its last consumer, or at a stop. -/
theorem Served.disconnectSession {before : StreamOrchestrator} (served : Served before) (sessions : orch.sessions = before.sessions)
    (handles : orch.handles = before.handles) (tasks : orch.sessionReconnectTasks = before.sessionReconnectTasks)
    (uuids : orch.uuids = before.uuids) (subs : ∀ subId sub, orch.subscriptions.get subId = some sub → subId < orch.uuids)
    (consumers : ∀ other, other ≠ sessionId → before.HasConsumer other → orch.HasConsumer other) :
    Served (orch.disconnectSession sessionId) := by
  obtain ⟨-, drawn, -, subscriptions⟩ := orch.disconnectSession_frame sessionId
  have kept : ∀ other, orch.HasConsumer other → (orch.disconnectSession sessionId).HasConsumer other :=
    fun _ consumer => consumer.congr subscriptions
  constructor
  · intro other session present
    rw [disconnectSession_sessions, sessions, Dict.get_pop] at present
    split at present
    · cases present
    · rw [drawn, uuids]
      exact served.named other session present
  · rw [drawn, subscriptions]
    exact subs
  · intro other handle stored
    rw [disconnectSession_handles, handles, Dict.get_pop] at stored
    split at stored
    · cases stored
    · next different =>
      obtain ⟨before, consumer⟩ := served.handled other handle stored
      rw [drawn, uuids]
      exact ⟨before, kept other (consumers other different consumer)⟩
  · intro other task stored
    rw [disconnectSession_tasks, tasks, Dict.get_pop] at stored
    split at stored
    · cases stored
    · next different => exact kept other (consumers other different (served.monitored other task stored))

theorem Stored.disconnectSession (stored : Stored orch) (sessionId : Uuid) : Stored (orch.disconnectSession sessionId) := by
  have closed := stored.disconnectHandle sessionId
  simp only [StreamOrchestrator.disconnectSession, StreamOrchestrator.disconnectHandle] at closed ⊢
  cases known : orch.handles.get sessionId with
  | none =>
    intro other handle member
    have different : other ≠ sessionId := by
      rintro rfl
      cases known.symm.trans (stored _ handle member)
    rw [Dict.get_pop, if_neg different]
    exact stored other handle member
  | some old =>
    rw [known] at closed
    exact closed.1

/-- A stream is opened again with the old handle closed, and the new one for the session. -/
theorem reopenAt_stored (stored : Stored orch) (name : session.sessionId = sessionId) (brokerId : String) (answer : GatewayAnswer) :
    match orch.reopenAt session brokerId answer with
    | (after, none) => Stored after
    | (after, some handle) => Stored { after with handles := after.handles.set sessionId handle } := by
  obtain ⟨kept, closed⟩ := stored.disconnectHandle sessionId
  subst name
  simp only [reopenAt]
  generalize orch.disconnectHandle session.sessionId = before at kept closed
  cases answer with
  | unknownBroker => exact kept
  | raised => exact kept
  | opened handle =>
    intro other found member
    rw [Dict.get_set]
    rcases List.mem_cons.mp member with same | member
    · obtain ⟨rfl, rfl⟩ := Prod.mk.inj same
      exact if_pos rfl
    · have different : other ≠ session.sessionId := fun own => closed found (own ▸ member)
      rw [if_neg different]
      exact kept other found member

theorem Served.reopenAt (served : Served orch) (session : StreamSession) (brokerId : String) (answer : GatewayAnswer) :
    Served (orch.reopenAt session brokerId answer).1 :=
  (served.disconnectHandle session.sessionId).call _ answer

theorem reopenAt_kept (orch : StreamOrchestrator) (session : StreamSession) (brokerId : String) (answer : GatewayAnswer) :
    (orch.reopenAt session brokerId answer).1.sessions = orch.sessions ∧
    (orch.reopenAt session brokerId answer).1.sessionReconnectTasks = orch.sessionReconnectTasks ∧
    (orch.reopenAt session brokerId answer).1.uuids = orch.uuids ∧
    (orch.reopenAt session brokerId answer).1.subscriptions = orch.subscriptions := by
  obtain ⟨handles, calls, outstanding, same⟩ := orch.reopenAt_frame session brokerId answer
  rw [same]
  exact ⟨rfl, rfl, rfl, rfl⟩

/-- A stream that is open again is stored for its session, as is the session. -/
theorem Served.reopened (served : Served orch) (present : orch.sessions.get sessionId = some session)
    (consumer : orch.HasConsumer sessionId) {brokerId : String} {answer : GatewayAnswer} {handle : Handle}
    {called : StreamOrchestrator} (reopened : orch.reopenAt session brokerId answer = (called, some handle))
    (next : StreamSession) (name : next.sessionId = session.sessionId) :
    Served { called with
      handles := called.handles.set sessionId handle
      sessions := called.sessions.set sessionId next } := by
  have kept := orch.reopenAt_kept session brokerId answer
  have called_served := served.reopenAt session brokerId answer
  rw [reopened] at kept called_served
  obtain ⟨sessions, -, uuids, subscriptions⟩ := kept
  have drawn : sessionId < called.uuids := uuids ▸ (served.named sessionId session present).2
  have consumer : called.HasConsumer sessionId := consumer.congr subscriptions
  have present : called.sessions.get sessionId = some session := sessions ▸ present
  exact (called_served.setHandle drawn consumer handle).setSession present next name

theorem Served.tryFailover (served : Served orch) (present : orch.sessions.get sessionId = some session)
    (consumer : orch.HasConsumer sessionId) (fallbackBrokers : List (String × GatewayAnswer)) :
    Served (StreamOrchestrator.tryFailover session orch fallbackBrokers).1 ∧
    (StreamOrchestrator.tryFailover session orch fallbackBrokers).1.sessionReconnectTasks = orch.sessionReconnectTasks := by
  induction fallbackBrokers generalizing orch with
  | nil => exact ⟨served, rfl⟩
  | cons fallback rest ih =>
    obtain ⟨fallbackBroker, answer⟩ := fallback
    simp only [StreamOrchestrator.tryFailover]
    split
    · exact ih served present consumer
    · have kept := orch.reopenAt_kept session fallbackBroker answer
      have called_served := served.reopenAt session fallbackBroker answer
      cases reopened : orch.reopenAt session fallbackBroker answer with
      | mk called returned =>
        rw [reopened] at kept called_served
        obtain ⟨sessions, tasks, -, subscriptions⟩ := kept
        cases returned with
        | none =>
          have onward := ih called_served (sessions ▸ present) (consumer.congr subscriptions)
          exact ⟨onward.1, onward.2.trans tasks⟩
        | some handle =>
          obtain rfl : session.sessionId = sessionId := (served.named sessionId session present).1
          exact ⟨served.reopened present consumer reopened _ rfl, tasks⟩

theorem Stored.tryFailover (stored : Stored orch) (fallbackBrokers : List (String × GatewayAnswer)) :
    Stored (StreamOrchestrator.tryFailover session orch fallbackBrokers).1 := by
  induction fallbackBrokers generalizing orch with
  | nil => exact stored
  | cons fallback rest ih =>
    obtain ⟨fallbackBroker, answer⟩ := fallback
    simp only [StreamOrchestrator.tryFailover]
    split
    · exact ih stored
    · have kept := reopenAt_stored stored (show session.sessionId = _ from rfl) fallbackBroker answer
      cases reopened : orch.reopenAt session fallbackBroker answer with
      | mk called returned =>
        rw [reopened] at kept
        cases returned with
        | none => exact ih kept
        | some handle => exact kept

/-- A further consumer of a session. -/
theorem Served.register (served : Served orch) (request : SubscriptionRequest)
    (fresh : ∀ other, orch.HasConsumer other → (orch.register sessionId request).HasConsumer other) :
    Served (orch.register sessionId request) where
  named other session present := by
    obtain ⟨name, drawn⟩ := served.named other session present
    exact ⟨name, Nat.lt_succ_of_lt drawn⟩
  subscribed := by
    intro subId sub found
    rw [StreamOrchestrator.register, Dict.get_set] at found
    split at found
    · next own => exact own ▸ Nat.lt_succ_self _
    · exact Nat.lt_succ_of_lt (served.subscribed subId sub found)
  handled other handle stored := by
    obtain ⟨drawn, consumer⟩ := served.handled other handle stored
    exact ⟨Nat.lt_succ_of_lt drawn, fresh other consumer⟩
  monitored other task stored := fresh other (served.monitored other task stored)

theorem HasConsumer.register (consumer : orch.HasConsumer sessionId) (same : after.subscriptions = orch.subscriptions)
    (drawn : ∀ subId sub, orch.subscriptions.get subId = some sub → subId < after.uuids) (other : Uuid)
    (request : SubscriptionRequest) : (after.register other request).HasConsumer sessionId := by
  obtain ⟨subId, sub, found, own⟩ := consumer
  refine ⟨subId, sub, ?_, own⟩
  rw [StreamOrchestrator.register, Dict.get_set, if_neg (drawn subId sub found).ne, same]
  exact found

theorem hasConsumer_register (orch : StreamOrchestrator) (sessionId : Uuid) (request : SubscriptionRequest) :
    (orch.register sessionId request).HasConsumer sessionId :=
  ⟨orch.uuids, _, Dict.get_set_self _ _ _, rfl⟩

/-- The session that is shared is stored under its own identifier. -/
theorem Served.reusable (served : Served orch) {brokerId : String} {request : SubscriptionRequest}
    (reusable : orch.findReusableSession brokerId request = some session) :
    orch.sessions.get session.sessionId = some session := by
  obtain ⟨⟨sessionId, _⟩, stored, rfl⟩ := List.mem_map.mp (List.mem_of_find?_eq_some reusable)
  have present := Dict.get_eq_some.mpr stored
  rw [(served.named sessionId _ present).1]
  exact present

theorem Served.subscribe (served : Served orch) {request : SubscriptionRequest} {selected : Option String}
    {answer : GatewayAnswer} {returned : Option Uuid} (subscribed : Subscribed orch request selected answer after returned) :
    Served after := by
  cases subscribed with
  | unselected => exact served
  | shared reusable known => exact served.register request fun _ consumer => consumer.register rfl served.subscribed _ request
  | mergeRaised calls reusable news raised =>
    have stored := served.setSession (served.reusable reusable) (StreamOrchestrator.merged _ request) rfl
    exact ⟨stored.named, stored.subscribed, stored.handled, stored.monitored⟩
  | merged calls reusable news =>
    have stored := served.setSession (served.reusable reusable) (StreamOrchestrator.merged _ request) rfl
    have confirmed := stored.setSession (Dict.get_set_self _ _ _)
      ((StreamOrchestrator.merged _ request).updateSubscription .ACKNOWLEDGED) rfl
    refine Served.register ?_ request fun _ consumer => consumer.register rfl served.subscribed _ request
    exact ⟨confirmed.named, confirmed.subscribed, confirmed.handled, confirmed.monitored⟩
  | openRaised sessions handlers calls unusable raised stored =>
    obtain ⟨fresh, name, stored⟩ := stored
    constructor
    · intro other session present
      rw [stored other] at present
      split at present
      · next own =>
        cases present
        exact ⟨name.trans own.symm, own ▸ Nat.lt_succ_self _⟩
      · exact (served.named other session present).imp_right Nat.lt_succ_of_lt
    · exact fun subId sub found => Nat.lt_succ_of_lt (served.subscribed subId sub found)
    · exact fun other handle found => (served.handled other handle found).imp_left Nat.lt_succ_of_lt
    · exact served.monitored
  | opened calls sessions handlers unusable stored =>
    obtain ⟨fresh, name, -, stored⟩ := stored
    have drawn : ∀ subId sub, orch.subscriptions.get subId = some sub → subId < orch.uuids + 1 :=
      fun subId sub found => Nat.lt_succ_of_lt (served.subscribed subId sub found)
    have later : orch.uuids < orch.uuids + 1 + 1 := Nat.lt_add_of_pos_right Nat.two_pos
    constructor
    · intro other session present
      change sessions.get other = some session at present
      rw [stored other] at present
      split at present
      · next own =>
        cases present
        exact ⟨name.trans own.symm, own ▸ later⟩
      · exact (served.named other session present).imp_right fun drawn => drawn.trans later
    · intro subId sub found
      rw [StreamOrchestrator.register, Dict.get_set] at found
      split at found
      · next own => exact own ▸ Nat.lt_succ_self _
      · exact Nat.lt_succ_of_lt (drawn subId sub found)
    · intro other handle found
      rw [StreamOrchestrator.register, Dict.get_set] at found
      split at found
      · next own =>
        subst own
        exact ⟨later, hasConsumer_register _ _ _⟩
      · obtain ⟨before, consumer⟩ := served.handled other handle found
        exact ⟨before.trans later, consumer.register (by rfl) drawn _ _⟩
    · intro other task found
      rw [StreamOrchestrator.register, Dict.get_set] at found
      split at found
      · next own =>
        subst own
        exact hasConsumer_register _ _ _
      · exact (served.monitored other task found).register (by rfl) drawn _ _

theorem Stored.subscribe (stored : Stored orch) (served : Served orch) {request : SubscriptionRequest} {selected : Option String}
    {answer : GatewayAnswer} {returned : Option Uuid} (keeps : MergesKeepHandle orch (.subscribe request selected answer))
    (subscribed : Subscribed orch request selected answer after returned) : Stored after := by
  cases subscribed with
  | unselected => exact stored
  | shared reusable known => exact stored
  | mergeRaised calls reusable news raised => exact stored
  | openRaised sessions handlers calls unusable raised _ => exact stored
  | merged calls reusable news =>
    intro sessionId handle member
    rcases List.mem_cons.mp member with same | member
    · obtain ⟨rfl, rfl⟩ := Prod.mk.inj same
      exact keeps _ _ _ rfl reusable news rfl
    · exact stored sessionId handle member
  | opened calls sessions handlers unusable _ =>
    intro sessionId handle member
    rw [StreamOrchestrator.register, Dict.get_set]
    rcases List.mem_cons.mp member with same | member
    · obtain ⟨rfl, rfl⟩ := Prod.mk.inj same
      exact if_pos rfl
    · have known := stored sessionId handle member
      rw [if_neg (served.handled sessionId handle known).1.ne]
      exact known

/-- A consumer that is not the last one of its session leaves it as it is. -/
theorem unsubscribe_served (served : Served orch) (subId : Uuid) : Served (orch.unsubscribe subId) := by
  simp only [unsubscribe]
  cases found : orch.subscriptions.get subId with
  | none => exact served
  | some sub =>
    dsimp only
    have drawn : ∀ other sub, (orch.subscriptions.pop subId).get other = some sub → other < orch.uuids := by
      intro other sub stored
      rw [Dict.get_pop] at stored
      split at stored
      · cases stored
      · exact served.subscribed other sub stored
    have others : ∀ sessionId, sessionId ≠ sub.sessionId → orch.HasConsumer sessionId →
        HasConsumer { orch with subscriptions := orch.subscriptions.pop subId } sessionId := by
      rintro _ different ⟨other, consumer, stored, rfl⟩
      refine ⟨other, consumer, ?_, rfl⟩
      rw [Dict.get_pop, if_neg]
      · exact stored
      · rintro rfl
        cases found.symm.trans stored
        exact different rfl
    split
    · next remaining =>
      have kept : ∀ sessionId, orch.HasConsumer sessionId →
          HasConsumer { orch with subscriptions := orch.subscriptions.pop subId } sessionId := by
        intro sessionId consumer
        by_cases own : sessionId = sub.sessionId
        · obtain ⟨other, member, same⟩ := List.any_eq_true.mp remaining
          obtain ⟨⟨otherId, _⟩, stored, rfl⟩ := List.mem_map.mp member
          exact ⟨otherId, _, Dict.get_eq_some.mpr stored, (of_decide_eq_true same).trans own.symm⟩
        · exact others sessionId own consumer
      exact ⟨served.named, drawn, fun other handle stored => (served.handled other handle stored).imp_right (kept other),
        fun other task stored => kept other (served.monitored other task stored)⟩
    · exact served.disconnectSession rfl rfl rfl rfl drawn others

theorem Stored.unsubscribe (stored : Stored orch) (subId : Uuid) : Stored (orch.unsubscribe subId) := by
  simp only [StreamOrchestrator.unsubscribe]
  cases orch.subscriptions.get subId with
  | none => exact stored
  | some sub =>
    dsimp only
    have removed : Stored { orch with subscriptions := orch.subscriptions.pop subId } := stored
    split
    · exact removed
    · exact removed.disconnectSession sub.sessionId

/-! The steps of the monitors. -/

theorem Served.stop (served : Served orch) : Served orch.stop where
  named := served.named
  subscribed := served.subscribed
  handled := served.handled
  monitored := by
    intro sessionId task stored
    rw [StreamOrchestrator.stop, Dict.get_mapValues] at stored
    obtain ⟨before, found, -⟩ := Option.map_eq_some_iff.mp stored
    exact served.monitored sessionId before found

theorem Served.handleFrame (served : Served orch) (sessionId : Uuid) (now : ℚ) : Served (orch.handleFrame sessionId now) := by
  simp only [StreamOrchestrator.handleFrame]
  cases present : orch.sessions.get sessionId with
  | none => exact served
  | some session =>
    dsimp only
    split
    · exact served.setSession present _ rfl
    · exact served

theorem Served.heartbeat (served : Served orch) (now : ℚ) : Served (orch.heartbeat now) where
  named := by
    intro sessionId session present
    rw [StreamOrchestrator.heartbeat, Dict.get_mapValues] at present
    obtain ⟨before, found, rfl⟩ := Option.map_eq_some_iff.mp present
    rw [(checkFreshness_kept before now).1]
    exact served.named sessionId before found
  subscribed := served.subscribed
  handled := served.handled
  monitored := served.monitored

theorem Served.poll (served : Served orch) (stored : orch.sessionReconnectTasks.get sessionId = some task) (connected : Bool) :
    Served (orch.poll sessionId task connected) := by
  simp only [StreamOrchestrator.poll]
  cases present : orch.sessions.get sessionId with
  | none => exact served.proceed stored _
  | some session =>
    dsimp only
    split
    · exact served.proceed stored _
    · exact (served.setSession present (session.updateTransport .RECONNECTING).incrementReconnect rfl).proceed stored _

theorem Served.wake (served : Served orch) (stored : orch.sessionReconnectTasks.get sessionId = some task)
    (session : StreamSession) : Served (orch.wake sessionId task session) := by
  simp only [StreamOrchestrator.wake]
  split
  · have logged : Served { orch with attempts := .failover sessionId :: orch.attempts } :=
      ⟨served.named, served.subscribed, served.handled, served.monitored⟩
    exact logged.proceed stored _
  · exact served.proceed stored _

theorem Served.failover (served : Served orch) (stored : orch.sessionReconnectTasks.get sessionId = some task)
    (present : orch.sessions.get sessionId = some session) (decision : Option (List (String × GatewayAnswer))) :
    Served (orch.failover sessionId task session decision) := by
  simp only [StreamOrchestrator.failover]
  cases decision with
  | none => exact served.proceed stored _
  | some fallbackBrokers =>
    obtain ⟨moved, tasks⟩ := served.tryFailover present (served.monitored sessionId task stored) fallbackBrokers
    dsimp only
    generalize tried : StreamOrchestrator.tryFailover session orch fallbackBrokers = result at moved tasks
    obtain ⟨called, succeeded⟩ := result
    cases succeeded <;> exact moved.proceed (tasks ▸ stored) _

theorem Served.reopen (served : Served orch) (stored : orch.sessionReconnectTasks.get sessionId = some task)
    (present : orch.sessions.get sessionId = some session) (answer : GatewayAnswer) :
    Served (orch.reopen sessionId task session answer) := by
  have consumer := served.monitored sessionId task stored
  have kept := orch.reopenAt_kept session session.brokerId answer
  have called_served := served.reopenAt session session.brokerId answer
  simp only [StreamOrchestrator.reopen]
  cases reopened : orch.reopenAt session session.brokerId answer with
  | mk called returned =>
    rw [reopened] at kept called_served
    obtain ⟨-, tasks, -, -⟩ := kept
    cases returned with
    | none =>
      have logged : Served { called with attempts := .reconnectFailed sessionId :: called.attempts } :=
        ⟨called_served.named, called_served.subscribed, called_served.handled, called_served.monitored⟩
      exact logged.proceed (tasks ▸ stored) _
    | some handle =>
      have opened := served.reopened present consumer reopened session.reconnected rfl
      have logged : Served { called with
          handles := called.handles.set sessionId handle
          sessions := called.sessions.set sessionId session.reconnected
          attempts := .reconnectOk sessionId session.reconnected.reconnectGeneration :: called.attempts } :=
        ⟨opened.named, opened.subscribed, opened.handled, opened.monitored⟩
      exact logged.proceed (tasks ▸ stored) _

theorem Served.step {event : Event} (served : Served orch) (taken : step orch event = some after) : Served after := by
  cases event with
  | start =>
    cases taken
    exact ⟨served.named, served.subscribed, served.handled, served.monitored⟩
  | stop =>
    cases taken
    exact served.stop
  | discard =>
    obtain ⟨sessionId, rest, -, rfl⟩ := discard_inv taken
    exact served.disconnectSession rfl rfl rfl rfl served.subscribed fun _ _ consumer => consumer
  | subscribe request selected answer =>
    cases taken
    exact served.subscribe (orch.subscribe_subscribed request selected answer)
  | unsubscribe subId =>
    cases taken
    exact unsubscribe_served served subId
  | tick sessionId now =>
    cases taken
    exact served.handleFrame sessionId now
  | heartbeat now =>
    obtain rfl := heartbeat_inv taken
    exact served.heartbeat now
  | begin sessionId =>
    obtain ⟨task, stored, -, rfl⟩ := begin_inv taken
    exact served.proceed stored _
  | poll sessionId connected =>
    obtain ⟨task, stored, -, rfl⟩ := poll_inv taken
    exact served.poll stored connected
  | wake sessionId =>
    obtain ⟨task, session, stored, -, -, rfl⟩ := monitor_inv taken
    exact served.wake stored session
  | failover sessionId decision =>
    obtain ⟨task, session, stored, present, -, rfl⟩ := monitor_inv taken
    exact served.failover stored present decision
  | reopen sessionId answer =>
    obtain ⟨task, session, stored, present, -, rfl⟩ := monitor_inv taken
    exact served.reopen stored present answer

theorem Stored.failover (stored : Stored orch) (decision : Option (List (String × GatewayAnswer))) :
    Stored (orch.failover sessionId task session decision) := by
  simp only [StreamOrchestrator.failover]
  cases decision with
  | none => exact stored
  | some fallbackBrokers =>
    have moved : Stored (StreamOrchestrator.tryFailover session orch fallbackBrokers).1 := stored.tryFailover fallbackBrokers
    dsimp only
    generalize StreamOrchestrator.tryFailover session orch fallbackBrokers = result at moved
    obtain ⟨called, succeeded⟩ := result
    cases succeeded <;> exact moved

theorem Stored.reopen (stored : Stored orch) (name : session.sessionId = sessionId) (answer : GatewayAnswer) :
    Stored (orch.reopen sessionId task session answer) := by
  have kept := reopenAt_stored stored name session.brokerId answer
  simp only [StreamOrchestrator.reopen]
  cases reopened : orch.reopenAt session session.brokerId answer with
  | mk called returned =>
    rw [reopened] at kept
    cases returned <;> exact kept

theorem Stored.step {event : Event} (stored : Stored orch) (served : Served orch) (keeps : MergesKeepHandle orch event)
    (taken : step orch event = some after) : Stored after := by
  cases event with
  | start =>
    cases taken
    exact stored
  | stop =>
    cases taken
    exact stored
  | discard =>
    obtain ⟨sessionId, rest, -, rfl⟩ := discard_inv taken
    have popped : Stored { orch with stopping := rest } := stored
    exact popped.disconnectSession sessionId
  | subscribe request selected answer =>
    cases taken
    exact stored.subscribe served keeps (orch.subscribe_subscribed request selected answer)
  | unsubscribe subId =>
    cases taken
    exact stored.unsubscribe subId
  | tick sessionId now =>
    cases taken
    simp only [StreamOrchestrator.handleFrame]
    cases orch.sessions.get sessionId with
    | none => exact stored
    | some session =>
      dsimp only
      split <;> exact stored
  | heartbeat now =>
    obtain rfl := heartbeat_inv taken
    exact stored
  | begin sessionId =>
    obtain ⟨task, -, -, rfl⟩ := begin_inv taken
    exact stored
  | poll sessionId connected =>
    obtain ⟨task, -, -, rfl⟩ := poll_inv taken
    simp only [StreamOrchestrator.poll]
    cases orch.sessions.get sessionId with
    | none => exact stored
    | some session =>
      dsimp only
      split <;> exact stored
  | wake sessionId =>
    obtain ⟨task, session, -, -, -, rfl⟩ := monitor_inv taken
    simp only [StreamOrchestrator.wake]
    split <;> exact stored
  | failover sessionId decision =>
    obtain ⟨task, session, -, -, -, rfl⟩ := monitor_inv taken
    exact stored.failover decision
  | reopen sessionId answer =>
    obtain ⟨task, session, -, present, -, rfl⟩ := monitor_inv taken
    exact stored.reopen (served.named sessionId session present).1 answer

theorem served_initial : Served {} := by
  constructor
  · intro sessionId session present
    cases (show (∅ : Dict Uuid StreamSession).get sessionId = none from rfl).symm.trans present
  · intro subId sub found
    cases (show (∅ : Dict Uuid ActiveSubscription).get subId = none from rfl).symm.trans found
  · intro sessionId handle stored
    cases (show (∅ : Dict Uuid Handle).get sessionId = none from rfl).symm.trans stored
  · intro sessionId task stored
    cases (show (∅ : Dict Uuid ReconnectTask).get sessionId = none from rfl).symm.trans stored

theorem stored_initial : Stored {} := nofun

/-- A subscription is atomic where the gateway answers, and nowhere else. -/
theorem Served.subscribeAtomic_iff (served : Served orch) (request : SubscriptionRequest) (selected : Option String)
    (answer : GatewayAnswer) : orch.SubscribeAtomic request selected answer ↔ orch.GatewayAnswers request selected answer := by
  have subscribed := orch.subscribe_subscribed request selected answer
  simp only [SubscribeAtomic]
  generalize (orch.subscribe request selected answer).1 = after at subscribed ⊢
  generalize (orch.subscribe request selected answer).2 = returned at subscribed ⊢
  cases subscribed with
  | unselected => exact ⟨fun _ => nofun, fun _ _ => ⟨rfl, rfl, rfl⟩⟩
  | shared reusable known =>
    constructor
    · intro _ brokerId same
      cases same
      exact .inl ⟨_, reusable, known⟩
    · exact fun _ => nofun
  | merged => exact ⟨fun _ _ _ => .inr ⟨_, rfl⟩, fun _ => nofun⟩
  | opened => exact ⟨fun _ _ _ => .inr ⟨_, rfl⟩, fun _ => nofun⟩
  | @mergeRaised brokerId existing answer calls reusable news raised =>
    constructor
    · intro atomic
      have same := congrArg (·.get existing.sessionId) (atomic rfl).1
      simp only [Dict.get_set_self, served.reusable reusable, Option.some.injEq] at same
      -- the instruments that are new are in the session already
      have within : request.instruments ⊆ existing.instruments := by
        have joined := congrArg StreamSession.instruments same
        exact Finset.union_eq_left.mp joined
      exact absurd (Finset.sdiff_eq_empty_iff_subset.mpr within) news
    · intro answers
      rcases answers brokerId rfl with ⟨other, found, known⟩ | ⟨handle, same⟩
      · cases reusable.symm.trans found
        exact absurd known news
      · exact absurd same (raised handle)
  | @openRaised brokerId answer sessions handlers calls unusable raised stored =>
    obtain ⟨fresh, -, stored⟩ := stored
    constructor
    · intro atomic
      have present := (stored orch.uuids).trans (if_pos rfl)
      rw [show sessions = orch.sessions from (atomic rfl).1] at present
      exact absurd (served.named _ fresh present).2 (lt_irrefl _)
    · intro answers
      rcases answers brokerId rfl with ⟨other, found, -⟩ | ⟨handle, same⟩
      · cases unusable.symm.trans found
      · exact absurd same (raised handle)

/-- In every state of a run a subscription is atomic if and only if the gateway answers it where it is needed; and
where merges keep the handle of their session, no handle is left open for a session without a consumer. -/
theorem subscriptions_iff {events : List Event} (run : exec step {} events = some orch) :
    (∀ request selected answer, orch.SubscribeAtomic request selected answer ↔ orch.GatewayAnswers request selected answer) ∧
    (Meets step MergesKeepHandle {} events → orch.HandlesClosed) := by
  have any : Meets step (fun _ _ => True) {} events := meets_of_forall fun _ _ => trivial
  have served : Served orch := exec_invariant (fun _ _ _ served _ taken => served.step taken) served_initial any run
  constructor
  · exact served.subscribeAtomic_iff
  · intro keeps
    have preserved : ∀ before event next, Served before ∧ Stored before → MergesKeepHandle before event →
        step before event = some next → Served next ∧ Stored next :=
      fun _ _ _ held keeps taken => ⟨held.1.step taken, held.2.step held.1 keeps taken⟩
    obtain ⟨served, stored⟩ := exec_invariant preserved ⟨served_initial, stored_initial⟩ keeps run
    exact stored.handlesClosed served

theorem subscriptions_iff_shared : ∃ orch, exec step {} [.start, .subscribe desk (some "dhan") (.opened 1), .unsubscribe 1] =
      some orch ∧ orch.SubscribeAtomic desk none .raised ∧ orch.HandlesClosed := by
  have keeps : Meets step MergesKeepHandle {} [.start, .subscribe desk (some "dhan") (.opened 1), .unsubscribe 1] := by
    refine ⟨trivial, ?_, trivial, trivial⟩
    intro brokerId existing handle _ reusable
    cases (show StreamOrchestrator.findReusableSession _ brokerId desk = none from rfl).symm.trans reusable
  obtain ⟨atomic, closed⟩ := subscriptions_iff
    (rfl : exec step {} [.start, .subscribe desk (some "dhan") (.opened 1), .unsubscribe 1] = some _)
  exact ⟨_, rfl, (atomic desk none .raised).mpr nofun, closed keeps⟩

/-- A subscription whose stream is refused leaves its session and its frame handler behind; a handle that is returned
for further instruments outlives the session. -/
theorem refused_stream_leaves_its_session : ¬SubscribeAtomic {} desk (some "dhan") .raised ∧
    ∃ orch, exec step {} [.start, .subscribe desk (some "dhan") (.opened 1), .tick 0 0,
      .subscribe { desk with instruments := {"INFY:NSE"} } (some "dhan") (.opened 2), .unsubscribe 1, .unsubscribe 2] =
      some orch ∧ ¬orch.HandlesClosed := by
  constructor
  · intro atomic
    have gone := congrArg (·.get 0) (atomic rfl).1
    exact absurd gone (by decide +kernel)
  · have facts : (exec step {} [.start, .subscribe desk (some "dhan") (.opened 1), .tick 0 0,
        .subscribe { desk with instruments := {"INFY:NSE"} } (some "dhan") (.opened 2), .unsubscribe 1, .unsubscribe 2]).map
        (fun orch => (orch.outstanding, orch.subscriptions.entries)) = some ([(0, 2)], []) := by decide +kernel
    obtain ⟨orch, taken, same⟩ := Option.map_eq_some_iff.mp facts
    simp only [Prod.mk.injEq] at same
    obtain ⟨outstanding, consumers⟩ := same
    refine ⟨orch, taken, ?_⟩
    intro closed
    obtain ⟨subId, sub, found, -⟩ := closed 0 2 (by simp [outstanding])
    have member := Dict.get_eq_some.mp found
    rw [consumers] at member
    cases member

end StreamOrchestrator

end TradeX.V1.Streams
