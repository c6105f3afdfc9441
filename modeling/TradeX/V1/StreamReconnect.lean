import TradeX.V1.StreamOrchestrator

/-! What the monitors of the sessions guarantee over every run of the orchestrator, and the steps behind which
they do not: a session that is left without its monitor, a failover at the fifth outage rather than after five
failed reconnects, and a successful reconnect that keeps the count. -/

namespace TradeX.V1.Streams

open Lib

namespace StreamOrchestrator

/-- The monitor starts a reconnect in these of its steps. -/
def StartsReconnect (orch : StreamOrchestrator) (sessionId : Uuid) (events : List Event) : Prop :=
  ∃ after, exec step orch events = some after ∧
    (∃ session, after.sessions.get sessionId = some session ∧ session.health.transport = .RECONNECTING) ∧
    ∃ task, after.sessionReconnectTasks.get sessionId = some task ∧ task.phase = .backingOff

/-- A lost transport starts a reconnect of the session, or one is under way. -/
def Watched (orch : StreamOrchestrator) (sessionId : Uuid) : Prop :=
  orch.StartsReconnect sessionId [.begin sessionId, .poll sessionId false] ∨
  orch.StartsReconnect sessionId [.poll sessionId false] ∨
  ∃ task, orch.sessionReconnectTasks.get sessionId = some task ∧
    (task.phase = .backingOff ∨ task.phase = .failingOver ∨ task.phase = .reopening)

/-- While the orchestrator runs, every session that is there is watched. -/
def Monitored (orch : StreamOrchestrator) : Prop :=
  orch.running = true → ∀ sessionId session, orch.sessions.get sessionId = some session → orch.Watched sessionId

end StreamOrchestrator

/-- The failed reconnects of a session since the last one that succeeded. -/
def consecutiveFailures (sessionId : Uuid) : List Attempt → ℕ
  | [] => 0
  | .reconnectFailed other :: earlier =>
    if other = sessionId then consecutiveFailures sessionId earlier + 1 else consecutiveFailures sessionId earlier
  | .reconnectOk other _ :: earlier => if other = sessionId then 0 else consecutiveFailures sessionId earlier
  | .failover _ :: earlier => consecutiveFailures sessionId earlier

/-- Every failover is attempted behind the configured number of consecutive failures. -/
def Escalated : List Attempt → Prop
  | [] => True
  | .failover sessionId :: earlier => MAX_RECONNECT_ATTEMPTS ≤ consecutiveFailures sessionId earlier ∧ Escalated earlier
  | _ :: earlier => Escalated earlier

/-- Every successful reconnect leaves the count at zero. -/
def Resets (attempts : List Attempt) : Prop :=
  ∀ sessionId generation, Attempt.reconnectOk sessionId generation ∈ attempts → generation = 0

structure ReconnectLaws (orch : StreamOrchestrator) : Prop where
  monitored : orch.Monitored
  escalated : Escalated orch.attempts
  resets : Resets orch.attempts

/-- The steps that the monitors get right: a start finds every session with its monitor, a session that is opened
while the orchestrator runs gets its stream, no session that may fail over is in its fifth outage, and no
reconnect succeeds. -/
def Sane (orch : StreamOrchestrator) : Event → Prop
  | .start => ∀ sessionId session, orch.sessions.get sessionId = some session →
      ∃ task, orch.sessionReconnectTasks.get sessionId = some task ∧ task.phase ≠ .ended
  | .subscribe request selected answer => orch.running = true → ∀ brokerId, selected = some brokerId →
      orch.findReusableSession brokerId request = none → ∃ handle, answer = .opened handle
  | .wake sessionId => ∀ task session, orch.sessionReconnectTasks.get sessionId = some task → task.phase = .backingOff →
      orch.sessions.get sessionId = some session → task.allowFailover = true →
      session.reconnectGeneration < MAX_RECONNECT_ATTEMPTS
  | .reopen sessionId answer => ∀ task session, orch.sessionReconnectTasks.get sessionId = some task →
      task.phase = .reopening → orch.sessions.get sessionId = some session → ∀ handle, answer ≠ .opened handle
  | _ => True

namespace StreamOrchestrator

variable {orch after : StreamOrchestrator} {sessionId : Uuid} {session : StreamSession} {task : ReconnectTask}

theorem step_poll (stored : orch.sessionReconnectTasks.get sessionId = some task) (polling : task.phase = .polling)
    (connected : Bool) : step orch (.poll sessionId connected) = some (orch.poll sessionId task connected) := by
  simp only [step, stored, polling, if_true]

theorem step_begin (stored : orch.sessionReconnectTasks.get sessionId = some task) (spawned : task.phase = .spawned) :
    step orch (.begin sessionId) = some (orch.repeatLoop sessionId task) := by
  simp only [step, stored, spawned, if_true]

/-- A monitor that polls starts a reconnect at a lost transport. -/
theorem startsReconnect_poll (stored : orch.sessionReconnectTasks.get sessionId = some task) (polling : task.phase = .polling)
    (present : orch.sessions.get sessionId = some session) : orch.StartsReconnect sessionId [.poll sessionId false] := by
  refine ⟨_, exec_cons (step_poll stored polling false), ?_, ?_⟩
  · refine ⟨(session.updateTransport .RECONNECTING).incrementReconnect, ?_, rfl⟩
    simp [poll, present, proceed]
  · refine ⟨{ task with phase := .backingOff }, ?_, rfl⟩
    simp [poll, present, proceed]

/-- A session is watched where its monitor has not ended. -/
theorem watched_iff (running : orch.running = true) (present : orch.sessions.get sessionId = some session) :
    orch.Watched sessionId ↔ ∃ task, orch.sessionReconnectTasks.get sessionId = some task ∧ task.phase ≠ .ended := by
  constructor
  · rintro (⟨after, taken, -⟩ | ⟨after, taken, -⟩ | ⟨task, stored, waits⟩)
    · obtain ⟨next, first, -⟩ := exec_cons_inv taken
      simp only [step] at first
      cases stored : orch.sessionReconnectTasks.get sessionId with
      | none => simp [stored] at first
      | some task =>
        refine ⟨task, rfl, ?_⟩
        intro ended
        simp [stored, ended] at first
    · obtain ⟨next, first, -⟩ := exec_cons_inv taken
      simp only [step] at first
      cases stored : orch.sessionReconnectTasks.get sessionId with
      | none => simp [stored] at first
      | some task =>
        refine ⟨task, rfl, ?_⟩
        intro ended
        simp [stored, ended] at first
    · refine ⟨task, stored, ?_⟩
      intro ended
      simp [ended] at waits
  · rintro ⟨task, stored, alive⟩
    cases phase : task.phase with
    | spawned =>
      have begun : (orch.repeatLoop sessionId task).sessionReconnectTasks.get sessionId =
          some { task with phase := .polling } := by simp [repeatLoop, proceed, running]
      have kept : (orch.repeatLoop sessionId task).sessions.get sessionId = some session := present
      obtain ⟨after, taken, reached⟩ := startsReconnect_poll begun rfl kept
      exact .inl ⟨after, (exec_cons (step_begin stored phase)).trans taken, reached⟩
    | polling => exact .inr (.inl (startsReconnect_poll stored phase present))
    | backingOff => exact .inr (.inr ⟨task, stored, .inl phase⟩)
    | failingOver => exact .inr (.inr ⟨task, stored, .inr (.inl phase)⟩)
    | reopening => exact .inr (.inr ⟨task, stored, .inr (.inr phase)⟩)
    | ended => exact absurd phase alive

theorem Monitored.alive (monitored : orch.Monitored) (running : orch.running = true)
    (present : orch.sessions.get sessionId = some session) :
    ∃ task, orch.sessionReconnectTasks.get sessionId = some task ∧ task.phase ≠ .ended :=
  (watched_iff running present).mp (monitored running sessionId session present)

/-- How far the count of a session is from its failures, and from the limit if it may fail over. -/
def Counts (failures generation : ℕ) (allowFailover : Bool) : Phase → Prop
  | .spawned | .polling => failures ≤ generation ∧ (allowFailover = true → generation < MAX_RECONNECT_ATTEMPTS)
  | .backingOff => failures < generation ∧ (allowFailover = true → generation ≤ MAX_RECONNECT_ATTEMPTS)
  | .reopening => failures < generation ∧ (allowFailover = true → generation < MAX_RECONNECT_ATTEMPTS)
  | .failingOver => False
  | .ended => True

/-- A session with its monitor, in a run of sane steps. -/
structure Held (orch : StreamOrchestrator) (sessionId : Uuid) : Prop where
  drawn : ∀ task, orch.sessionReconnectTasks.get sessionId = some task → sessionId < orch.uuids
  named : ∀ session, orch.sessions.get sessionId = some session → session.sessionId = sessionId ∧ sessionId < orch.uuids
  alone : ∀ session, orch.sessions.get sessionId = some session → orch.sessionReconnectTasks.get sessionId = none →
    orch.running = false
  counts : ∀ session task, orch.sessions.get sessionId = some session → orch.sessionReconnectTasks.get sessionId = some task →
    (orch.running = true → task.phase ≠ .ended) ∧
      Counts (consecutiveFailures sessionId orch.attempts) session.reconnectGeneration task.allowFailover task.phase

structure Calm (orch : StreamOrchestrator) : Prop where
  failed : ∀ attempt ∈ orch.attempts, ∃ sessionId < orch.uuids, attempt = .reconnectFailed sessionId
  held : ∀ sessionId, Held orch sessionId

theorem escalated_of_failed {attempts : List Attempt} (failed : ∀ attempt ∈ attempts, ∃ sessionId < n, attempt = .reconnectFailed sessionId) :
    Escalated attempts := by
  induction attempts with
  | nil => trivial
  | cons attempt earlier ih =>
    obtain ⟨sessionId, -, rfl⟩ := failed attempt List.mem_cons_self
    exact ih fun attempt member => failed attempt (List.mem_cons_of_mem _ member)

/-- A session that was not drawn has no failures. -/
theorem consecutiveFailures_fresh {attempts : List Attempt} {n : ℕ}
    (failed : ∀ attempt ∈ attempts, ∃ sessionId < n, attempt = .reconnectFailed sessionId) (fresh : n ≤ sessionId) :
    consecutiveFailures sessionId attempts = 0 := by
  induction attempts with
  | nil => rfl
  | cons attempt earlier ih =>
    obtain ⟨other, drawn, rfl⟩ := failed attempt List.mem_cons_self
    have different : other ≠ sessionId := by omega
    simp only [consecutiveFailures, if_neg different]
    exact ih fun attempt member => failed attempt (List.mem_cons_of_mem _ member)

theorem Calm.laws (calm : Calm orch) : ReconnectLaws orch where
  monitored := by
    intro running sessionId session present
    apply (watched_iff running present).mpr
    cases stored : orch.sessionReconnectTasks.get sessionId with
    | none =>
      have stopped := (calm.held sessionId).alone session present stored
      rw [running] at stopped
      cases stopped
    | some task => exact ⟨task, rfl, ((calm.held sessionId).counts session task present stored).1 running⟩
  escalated := escalated_of_failed calm.failed
  resets := by
    intro sessionId generation member
    obtain ⟨_, -, same⟩ := calm.failed _ member
    cases same

/-- A step that touches one session, and logs its failures at most. -/
theorem Calm.touch (calm : Calm orch) (key : Uuid) (running : after.running = orch.running) (uuids : orch.uuids ≤ after.uuids)
    (attempts : after.attempts = orch.attempts ∨ after.attempts = .reconnectFailed key :: orch.attempts ∧ key < orch.uuids)
    (others : ∀ sessionId, sessionId ≠ key → after.sessions.get sessionId = orch.sessions.get sessionId ∧
      after.sessionReconnectTasks.get sessionId = orch.sessionReconnectTasks.get sessionId)
    (here : Held after key) : Calm after where
  failed := by
    have earlier : ∀ attempt ∈ orch.attempts, ∃ sessionId < after.uuids, attempt = .reconnectFailed sessionId := by
      intro attempt member
      obtain ⟨sessionId, drawn, same⟩ := calm.failed attempt member
      exact ⟨sessionId, drawn.trans_le uuids, same⟩
    rcases attempts with same | ⟨more, drawn⟩
    · exact same ▸ earlier
    · rw [more]
      intro attempt member
      rcases List.mem_cons.mp member with rfl | member
      · exact ⟨key, drawn.trans_le uuids, rfl⟩
      · exact earlier attempt member
  held := by
    intro sessionId
    by_cases own : sessionId = key
    · exact own ▸ here
    · obtain ⟨sessions, tasks⟩ := others sessionId own
      obtain ⟨drawn, named, alone, counts⟩ := calm.held sessionId
      have failures : consecutiveFailures sessionId after.attempts = consecutiveFailures sessionId orch.attempts := by
        rcases attempts with same | ⟨more, -⟩
        · rw [same]
        · rw [more, consecutiveFailures, if_neg fun same => own same.symm]
      constructor
      · rw [tasks]
        exact fun task stored => (drawn task stored).trans_le uuids
      · rw [sessions]
        exact fun session present => (named session present).imp_right fun drawn => drawn.trans_le uuids
      · rw [sessions, tasks, running]
        exact alone
      · rw [sessions, tasks, running, failures]
        exact counts

/-- A session that is touched apart from its monitor keeps its identifier and its count. -/
theorem Held.touch (held : Held orch sessionId) (running : after.running = orch.running) (uuids : orch.uuids ≤ after.uuids)
    (attempts : after.attempts = orch.attempts)
    (tasks : after.sessionReconnectTasks.get sessionId = orch.sessionReconnectTasks.get sessionId)
    (sessions : ∀ session, after.sessions.get sessionId = some session → ∃ before,
      orch.sessions.get sessionId = some before ∧ session.sessionId = before.sessionId ∧
        session.reconnectGeneration = before.reconnectGeneration) : Held after sessionId := by
  obtain ⟨drawn, named, alone, counts⟩ := held
  constructor
  · rw [tasks]
    exact fun task stored => (drawn task stored).trans_le uuids
  · intro session present
    obtain ⟨before, found, name, -⟩ := sessions session present
    exact ⟨name.trans (named before found).1, (named before found).2.trans_le uuids⟩
  · rw [tasks, running]
    intro session present
    obtain ⟨before, found, -⟩ := sessions session present
    exact alone before found
  · rw [tasks, running, attempts]
    intro session task present stored
    obtain ⟨before, found, -, generation⟩ := sessions session present
    rw [generation]
    exact counts before task found stored

/-- The step of a monitor whose session is there. -/
theorem Calm.monitor (calm : Calm orch) (present : orch.sessions.get sessionId = some session) (next : StreamSession)
    (onward : ReconnectTask) (name : next.sessionId = session.sessionId) (alive : orch.running = true → onward.phase ≠ .ended)
    (running : after.running = orch.running) (uuids : after.uuids = orch.uuids)
    (attempts : after.attempts = orch.attempts ∨ after.attempts = .reconnectFailed sessionId :: orch.attempts)
    (sessions : ∀ other, after.sessions.get other = if other = sessionId then some next else orch.sessions.get other)
    (tasks : ∀ other, after.sessionReconnectTasks.get other =
      if other = sessionId then some onward else orch.sessionReconnectTasks.get other)
    (counts : Counts (consecutiveFailures sessionId after.attempts) next.reconnectGeneration onward.allowFailover onward.phase) :
    Calm after := by
  obtain ⟨named, drawn⟩ := (calm.held sessionId).named session present
  refine calm.touch sessionId running uuids.ge (attempts.imp_right fun more => ⟨more, drawn⟩) ?_ ?_
  · intro other elsewhere
    rw [sessions, tasks, if_neg elsewhere, if_neg elsewhere]
    exact ⟨rfl, rfl⟩
  · constructor
    · intro task stored
      exact uuids ▸ drawn
    · intro session present
      rw [sessions, if_pos rfl] at present
      cases present
      exact ⟨name.trans named, uuids ▸ drawn⟩
    · intro session present absent
      rw [tasks, if_pos rfl] at absent
      cases absent
    · intro session task present stored
      rw [sessions, if_pos rfl] at present
      rw [tasks, if_pos rfl] at stored
      cases present
      cases stored
      exact ⟨running ▸ alive, counts⟩

/-- A step that leaves the counts, the monitors and what they logged. -/
theorem Calm.aside (calm : Calm orch) (running : after.running = orch.running) (uuids : orch.uuids ≤ after.uuids)
    (attempts : after.attempts = orch.attempts) (tasks : after.sessionReconnectTasks = orch.sessionReconnectTasks)
    (sessions : ∀ sessionId session, after.sessions.get sessionId = some session → ∃ before,
      orch.sessions.get sessionId = some before ∧ session.sessionId = before.sessionId ∧
        session.reconnectGeneration = before.reconnectGeneration) : Calm after where
  failed := by
    rw [attempts]
    intro attempt member
    obtain ⟨sessionId, drawn, same⟩ := calm.failed attempt member
    exact ⟨sessionId, drawn.trans_le uuids, same⟩
  held sessionId := (calm.held sessionId).touch running uuids attempts (by rw [tasks]) (sessions sessionId)

theorem Calm.disconnectSession (calm : Calm orch) (sessionId : Uuid) : Calm (orch.disconnectSession sessionId) := by
  obtain ⟨running, uuids, attempts, -⟩ := orch.disconnectSession_frame sessionId
  refine calm.touch sessionId running uuids.ge (.inl attempts) ?_ ?_
  · intro other elsewhere
    rw [disconnectSession_sessions, disconnectSession_tasks, Dict.get_pop, Dict.get_pop, if_neg elsewhere, if_neg elsewhere]
    exact ⟨rfl, rfl⟩
  · have noTask : (orch.disconnectSession sessionId).sessionReconnectTasks.get sessionId = none := by
      rw [disconnectSession_tasks, Dict.get_pop, if_pos rfl]
    have noSession : (orch.disconnectSession sessionId).sessions.get sessionId = none := by
      rw [disconnectSession_sessions, Dict.get_pop, if_pos rfl]
    constructor
    · intro task stored
      rw [noTask] at stored
      cases stored
    · intro session present
      rw [noSession] at present
      cases present
    · intro session present
      rw [noSession] at present
      cases present
    · intro session task present
      rw [noSession] at present
      cases present

theorem Calm.start (calm : Calm orch) (sane : Sane orch .start) : Calm orch.start where
  failed := calm.failed
  held sessionId := by
    obtain ⟨drawn, named, alone, counts⟩ := calm.held sessionId
    constructor
    · exact drawn
    · exact named
    · intro session present absent
      obtain ⟨task, stored, -⟩ := sane sessionId session present
      rw [show orch.start.sessionReconnectTasks = orch.sessionReconnectTasks from rfl, stored] at absent
      cases absent
    · intro session task present stored
      obtain ⟨_, found, alive⟩ := sane sessionId session present
      cases found.symm.trans stored
      exact ⟨fun _ => alive, (counts session task present stored).2⟩

theorem Calm.stop (calm : Calm orch) : Calm orch.stop where
  failed := calm.failed
  held sessionId := by
    obtain ⟨drawn, named, -, -⟩ := calm.held sessionId
    have tasks : orch.stop.sessionReconnectTasks.get sessionId =
        (orch.sessionReconnectTasks.get sessionId).map fun task => { task with phase := .ended } := Dict.get_mapValues _ _
    constructor
    · intro task stored
      rw [tasks] at stored
      obtain ⟨before, found, -⟩ := Option.map_eq_some_iff.mp stored
      exact drawn before found
    · exact named
    · exact fun _ _ _ => rfl
    · intro session task _ stored
      rw [tasks] at stored
      obtain ⟨before, -, rfl⟩ := Option.map_eq_some_iff.mp stored
      exact ⟨nofun, trivial⟩

/-- The session that is shared is stored under its own identifier. -/
theorem findReusableSession_stored {brokerId : String} {request : SubscriptionRequest} (calm : Calm orch)
    (reusable : orch.findReusableSession brokerId request = some session) :
    orch.sessions.get session.sessionId = some session := by
  obtain ⟨⟨sessionId, _⟩, stored, rfl⟩ := List.mem_map.mp (List.mem_of_find?_eq_some reusable)
  have present := Dict.get_eq_some.mpr stored
  rw [((calm.held sessionId).named _ present).1]
  exact present

theorem set_sessions {sessions : Dict Uuid StreamSession} {key : Uuid} {before next : StreamSession}
    (present : sessions.get key = some before) (name : next.sessionId = before.sessionId)
    (generation : next.reconnectGeneration = before.reconnectGeneration) (sessionId : Uuid) (session : StreamSession)
    (found : (sessions.set key next).get sessionId = some session) : ∃ before, sessions.get sessionId = some before ∧
      session.sessionId = before.sessionId ∧ session.reconnectGeneration = before.reconnectGeneration := by
  rw [Dict.get_set] at found
  split at found
  · next own =>
    cases found
    exact ⟨before, own ▸ present, name, generation⟩
  · exact ⟨session, found, rfl, rfl⟩

/-- A subscription opens a session with its monitor, or shares one; while the orchestrator runs its opening
may not raise. -/
theorem Calm.subscribed (calm : Calm orch) {request : SubscriptionRequest} {selected : Option String} {answer : GatewayAnswer}
    {returned : Option Uuid} (sane : Sane orch (.subscribe request selected answer))
    (subscribed : Subscribed orch request selected answer after returned) : Calm after := by
  cases subscribed with
  | unselected => exact calm
  | shared reusable known => exact calm.aside rfl (Nat.le_succ _) rfl rfl fun _ session present => ⟨session, present, rfl, rfl⟩
  | mergeRaised calls reusable news raised =>
    exact calm.aside rfl (le_refl _) rfl rfl (set_sessions (findReusableSession_stored calm reusable) rfl rfl)
  | merged calls reusable news =>
    refine calm.aside rfl (Nat.le_succ _) rfl rfl ?_
    intro sessionId session present
    have stored := findReusableSession_stored calm reusable
    change ((orch.sessions.set _ _).set _ _).get sessionId = some session at present
    rw [Dict.get_set, Dict.get_set] at present
    split at present
    · next own =>
      cases present
      rw [own]
      exact ⟨_, stored, rfl, rfl⟩
    · exact ⟨session, present, rfl, rfl⟩
  | openRaised sessions handlers calls unusable raised stored =>
    have stopped : orch.running = false := by
      cases running : orch.running with
      | false => rfl
      | true =>
        obtain ⟨handle, same⟩ := sane running _ rfl unusable
        exact absurd same (raised handle)
    obtain ⟨fresh, name, stored⟩ := stored
    refine calm.touch orch.uuids rfl (Nat.le_succ _) (.inl rfl) ?_ ?_
    · intro other elsewhere
      exact ⟨(stored other).trans (if_neg elsewhere), rfl⟩
    · constructor
      · exact fun _ _ => Nat.lt_succ_self _
      · intro session present
        cases ((stored _).trans (if_pos rfl)).symm.trans present
        exact ⟨name, Nat.lt_succ_self _⟩
      · exact fun _ _ _ => stopped
      · intro session task _ absent
        exact absurd ((calm.held _).drawn task absent) (lt_irrefl _)
  | opened calls sessions handlers unusable stored =>
    obtain ⟨fresh, name, generation, stored⟩ := stored
    refine calm.touch orch.uuids rfl (Nat.le_add_right _ 2) (.inl rfl) ?_ ?_
    · intro other elsewhere
      exact ⟨(stored other).trans (if_neg elsewhere), Dict.get_set_other _ _ _ _ elsewhere⟩
    · constructor
      · exact fun _ _ => Nat.lt_add_of_pos_right Nat.two_pos
      · intro session present
        cases ((stored _).trans (if_pos rfl)).symm.trans present
        exact ⟨name, Nat.lt_add_of_pos_right Nat.two_pos⟩
      · intro session _ absent
        cases (Dict.get_set_self _ _ _).symm.trans absent
      · intro session task present found
        cases ((stored _).trans (if_pos rfl)).symm.trans present
        cases (Dict.get_set_self _ _ _).symm.trans found
        refine ⟨fun _ => nofun, ?_⟩
        have none_failed := consecutiveFailures_fresh calm.failed (le_refl orch.uuids)
        simp only [Counts, generation, register, none_failed, MAX_RECONNECT_ATTEMPTS]
        omega

theorem Calm.unsubscribe (calm : Calm orch) (subId : Uuid) : Calm (orch.unsubscribe subId) := by
  simp only [StreamOrchestrator.unsubscribe]
  cases orch.subscriptions.get subId with
  | none => exact calm
  | some sub =>
    have removed : Calm { orch with subscriptions := orch.subscriptions.pop subId } :=
      calm.aside rfl (le_refl _) rfl rfl fun _ session present => ⟨session, present, rfl, rfl⟩
    dsimp only
    split
    · exact removed
    · exact removed.disconnectSession sub.sessionId

theorem Calm.handleFrame (calm : Calm orch) (sessionId : Uuid) (now : ℚ) : Calm (orch.handleFrame sessionId now) := by
  simp only [StreamOrchestrator.handleFrame]
  cases present : orch.sessions.get sessionId with
  | none => exact calm
  | some session =>
    dsimp only
    split
    · exact calm.aside rfl (le_refl _) rfl rfl (set_sessions present rfl rfl)
    · exact calm

theorem Calm.heartbeat (calm : Calm orch) (now : ℚ) : Calm (orch.heartbeat now) := by
  refine calm.aside rfl (le_refl _) rfl rfl ?_
  intro sessionId session present
  rw [StreamOrchestrator.heartbeat, Dict.get_mapValues] at present
  obtain ⟨before, found, rfl⟩ := Option.map_eq_some_iff.mp present
  exact ⟨before, found, checkFreshness_kept before now⟩

/-- At the head of the loop the monitor goes on as long as the orchestrator runs. -/
theorem Calm.repeatLoop (calm : Calm orch) (stored : orch.sessionReconnectTasks.get sessionId = some task)
    {onward : ReconnectTask} (counts : ∀ session, orch.sessions.get sessionId = some session →
      Counts (consecutiveFailures sessionId orch.attempts) session.reconnectGeneration onward.allowFailover .polling) :
    Calm (orch.repeatLoop sessionId onward) := by
  refine calm.touch sessionId rfl (le_refl _) (.inl rfl) ?_ ?_
  · intro other elsewhere
    exact ⟨rfl, Dict.get_set_other _ _ _ _ elsewhere⟩
  · constructor
    · exact fun _ _ => (calm.held sessionId).drawn task stored
    · exact (calm.held sessionId).named
    · intro session _ absent
      cases (Dict.get_set_self _ _ _).symm.trans absent
    · intro session task present found
      cases (Dict.get_set_self _ _ _).symm.trans found
      have bound := counts session present
      change (orch.running = true → (if orch.running then Phase.polling else Phase.ended) ≠ .ended) ∧ Counts _ _ _ _
      cases running : orch.running with
      | false => exact ⟨nofun, trivial⟩
      | true => exact ⟨fun _ => nofun, bound⟩

theorem Calm.poll (calm : Calm orch) (stored : orch.sessionReconnectTasks.get sessionId = some task)
    (polling : task.phase = .polling) (connected : Bool) : Calm (orch.poll sessionId task connected) := by
  have counts (session) (present : orch.sessions.get sessionId = some session) :=
    ((calm.held sessionId).counts session task present stored).2
  simp only [polling] at counts
  simp only [StreamOrchestrator.poll]
  cases present : orch.sessions.get sessionId with
  | none =>
    refine calm.touch sessionId rfl (le_refl _) (.inl rfl) ?_ ?_
    · intro other elsewhere
      exact ⟨rfl, Dict.get_set_other _ _ _ _ elsewhere⟩
    · constructor
      · exact fun _ _ => (calm.held sessionId).drawn task stored
      · exact (calm.held sessionId).named
      · intro session found
        cases present.symm.trans found
      · intro session task found
        cases present.symm.trans found
  | some session =>
    dsimp only
    split
    · exact calm.repeatLoop stored counts
    · refine calm.monitor present (session.updateTransport .RECONNECTING).incrementReconnect
        { task with phase := .backingOff } rfl ?_ rfl rfl (.inl rfl) (fun _ => Dict.get_set _ _ _ _)
        (fun _ => Dict.get_set _ _ _ _) ?_
      · intro _ ended
        cases ended
      · obtain ⟨behind, below⟩ := counts session present
        exact ⟨Nat.lt_succ_of_le behind, below⟩

theorem Calm.wake (calm : Calm orch) (stored : orch.sessionReconnectTasks.get sessionId = some task)
    (waiting : task.phase = .backingOff) (present : orch.sessions.get sessionId = some session)
    (sane : Sane orch (.wake sessionId)) : Calm (orch.wake sessionId task session) := by
  have counts := ((calm.held sessionId).counts session task present stored).2
  simp only [waiting] at counts
  have below := sane task session stored waiting present
  simp only [StreamOrchestrator.wake]
  rw [if_neg fun ⟨limit, allowed⟩ => absurd (below allowed) (Nat.not_lt.mpr limit)]
  refine calm.monitor present session { task with phase := .reopening, delay := min (task.delay * 2) RECONNECT_MAX_DELAY_S }
    rfl ?_ rfl rfl (.inl rfl) ?_ (fun _ => Dict.get_set _ _ _ _) ?_
  · intro _ ended
    cases ended
  · intro other
    split
    · next own => exact own ▸ present
    · rfl
  · exact ⟨counts.1, below⟩

theorem Calm.reopen (calm : Calm orch) (stored : orch.sessionReconnectTasks.get sessionId = some task)
    (reopening : task.phase = .reopening) (present : orch.sessions.get sessionId = some session) {answer : GatewayAnswer}
    (failed : ∀ handle, answer ≠ .opened handle) : Calm (orch.reopen sessionId task session answer) := by
  obtain ⟨behind, below⟩ : Counts _ _ _ .reopening :=
    reopening ▸ ((calm.held sessionId).counts session task present stored).2
  have returned := orch.reopenAt_returned session session.brokerId answer
  obtain ⟨handles, calls, outstanding, frame⟩ := orch.reopenAt_frame session session.brokerId answer
  have unopened : (orch.reopenAt session session.brokerId answer).2 = none := by
    rw [returned]
    cases answer with
    | opened handle => exact absurd rfl (failed handle)
    | unknownBroker => rfl
    | raised => rfl
  simp only [StreamOrchestrator.reopen]
  rw [show orch.reopenAt session session.brokerId answer = (_, none) from Prod.ext frame unopened]
  dsimp only
  refine calm.monitor present session { task with phase := if orch.running then .polling else .ended } rfl ?_ rfl rfl
    (.inr rfl) ?_ (fun _ => Dict.get_set _ _ _ _) ?_
  · intro running ended
    change (if orch.running then Phase.polling else Phase.ended) = .ended at ended
    rw [running] at ended
    cases ended
  · intro other
    split
    · next own => exact own ▸ present
    · rfl
  · change Counts (consecutiveFailures sessionId (.reconnectFailed sessionId :: orch.attempts)) _ _
      (if orch.running then Phase.polling else Phase.ended)
    cases orch.running with
    | false => trivial
    | true =>
      simp only [consecutiveFailures, if_true]
      exact ⟨behind, below⟩

theorem Calm.step {event : Event} (calm : Calm orch) (sane : Sane orch event) (taken : step orch event = some after) :
    Calm after := by
  cases event with
  | start =>
    cases taken
    exact calm.start sane
  | stop =>
    cases taken
    exact calm.stop
  | discard =>
    obtain ⟨sessionId, rest, -, rfl⟩ := discard_inv taken
    have popped : Calm { orch with stopping := rest } :=
      calm.aside rfl (le_refl _) rfl rfl fun _ session present => ⟨session, present, rfl, rfl⟩
    exact popped.disconnectSession sessionId
  | subscribe request selected answer =>
    cases taken
    exact calm.subscribed sane (orch.subscribe_subscribed request selected answer)
  | unsubscribe subId =>
    cases taken
    exact calm.unsubscribe subId
  | tick sessionId now =>
    cases taken
    exact calm.handleFrame sessionId now
  | heartbeat now =>
    obtain rfl := heartbeat_inv taken
    exact calm.heartbeat now
  | begin sessionId =>
    obtain ⟨task, stored, spawned, rfl⟩ := begin_inv taken
    refine calm.repeatLoop stored ?_
    intro session present
    have counts := ((calm.held sessionId).counts session task present stored).2
    rw [spawned] at counts
    exact counts
  | poll sessionId connected =>
    obtain ⟨task, stored, polling, rfl⟩ := poll_inv taken
    exact calm.poll stored polling connected
  | wake sessionId =>
    obtain ⟨task, session, stored, present, waiting, rfl⟩ := monitor_inv taken
    exact calm.wake stored waiting present sane
  | failover sessionId decision =>
    -- no failover is under way in a run of sane steps
    obtain ⟨task, session, stored, present, waiting, -⟩ := monitor_inv taken
    have counts := ((calm.held sessionId).counts session task present stored).2
    rw [waiting] at counts
    exact counts.elim
  | reopen sessionId answer =>
    obtain ⟨task, session, stored, present, reopening, rfl⟩ := monitor_inv taken
    exact calm.reopen stored reopening present (sane task session stored reopening present)

/-- A reconnect that succeeds logs the count that it found. -/
theorem reopen_opened (handle : Handle) : .reconnectOk sessionId session.reconnectGeneration ∈
    (orch.reopen sessionId task session (.opened handle)).attempts := by
  have returned := orch.reopenAt_returned session session.brokerId (.opened handle)
  simp only [StreamOrchestrator.reopen]
  rw [show orch.reopenAt session session.brokerId (.opened handle) = (_, some handle) from Prod.ext rfl returned]
  exact List.mem_cons_self

/-- Behind a state that the sane steps lead to, a step is sane where the laws hold after it. -/
theorem Calm.sane_iff {event : Event} (calm : Calm orch) :
    Sane orch event ↔ ∀ after, StreamOrchestrator.step orch event = some after → ReconnectLaws after := by
  constructor
  · intro sane after taken
    exact (calm.step sane taken).laws
  · intro laws
    cases event with
    | start =>
      intro sessionId session present
      exact (laws orch.start rfl).monitored.alive rfl present
    | subscribe request selected answer =>
      intro running brokerId chosen unusable
      by_contra unopened
      have after_laws := laws _ rfl
      have subscribed := orch.subscribe_subscribed request selected answer
      generalize (orch.subscribe request selected answer).1 = after at after_laws subscribed
      generalize (orch.subscribe request selected answer).2 = returned at subscribed
      cases subscribed with
      | unselected => cases chosen
      | shared reusable =>
        cases chosen
        cases unusable.symm.trans reusable
      | mergeRaised _ reusable =>
        cases chosen
        cases unusable.symm.trans reusable
      | merged _ reusable =>
        cases chosen
        cases unusable.symm.trans reusable
      | opened => exact unopened ⟨_, rfl⟩
      | openRaised sessions handlers calls _ _ stored =>
        obtain ⟨fresh, -, stored⟩ := stored
        have present := (stored orch.uuids).trans (if_pos rfl)
        obtain ⟨task, found, -⟩ := after_laws.monitored.alive running present
        exact absurd ((calm.held _).drawn task found) (lt_irrefl _)
    | wake sessionId =>
      intro task session stored waiting present allowed
      by_contra limit
      have limit := Nat.not_lt.mp limit
      have counts := ((calm.held sessionId).counts session task present stored).2
      rw [waiting] at counts
      obtain ⟨behind, reached⟩ := counts
      have tried := (laws _ (monitor_step (orch.wake sessionId) stored waiting present)).escalated
      rw [StreamOrchestrator.wake, if_pos ⟨limit, allowed⟩] at tried
      have enough : MAX_RECONNECT_ATTEMPTS ≤ consecutiveFailures sessionId orch.attempts := tried.1
      have few := reached allowed
      omega
    | reopen sessionId answer =>
      intro task session stored reopening present handle same
      subst same
      have taken := monitor_step (fun task session => orch.reopen sessionId task session (.opened handle)) stored reopening present
      have reset := (laws _ taken).resets sessionId session.reconnectGeneration (reopen_opened handle)
      have counts := ((calm.held sessionId).counts session task present stored).2
      rw [reopening] at counts
      have counted := counts.1
      omega
    | _ => trivial

theorem calm_initial : Calm {} where
  failed _ member := nomatch member
  held sessionId := by
    have noSession : (∅ : Dict Uuid StreamSession).get sessionId = none := rfl
    have noTask : (∅ : Dict Uuid ReconnectTask).get sessionId = none := rfl
    constructor
    · intro task stored
      cases noTask.symm.trans stored
    · intro session present
      cases noSession.symm.trans present
    · intro session present
      cases noSession.symm.trans present
    · intro session task present
      cases noSession.symm.trans present

/-- The laws hold in every state of a run if and only if its steps are sane. -/
theorem reconnect_laws_iff (events : List Event) :
    (Meets step (fun orch event => ∀ after, step orch event = some after → ReconnectLaws after) {} events ↔
      Meets step Sane {} events) ∧
    ∀ after, Meets step Sane {} events → exec step {} events = some after → ReconnectLaws after := by
  constructor
  · refine (meets_iff ?_ ?_ calm_initial).symm
    · exact fun _ _ calm => calm.sane_iff
    · exact fun _ _ _ calm sane taken => calm.step sane taken
  · intro after sane taken
    have calm : Calm after := exec_invariant (fun _ _ _ calm sane taken => calm.step sane taken) calm_initial sane taken
    exact calm.laws

/-- The monitor of a session that is opened while the orchestrator runs starts a reconnect. -/
theorem reconnect_laws_iff_lostTransport : ∃ after, exec step {} [.start, .subscribe desk (some "dhan") (.opened 1), .begin 0,
      .poll 0 false] = some after ∧ ReconnectLaws after := by
  have sane : Meets step Sane {} [.start, .subscribe desk (some "dhan") (.opened 1), .begin 0, .poll 0 false] := by
    refine ⟨?_, ?_, trivial, trivial, trivial⟩
    · intro sessionId session present
      cases (show (∅ : Dict Uuid StreamSession).get sessionId = none from rfl).symm.trans present
    · intro _ _ _ _
      exact ⟨1, rfl⟩
  exact ⟨_, rfl, (reconnect_laws_iff _).2 _ sane rfl⟩

/-- One outage is over, the reconnects of three more have failed: at the fifth the session moves to another
broker, and its monitor ends. -/
theorem fifth_outage_ends_the_monitor : ∃ after, exec step {} [.start, .subscribe desk (some "dhan") (.opened 1), .begin 0,
      .poll 0 false, .wake 0, .reopen 0 (.opened 2), .poll 0 false, .wake 0, .reopen 0 .raised, .poll 0 false, .wake 0,
      .reopen 0 .raised, .poll 0 false, .wake 0, .reopen 0 .raised, .poll 0 false, .wake 0,
      .failover 0 (some [("upstox", .opened 3)])] = some after ∧
    ¬after.Monitored ∧ ¬Escalated after.attempts ∧ ¬Resets after.attempts := by
  have facts : (exec step {} [.start, .subscribe desk (some "dhan") (.opened 1), .begin 0,
      .poll 0 false, .wake 0, .reopen 0 (.opened 2), .poll 0 false, .wake 0, .reopen 0 .raised, .poll 0 false, .wake 0,
      .reopen 0 .raised, .poll 0 false, .wake 0, .reopen 0 .raised, .poll 0 false, .wake 0,
      .failover 0 (some [("upstox", .opened 3)])]).map (fun orch => (orch.running, (orch.sessions.get 0).isSome,
        (orch.sessionReconnectTasks.get 0).map ReconnectTask.phase, orch.attempts)) =
      some (true, true, some .ended,
        [.failover 0, .reconnectFailed 0, .reconnectFailed 0, .reconnectFailed 0, .reconnectOk 0 1]) := by decide +kernel
  obtain ⟨after, taken, same⟩ := Option.map_eq_some_iff.mp facts
  simp only [Prod.mk.injEq] at same
  obtain ⟨running, present, ended, attempts⟩ := same
  refine ⟨after, taken, ?_, ?_, ?_⟩
  · intro monitored
    obtain ⟨session, present⟩ := Option.isSome_iff_exists.mp present
    obtain ⟨task, stored, alive⟩ := monitored.alive running present
    rw [stored] at ended
    exact alive (Option.some.inj ended)
  · rw [attempts]
    exact fun escalated => absurd escalated.1 (by decide)
  · rw [attempts]
    intro resets
    cases resets 0 1 (by decide)

end StreamOrchestrator

end TradeX.V1.Streams
