import TradeX.Lib.Interleaving

/-! The admission of market feed connections of one account and type: a lock on a file of the host, a cooldown file that
is written when the broker answers with 429, and the loop of each process that connects. The lock is of the operating
system, which frees it when a process dies. Texts, metrics, reconnect counts and the staleness check, which only send
the loop round again, are left out. -/

namespace TradeX.V1.Admission

open Lib

/-- The settings, as they are where no variable is set. `fcntl` is missing on some systems. -/
structure AdmissionConfig where
  fcntl : Bool := true
  cooldownSeconds : ℚ := 60
  cooldownMaxSeconds : ℚ := 900
  penaltyWindowSeconds : ℚ := 3600
  cooldownSeconds_nonneg : 0 ≤ cooldownSeconds
  cooldownMaxSeconds_nonneg : 0 ≤ cooldownMaxSeconds

theorem minute_nonneg : (0 : ℚ) ≤ 60 := by norm_num

theorem quarter_nonneg : (0 : ℚ) ≤ 900 := by norm_num

def unset : AdmissionConfig where
  cooldownSeconds_nonneg := minute_nonneg
  cooldownMaxSeconds_nonneg := quarter_nonneg

structure CooldownPayload where
  nextAllowedAt : ℚ
  cooldownSeconds : ℚ
  consecutiveRateLimits : Nat
  recordedAt : ℚ
  deriving DecidableEq

/-- What the broker sees and answers. -/
inductive Mark where
  | handshake (time : ℚ)
  | rateLimited (time cooldown : ℚ)
  | connected (time : ℚ)
  deriving DecidableEq

/-- What the processes share. -/
structure Host where
  clock : ℚ := 0
  locked : Bool := false
  cooldown : Option CooldownPayload := none
  log : List Mark := []
  deriving DecidableEq

structure MarketFeedConnectionAdmission where
  lockHeld : Bool := false
  blockedByLock : Bool := false
  consecutiveRateLimits : Nat := 0
  deriving DecidableEq

namespace MarketFeedConnectionAdmission

variable (config : AdmissionConfig) (host : Host) (admission : MarketFeedConnectionAdmission)

def tryAcquire (osError : Bool) : Host × MarketFeedConnectionAdmission :=
  if admission.lockHeld then (host, admission)
  else if ¬config.fcntl then (host, { admission with lockHeld := true, blockedByLock := false })
  else if osError ∨ host.locked then (host, { admission with blockedByLock := true })
  else ({ host with locked := true }, { admission with lockHeld := true, blockedByLock := false })

def release : Host × MarketFeedConnectionAdmission :=
  if admission.lockHeld then
    (if config.fcntl then { host with locked := false } else host,
      { admission with lockHeld := false, blockedByLock := false })
  else (host, admission)

def secondsUntilConnectAllowed (now : ℚ) : ℚ :=
  match host.cooldown with
  | none => 0
  | some payload => max 0 (payload.nextAllowedAt - now)

/-- `_load_persisted_streak` -/
def loadPersistedStreak (now : ℚ) : Nat :=
  match host.cooldown with
  | none => 0
  | some payload =>
    if config.penaltyWindowSeconds < now - payload.recordedAt then 0
    else if 0 < payload.consecutiveRateLimits then payload.consecutiveRateLimits else 1

/-- `record_rate_limit_cooldown`, which reads the clock twice; the file may not be written. -/
def recordRateLimitCooldown (now recorded : ℚ) (written : Bool) : Host × MarketFeedConnectionAdmission :=
  let streak := admission.consecutiveRateLimits + 1
  let seconds := min (config.cooldownSeconds * 2 ^ (streak - 1)) config.cooldownMaxSeconds
  ({ host with
      cooldown := if written then some ⟨now + seconds, seconds, streak, recorded⟩ else host.cooldown
      log := host.log ++ [.rateLimited now seconds] },
    { admission with consecutiveRateLimits := streak })

def clearCooldown : Host × MarketFeedConnectionAdmission :=
  ({ host with cooldown := none }, { admission with consecutiveRateLimits := 0 })

end MarketFeedConnectionAdmission

/-- Where a process stands: without a connection object, with one whose thread is off, at the head of the loop, past the
checks of the loop, inside of the client's `run`. -/
inductive Stage where
  | gone
  | off
  | idle
  | admitted
  | running
  deriving DecidableEq

structure MarketFeedConnection where
  stage : Stage := .gone
  stopping : Bool := false
  admission : MarketFeedConnectionAdmission := {}
  deriving DecidableEq

inductive Step where
  | construct
  | start
  | tryAcquire (osError : Bool)
  | checkCooldown
  | run
  | onConnect
  /-- `run` returns, or raises something else than a 429. -/
  | ended
  | rateLimited (recorded : ℚ) (written : Bool)
  /-- `stop` sets its event. -/
  | stop
  /-- `stop` has waited for the thread in vain and releases the lock. -/
  | giveUp
  | exit
  | crash
  deriving DecidableEq

namespace MarketFeedConnection

variable (config : AdmissionConfig) (host : Host) (connection : MarketFeedConnection)

/-- One step of a process at a time. -/
def move (now : ℚ) : Step → Option (Host × MarketFeedConnection)
  | .construct =>
    if connection.stage = .gone then
      let streak := MarketFeedConnectionAdmission.loadPersistedStreak config host now
      some (host, { stage := .off, admission := { consecutiveRateLimits := streak } })
    else none
  | .start =>
    if connection.stage = .off then some (host, { connection with stage := .idle, stopping := false }) else none
  | .tryAcquire osError =>
    if connection.stage = .idle ∧ ¬connection.stopping ∧ ¬connection.admission.lockHeld then
      let (host, admission) := connection.admission.tryAcquire config host osError
      some (host, { connection with admission := admission })
    else none
  | .checkCooldown =>
    if connection.stage = .idle ∧ ¬connection.stopping ∧ connection.admission.lockHeld then
      if 0 < MarketFeedConnectionAdmission.secondsUntilConnectAllowed host now then some (host, connection)
      else some (host, { connection with stage := .admitted })
    else none
  | .run =>
    if connection.stage = .admitted then
      some ({ host with log := host.log ++ [.handshake now] }, { connection with stage := .running })
    else none
  | .onConnect =>
    if connection.stage = .running then
      let (host, admission) := connection.admission.clearCooldown host
      some ({ host with log := host.log ++ [.connected now] }, { connection with admission := admission })
    else none
  | .ended => if connection.stage = .running then some (host, { connection with stage := .idle }) else none
  | .rateLimited recorded written =>
    if connection.stage = .running then
      let (host, admission) := connection.admission.recordRateLimitCooldown config host now recorded written
      some (host, { connection with stage := .idle, admission := admission })
    else none
  | .stop => some (host, { connection with stopping := true })
  | .giveUp =>
    if connection.stopping then
      let (host, admission) := connection.admission.release config host
      some (host, { connection with admission := admission })
    else none
  | .exit =>
    if connection.stage = .idle ∧ connection.stopping then
      let (host, admission) := connection.admission.release config host
      some (host, { connection with stage := .off, admission := admission })
    else none
  | .crash =>
    let (host, _) := connection.admission.release config host
    some (host, {})

/-- The clock does not go back. -/
def act (event : ℚ × Step) : Option (Host × MarketFeedConnection) :=
  if host.clock ≤ event.1 then connection.move config { host with clock := event.1 } event.1 event.2 else none

end MarketFeedConnection

/-- What a guarded step of `move` does. -/
theorem guarded {α β : Type} {guard : Prop} [Decidable guard] {a a' : α} {b b' : β}
    (moved : (if guard then some (a, b) else none) = some (a', b')) : guard ∧ a = a' ∧ b = b' := by
  simpa only [Option.ite_none_right_eq_some, Option.some.injEq, Prod.mk.injEq] using moved

/-- The 429s of a log since the broker last let a connection in. -/
def pendingLimits (log : List Mark) : List (ℚ × ℚ) :=
  log.foldl (fun pending mark => match mark with
    | .handshake _ => pending
    | .rateLimited time cooldown => pending ++ [(time, cooldown)]
    | .connected _ => []) []

@[simp] theorem pendingLimits_handshake (log : List Mark) (time : ℚ) :
    pendingLimits (log ++ [.handshake time]) = pendingLimits log := by
  simp [pendingLimits]

@[simp] theorem pendingLimits_rateLimited (log : List Mark) (time cooldown : ℚ) :
    pendingLimits (log ++ [.rateLimited time cooldown]) = pendingLimits log ++ [(time, cooldown)] := by
  simp [pendingLimits]

@[simp] theorem pendingLimits_connected (log : List Mark) (time : ℚ) :
    pendingLimits (log ++ [.connected time]) = [] := by
  simp [pendingLimits]

/-- A 429 is pending until the broker lets a connection in. -/
theorem mem_pendingLimits {front between : List Mark} {limit : ℚ × ℚ} (pending : limit ∈ pendingLimits front)
    (closed : ∀ time, .connected time ∉ between) : limit ∈ pendingLimits (front ++ between) := by
  induction between using List.reverseRecOn with
  | nil => rwa [List.append_nil]
  | append_singleton between mark ih =>
    have inner := ih fun time member => closed time (List.mem_append_left _ member)
    rw [← List.append_assoc]
    cases mark with
    | handshake time => rwa [pendingLimits_handshake]
    | rateLimited time cooldown =>
      rw [pendingLimits_rateLimited]
      exact List.mem_append_left _ inner
    | connected time => exact absurd (List.mem_append_right _ (List.mem_singleton_self _)) (closed time)

/-- Inside of the part of the loop that the lock is for. -/
def MarketFeedConnection.Inside (connection : MarketFeedConnection) : Prop :=
  connection.stage = .admitted ∨ connection.stage = .running

instance (connection : MarketFeedConnection) : Decidable connection.Inside := inferInstanceAs (Decidable (_ ∨ _))

section Exclusion

variable {config : AdmissionConfig} {host host' : Host} {connection connection' other : MarketFeedConnection}
  {now : ℚ} {step : Step}

/-- What holds of the host at any time: the cooldown file covers the pending 429s, and every handshake comes behind the
cooldowns that are pending. -/
structure Spaced (host : Host) : Prop where
  covered : ∀ limit ∈ pendingLimits host.log, ∃ payload, host.cooldown = some payload ∧
    limit.1 + limit.2 ≤ payload.nextAllowedAt
  spaced : ∀ front time, front ++ [.handshake time] <+: host.log → ∀ limit ∈ pendingLimits front,
    limit.1 + limit.2 ≤ time

/-- What holds of a process against the host. -/
structure Own (host : Host) (connection : MarketFeedConnection) : Prop where
  locked : connection.admission.lockHeld = true → host.locked = true
  inside : connection.Inside → connection.admission.lockHeld = true
  waited : connection.Inside → ∀ payload, host.cooldown = some payload → payload.nextAllowedAt ≤ host.clock

/-- The lock is held by one of them at most. -/
def Apart (connection other : MarketFeedConnection) : Prop :=
  ¬(connection.admission.lockHeld = true ∧ other.admission.lockHeld = true)

/-- The lock is not released for a thread that is past the checks, and the cooldown file is written. -/
def Orderly (connection : MarketFeedConnection) : Step → Prop
  | .giveUp => ¬connection.Inside
  | .rateLimited _ written => written = true
  | _ => True

instance (connection : MarketFeedConnection) : DecidablePred (Orderly connection)
  | .giveUp => inferInstanceAs (Decidable ¬connection.Inside)
  | .rateLimited _ written => inferInstanceAs (Decidable (written = true))
  | .construct | .start | .tryAcquire _ | .checkCooldown | .run | .onConnect | .ended | .stop | .exit | .crash =>
    isTrue trivial

theorem Spaced.later (spaced : Spaced host) (now : ℚ) : Spaced { host with clock := now } := ⟨spaced.1, spaced.2⟩

theorem Own.later (own : Own host connection) (order : host.clock ≤ now) :
    Own { host with clock := now } connection :=
  ⟨own.locked, own.inside, fun inside payload file => (own.waited inside payload file).trans order⟩

/-- A mark that is no handshake keeps the handshakes. -/
theorem spaced_append {log : List Mark} {mark : Mark} (other : ∀ time, mark ≠ .handshake time)
    (spaced : ∀ front time, front ++ [.handshake time] <+: log → ∀ limit ∈ pendingLimits front,
      limit.1 + limit.2 ≤ time) :
    ∀ front time, front ++ [.handshake time] <+: log ++ [mark] → ∀ limit ∈ pendingLimits front,
      limit.1 + limit.2 ≤ time := by
  intro front time begins
  rcases List.prefix_concat_iff.mp begins with same | before
  · have last := (List.append_inj' same rfl).2
    exact absurd (List.cons.inj last).1.symm (other time)
  · exact spaced front time before

/-- What a step does to the host, and to the lock of the process that takes it. -/
structure Effect (host : Host) (connection : MarketFeedConnection) (host' : Host)
    (connection' : MarketFeedConnection) : Prop where
  clock : host'.clock = host.clock
  cooldown : host'.cooldown = host.cooldown ∨ connection.admission.lockHeld = true
  locked : host.locked = true → host'.locked = true ∨ connection.admission.lockHeld = true
  acquired : connection'.admission.lockHeld = true → connection.admission.lockHeld = true ∨ host.locked = false

theorem release_effect (fcntl : config.fcntl = true) {stage : Stage} {stopping : Bool} :
    Effect host connection (connection.admission.release config host).1
      ⟨stage, stopping, (connection.admission.release config host).2⟩ := by
  cases held : connection.admission.lockHeld with
  | true => constructor <;> simp [MarketFeedConnectionAdmission.release, held, fcntl]
  | false => constructor <;> simp [MarketFeedConnectionAdmission.release, held]

theorem move_effect (fcntl : config.fcntl = true) (own : Own host connection)
    (moved : connection.move config host now step = some (host', connection')) :
    Effect host connection host' connection' := by
  have same {stage : Stage} {stopping : Bool} : Effect host connection host ⟨stage, stopping, connection.admission⟩ :=
    ⟨rfl, Or.inl rfl, Or.inl, Or.inl⟩
  cases step with
  | construct =>
    obtain ⟨-, rfl, rfl⟩ := guarded moved
    exact ⟨rfl, Or.inl rfl, Or.inl, fun held => absurd held Bool.false_ne_true⟩
  | start =>
    obtain ⟨-, rfl, rfl⟩ := guarded moved
    exact same
  | tryAcquire osError =>
    simp only [MarketFeedConnection.move, Option.ite_none_right_eq_some, Option.some.injEq, Prod.mk.injEq] at moved
    obtain ⟨⟨-, -, free⟩, rfl, rfl⟩ := moved
    rw [MarketFeedConnectionAdmission.tryAcquire, if_neg free, if_neg (not_not.mpr fcntl)]
    split_ifs with refused
    · exact ⟨rfl, Or.inl rfl, Or.inl, Or.inl⟩
    · exact ⟨rfl, Or.inl rfl, fun _ => Or.inl rfl, fun _ => Or.inr (by simpa using (not_or.mp refused).2)⟩
  | checkCooldown =>
    simp only [MarketFeedConnection.move, Option.ite_none_right_eq_some] at moved
    obtain ⟨-, passed⟩ := moved
    split_ifs at passed <;> cases passed
    · exact same
    · exact same
  | run =>
    obtain ⟨-, rfl, rfl⟩ := guarded moved
    exact ⟨rfl, Or.inl rfl, Or.inl, Or.inl⟩
  | onConnect =>
    obtain ⟨running, rfl, rfl⟩ := guarded moved
    exact ⟨rfl, Or.inr (own.inside (Or.inr running)), Or.inl, Or.inl⟩
  | ended =>
    obtain ⟨-, rfl, rfl⟩ := guarded moved
    exact same
  | rateLimited recorded written =>
    obtain ⟨running, rfl, rfl⟩ := guarded moved
    exact ⟨rfl, Or.inr (own.inside (Or.inr running)), Or.inl, Or.inl⟩
  | stop =>
    obtain ⟨rfl, rfl⟩ := Prod.mk.inj (Option.some.inj moved)
    exact same
  | giveUp =>
    obtain ⟨-, rfl, rfl⟩ := guarded moved
    exact release_effect fcntl
  | exit =>
    obtain ⟨-, rfl, rfl⟩ := guarded moved
    exact release_effect fcntl
  | crash =>
    obtain ⟨rfl, rfl⟩ := Prod.mk.inj (Option.some.inj moved)
    have released : Effect host connection _ ⟨.gone, false, _⟩ := release_effect fcntl
    exact ⟨released.clock, released.cooldown, released.locked, fun held => absurd held Bool.false_ne_true⟩

/-- A step leaves a process alone that does not hold the lock together with the one that moves. -/
theorem Own.frame (own : Own host other) (effect : Effect host connection host' connection')
    (apart : Apart connection other) : Own host' other ∧ Apart connection' other := by
  have alone (held : other.admission.lockHeld = true) : ¬connection.admission.lockHeld = true :=
    fun both => apart ⟨both, held⟩
  refine ⟨⟨?_, own.inside, ?_⟩, ?_⟩
  · intro held
    exact (effect.locked (own.locked held)).resolve_right (alone held)
  · intro inside payload file
    rw [effect.cooldown.resolve_right (alone (own.inside inside))] at file
    rw [effect.clock]
    exact own.waited inside payload file
  · rintro ⟨acquired, held⟩
    have free := (effect.acquired acquired).resolve_left (alone held)
    rw [own.locked held] at free
    cases free

theorem release_own {stopping : Bool} (outside : ¬connection.Inside) :
    Own (connection.admission.release config host).1
      ⟨connection.stage, stopping, (connection.admission.release config host).2⟩ := by
  by_cases held : connection.admission.lockHeld = true
  · rw [MarketFeedConnectionAdmission.release, if_pos held]
    exact ⟨fun held => absurd held Bool.false_ne_true, fun inside => absurd inside outside,
      fun inside => absurd inside outside⟩
  · rw [MarketFeedConnectionAdmission.release, if_neg held]
    exact ⟨fun holds => absurd holds held, fun inside => absurd inside outside, fun inside => absurd inside outside⟩

theorem outside_of_stage {stage : Stage} {stopping : Bool} {admission : MarketFeedConnectionAdmission}
    (outside : stage ≠ .admitted ∧ stage ≠ .running) :
    ¬(MarketFeedConnection.mk stage stopping admission).Inside :=
  fun inside => inside.elim outside.1 outside.2

theorem Own.outside {stage : Stage} {stopping : Bool} (own : Own host connection)
    (outside : stage ≠ .admitted ∧ stage ≠ .running) : Own host ⟨stage, stopping, connection.admission⟩ :=
  ⟨own.locked, fun inside => absurd inside (outside_of_stage outside),
    fun inside => absurd inside (outside_of_stage outside)⟩

variable (config host connection) in
theorem release_log : (connection.admission.release config host).1.log = host.log ∧
    (connection.admission.release config host).1.cooldown = host.cooldown := by
  rw [MarketFeedConnectionAdmission.release]
  split_ifs <;> exact ⟨rfl, rfl⟩

theorem Spaced.released (spaced : Spaced host) : Spaced (connection.admission.release config host).1 := by
  obtain ⟨log, cooldown⟩ := release_log config host connection
  exact ⟨by rw [log, cooldown]; exact spaced.covered, by rw [log]; exact spaced.spaced⟩

theorem move_own (fcntl : config.fcntl = true) (spaced : Spaced host) (own : Own host connection)
    (orderly : Orderly connection step) (present : host.clock = now)
    (moved : connection.move config host now step = some (host', connection')) :
    Spaced host' ∧ Own host' connection' := by
  cases step with
  | construct =>
    obtain ⟨-, rfl, rfl⟩ := guarded moved
    exact ⟨spaced, fun held => absurd held Bool.false_ne_true,
      fun inside => absurd inside (outside_of_stage ⟨by decide, by decide⟩),
      fun inside => absurd inside (outside_of_stage ⟨by decide, by decide⟩)⟩
  | start =>
    obtain ⟨-, rfl, rfl⟩ := guarded moved
    exact ⟨spaced, own.outside ⟨by decide, by decide⟩⟩
  | tryAcquire osError =>
    simp only [MarketFeedConnection.move, Option.ite_none_right_eq_some, Option.some.injEq, Prod.mk.injEq] at moved
    obtain ⟨⟨idle, -, free⟩, rfl, rfl⟩ := moved
    have outside : ¬connection.Inside := by
      rintro (admitted | running)
      · exact absurd (idle.symm.trans admitted) (by decide)
      · exact absurd (idle.symm.trans running) (by decide)
    rw [MarketFeedConnectionAdmission.tryAcquire, if_neg free, if_neg (not_not.mpr fcntl)]
    split_ifs with refused
    · exact ⟨spaced, own.locked, fun inside => absurd inside outside, fun inside => absurd inside outside⟩
    · exact ⟨⟨spaced.1, spaced.2⟩, fun _ => rfl, fun inside => absurd inside outside,
        fun inside => absurd inside outside⟩
  | checkCooldown =>
    simp only [MarketFeedConnection.move, Option.ite_none_right_eq_some] at moved
    obtain ⟨⟨-, -, held⟩, passed⟩ := moved
    split_ifs at passed with wait <;> cases passed
    · exact ⟨spaced, own⟩
    · refine ⟨spaced, own.locked, fun _ => held, fun _ payload file => ?_⟩
      rw [MarketFeedConnectionAdmission.secondsUntilConnectAllowed, file, not_lt] at wait
      rw [present]
      exact sub_nonpos.mp ((le_max_right 0 _).trans wait)
  | run =>
    obtain ⟨admitted, rfl, rfl⟩ := guarded moved
    have inside : connection.Inside := Or.inl admitted
    refine ⟨⟨?_, ?_⟩, own.locked, fun _ => own.inside inside, fun _ => own.waited inside⟩
    · rw [pendingLimits_handshake]
      exact spaced.covered
    · intro front time begins limit pending
      rcases List.prefix_concat_iff.mp begins with same | before
      · obtain ⟨rfl, last⟩ := List.append_inj' same rfl
        cases last
        obtain ⟨payload, file, covers⟩ := spaced.covered limit pending
        exact (covers.trans (own.waited inside payload file)).trans_eq present
      · exact spaced.spaced front time before limit pending
  | onConnect =>
    obtain ⟨running, rfl, rfl⟩ := guarded moved
    refine ⟨⟨?_, spaced_append (fun time => by rintro ⟨⟩) spaced.spaced⟩, own.locked, own.inside, ?_⟩
    · rw [pendingLimits_connected]
      intro limit none
      cases none
    · rintro - payload ⟨⟩
  | ended =>
    obtain ⟨-, rfl, rfl⟩ := guarded moved
    exact ⟨spaced, own.outside ⟨by decide, by decide⟩⟩
  | rateLimited recorded written =>
    obtain rfl : written = true := orderly
    obtain ⟨running, rfl, rfl⟩ := guarded moved
    refine ⟨⟨?_, spaced_append (fun time => by rintro ⟨⟩) spaced.spaced⟩, own.locked, ?_, ?_⟩
    · simp only [pendingLimits_rateLimited, if_true]
      intro limit pending
      refine ⟨_, rfl, ?_⟩
      rcases List.mem_append.mp pending with before | last
      · -- the earlier ones were waited for
        obtain ⟨payload, file, covers⟩ := spaced.covered limit before
        have waited := (covers.trans (own.waited (Or.inr running) payload file)).trans_eq present
        refine waited.trans (le_add_of_nonneg_right (le_min ?_ config.cooldownMaxSeconds_nonneg))
        exact mul_nonneg config.cooldownSeconds_nonneg (by positivity)
      · obtain rfl := List.mem_singleton.mp last
        exact le_refl _
    · exact fun inside => absurd inside (outside_of_stage ⟨by decide, by decide⟩)
    · exact fun inside => absurd inside (outside_of_stage ⟨by decide, by decide⟩)
  | stop =>
    obtain ⟨rfl, rfl⟩ := Prod.mk.inj (Option.some.inj moved)
    exact ⟨spaced, own.locked, own.inside, own.waited⟩
  | giveUp =>
    obtain ⟨-, rfl, rfl⟩ := guarded moved
    exact ⟨spaced.released, release_own orderly⟩
  | exit =>
    obtain ⟨-, rfl, rfl⟩ := guarded moved
    have off : ¬(MarketFeedConnection.mk .off connection.stopping connection.admission).Inside :=
      outside_of_stage ⟨by decide, by decide⟩
    exact ⟨spaced.released, release_own off⟩
  | crash =>
    obtain ⟨rfl, rfl⟩ := Prod.mk.inj (Option.some.inj moved)
    exact ⟨spaced.released, fun held => absurd held Bool.false_ne_true,
      fun inside => absurd inside (outside_of_stage ⟨by decide, by decide⟩),
      fun inside => absurd inside (outside_of_stage ⟨by decide, by decide⟩)⟩

theorem act_preserves (fcntl : config.fcntl = true) :
    Pool.Preserves (MarketFeedConnection.act config)
      (fun _ connection event => Orderly connection event.2) Spaced Own Apart where
  own spaced own orderly acted := by
    obtain ⟨order, moved⟩ := Option.ite_none_right_eq_some.mp acted
    exact move_own fcntl (spaced.later _) (own.later order) orderly rfl moved
  other spaced own others apart apart' orderly acted := by
    obtain ⟨order, moved⟩ := Option.ite_none_right_eq_some.mp acted
    have effect := move_effect fcntl (own.later order) moved
    obtain ⟨left, still⟩ := (others.later order).frame effect apart
    exact ⟨left, still, fun both => still ⟨both.2, both.1⟩⟩

variable {ι : Type} {pool : Pool ι Host MarketFeedConnection} {events : List (ι × ℚ × Step)}

/-- A host where nothing runs yet. -/
def fresh : Pool ι Host MarketFeedConnection := ⟨{}, fun _ => {}⟩

theorem fresh_holds : Pool.Holds Spaced Own Apart (fresh : Pool ι Host MarketFeedConnection) where
  common := ⟨by rintro _ ⟨⟩, fun front time begins => by
    have empty := List.prefix_nil.mp begins
    simp at empty⟩
  each _ := ⟨fun held => absurd held Bool.false_ne_true,
    fun inside => absurd inside (outside_of_stage ⟨by decide, by decide⟩),
    fun inside => absurd inside (outside_of_stage ⟨by decide, by decide⟩)⟩
  pair _ _ _ both := absurd both.1 Bool.false_ne_true

/-- However the processes of a host interleave, crash and come again, one of them at most is in the client's `run`, and
each handshake comes behind the cooldowns of all 429s, of any process, since the broker last let a connection in. -/
theorem one_connection_spaced [DecidableEq ι] (fcntl : config.fcntl = true)
    (met : Meets (Pool.step (MarketFeedConnection.act config))
      (fun pool event => Orderly (pool.thread event.1) event.2.2) fresh events)
    (run : exec (Pool.step (MarketFeedConnection.act config)) fresh events = some pool) :
    (∀ i j, (pool.thread i).stage = .running → (pool.thread j).stage = .running → i = j) ∧
    ∀ before between after limited cooldown time,
      pool.shared.log = before ++ .rateLimited limited cooldown :: between ++ .handshake time :: after →
      (∀ connected, .connected connected ∉ between) → limited + cooldown ≤ time := by
  have holds := (act_preserves fcntl).exec fresh_holds met run
  constructor
  · intro i j first second
    by_contra differ
    exact holds.pair i j differ ⟨(holds.each i).inside (Or.inr first), (holds.each j).inside (Or.inr second)⟩
  · intro before between after limited cooldown time log closed
    have pending : (limited, cooldown) ∈ pendingLimits (before ++ .rateLimited limited cooldown :: between) := by
      rw [List.append_cons]
      apply mem_pendingLimits _ closed
      rw [pendingLimits_rateLimited]
      exact List.mem_append_right _ (List.mem_singleton_self _)
    apply holds.common.spaced _ time _ _ pending
    rw [log]
    exact ⟨after, by simp⟩

/-- A process dies in its cooldown; another one takes the lock and waits. -/
def crashInCooldown : List (Bool × ℚ × Step) :=
  [(true, 0, .construct), (true, 0, .start), (true, 0, .tryAcquire false), (false, 1, .construct),
    (false, 1, .start), (true, 1, .checkCooldown), (false, 2, .tryAcquire false), (true, 2, .run),
    (true, 10, .rateLimited 10 true), (true, 11, .crash), (false, 12, .tryAcquire false),
    (false, 13, .checkCooldown), (false, 80, .checkCooldown), (false, 81, .run)]

theorem one_connection_spaced_crash :
    ∃ pool, exec (Pool.step (MarketFeedConnection.act unset)) fresh crashInCooldown = some pool ∧
      pool.shared.log = [.handshake 2, .rateLimited 10 60, .handshake 81] ∧
      ∀ i j, (pool.thread i).stage = .running → (pool.thread j).stage = .running → i = j := by
  obtain ⟨pool, run, log⟩ := Option.map_eq_some_iff.mp
    (show (exec (Pool.step (MarketFeedConnection.act unset)) fresh crashInCooldown).map (fun pool => pool.shared.log) =
        some [.handshake 2, .rateLimited 10 60, .handshake 81] by decide +kernel)
  exact ⟨pool, run, log, (one_connection_spaced rfl (by decide +kernel) run).1⟩

end Exclusion

section Backoff

variable {config : AdmissionConfig} {host : Host} {connection : MarketFeedConnection} {events : List (ℚ × Step)}

/-- A host with one process, which may die and come again. -/
def alone (config : AdmissionConfig) (state : Host × MarketFeedConnection) (event : ℚ × Step) :
    Option (Host × MarketFeedConnection) :=
  state.2.act config state.1 event

/-- The cooldown file is written, and a connection object is made while the last 429 counts. -/
def Prompt (config : AdmissionConfig) (state : Host × MarketFeedConnection) : ℚ × Step → Prop
  | (_, .rateLimited _ written) => written = true
  | (now, .construct) => ∀ payload ∈ state.1.cooldown, now - payload.recordedAt ≤ config.penaltyWindowSeconds
  | _ => True

instance (config : AdmissionConfig) (state : Host × MarketFeedConnection) : DecidablePred (Prompt config state)
  | (_, .rateLimited _ written) => inferInstanceAs (Decidable (written = true))
  | (now, .construct) =>
    inferInstanceAs (Decidable (∀ payload ∈ state.1.cooldown, now - payload.recordedAt ≤ config.penaltyWindowSeconds))
  | (_, .start) | (_, .tryAcquire _) | (_, .checkCooldown) | (_, .run) | (_, .onConnect) | (_, .ended) | (_, .stop)
  | (_, .giveUp) | (_, .exit) | (_, .crash) => isTrue trivial

/-- The cooldown of the n-th 429 in a row, from 0 on. -/
def backoff (config : AdmissionConfig) (n : Nat) : ℚ := min (config.cooldownSeconds * 2 ^ n) config.cooldownMaxSeconds

/-- The 429s in a row are counted by the file, and by the process that is there. -/
structure Counted (config : AdmissionConfig) (host : Host) (connection : MarketFeedConnection) : Prop where
  cooldowns : (pendingLimits host.log).map Prod.snd = (List.range (pendingLimits host.log).length).map (backoff config)
  file : (host.cooldown.map CooldownPayload.consecutiveRateLimits).getD 0 = (pendingLimits host.log).length
  positive : ∀ payload, host.cooldown = some payload → 0 < payload.consecutiveRateLimits
  streak : connection.stage ≠ .gone →
    connection.admission.consecutiveRateLimits = (pendingLimits host.log).length

theorem Counted.loadPersistedStreak (counted : Counted config host connection) {now : ℚ}
    (prompt : ∀ payload, host.cooldown = some payload → now - payload.recordedAt ≤ config.penaltyWindowSeconds) :
    MarketFeedConnectionAdmission.loadPersistedStreak config host now = (pendingLimits host.log).length := by
  rw [MarketFeedConnectionAdmission.loadPersistedStreak, ← counted.file]
  cases file : host.cooldown with
  | none => rfl
  | some payload =>
    simp only [if_neg (not_lt.mpr (prompt payload file)), if_pos (counted.positive payload file), Option.map_some,
      Option.getD_some]

theorem Counted.same (counted : Counted config host connection) {host' : Host} {connection' : MarketFeedConnection}
    (log : host'.log = host.log) (file : host'.cooldown = host.cooldown)
    (streak : connection'.stage ≠ .gone →
      connection'.admission.consecutiveRateLimits = (pendingLimits host.log).length) :
    Counted config host' connection' :=
  ⟨log ▸ counted.cooldowns, log ▸ file ▸ counted.file, file ▸ counted.positive, log ▸ streak⟩

theorem release_streak (config : AdmissionConfig) (host : Host) (admission : MarketFeedConnectionAdmission) :
    (admission.release config host).2.consecutiveRateLimits = admission.consecutiveRateLimits := by
  rw [MarketFeedConnectionAdmission.release]
  split_ifs <;> rfl

theorem tryAcquire_same (config : AdmissionConfig) (host : Host) (admission : MarketFeedConnectionAdmission)
    (osError : Bool) : (admission.tryAcquire config host osError).1.log = host.log ∧
      (admission.tryAcquire config host osError).1.cooldown = host.cooldown ∧
      (admission.tryAcquire config host osError).2.consecutiveRateLimits = admission.consecutiveRateLimits := by
  rw [MarketFeedConnectionAdmission.tryAcquire]
  split_ifs <;> exact ⟨rfl, rfl, rfl⟩

theorem stage_ne {stage : Stage} (here : connection.stage = stage) (other : stage ≠ .gone) : connection.stage ≠ .gone :=
  here ▸ other

theorem Counted.move {now : ℚ} {step : Step} {host' : Host} {connection' : MarketFeedConnection}
    (counted : Counted config host connection) (prompt : Prompt config (host, connection) (now, step))
    (moved : connection.move config host now step = some (host', connection')) :
    Counted config host' connection' := by
  cases step with
  | construct =>
    obtain ⟨-, rfl, rfl⟩ := guarded moved
    exact counted.same rfl rfl fun _ => counted.loadPersistedStreak prompt
  | start =>
    obtain ⟨off, rfl, rfl⟩ := guarded moved
    exact counted.same rfl rfl fun _ => counted.streak (stage_ne off (by decide))
  | tryAcquire osError =>
    obtain ⟨-, rfl, rfl⟩ := guarded moved
    obtain ⟨log, file, streak⟩ := tryAcquire_same config host connection.admission osError
    exact counted.same log file fun there => streak.trans (counted.streak there)
  | checkCooldown =>
    simp only [MarketFeedConnection.move, Option.ite_none_right_eq_some] at moved
    obtain ⟨⟨idle, -⟩, passed⟩ := moved
    split_ifs at passed <;> cases passed
    · exact counted
    · exact counted.same rfl rfl fun _ => counted.streak (stage_ne idle (by decide))
  | run =>
    obtain ⟨admitted, rfl, rfl⟩ := guarded moved
    have streak := counted.streak (stage_ne admitted (by decide))
    constructor
    · simpa only [pendingLimits_handshake] using counted.cooldowns
    · simpa only [pendingLimits_handshake] using counted.file
    · exact counted.positive
    · simpa only [pendingLimits_handshake] using fun _ => streak
  | onConnect =>
    obtain ⟨-, rfl, rfl⟩ := guarded moved
    constructor <;> simp
  | ended =>
    obtain ⟨running, rfl, rfl⟩ := guarded moved
    exact counted.same rfl rfl fun _ => counted.streak (stage_ne running (by decide))
  | rateLimited recorded written =>
    obtain rfl : written = true := prompt
    obtain ⟨running, rfl, rfl⟩ := guarded moved
    have streak := counted.streak (stage_ne running (by decide))
    constructor
    · simp [List.range_succ, counted.cooldowns, streak, backoff]
    · simp [streak]
    · rintro _ ⟨⟩
      exact Nat.succ_pos _
    · simp [streak]
  | stop =>
    obtain ⟨rfl, rfl⟩ := Prod.mk.inj (Option.some.inj moved)
    exact counted.same rfl rfl counted.streak
  | giveUp =>
    obtain ⟨-, rfl, rfl⟩ := guarded moved
    obtain ⟨log, file⟩ := release_log config host connection
    exact counted.same log file fun there => (release_streak config host _).trans (counted.streak there)
  | exit =>
    obtain ⟨⟨idle, -⟩, rfl, rfl⟩ := guarded moved
    obtain ⟨log, file⟩ := release_log config host connection
    exact counted.same log file fun _ =>
      (release_streak config host _).trans (counted.streak (stage_ne idle (by decide)))
  | crash =>
    obtain ⟨rfl, rfl⟩ := Prod.mk.inj (Option.some.inj moved)
    obtain ⟨log, file⟩ := release_log config host connection
    exact counted.same log file fun there => absurd rfl there

/-- The n-th 429 in a row, over crashes and new connection objects, waits for the n-th cooldown: the base, doubled each
time, up to the ceiling. -/
theorem restarts_keep_backoff {state : Host × MarketFeedConnection}
    (met : Meets (alone config) (Prompt config) ({}, {}) events)
    (run : exec (alone config) ({}, {}) events = some state) :
    (pendingLimits state.1.log).map Prod.snd =
      (List.range (pendingLimits state.1.log).length).map (backoff config) := by
  have preserved (before : Host × MarketFeedConnection) (event : ℚ × Step) (after : Host × MarketFeedConnection)
      (counted : Counted config before.1 before.2) (prompt : Prompt config before event)
      (taken : alone config before event = some after) : Counted config after.1 after.2 := by
    obtain ⟨-, moved⟩ := Option.ite_none_right_eq_some.mp taken
    have later : Counted config { before.1 with clock := event.1 } before.2 := counted.same rfl rfl counted.streak
    exact later.move prompt moved
  have initial : Counted config {} {} := ⟨rfl, rfl, by rintro _ ⟨⟩, fun there => absurd rfl there⟩
  exact (exec_invariant preserved initial met run).cooldowns

def crashBetweenLimits : List (ℚ × Step) :=
  [(0, .construct), (0, .start), (0, .tryAcquire false), (0, .checkCooldown), (1, .run), (2, .rateLimited 2 true),
    (3, .crash), (70, .construct), (70, .start), (70, .tryAcquire false), (71, .checkCooldown), (72, .run),
    (73, .rateLimited 73 true)]

theorem restarts_keep_backoff_crash :
    ∃ state, exec (alone unset) ({}, {}) crashBetweenLimits = some state ∧
      (pendingLimits state.1.log).map Prod.snd = [60, 120] := by
  obtain ⟨state, run, count⟩ := Option.map_eq_some_iff.mp
    (show (exec (alone unset) ({}, {}) crashBetweenLimits).map (fun state => (pendingLimits state.1.log).length) =
      some 2 by decide +kernel)
  refine ⟨state, run, (restarts_keep_backoff (by decide +kernel) run).trans ?_⟩
  rw [count]
  decide +kernel

end Backoff

end TradeX.V1.Admission
