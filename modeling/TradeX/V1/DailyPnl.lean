import TradeX.V1.RiskManager
import TradeX.Lib.Runs
import TradeX.Lib.Edges

/-! The daily P&L over a run: the feed that records it and warns of the loss limit, the scheduler that resets it at the
rollover hour, and the check of an order, which resets it where the scheduler has missed a day. Times are in seconds;
every event reads the clock once. The state of the thread, `health` and the metrics are left out. -/

namespace TradeX.V1.DailyPnl

open Lib

/-- The payload of `RISK_LIMIT_BREACHED`; its rule is `max_daily_loss_pct`. -/
structure RiskLimitBreached where
  value : ℚ
  limit : ℚ
  deriving DecidableEq, Repr

/-- The tracker with its flag, the moves it has recorded as losses and the events it has published. -/
structure Feed where
  tracker : DailyPnlTracker := {}
  riskLimitBreachNotified : Bool := false
  losses : List (ℚ × ℚ) := []
  published : List RiskLimitBreached := []
  deriving DecidableEq

structure FeedConfig where
  maxDailyLossPct : ℚ
  /-- There is a callback for the events. -/
  listening : Bool

def riskLimitBreachThreshold : ℚ := 8 / 10

/-- A value is judged where the loss has a budget and someone listens. -/
def FeedConfig.Judges (config : FeedConfig) (capital : ℚ) : Prop :=
  config.listening ∧ 0 < capital ∧ 0 < config.maxDailyLossPct ∧ 0 < capital * (config.maxDailyLossPct / 100)

instance (config : FeedConfig) (capital : ℚ) : Decidable (config.Judges capital) :=
  inferInstanceAs (Decidable (_ ∧ _))

def FeedConfig.Breached (config : FeedConfig) (pnl capital : ℚ) : Prop :=
  riskLimitBreachThreshold ≤ if pnl < 0 then |pnl| / (capital * (config.maxDailyLossPct / 100)) else 0

instance (config : FeedConfig) (pnl capital : ℚ) : Decidable (config.Breached pnl capital) :=
  inferInstanceAs (Decidable (_ ≤ _))

namespace Feed

variable (config : FeedConfig) (feed : Feed)

/-- `_maybe_publish_risk_limit_breach` -/
def maybePublishRiskLimitBreach (pnl capital : ℚ) : Feed :=
  if config.Judges capital then
    if config.Breached pnl capital then
      if feed.riskLimitBreachNotified then feed
      else { feed with
        riskLimitBreachNotified := true
        published := feed.published ++ [⟨pnl, config.maxDailyLossPct⟩] }
    else { feed with riskLimitBreachNotified := false }
  else feed

def update (pnl capital : ℚ) : Feed :=
  let recorded := { feed with
    tracker := { feed.tracker with dailyPnl := pnl }
    losses := feed.losses ++ [(pnl - feed.tracker.dailyPnl, capital)] }
  recorded.maybePublishRiskLimitBreach config pnl capital

def reset (now : ℚ) : Feed := { feed with tracker := feed.tracker.reset now }

/-- What `check_order` does before it reads the daily loss. -/
def selfHeal (now : ℚ) : Feed :=
  if feed.tracker.isStale (istDay now) ∧ feed.tracker.lastResetAt ≠ 0 then feed.reset now else feed

end Feed

/-- The hours that the scheduler accepts. -/
abbrev RolloverHour := { hour : ℤ // 0 ≤ hour ∧ hour ≤ 23 }

def midnight : RolloverHour := ⟨0, by decide⟩

structure ResetScheduler where
  rolloverHour : RolloverHour := midnight
  lastReset : ℚ := 0
  resetCount : Nat := 0
  lastError : Option String := none
  running : Bool := false
  /-- The rollover moments of the log lines `daily_pnl_reset_fired`. -/
  fired : List ℚ := []
  deriving DecidableEq

/-- `_last_rollover_unix` -/
def lastRollover (rolloverHour : RolloverHour) (now : ℚ) : ℚ :=
  let nowIst := now + 19800
  let rolloverToday : ℚ := ⌊nowIst / 86400⌋ * 86400 + rolloverHour.1 * 3600
  if rolloverToday ≤ nowIst then rolloverToday - 19800 else rolloverToday - 86400 - 19800

structure System where
  feed : Feed := {}
  scheduler : ResetScheduler := {}
  clock : ℚ := 0
  /-- When the feed was last updated. -/
  recordedAt : ℚ := 0
  deriving DecidableEq

inductive Action where
  | start
  | stop
  /-- A round of the thread; the reset may raise. -/
  | poll (raised : Option String)
  | update (pnl capital : ℚ)
  | checkOrder
  /-- `reset_daily_pnl` from a script. -/
  | reset
  deriving DecidableEq

namespace System

variable (config : FeedConfig) (system : System)

/-- `_maybe_reset` -/
def maybeReset (now : ℚ) (raised : Option String) : System :=
  if system.scheduler.lastReset < lastRollover system.scheduler.rolloverHour now then
    match raised with
    | some error => { system with scheduler := { system.scheduler with lastError := some error } }
    | none =>
      { system with
        feed := system.feed.reset now
        scheduler := { system.scheduler with
          lastReset := lastRollover system.scheduler.rolloverHour now
          resetCount := system.scheduler.resetCount + 1
          lastError := none
          fired := system.scheduler.fired ++ [lastRollover system.scheduler.rolloverHour now] } }
  else system

def act (now : ℚ) : Action → System
  | .start =>
    if system.scheduler.running then system
    else
      { system with scheduler := { system.scheduler with
          lastReset := lastRollover system.scheduler.rolloverHour now
          running := true } }
  | .stop => { system with scheduler := { system.scheduler with running := false } }
  | .poll raised => if system.scheduler.running then system.maybeReset now raised else system
  | .update pnl capital => { system with feed := system.feed.update config pnl capital, recordedAt := now }
  | .checkOrder => { system with feed := system.feed.selfHeal now }
  | .reset => { system with feed := system.feed.reset now }

/-- The clock does not go back. -/
def step (event : ℚ × Action) : Option System :=
  if system.clock ≤ event.1 then some ({ system with clock := event.1 }.act config event.1 event.2) else none

end System

section Rollovers

variable {hour : RolloverHour} {now later : ℚ}

/-- The rollover moments are a day apart, at the hour in IST. -/
theorem lastRollover_eq (hour : RolloverHour) (now : ℚ) :
    lastRollover hour now =
      ⌊(now + 19800 - hour.1 * 3600) / 86400⌋ * 86400 + hour.1 * 3600 - 19800 := by
  have lower : (0 : ℚ) ≤ hour.1 := by exact_mod_cast hour.2.1
  have upper : (hour.1 : ℚ) ≤ 23 := by exact_mod_cast hour.2.2
  have day := Int.floor_le ((now + 19800) / 86400)
  have day' := Int.lt_floor_add_one ((now + 19800) / 86400)
  rw [le_div_iff₀ (by norm_num)] at day
  rw [div_lt_iff₀ (by norm_num)] at day'
  rw [lastRollover]
  split_ifs with passed
  · have cell : ⌊(now + 19800 - hour.1 * 3600) / 86400⌋ = ⌊(now + 19800) / 86400⌋ := by
      rw [Int.floor_eq_iff, le_div_iff₀ (by norm_num), div_lt_iff₀ (by norm_num)]
      constructor
      · linarith only [passed]
      · linarith only [day', lower]
    rw [cell]
  · have cell : ⌊(now + 19800 - hour.1 * 3600) / 86400⌋ = ⌊(now + 19800) / 86400⌋ - 1 := by
      rw [Int.floor_eq_iff, le_div_iff₀ (by norm_num), div_lt_iff₀ (by norm_num)]
      push_cast
      constructor
      · linarith only [day, upper]
      · linarith only [passed]
    rw [cell]
    push_cast
    ring

theorem lastRollover_le (now : ℚ) :
    lastRollover hour now ≤ now ∧ now < lastRollover hour now + 86400 := by
  have day := Int.floor_le ((now + 19800 - hour.1 * 3600) / 86400)
  have day' := Int.lt_floor_add_one ((now + 19800 - hour.1 * 3600) / 86400)
  rw [le_div_iff₀ (by norm_num)] at day
  rw [div_lt_iff₀ (by norm_num)] at day'
  rw [lastRollover_eq hour]
  constructor
  · linarith only [day]
  · linarith only [day']

theorem lastRollover_mono (order : now ≤ later) :
    lastRollover hour now ≤ lastRollover hour later := by
  rw [lastRollover_eq hour, lastRollover_eq hour]
  have cells : ⌊(now + 19800 - hour.1 * 3600) / 86400⌋ ≤ ⌊(later + 19800 - hour.1 * 3600) / 86400⌋ := by
    apply Int.floor_le_floor
    gcongr
  have cells' : ((⌊(now + 19800 - hour.1 * 3600) / 86400⌋ : ℤ) : ℚ) ≤
      ⌊(later + 19800 - hour.1 * 3600) / 86400⌋ := by exact_mod_cast cells
  linarith only [cells']

theorem lastRollover_idem (now : ℚ) :
    lastRollover hour (lastRollover hour now) = lastRollover hour now := by
  rw [lastRollover_eq hour now, lastRollover_eq hour]
  congr 3
  rw [show (⌊(now + 19800 - hour.1 * 3600) / 86400⌋ * 86400 + hour.1 * 3600 - 19800 + 19800 -
      hour.1 * 3600 : ℚ) / 86400 = ⌊(now + 19800 - hour.1 * 3600) / 86400⌋ by ring]
  rw [Int.floor_intCast]

/-- Between a time and its rollover all times have the same rollover. -/
theorem lastRollover_between (after : lastRollover hour later ≤ now) (before : now ≤ later) :
    lastRollover hour now = lastRollover hour later := by
  apply le_antisymm (lastRollover_mono before)
  rw [← lastRollover_idem later]
  exact lastRollover_mono after

end Rollovers

section Runs

variable {config : FeedConfig} {system next : System} {now : ℚ} {action : Action} {hour : RolloverHour}
  {events : List (ℚ × Action)}

/-- A system that is just opened. -/
def opened (hour : RolloverHour) : System := { scheduler := { rolloverHour := hour } }

theorem step_inv (taken : system.step config (now, action) = some next) :
    system.clock ≤ now ∧ next = { system with clock := now }.act config now action := by
  simp only [System.step, Option.ite_none_right_eq_some] at taken
  exact ⟨taken.1, (Option.some.inj taken.2).symm⟩

@[simp] theorem Feed.update_tracker (feed : Feed) (pnl capital : ℚ) :
    (feed.update config pnl capital).tracker = { feed.tracker with dailyPnl := pnl } := by
  simp only [Feed.update, Feed.maybePublishRiskLimitBreach]
  split_ifs <;> rfl

@[simp] theorem act_clock (system : System) (now : ℚ) (action : Action) :
    (system.act config now action).clock = system.clock := by
  cases action with
  | start =>
    rw [System.act]
    split_ifs <;> rfl
  | poll raised =>
    rw [System.act]
    split_ifs
    · unfold System.maybeReset
      split_ifs
      · cases raised <;> rfl
      · rfl
    · rfl
  | stop | update | checkOrder | reset => rfl

/-- What holds of a system of this rollover hour at any time. -/
structure Sound (hour : RolloverHour) (system : System) : Prop where
  rolloverHour : system.scheduler.rolloverHour = hour
  recordedAt : system.recordedAt ≤ system.clock
  lastResetAt : system.feed.tracker.lastResetAt ≤ system.clock
  -- a value is recorded behind the last reset
  since : system.feed.tracker.dailyPnl ≠ 0 → system.feed.tracker.lastResetAt ≤ system.recordedAt
  behind : system.scheduler.running ∨ system.scheduler.fired ≠ [] →
    system.scheduler.lastReset ≤ lastRollover hour system.clock
  fired : ∀ moment ∈ system.scheduler.fired,
    moment ≤ system.scheduler.lastReset ∧ lastRollover hour moment = moment
  increasing : system.scheduler.fired.Pairwise (· < ·)
  resetCount : system.scheduler.resetCount = system.scheduler.fired.length

theorem opened_sound (hour : RolloverHour) : Sound hour (opened hour) where
  rolloverHour := rfl
  recordedAt := le_refl 0
  lastResetAt := le_refl 0
  since nonzero := absurd rfl nonzero
  behind either := by simp [opened] at either
  fired moment member := by cases member
  increasing := .nil
  resetCount := rfl

theorem Sound.later (sound : Sound hour system) (order : system.clock ≤ now) :
    Sound hour { system with clock := now } :=
  { sound with
    recordedAt := sound.recordedAt.trans order
    lastResetAt := sound.lastResetAt.trans order
    behind := fun either => (sound.behind either).trans (lastRollover_mono order) }

/-- The tracker is reset now, or left alone. -/
theorem Sound.reset (sound : Sound hour system) :
    Sound hour { system with feed := system.feed.reset system.clock } :=
  { sound with
    lastResetAt := le_refl system.clock
    since := fun nonzero => absurd rfl nonzero }

theorem Sound.maybeReset (sound : Sound hour system) (raised : Option String) :
    Sound hour (system.maybeReset system.clock raised) := by
  obtain rfl := sound.rolloverHour
  unfold System.maybeReset
  split_ifs with due
  · cases raised with
    | some error => exact { sound with }
    | none =>
      refine { sound.reset with behind := fun _ => le_refl _, fired := ?_, increasing := ?_, resetCount := ?_ }
      · intro moment member
        rcases List.mem_append.mp member with before | last
        · exact ⟨(sound.fired moment before).1.trans due.le, (sound.fired moment before).2⟩
        · obtain rfl := List.mem_singleton.mp last
          exact ⟨le_refl _, lastRollover_idem _⟩
      · refine List.pairwise_append.mpr ⟨sound.increasing, List.pairwise_singleton _ _, ?_⟩
        intro moment before last member
        obtain rfl := List.mem_singleton.mp member
        exact (sound.fired moment before).1.trans_lt due
      · simp only [List.length_append, List.length_singleton, sound.resetCount]
  · exact sound

theorem Sound.act (sound : Sound hour system) (action : Action) :
    Sound hour (system.act config system.clock action) := by
  cases action with
  | start =>
    rw [System.act]
    split_ifs with running
    · exact sound
    · refine { sound with behind := ?_, fired := ?_ }
      · intro _
        rw [sound.rolloverHour]
      · intro moment member
        have before := sound.behind (Or.inr (List.ne_nil_of_mem member))
        refine ⟨?_, (sound.fired moment member).2⟩
        rw [sound.rolloverHour]
        exact (sound.fired moment member).1.trans before
  | stop =>
    refine { sound with behind := fun either => sound.behind (Or.inr (either.resolve_left Bool.false_ne_true)) }
  | poll raised =>
    rw [System.act]
    split_ifs
    · exact sound.maybeReset raised
    · exact sound
  | update pnl capital =>
    refine { sound with recordedAt := le_refl _, lastResetAt := ?_, since := fun _ => ?_ }
    · rw [System.act, Feed.update_tracker]
      exact sound.lastResetAt
    · rw [System.act, Feed.update_tracker]
      exact sound.lastResetAt
  | checkOrder =>
    rw [System.act, Feed.selfHeal]
    split_ifs
    · exact sound.reset
    · exact sound
  | reset => exact sound.reset

theorem Sound.step (sound : Sound hour system) (taken : system.step config (now, action) = some next) :
    Sound hour next := by
  obtain ⟨order, rfl⟩ := step_inv taken
  exact (sound.later order).act action

theorem run_sound (run : exec (System.step config) system events = some next) (sound : Sound hour system) :
    Sound hour next :=
  exec_invariant (fun _ _ _ sound _ taken => sound.step taken) sound (meets_of_forall fun _ _ => trivial) run

/-- A value that is kept when the scheduler starts is one of the day. -/
def StartsToday (hour : RolloverHour) (system : System) (event : ℚ × Action) : Prop :=
  event.2 = .start → system.scheduler.running ∨ system.feed.tracker.dailyPnl = 0 ∨
    lastRollover hour event.1 ≤ system.recordedAt

instance (hour : RolloverHour) (system : System) : DecidablePred (StartsToday hour system) :=
  fun event => inferInstanceAs (Decidable (event.2 = .start → _))

/-- The value is recorded behind the last rollover that the scheduler knows. -/
def Current (system : System) : Prop :=
  system.scheduler.running → system.feed.tracker.dailyPnl ≠ 0 → system.scheduler.lastReset ≤ system.recordedAt

theorem Current.act (current : Current system) (sound : Sound hour system)
    (today : StartsToday hour system (system.clock, action)) :
    Current (system.act config system.clock action) := by
  cases action with
  | start =>
    rw [System.act]
    split_ifs with running
    · exact current
    · intro _ nonzero
      have kept := ((today rfl).resolve_left running).resolve_left nonzero
      rwa [← sound.rolloverHour] at kept
  | stop => exact fun running => absurd running Bool.false_ne_true
  | poll raised =>
    rw [System.act]
    split_ifs with running
    · unfold System.maybeReset
      split_ifs
      · cases raised with
        | some error => exact current
        | none => exact fun _ nonzero => absurd rfl nonzero
      · exact current
    · exact current
  | update pnl capital =>
    intro running _
    exact (sound.behind (Or.inl running)).trans (lastRollover_le _).1
  | checkOrder =>
    rw [System.act, Feed.selfHeal]
    split_ifs
    · exact fun _ nonzero => absurd rfl nonzero
    · exact current
  | reset => exact fun _ nonzero => absurd rfl nonzero

theorem run_current (run : exec (System.step config) system events = some next)
    (met : Meets (System.step config) (StartsToday hour) system events) (sound : Sound hour system)
    (current : Current system) : Current next := by
  have preserved : ∀ (before : System) event after, Sound hour before ∧ Current before →
      StartsToday hour before event → before.step config event = some after → Sound hour after ∧ Current after := by
    rintro before event after ⟨sound, current⟩ today taken
    refine ⟨sound.step taken, ?_⟩
    obtain ⟨order, rfl⟩ := step_inv taken
    exact Current.act current (sound.later order) today
  exact (exec_invariant preserved ⟨sound, current⟩ met run).2

theorem last_step (run : exec (System.step config) system (events ++ [(now, action)]) = some next) :
    ∃ middle, exec (System.step config) system events = some middle ∧ middle.clock ≤ now ∧
      next = { middle with clock := now }.act config now action := by
  obtain ⟨middle, first, last⟩ := exec_append_inv run
  obtain ⟨_, taken, done⟩ := exec_cons_inv last
  obtain ⟨order, rfl⟩ := step_inv taken
  exact ⟨middle, first, order, (Option.some.inj done).symm⟩

theorem maybeReset_lastReset (behind : system.scheduler.lastReset ≤ lastRollover system.scheduler.rolloverHour now) :
    (system.maybeReset now none).scheduler.lastReset = lastRollover system.scheduler.rolloverHour now := by
  unfold System.maybeReset
  split_ifs with due
  · rfl
  · exact le_antisymm behind (not_lt.mp due)

/-- Two days of a feed with a limit of five percent. -/
def fivePercent : FeedConfig := ⟨5, true⟩

def secondDay : List (ℚ × Action) :=
  [(100000, .start), (150000, .update (-5) 100), (151000, .update (-6) 100), (160000, .poll none),
    (170000, .update (-1) 100), (171000, .update (-7) 100)]

/-- Over a run the moments at which the scheduler resets are distinct rollovers. A round that does not raise leaves no
value behind that was recorded on an earlier day, where the starts of the scheduler kept none. -/
theorem poll_leaves_today (run : exec (System.step config) (opened hour) (events ++ [(now, .poll none)]) = some system)
    (met : Meets (System.step config) (StartsToday hour) (opened hour) (events ++ [(now, .poll none)]))
    (running : system.scheduler.running) :
    system.scheduler.fired.Pairwise (· < ·) ∧ (∀ moment ∈ system.scheduler.fired, lastRollover hour moment = moment) ∧
    system.scheduler.resetCount = system.scheduler.fired.length ∧
    system.scheduler.lastReset = lastRollover hour now ∧
    (system.feed.tracker.dailyPnl ≠ 0 → lastRollover hour system.recordedAt = lastRollover hour now) := by
  have sound := run_sound run (opened_sound hour)
  have current := run_current run met (opened_sound hour) (fun running => absurd running Bool.false_ne_true)
  obtain ⟨middle, first, order, rfl⟩ := last_step run
  have before := (run_sound first (opened_sound hour)).later order
  have on : middle.scheduler.running = true := by
    by_contra off
    rw [System.act, if_neg off] at running
    exact off running
  have reset : (System.act config { middle with clock := now } now (.poll none)).scheduler.lastReset =
      lastRollover hour now := by
    rw [System.act, if_pos on, ← before.rolloverHour]
    apply maybeReset_lastReset
    rw [before.rolloverHour]
    exact before.behind (Or.inl on)
  refine ⟨sound.increasing, fun moment member => (sound.fired moment member).2, sound.resetCount, reset, ?_⟩
  intro counted
  apply lastRollover_between
  · rw [← reset]
    exact current running counted
  · simpa using sound.recordedAt

theorem poll_leaves_today_second :
    ∃ system, exec (System.step fivePercent) (opened midnight) (secondDay ++ [(180000, .poll none)]) = some system ∧
      (system.feed.tracker.dailyPnl, system.scheduler.fired) = (-7, [153000]) ∧
      (system.feed.tracker.dailyPnl ≠ 0 → lastRollover midnight system.recordedAt = lastRollover midnight 180000) := by
  obtain ⟨system, run, ends⟩ := Option.map_eq_some_iff.mp
    (show (exec (System.step fivePercent) (opened midnight) (secondDay ++ [(180000, .poll none)])).map
      (fun system => (system.feed.tracker.dailyPnl, system.scheduler.fired, system.scheduler.running)) =
        some (-7, [153000], true) by decide +kernel)
  obtain ⟨value, fired, running⟩ := Prod.mk.inj ends |>.imp id Prod.mk.inj
  have left := poll_leaves_today run (by decide +kernel) running
  exact ⟨system, run, Prod.ext value fired, left.2.2.2.2⟩

/-- The updates that are judged, each with the capital. -/
def judged (config : FeedConfig) (actions : List Action) : List (ℚ × ℚ) :=
  actions.filterMap fun
    | .update pnl capital => if config.Judges capital then some (pnl, capital) else none
    | _ => none

theorem judged_cons (action : Action) (actions : List Action) :
    judged config (action :: actions) = judged config [action] ++ judged config actions := by
  rw [← List.singleton_append, judged, List.filterMap_append]
  rfl

def Warns (config : FeedConfig) (update : ℚ × ℚ) : Prop := config.Breached update.1 update.2

instance (config : FeedConfig) : DecidablePred (Warns config) :=
  fun update => inferInstanceAs (Decidable (config.Breached update.1 update.2))

/-- What a feed has published of the updates that it has judged. -/
structure Warned (config : FeedConfig) (seen : List (ℚ × ℚ)) (feed : Feed) : Prop where
  published : feed.published = (rises (Warns config) seen).map fun update => ⟨update.1, config.maxDailyLossPct⟩
  notified : feed.riskLimitBreachNotified = lastFrom (Warns config) false seen

theorem Warned.update {seen : List (ℚ × ℚ)} {feed : Feed} (warned : Warned config seen feed) (pnl capital : ℚ) :
    Warned config (seen ++ judged config [.update pnl capital]) (feed.update config pnl capital) := by
  rw [Feed.update, Feed.maybePublishRiskLimitBreach]
  by_cases judges : config.Judges capital
  · have told : judged config [.update pnl capital] = [(pnl, capital)] := by
      simp [judged, judges]
    rw [told, if_pos judges]
    by_cases breached : config.Breached pnl capital
    · have warns : Warns config (pnl, capital) := breached
      rw [if_pos breached]
      by_cases before : feed.riskLimitBreachNotified = true
      · have edge := warned.notified.symm.trans before
        rw [if_pos before]
        refine ⟨?_, ?_⟩
        · simpa [rises, risesFrom_concat, edge] using warned.published
        · rw [lastFrom_concat, decide_eq_true warns]
          exact before
      · have edge := warned.notified.symm.trans (Bool.eq_false_of_not_eq_true before)
        rw [if_neg before]
        refine ⟨?_, ?_⟩
        · have published := warned.published
          simp only [rises] at published
          simp [rises, risesFrom_concat, edge, warns, published]
        · rw [lastFrom_concat, decide_eq_true warns]
    · have calm : ¬Warns config (pnl, capital) := breached
      rw [if_neg breached]
      refine ⟨?_, ?_⟩
      · simpa [rises, risesFrom_concat, calm] using warned.published
      · rw [lastFrom_concat, decide_eq_false calm]
  · have untold : judged config [.update pnl capital] = [] := by
      simp [judged, judges]
    rw [untold, if_neg judges, List.append_nil]
    exact ⟨warned.published, warned.notified⟩

theorem Warned.act {seen : List (ℚ × ℚ)} (warned : Warned config seen system.feed) (now : ℚ) (action : Action) :
    Warned config (seen ++ judged config [action]) (system.act config now action).feed := by
  have same : Warned config (seen ++ []) system.feed := by
    rwa [List.append_nil]
  have reset : Warned config (seen ++ []) (system.feed.reset now) := ⟨same.published, same.notified⟩
  cases action with
  | start =>
    rw [System.act]
    split_ifs
    · exact same
    · exact same
  | stop => exact same
  | poll raised =>
    rw [System.act]
    split_ifs
    · unfold System.maybeReset
      split_ifs
      · cases raised with
        | some error => exact same
        | none => exact reset
      · exact same
    · exact same
  | update pnl capital => exact warned.update pnl capital
  | checkOrder =>
    rw [System.act, Feed.selfHeal]
    split_ifs
    · exact reset
    · exact same
  | reset => exact reset

theorem run_warned {seen : List (ℚ × ℚ)} (run : exec (System.step config) system events = some next)
    (warned : Warned config seen system.feed) :
    Warned config (seen ++ judged config (events.map Prod.snd)) next.feed := by
  induction events generalizing system seen with
  | nil =>
    obtain rfl := Option.some.inj run
    rwa [List.map_nil, judged, List.filterMap_nil, List.append_nil]
  | cons event events ih =>
    obtain ⟨middle, taken, rest⟩ := exec_cons_inv run
    obtain ⟨order, rfl⟩ := step_inv taken
    have timed : Warned config seen { system with clock := event.1 }.feed := warned
    have acted := ih rest (timed.act event.1 event.2)
    rwa [List.append_assoc, ← judged_cons, ← List.map_cons] at acted

/-- Over a run a warning is published for each judged update that is in breach where the judged update before it was
not, whatever is reset in between. -/
theorem warnings_published (run : exec (System.step config) (opened hour) events = some system) :
    system.feed.published = (rises (Warns config) (judged config (events.map Prod.snd))).map fun update =>
      ⟨update.1, config.maxDailyLossPct⟩ := by
  have start : Warned config [] (opened hour).feed := ⟨rfl, rfl⟩
  exact (run_warned run start).published

theorem warnings_published_second :
    ∃ system, exec (System.step fivePercent) (opened midnight) secondDay = some system ∧
      system.feed.published = [⟨-5, 5⟩, ⟨-7, 5⟩] := by
  obtain ⟨system, run⟩ := Option.isSome_iff_exists.mp
    (show (exec (System.step fivePercent) (opened midnight) secondDay).isSome by decide +kernel)
  have published := warnings_published run
  refine ⟨system, run, published.trans ?_⟩
  decide +kernel

end Runs

end TradeX.V1.DailyPnl
