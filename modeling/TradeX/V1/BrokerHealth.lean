import TradeX.Lib.Dict
import TradeX.Lib.KeyedFold

/-! The broker health monitor. What it keeps of a broker, counters and a window that are updated call by call, is
computed anew here from the calls of the broker since it was last reset. Latencies and rates are exact numbers. -/

namespace TradeX.V1.Health

open Lib

inductive CircuitState where
  | healthy
  | unhealthy
  deriving DecidableEq, Repr

structure BrokerHealthStatus where
  lastSuccessfulCall : Option ℚ := none
  consecutiveFailures : Nat := 0
  circuitState : CircuitState := .healthy
  lastHealthCheck : ℚ := 0
  errorRate : ℚ := 0
  latencyP50Ms : ℚ := 0
  totalCalls : Nat := 0
  totalFailures : Nat := 0
  deriving DecidableEq, Repr

structure OutcomeRecord where
  success : Bool
  latencyMs : ℚ
  timestamp : ℚ
  deriving DecidableEq, Repr

/-- The settings; a threshold that is not positive is refused. -/
structure HealthConfig where
  failureThreshold : Nat := 5
  windowSize : Nat := 100
  positive : 0 < failureThreshold

structure BrokerHealthMonitor where
  health : Dict String BrokerHealthStatus := ∅
  windows : Dict String (List OutcomeRecord) := ∅

/-- `append` of a deque of this greatest length. -/
def appendBounded {α : Type u} (size : Nat) (window : List α) (a : α) : List α :=
  (window ++ [a]).drop ((window ++ [a]).length - size)

/-- The middle of the sorted values, or the mean of the two in the middle; 0 of none. -/
def median (values : List ℚ) : ℚ :=
  let sorted := sortedBy id values
  let mid := sorted.length / 2
  if sorted = [] then 0
  else if sorted.length % 2 = 0 then (sorted.getD (mid - 1) 0 + sorted.getD mid 0) / 2
  else sorted.getD mid 0

def failuresIn (window : List OutcomeRecord) : Nat := window.countP fun record => !record.success

/-- `_recompute_stats` -/
def BrokerHealthStatus.recomputeStats (status : BrokerHealthStatus) (window : List OutcomeRecord) :
    BrokerHealthStatus :=
  if window = [] then status
  else { status with
    errorRate := failuresIn window / window.length
    latencyP50Ms := median ((window.map OutcomeRecord.latencyMs).filter fun latency => 0 < latency) }

namespace BrokerHealthMonitor

variable (config : HealthConfig) (monitor : BrokerHealthMonitor)

/-- `_ensure` -/
def ensure (broker : String) : BrokerHealthStatus := (monitor.health.get broker).getD {}

/-- `_ensure_window` -/
def ensureWindow (broker : String) : List OutcomeRecord := (monitor.windows.get broker).getD []

/-- The window with the record, and the status with the statistics of it. -/
def file (broker : String) (status : BrokerHealthStatus) (record : OutcomeRecord) : BrokerHealthMonitor :=
  let appended := appendBounded config.windowSize (monitor.ensureWindow broker) record
  let window := if config.windowSize < appended.length then appended.tail else appended
  { health := monitor.health.set broker (status.recomputeStats window)
    windows := monitor.windows.set broker window }

def recordSuccess (broker : String) (latencyMs now : ℚ) : BrokerHealthMonitor :=
  let status := monitor.ensure broker
  monitor.file config broker
    { status with
      lastSuccessfulCall := some now
      consecutiveFailures := 0
      circuitState := .healthy
      lastHealthCheck := now
      totalCalls := status.totalCalls + 1 }
    ⟨true, latencyMs, now⟩

def recordFailure (broker : String) (latencyMs now : ℚ) : BrokerHealthMonitor :=
  let status := monitor.ensure broker
  monitor.file config broker
    { status with
      consecutiveFailures := status.consecutiveFailures + 1
      lastHealthCheck := now
      totalCalls := status.totalCalls + 1
      totalFailures := status.totalFailures + 1
      circuitState :=
        if config.failureThreshold ≤ status.consecutiveFailures + 1 then .unhealthy else status.circuitState }
    ⟨false, latencyMs, now⟩

/-- A broker that was never seen is healthy. -/
def isHealthy (broker : String) : Bool :=
  match monitor.health.get broker with
  | none => true
  | some status => status.circuitState = .healthy

/-- `any_healthy`, over the tracked brokers where none are given. -/
def anyHealthy (brokers : Option (List String)) : Bool :=
  let targets := brokers.getD monitor.health.keys
  if targets = [] then false else targets.any monitor.isHealthy

def reset : Option String → BrokerHealthMonitor
  | some broker => { health := monitor.health.pop broker, windows := monitor.windows.pop broker }
  | none => {}

end BrokerHealthMonitor

inductive Call where
  | recordSuccess (broker : String) (latencyMs now : ℚ)
  | recordFailure (broker : String) (latencyMs now : ℚ)
  | reset (broker : Option String)

def act (config : HealthConfig) (monitor : BrokerHealthMonitor) : Call → BrokerHealthMonitor
  | .recordSuccess broker latencyMs now => monitor.recordSuccess config broker latencyMs now
  | .recordFailure broker latencyMs now => monitor.recordFailure config broker latencyMs now
  | .reset broker => monitor.reset broker

/-- The outcomes of a broker behind a call. -/
def outcomesBehind (broker : String) (outcomes : List OutcomeRecord) : Call → List OutcomeRecord
  | .recordSuccess other latencyMs now => if broker = other then outcomes ++ [⟨true, latencyMs, now⟩] else outcomes
  | .recordFailure other latencyMs now => if broker = other then outcomes ++ [⟨false, latencyMs, now⟩] else outcomes
  | .reset (some other) => if broker = other then [] else outcomes
  | .reset none => []

/-- The outcomes of a broker since it was last reset. -/
def outcomesOf (broker : String) (calls : List Call) : List OutcomeRecord := calls.foldl (outcomesBehind broker) []

def recent (size : Nat) (outcomes : List OutcomeRecord) : List OutcomeRecord := outcomes.drop (outcomes.length - size)

/-- The failures behind the last success. -/
def trailingFailures (outcomes : List OutcomeRecord) : Nat :=
  (outcomes.reverse.takeWhile fun record => !record.success).length

/-- The status of a broker with these outcomes. -/
def statusOf (config : HealthConfig) (outcomes : List OutcomeRecord) : BrokerHealthStatus where
  lastSuccessfulCall := ((outcomes.filter OutcomeRecord.success).getLast?).map OutcomeRecord.timestamp
  consecutiveFailures := trailingFailures outcomes
  circuitState := if config.failureThreshold ≤ trailingFailures outcomes then .unhealthy else .healthy
  lastHealthCheck := (outcomes.getLast?.map OutcomeRecord.timestamp).getD 0
  errorRate := failuresIn (recent config.windowSize outcomes) / (recent config.windowSize outcomes).length
  latencyP50Ms := median
    (((recent config.windowSize outcomes).map OutcomeRecord.latencyMs).filter fun latency => 0 < latency)
  totalCalls := outcomes.length
  totalFailures := failuresIn outcomes

section Windows

variable {size : Nat} {outcomes : List OutcomeRecord} {record : OutcomeRecord}

theorem length_recent (size : Nat) (outcomes : List OutcomeRecord) :
    (recent size outcomes).length = min size outcomes.length := by
  simp only [recent, List.length_drop]
  omega

/-- A bounded window of the outcomes stays one. -/
theorem appendBounded_recent (size : Nat) (outcomes : List OutcomeRecord) (record : OutcomeRecord) :
    appendBounded size (recent size outcomes) record = recent size (outcomes ++ [record]) := by
  have front : outcomes.length - size ≤ outcomes.length := Nat.sub_le _ _
  rw [appendBounded, recent, ← List.drop_append_of_le_length front, List.drop_drop, recent]
  congr 1
  simp only [List.length_drop, List.length_append, List.length_singleton]
  omega

theorem failuresIn_concat : failuresIn (outcomes ++ [record]) =
    failuresIn outcomes + if record.success then 0 else 1 := by
  cases success : record.success <;> simp [failuresIn, success]

theorem trailingFailures_concat : trailingFailures (outcomes ++ [record]) =
    if record.success then 0 else trailingFailures outcomes + 1 := by
  cases success : record.success <;> simp [trailingFailures, success]

theorem recomputeStats_recent {status : BrokerHealthStatus} (nonempty : outcomes ≠ [])
    (unset : size = 0 → status.errorRate = 0 ∧ status.latencyP50Ms = 0) :
    status.recomputeStats (recent size outcomes) = { status with
      errorRate := failuresIn (recent size outcomes) / (recent size outcomes).length
      latencyP50Ms := median
        (((recent size outcomes).map OutcomeRecord.latencyMs).filter fun latency => 0 < latency) } := by
  rw [BrokerHealthStatus.recomputeStats]
  split_ifs with empty
  · have none : size = 0 := by
      have count := length_recent size outcomes
      have some_ := List.length_pos_iff.mpr nonempty
      rw [empty, List.length_nil] at count
      omega
    obtain ⟨rate, latency⟩ := unset none
    obtain ⟨_, _, _, _, _, _, _, _⟩ := status
    obtain rfl : _ = (0 : ℚ) := rate
    obtain rfl : _ = (0 : ℚ) := latency
    simp [empty, median, sortedBy, failuresIn]
  · rfl

end Windows

section Runs

variable {config : HealthConfig} {monitor : BrokerHealthMonitor} {broker other : String} {outcomes : List OutcomeRecord}
  {record : OutcomeRecord} {calls : List Call}

/-- What the monitor keeps of a broker with these outcomes. -/
structure Follows (config : HealthConfig) (monitor : BrokerHealthMonitor) (broker : String)
    (outcomes : List OutcomeRecord) : Prop where
  health : monitor.health.get broker = if outcomes = [] then none else some (statusOf config outcomes)
  window : monitor.windows.get broker = if outcomes = [] then none else some (recent config.windowSize outcomes)

theorem statusOf_nil (config : HealthConfig) : statusOf config [] = {} := by
  have positive := config.positive
  simp [statusOf, trailingFailures, recent, failuresIn, median, sortedBy, positive.ne']

theorem Follows.ensure (follows : Follows config monitor broker outcomes) :
    monitor.ensure broker = statusOf config outcomes := by
  rw [BrokerHealthMonitor.ensure, follows.health]
  split_ifs with none
  · rw [none, statusOf_nil, Option.getD_none]
  · rw [Option.getD_some]

theorem Follows.ensureWindow (follows : Follows config monitor broker outcomes) :
    monitor.ensureWindow broker = recent config.windowSize outcomes := by
  rw [BrokerHealthMonitor.ensureWindow, follows.window]
  split_ifs with none
  · rw [none, Option.getD_none, recent, List.drop_nil]
  · rw [Option.getD_some]

/-- A call is filed for its broker. -/
theorem Follows.file (follows : Follows config monitor broker outcomes) {status : BrokerHealthStatus}
    (next : status.recomputeStats (recent config.windowSize (outcomes ++ [record])) =
      statusOf config (outcomes ++ [record])) :
    Follows config (monitor.file config broker status record) broker (outcomes ++ [record]) := by
  have bounded : ¬config.windowSize < (recent config.windowSize (outcomes ++ [record])).length := by
    rw [length_recent]
    exact not_lt.mpr (min_le_left _ _)
  simp only [BrokerHealthMonitor.file, follows.ensureWindow, appendBounded_recent, if_neg bounded, next]
  exact ⟨by simp, by simp⟩

theorem Follows.file_other (follows : Follows config monitor broker outcomes) (differ : broker ≠ other)
    (status : BrokerHealthStatus) (record : OutcomeRecord) :
    Follows config (monitor.file config other status record) broker outcomes where
  health := by
    rw [← follows.health, BrokerHealthMonitor.file, Dict.get_set_other _ _ _ _ differ]
  window := by
    rw [← follows.window, BrokerHealthMonitor.file, Dict.get_set_other _ _ _ _ differ]

theorem statusOf_concat (config : HealthConfig) (outcomes : List OutcomeRecord) (record : OutcomeRecord)
    (status : BrokerHealthStatus)
    (same : { status with errorRate := 0, latencyP50Ms := 0 } =
      { statusOf config (outcomes ++ [record]) with errorRate := 0, latencyP50Ms := 0 })
    (unset : config.windowSize = 0 → status.errorRate = 0 ∧ status.latencyP50Ms = 0) :
    status.recomputeStats (recent config.windowSize (outcomes ++ [record])) =
      statusOf config (outcomes ++ [record]) := by
  rw [recomputeStats_recent (by simp) unset]
  simp only [BrokerHealthStatus.mk.injEq] at same ⊢
  simp [same, statusOf]

theorem statusOf_unset (windowless : config.windowSize = 0) (outcomes : List OutcomeRecord) :
    (statusOf config outcomes).errorRate = 0 ∧ (statusOf config outcomes).latencyP50Ms = 0 := by
  have none : recent 0 outcomes = [] := by
    rw [recent, Nat.sub_zero, List.drop_length]
  simp [statusOf, windowless, none, median, sortedBy, failuresIn]

theorem Follows.recordSuccess (follows : Follows config monitor broker outcomes) (latencyMs now : ℚ) :
    Follows config (monitor.recordSuccess config broker latencyMs now) broker
      (outcomes ++ [⟨true, latencyMs, now⟩]) := by
  rw [BrokerHealthMonitor.recordSuccess, follows.ensure]
  apply follows.file
  apply statusOf_concat
  · have positive := config.positive
    simp [statusOf, trailingFailures_concat, failuresIn_concat, positive.ne']
  · exact fun windowless => statusOf_unset windowless outcomes

theorem Follows.recordFailure (follows : Follows config monitor broker outcomes) (latencyMs now : ℚ) :
    Follows config (monitor.recordFailure config broker latencyMs now) broker
      (outcomes ++ [⟨false, latencyMs, now⟩]) := by
  rw [BrokerHealthMonitor.recordFailure, follows.ensure]
  apply follows.file
  apply statusOf_concat
  · have grows : (if config.failureThreshold ≤ trailingFailures outcomes + 1 then CircuitState.unhealthy
        else (statusOf config outcomes).circuitState) =
        if config.failureThreshold ≤ trailingFailures outcomes + 1 then .unhealthy else .healthy := by
      split_ifs with reached
      · rfl
      · exact if_neg fun before => reached (Nat.le_succ_of_le before)
    simp [statusOf, trailingFailures_concat, failuresIn_concat] at grows ⊢
    exact grows
  · exact fun windowless => statusOf_unset windowless outcomes

theorem Follows.act (follows : Follows config monitor broker outcomes) (call : Call) :
    Follows config (act config monitor call) broker (outcomesBehind broker outcomes call) := by
  cases call with
  | recordSuccess other latencyMs now =>
    by_cases same : broker = other
    · subst same
      rw [outcomesBehind, if_pos rfl]
      exact follows.recordSuccess latencyMs now
    · rw [outcomesBehind, if_neg same]
      exact follows.file_other same _ _
  | recordFailure other latencyMs now =>
    by_cases same : broker = other
    · subst same
      rw [outcomesBehind, if_pos rfl]
      exact follows.recordFailure latencyMs now
    · rw [outcomesBehind, if_neg same]
      exact follows.file_other same _ _
  | reset target =>
    cases target with
    | none => exact ⟨rfl, rfl⟩
    | some other =>
      by_cases same : broker = other
      · subst same
        rw [outcomesBehind, if_pos rfl]
        exact ⟨by simp [Health.act, BrokerHealthMonitor.reset, Dict.get_pop], by
          simp [Health.act, BrokerHealthMonitor.reset, Dict.get_pop]⟩
      · rw [outcomesBehind, if_neg same]
        exact ⟨follows.health ▸ Dict.get_pop_other _ _ _ same, follows.window ▸ Dict.get_pop_other _ _ _ same⟩

theorem run_follows (follows : Follows config monitor broker outcomes) (calls : List Call) :
    Follows config (calls.foldl (act config) monitor) broker (calls.foldl (outcomesBehind broker) outcomes) := by
  induction calls generalizing monitor outcomes with
  | nil => exact follows
  | cons call calls ih => exact ih (follows.act call)

theorem health_of_run (config : HealthConfig) (calls : List Call) (broker : String) :
    (calls.foldl (act config) {}).health.get broker =
      if outcomesOf broker calls = [] then none else some (statusOf config (outcomesOf broker calls)) := by
  have follows : Follows config {} broker [] := ⟨rfl, rfl⟩
  exact (run_follows follows calls).health

theorem isHealthy_iff (config : HealthConfig) (calls : List Call) (broker : String) :
    (calls.foldl (act config) {}).isHealthy broker ↔
      trailingFailures (outcomesOf broker calls) < config.failureThreshold := by
  rw [BrokerHealthMonitor.isHealthy, health_of_run]
  split_ifs with none
  · simpa [none, trailingFailures] using config.positive
  · simp [statusOf]

theorem mem_keys_iff (config : HealthConfig) (calls : List Call) (broker : String) :
    broker ∈ (calls.foldl (act config) {}).health.keys ↔ outcomesOf broker calls ≠ [] := by
  constructor
  · intro tracked none
    obtain ⟨⟨_, status⟩, member, rfl⟩ := List.mem_map.mp tracked
    have found := Dict.get_eq_some.mpr member
    rw [health_of_run, if_pos none] at found
    cases found
  · intro some_
    apply Dict.mem_keys
    rw [health_of_run, if_neg some_]

/-- What the monitor tells of a broker, over any calls, is the status of the broker's outcomes since its last reset.
Some broker is healthy where one of those asked for, or of those with outcomes, has failed less often than the
threshold behind its last success. -/
theorem status_of_outcomes (config : HealthConfig) (calls : List Call) :
    (∀ broker, (calls.foldl (act config) {}).health.get broker =
      if outcomesOf broker calls = [] then none else some (statusOf config (outcomesOf broker calls))) ∧
    (∀ brokers, (calls.foldl (act config) {}).anyHealthy (some brokers) ↔
      ∃ broker ∈ brokers, trailingFailures (outcomesOf broker calls) < config.failureThreshold) ∧
    ((calls.foldl (act config) {}).anyHealthy none ↔
      ∃ broker, outcomesOf broker calls ≠ [] ∧
        trailingFailures (outcomesOf broker calls) < config.failureThreshold) := by
  have any (monitor : BrokerHealthMonitor) (brokers : Option (List String)) :
      monitor.anyHealthy brokers ↔ ∃ broker ∈ brokers.getD monitor.health.keys, monitor.isHealthy broker := by
    rw [BrokerHealthMonitor.anyHealthy]
    split_ifs with empty
    · simp [empty]
    · exact List.any_eq_true
  refine ⟨health_of_run config calls, fun brokers => ?_, ?_⟩
  · simp only [any, Option.getD_some, isHealthy_iff]
  · simp only [any, Option.getD_none, isHealthy_iff, mem_keys_iff]

/-- A broker fails, recovers and fails again with a threshold of two. -/
example : statusOf ⟨2, 3, by decide⟩ (outcomesOf "dhan" [.recordFailure "dhan" 4 1, .recordSuccess "dhan" 2 2,
    .recordFailure "upstox" 9 3, .recordFailure "dhan" 0 4, .recordFailure "dhan" 8 5]) =
      ⟨some 2, 2, .unhealthy, 5, 2 / 3, 5, 4, 3⟩ := by
  decide +kernel

end Runs

end TradeX.V1.Health
