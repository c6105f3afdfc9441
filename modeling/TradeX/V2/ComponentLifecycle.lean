import TradeX.Lib.Runs

/-! Components with a lifecycle, and the manager that initializes, starts and stops them. A hook completes,
raises an `Exception`, or is left by an exception of another kind, which the component does not catch. -/

namespace TradeX.V2

open Lib

inductive ComponentState where
  | UNINITIALIZED
  | INITIALIZED
  | RUNNING
  | STOPPED
  | ERROR
  deriving DecidableEq, Repr

instance : Fintype ComponentState where
  elems := {.UNINITIALIZED, .INITIALIZED, .RUNNING, .STOPPED, .ERROR}
  complete state := by cases state <;> decide

/-- `_TRANSITIONS`. -/
def ComponentState.transitions : ComponentState → List ComponentState
  | UNINITIALIZED => [INITIALIZED, ERROR]
  | INITIALIZED => [RUNNING, ERROR]
  | RUNNING => [STOPPED, ERROR]
  | STOPPED => [INITIALIZED, ERROR]
  | ERROR => []

inductive HookEnd where
  | completes
  | raises
  | escapes
  deriving DecidableEq, Repr

instance : Fintype HookEnd where
  elems := {.completes, .raises, .escapes}
  complete hook := by cases hook <;> decide

/-- What a call of a component raises. -/
inductive ComponentFailure where
  /-- The `LifecycleError` of a transition that is not valid. -/
  | invalid (componentId : String) (state target : ComponentState)
  | hook (how : HookEnd)
  deriving DecidableEq, Repr

structure Component where
  componentId : String
  state : ComponentState := .UNINITIALIZED
  deriving DecidableEq, Repr

namespace Component

variable (component : Component)

/-- `_transition`. -/
def transition (target : ComponentState) : Except ComponentFailure Component :=
  if target ∈ component.state.transitions then .ok { component with state := target }
  else .error (.invalid component.componentId component.state target)

/-- A transition, and the hook that runs in its target; the four calls differ in both only. -/
def call (target : ComponentState) (hook : HookEnd) : Component × Except ComponentFailure Unit :=
  match component.transition target with
  | .error failure => (component, .error failure)
  | .ok moved =>
    match hook with
    | .completes => (moved, .ok ())
    | .raises => ({ moved with state := .ERROR }, .error (.hook .raises))
    | .escapes => (moved, .error (.hook .escapes))

def initializeWith (hook : HookEnd) : Component × Except ComponentFailure Unit := component.call .INITIALIZED hook

def startWith (hook : HookEnd) : Component × Except ComponentFailure Unit := component.call .RUNNING hook

def stopWith (hook : HookEnd) : Component × Except ComponentFailure Unit := component.call .STOPPED hook

def resetWith (hook : HookEnd) : Component × Except ComponentFailure Unit := component.call .INITIALIZED hook

/-- `_enter_error`. -/
def enterError : Component := { component with state := .ERROR }

end Component

/-- The calls of a component, each with the end of its hook. -/
inductive ComponentCall where
  | initializeWith (hook : HookEnd)
  | startWith (hook : HookEnd)
  | stopWith (hook : HookEnd)
  | resetWith (hook : HookEnd)
  | enterError
  deriving DecidableEq, Repr

namespace ComponentCall

/-- The state that a call asks for, and its hook. -/
def asks : ComponentCall → ComponentState × HookEnd
  | initializeWith hook => (.INITIALIZED, hook)
  | startWith hook => (.RUNNING, hook)
  | stopWith hook => (.STOPPED, hook)
  | resetWith hook => (.INITIALIZED, hook)
  | enterError => (.ERROR, .completes)

/-- The state while the hook runs. -/
def during (call : ComponentCall) (state : ComponentState) : ComponentState :=
  if call.asks.1 ∈ state.transitions then call.asks.1 else state

/-- The state after the call. -/
def after (call : ComponentCall) (state : ComponentState) : ComponentState :=
  if call.asks.1 ∈ state.transitions ∧ call.asks.2 = .raises then .ERROR else call.during state

/-- The call completes the hook `_on_initialize`. -/
def initializes (call : ComponentCall) (state : ComponentState) : Bool :=
  call = .initializeWith .completes ∧ ComponentState.INITIALIZED ∈ state.transitions

/-- The call makes an uninitialized component INITIALIZED, and does not complete `_on_initialize`. -/
def bypasses (call : ComponentCall) (state : ComponentState) : Bool :=
  state = .UNINITIALIZED ∧ call.after state = .INITIALIZED ∧ ¬call.initializes state

end ComponentCall

def Component.take (component : Component) : ComponentCall → Component
  | .initializeWith hook => (component.initializeWith hook).1
  | .startWith hook => (component.startWith hook).1
  | .stopWith hook => (component.stopWith hook).1
  | .resetWith hook => (component.resetWith hook).1
  | .enterError => component.enterError

/-- A component, and what it does not keep: whether `_on_initialize` has completed, and whether the component
came to be INITIALIZED past it. -/
structure ComponentRun where
  component : Component
  initialized : Bool := false
  bypassed : Bool := false
  deriving DecidableEq, Repr

namespace ComponentRun

def next (s : ComponentRun) (call : ComponentCall) : ComponentRun where
  component := s.component.take call
  initialized := s.initialized || call.initializes s.component.state
  bypassed := s.bypassed || call.bypasses s.component.state

def step (s : ComponentRun) (call : ComponentCall) : Option ComponentRun := some (s.next call)

/-- The component is RUNNING, while the hook of the call runs or after it, only once it is initialized. -/
def RunningInitialized (s : ComponentRun) (call : ComponentCall) : Prop :=
  call.during s.component.state = .RUNNING ∨ (s.next call).component.state = .RUNNING → (s.next call).initialized = true

/-- A component that came to be INITIALIZED past its hook is not started. -/
def NotBypassed (s : ComponentRun) : ComponentCall → Prop
  | .startWith _ => ¬(s.bypassed = true ∧ s.component.state = .INITIALIZED)
  | _ => True

end ComponentRun

theorem Component.call_state (component : Component) (target : ComponentState) (hook : HookEnd) :
    (component.call target hook).1.state =
      if target ∈ component.state.transitions ∧ hook = .raises then .ERROR
      else if target ∈ component.state.transitions then target else component.state := by
  simp only [call, transition]
  by_cases valid : target ∈ component.state.transitions
  · rw [if_pos valid, if_pos valid]
    cases hook <;> simp [valid]
  · rw [if_neg valid, if_neg valid, if_neg fun both => valid both.1]

theorem Component.take_state (component : Component) (made : ComponentCall) :
    (component.take made).state = made.after component.state := by
  cases made with
  | initializeWith hook => exact component.call_state .INITIALIZED hook
  | startWith hook => exact component.call_state .RUNNING hook
  | stopWith hook => exact component.call_state .STOPPED hook
  | resetWith hook => exact component.call_state .INITIALIZED hook
  | enterError =>
    have always : ∀ state, ComponentCall.after .enterError state = .ERROR := by decide
    exact (always component.state).symm

namespace ComponentRun

/-- What a run knows of a state, as long as no bypassed component was started. -/
def Tracked (state : ComponentState) (initialized bypassed : Bool) : Bool :=
  match state with
  | .UNINITIALIZED => !initialized && !bypassed
  | .INITIALIZED => initialized != bypassed
  | .RUNNING | .STOPPED => initialized && !bypassed
  | .ERROR => true

/-- A bypassed component is started. -/
def startsBypassed (state : ComponentState) (bypassed : Bool) : ComponentCall → Bool
  | .startWith _ => bypassed && state = .INITIALIZED
  | _ => false

/-- The table of the calls: a RUNNING component is initialized exactly where no bypassed one is started. -/
theorem running_table (state : ComponentState) (initialized bypassed : Bool) (call : ComponentCall)
    (tracked : Tracked state initialized bypassed = true) :
    (call.during state = .RUNNING ∨ call.after state = .RUNNING → (initialized || call.initializes state) = true) ↔
      startsBypassed state bypassed call = false := by
  revert state initialized bypassed
  cases call with
  | initializeWith hook => revert hook; decide
  | startWith hook => revert hook; decide
  | stopWith hook => revert hook; decide
  | resetWith hook => revert hook; decide
  | enterError => decide

/-- The table of the calls: what is known of the state is known of the next one. -/
theorem tracked_table (state : ComponentState) (initialized bypassed : Bool) (call : ComponentCall)
    (tracked : Tracked state initialized bypassed = true) (met : startsBypassed state bypassed call = false) :
    Tracked (call.after state) (initialized || call.initializes state) (bypassed || call.bypasses state) = true := by
  revert state initialized bypassed
  cases call with
  | initializeWith hook => revert hook; decide
  | startWith hook => revert hook; decide
  | stopWith hook => revert hook; decide
  | resetWith hook => revert hook; decide
  | enterError => decide

/-- A component as it is constructed. -/
def constructed (componentId : String) : ComponentRun where
  component := { componentId := componentId }

/-- In every run a RUNNING component is initialized exactly where no bypassed one is started. -/
theorem running_initialized_iff (componentId : String) (calls : List ComponentCall) :
    Meets step RunningInitialized (constructed componentId) calls ↔
      Meets step NotBypassed (constructed componentId) calls := by
  have agree : ∀ (s : ComponentRun) call, Tracked s.component.state s.initialized s.bypassed = true →
      (RunningInitialized s call ↔ NotBypassed s call) := by
    intro s call tracked
    have table := running_table s.component.state s.initialized s.bypassed call tracked
    simp only [RunningInitialized, next, Component.take_state]
    rw [table]
    cases call with
    | startWith hook => simp [startsBypassed, NotBypassed]
    | initializeWith hook => exact iff_of_true rfl trivial
    | stopWith hook => exact iff_of_true rfl trivial
    | resetWith hook => exact iff_of_true rfl trivial
    | enterError => exact iff_of_true rfl trivial
  have preserved : ∀ (s : ComponentRun) call t, Tracked s.component.state s.initialized s.bypassed = true →
      RunningInitialized s call → step s call = some t → Tracked t.component.state t.initialized t.bypassed = true := by
    intro s call t tracked running taken
    rw [← Option.some.inj taken]
    have table := running_table s.component.state s.initialized s.bypassed call tracked
    simp only [RunningInitialized, next, Component.take_state] at running ⊢
    exact tracked_table s.component.state s.initialized s.bypassed call tracked (table.mp running)
  exact meets_iff agree preserved rfl

end ComponentRun

/-- The registered components by reference, in the order of their registration. -/
structure LifecycleManager where
  components : List Nat
  deriving DecidableEq, Repr

/-- What a walk of the manager does: the components afterwards, those whose call was made, and how it ended. -/
structure Walk where
  heap : Nat → Component
  called : List Nat := []
  answer : Except ComponentFailure Unit := .ok ()

namespace LifecycleManager

/-- The loop of `stop_all`: the first `stop` that raises ends it. -/
def stopEach (hook : Nat → HookEnd) (heap : Nat → Component) : List Nat → Walk
  | [] => { heap := heap }
  | ref :: refs =>
    if (heap ref).state = .RUNNING then
      let (stopped, answer) := (heap ref).stopWith (hook ref)
      let heap := Function.update heap ref stopped
      match answer with
      | .error failure => { heap := heap, called := [ref], answer := .error failure }
      | .ok () =>
        let later := stopEach hook heap refs
        { later with called := ref :: later.called }
    else stopEach hook heap refs

def stopAll (manager : LifecycleManager) (hook : Nat → HookEnd) (heap : Nat → Component) : Walk :=
  stopEach hook heap manager.components.reverse

/-- The RUNNING components among some, each once, in their order. -/
def running (heap : Nat → Component) (refs : List Nat) : List Nat :=
  (refs.filter fun ref => (heap ref).state = .RUNNING).eraseDups

variable {hook : Nat → HookEnd} {heap : Nat → Component} {ref : Nat} {refs : List Nat}

theorem stopWith_running (component : Component) (hook : HookEnd) (running : component.state = .RUNNING) :
    component.stopWith hook = match hook with
      | .completes => ({ component with state := .STOPPED }, .ok ())
      | .raises => ({ component with state := .ERROR }, .error (.hook .raises))
      | .escapes => ({ component with state := .STOPPED }, .error (.hook .escapes)) := by
  have valid : ComponentState.STOPPED ∈ component.state.transitions := by
    rw [running]
    decide
  simp only [Component.stopWith, Component.call, Component.transition, if_pos valid]

theorem running_skip (idle : (heap ref).state ≠ .RUNNING) : running heap (ref :: refs) = running heap refs := by
  rw [running, running, List.filter_cons_of_neg (by simpa using idle)]

/-- After a RUNNING component come the others. -/
theorem running_cons (here : (heap ref).state = .RUNNING) {stopped : Component} (left : stopped.state ≠ .RUNNING) :
    running heap (ref :: refs) = ref :: running (Function.update heap ref stopped) refs := by
  rw [running, List.filter_cons_of_pos (by simpa using here), List.eraseDups_cons, List.filter_filter, running]
  congr 2
  apply List.filter_congr
  intro other _
  by_cases same : other = ref
  · simp [same, left]
  · simp [same]

theorem forall_dropLast_cons {p : Nat → Prop} : (∀ r ∈ (ref :: refs).dropLast, p r) ↔
    refs = [] ∨ (p ref ∧ ∀ r ∈ refs.dropLast, p r) := by
  cases refs with
  | nil => exact iff_of_true nofun (.inl rfl)
  | cons next refs =>
    rw [List.dropLast_cons_cons, List.forall_mem_cons]
    exact (or_iff_right (List.cons_ne_nil next refs)).symm

/-- The walk calls every RUNNING component once exactly where no hook but the last one raises. -/
theorem stopEach_called_iff : (stopEach hook heap refs).called = running heap refs ↔
    ∀ ref ∈ (running heap refs).dropLast, hook ref = .completes := by
  induction refs generalizing heap with
  | nil => exact iff_of_true rfl nofun
  | cons ref refs ih =>
    by_cases here : (heap ref).state = .RUNNING
    · have stopping := stopWith_running (heap ref) (hook ref) here
      -- A hook that does not complete ends the walk, and there must be no other component.
      have ended : ∀ (stopped : Component) (failure : ComponentFailure), stopped.state ≠ .RUNNING →
          (heap ref).stopWith (hook ref) = (stopped, .error failure) → hook ref ≠ .completes →
          ((stopEach hook heap (ref :: refs)).called = running heap (ref :: refs) ↔
            ∀ other ∈ (running heap (ref :: refs)).dropLast, hook other = .completes) := by
        intro stopped failure left stops raised
        simp only [stopEach, if_pos here, stops]
        rw [running_cons here left, forall_dropLast_cons, List.cons_inj_right, eq_comm]
        exact (or_iff_left fun both => raised both.1).symm
      cases how : hook ref with
      | completes =>
        have stops : (heap ref).stopWith (hook ref) = ({ heap ref with state := .STOPPED }, .ok ()) := by
          rw [stopping, how]
        have left : ({ heap ref with state := .STOPPED } : Component).state ≠ .RUNNING := ComponentState.noConfusion
        simp only [stopEach, if_pos here, stops]
        rw [running_cons here left, forall_dropLast_cons, List.cons_inj_right, ih, and_iff_right how]
        refine (or_iff_right_of_imp fun alone => ?_).symm
        rw [alone]
        nofun
      | raises =>
        have stops : (heap ref).stopWith (hook ref) =
            ({ heap ref with state := .ERROR }, .error (.hook .raises)) := by rw [stopping, how]
        exact ended _ _ ComponentState.noConfusion stops (by rw [how]; exact HookEnd.noConfusion)
      | escapes =>
        have stops : (heap ref).stopWith (hook ref) =
            ({ heap ref with state := .STOPPED }, .error (.hook .escapes)) := by rw [stopping, how]
        exact ended _ _ ComponentState.noConfusion stops (by rw [how]; exact HookEnd.noConfusion)
    · simp only [stopEach, if_neg here, running_skip here]
      exact ih

end LifecycleManager

/-- A component is RUNNING only once it is initialized, in every run that starts no bypassed one, and no other;
and `stop_all` calls the RUNNING components once each in the reverse order of their registration exactly where
no hook but that of the last one raises. -/
theorem lifecycle_iff (componentId : String) (calls : List ComponentCall) (manager : LifecycleManager)
    (hook : Nat → HookEnd) (heap : Nat → Component) :
    (Meets ComponentRun.step ComponentRun.RunningInitialized (ComponentRun.constructed componentId) calls ↔
      Meets ComponentRun.step ComponentRun.NotBypassed (ComponentRun.constructed componentId) calls) ∧
    ((manager.stopAll hook heap).called = LifecycleManager.running heap manager.components.reverse ↔
      ∀ ref ∈ (LifecycleManager.running heap manager.components.reverse).dropLast, hook ref = .completes) :=
  ⟨ComponentRun.running_initialized_iff componentId calls, LifecycleManager.stopEach_called_iff⟩

instance (s : ComponentRun) (call : ComponentCall) : Decidable (s.RunningInitialized call) :=
  inferInstanceAs (Decidable (_ ∨ _ → _))

/-- A component that is reset before it is initialized runs without its hook; and where the second of two
running components raises, the first is not called. -/
theorem lifecycle_fails :
    (¬ ∀ (componentId : String) (calls : List ComponentCall),
      Meets ComponentRun.step ComponentRun.RunningInitialized (ComponentRun.constructed componentId) calls) ∧
    ¬ ∀ (manager : LifecycleManager) (hook : Nat → HookEnd) (heap : Nat → Component),
      (manager.stopAll hook heap).called = LifecycleManager.running heap manager.components.reverse := by
  constructor
  · intro claim
    exact absurd (claim "probe" [.resetWith .completes, .startWith .completes]) (by decide)
  · intro claim
    have called := claim ⟨[0, 1]⟩ (fun ref => if ref = 1 then .raises else .completes) fun _ => ⟨"probe", .RUNNING⟩
    exact absurd called (by decide +kernel)

end TradeX.V2
