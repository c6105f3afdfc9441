import TradeX.V2.Engine

/-! How often a correlation id reaches the fill source. The adapter answers a
reserved id without an order the way it answers a new one, so the second call
is stopped only where the risk manager denies it. -/

namespace TradeX.V2

open Lib

namespace Session

/-- A call for an id that is pending, or completed without an order, is denied. -/
def settled (s : Session) : Event → Prop
  | .call command =>
    s.engine.guard.unanswered command.correlationId = true → (s.engine.check command).approved = false
  | _ => True

instance (s : Session) : (event : Event) → Decidable (s.settled event)
  | .call command => inferInstanceAs (Decidable
      (s.engine.guard.unanswered command.correlationId = true → (s.engine.check command).approved = false))
  | .fillReturns _ | .fillRaises | .publishReturns | .publishRaises | .activateKillSwitch _
  | .resetKillSwitch => isTrue trivial

/-- The correlation ids handed to the fill source, latest first. -/
def sentIds (s : Session) : List CorrelationId := s.sent.map fun sent => sent.command.correlationId

/-- Every command handed to the fill source had a new correlation id. -/
def OnlyNew (s : Session) : Prop := ∀ sent ∈ s.sent, sent.status = .NEW

variable {s t : Session} {event : Event} {es : List Event} {command : PlaceOrderCommand}

/-- A call that reaches the fill source is settled exactly when its id is new. -/
theorem settled_filling (filling : (s.engine.begin command).2 = .filling) :
    s.settled (.call command) ↔ s.engine.guard.status command.correlationId = .NEW := by
  obtain ⟨noOrder, approved⟩ := Engine.begin_filling.mp filling
  have unanswered : s.engine.guard.unanswered command.correlationId = true ↔
      s.engine.guard.reserved command.correlationId := by
    rw [IdempotencyGuard.unanswered_iff]
    exact and_iff_left noOrder
  simp only [settled, unanswered, approved, Bool.true_eq_false, imp_false,
    IdempotencyGuard.status_new]

/-- A call that does not reach the fill source is settled. -/
theorem settled_of_not_filling (stopped : ∀ command, event = .call command →
    (s.engine.begin command).2 ≠ .filling) : s.settled event := by
  cases event with
  | call command =>
    intro unanswered
    have noOrder := (IdempotencyGuard.unanswered_iff.mp unanswered).2
    have stops := stopped command rfl
    rw [Ne, Engine.begin_filling, not_and, Bool.not_eq_true] at stops
    exact stops noOrder
  | _ => trivial

theorem onlyNew_step (taken : s.step event = some t) :
    t.OnlyNew ↔ s.OnlyNew ∧ s.settled event := by
  rcases step_cases taken with ⟨command, rfl, filling, sent, -, -⟩ | ⟨stopped, sent, -⟩
  · rw [settled_filling filling]
    unfold OnlyNew
    simp only [sent, List.forall_mem_cons]
    exact and_comm
  · have settled := settled_of_not_filling stopped
    unfold OnlyNew
    simp only [sent, settled, and_true]

theorem onlyNew_run (run : exec step s es = some t) :
    t.OnlyNew ↔ s.OnlyNew ∧ Meets step settled s es := by
  induction es generalizing s with
  | nil =>
    cases run
    simp only [Meets, and_true]
  | cons event es ih =>
    obtain ⟨middle, taken, rest⟩ := exec_cons_inv run
    rw [ih rest, onlyNew_step taken, meets_cons taken, and_assoc]

/-- Every id the fill source saw is reserved, and it saw no id twice. -/
structure Once (s : Session) : Prop where
  reserved : ∀ id ∈ s.sentIds, s.engine.guard.reserved id
  distinct : s.sentIds.Nodup

theorem Once.step (once : s.Once) (settled : s.settled event) (taken : s.step event = some t) :
    t.Once := by
  rcases step_cases taken with ⟨command, rfl, filling, sent, reserves, keeps⟩ | ⟨-, sent, keeps⟩
  · have fresh := IdempotencyGuard.status_new.mp ((settled_filling filling).mp settled)
    have ids : t.sentIds = command.correlationId :: s.sentIds := by
      unfold sentIds
      rw [sent, List.map_cons]
    refine ⟨?_, ?_⟩
    · rw [ids, List.forall_mem_cons]
      exact ⟨reserves, fun id member => keeps id (once.reserved id member)⟩
    · rw [ids, List.nodup_cons]
      exact ⟨fun member => fresh (once.reserved _ member), once.distinct⟩
  · have ids : t.sentIds = s.sentIds := by
      unfold sentIds
      rw [sent]
    refine ⟨?_, ?_⟩
    · rw [ids]
      exact fun id member => keeps id (once.reserved id member)
    · rw [ids]
      exact once.distinct

theorem once_start (risk : RiskManager) : (start risk).Once where
  reserved := by simp [start, sentIds]
  distinct := List.nodup_nil

/-- Over every run of a fresh engine, whatever nests and whatever raises: each
correlation id reaches the fill source at most once and only while it is new,
exactly when every step of the run is settled. -/
theorem fill_source_once_iff_settled (risk : RiskManager) (es : List Event) (t : Session)
    (run : exec step (start risk) es = some t) :
    (t.sentIds.Nodup ∧ t.OnlyNew) ↔ Meets step settled (start risk) es := by
  have onlyNew := onlyNew_run run
  have initial : (start risk).OnlyNew := by simp [start, OnlyNew]
  constructor
  · rintro ⟨-, new⟩
    exact (onlyNew.mp new).2
  · intro met
    have once : t.Once :=
      exec_invariant (fun _ _ _ once settled taken => once.step settled taken) (once_start risk) met run
    exact ⟨once.distinct, onlyNew.mpr ⟨initial, met⟩⟩

/-- A limit order of ten under the default risk configuration. -/
def buyTen : PlaceOrderCommand where
  instrumentId := ⟨"NSE:RELIANCE"⟩
  side := .BUY
  orderType := .LIMIT
  quantity := 10
  price := some 100
  timeInForce := .DAY
  correlationId := ⟨"6f1c"⟩

theorem fill_source_once_after_raise :
    ∃ t, exec step (start (riskFromConfig {})) [.call buyTen, .fillRaises] = some t ∧
      t.sentIds.Nodup ∧ t.OnlyNew := by
  have runs : (exec step (start (riskFromConfig {})) [.call buyTen, .fillRaises]).isSome = true := by
    decide +kernel
  obtain ⟨t, run⟩ := Option.isSome_iff_exists.mp runs
  exact ⟨t, run, (fill_source_once_iff_settled (riskFromConfig {}) _ t run).mpr (by decide +kernel)⟩

/-- The fill source raises and the caller submits again under the same id; or the
fill source submits the same id again before it returns. Both reach it twice. -/
theorem fill_source_reached_twice :
    ((exec step (start (riskFromConfig {})) [.call buyTen, .fillRaises, .call buyTen]).map sentIds =
      some [buyTen.correlationId, buyTen.correlationId]) ∧
    ((exec step (start (riskFromConfig {})) [.call buyTen, .call buyTen]).map sentIds =
      some [buyTen.correlationId, buyTen.correlationId]) ∧
    ¬ ∀ risk es t, exec step (start risk) es = some t → t.sentIds.Nodup := by
  have raised : (exec step (start (riskFromConfig {})) [.call buyTen, .fillRaises, .call buyTen]).map
      sentIds = some [buyTen.correlationId, buyTen.correlationId] := by decide +kernel
  refine ⟨raised, by decide +kernel, fun claim => ?_⟩
  obtain ⟨t, run, ids⟩ := Option.map_eq_some_iff.mp raised
  have distinct := claim _ _ t run
  rw [ids] at distinct
  exact absurd distinct (by decide)

end Session

end TradeX.V2
