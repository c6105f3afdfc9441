import TradeX.Lib.Interleaving

/-! The sink of live bars: callers put bars in a bounded queue, one writer takes them out and persists them, and
one flag and the counter of the queue tell a flush when it may return. Callers and writer act in single steps, in
any order. -/

namespace TradeX.V1.LiveBars

open Lib

/-- Where the writer stands: it has a bar, has set the flag for it, is through with it, and has cleared the flag. -/
inductive Writer (α : Type u) where
  | waiting
  | got (bar : α)
  | writing (bar : α)
  | wrote
  | cleared
  | exited
  deriving DecidableEq, Repr

/-- The bar that is being written. -/
def Writer.inHand {α : Type u} : Writer α → Option α
  | got bar | writing bar => some bar
  | _ => none

/-- The items taken from the queue for which the writer has not called `task_done`. There is no such call for the
sentinel. -/
def Writer.held {α : Type u} : Writer α → ℕ
  | waiting => 0
  | _ => 1

/-- The sink, where `none` in the queue is the sentinel. Beside it the bars reported as queued, those that were
persisted, or not and then logged, and whether a close has returned. -/
structure LiveBarSink (α : Type u) where
  queue : List (Option α) := []
  unfinishedTasks : ℕ := 0
  inflight : Bool := false
  writer : Writer α := .waiting
  reported : List α := []
  handled : List (α × Bool) := []
  closed : Bool := false

/-- Where a caller stands. A flush knows the bars that were reported when it began, and whether a close made it. -/
inductive Caller (α : Type u) where
  | idle
  | putting (bar : α)
  | refused
  | flushing (started : List α) (closing : Bool)
  | blocked (started : List α) (closing : Bool)
  | joined (started : List α) (closing : Bool)
  | stopping
  | joining
  deriving DecidableEq, Repr

inductive WriterStep where
  | get
  | set
  | persist (succeeds : Bool)
  | clear
  | taskDone
  deriving DecidableEq, Repr

inductive SinkStep (α : Type u) where
  /-- `write_bar`: the flag, the put, and the flag again where the queue is full. -/
  | write (bar : α)
  | put
  | clear
  /-- `flush`, and in its loop the look at the clock, the join and the look at the flag. -/
  | flush
  | enter
  | timeOut
  | join
  | check
  /-- `close`: a flush, the sentinel, and the join of the writer, which may time out. -/
  | close
  | putSentinel
  | closeReturns
  | writer (step : WriterStep)
  deriving DecidableEq, Repr

namespace LiveBarSink

variable {α : Type u}

def maxsize : ℕ := 4096

/-- `_writer_loop`. -/
def writerStep (sink : LiveBarSink α) : WriterStep → Option (LiveBarSink α)
  | .get =>
    match sink.writer, sink.queue with
    | .waiting, some bar :: queue => some { sink with writer := .got bar, queue := queue }
    | .waiting, none :: queue => some { sink with writer := .exited, queue := queue }
    | _, _ => none
  | .set =>
    match sink.writer with
    | .got bar => some { sink with writer := .writing bar, inflight := true }
    | _ => none
  | .persist succeeds =>
    match sink.writer with
    | .writing bar => some { sink with writer := .wrote, handled := sink.handled ++ [(bar, succeeds)] }
    | _ => none
  | .clear =>
    match sink.writer with
    | .wrote => some { sink with writer := .cleared, inflight := false }
    | _ => none
  | .taskDone =>
    match sink.writer with
    | .cleared => some { sink with writer := .waiting, unfinishedTasks := sink.unfinishedTasks - 1 }
    | _ => none

/-- A flush that is over goes on to the sentinel where a close made it. -/
def flushed : Bool → Caller α
  | true => .stopping
  | false => .idle

def act (sink : LiveBarSink α) (caller : Caller α) : SinkStep α → Option (LiveBarSink α × Caller α)
  | .write bar =>
    match caller with
    | .idle => some ({ sink with inflight := true }, .putting bar)
    | _ => none
  | .put =>
    match caller with
    | .putting bar =>
      if sink.queue.length < maxsize then
        some ({ sink with
          queue := sink.queue ++ [some bar]
          unfinishedTasks := sink.unfinishedTasks + 1
          reported := sink.reported ++ [bar] }, .idle)
      else some (sink, .refused)
    | _ => none
  | .clear =>
    match caller with
    | .refused => some ({ sink with inflight := false }, .idle)
    | _ => none
  | .flush =>
    match caller with
    | .idle => some (sink, .flushing sink.reported false)
    | _ => none
  | .close =>
    match caller with
    | .idle => some (sink, .flushing sink.reported true)
    | _ => none
  | .enter =>
    match caller with
    | .flushing started closing => some (sink, .blocked started closing)
    | _ => none
  | .join =>
    match caller with
    | .blocked started closing => if sink.unfinishedTasks = 0 then some (sink, .joined started closing) else none
    | _ => none
  | .check =>
    match caller with
    | .joined started closing => some (sink, if sink.inflight then .flushing started closing else flushed closing)
    | _ => none
  | .timeOut =>
    match caller with
    | .flushing _ closing => some (sink, flushed closing)
    | _ => none
  | .putSentinel =>
    match caller with
    | .stopping =>
      if sink.queue.length < maxsize then
        some ({ sink with queue := sink.queue ++ [none], unfinishedTasks := sink.unfinishedTasks + 1 }, .joining)
      else none
    | _ => none
  | .closeReturns =>
    match caller with
    | .joining => some ({ sink with closed := true }, .idle)
    | _ => none
  | .writer step => (sink.writerStep step).map (·, caller)

/-- The bars being written or queued. -/
def pending (sink : LiveBarSink α) : List α := sink.writer.inHand.toList ++ sink.queue.reduceOption

/-- The flag is set whenever a bar is queued or being written. -/
def Flagged (sink : LiveBarSink α) : Prop := sink.pending ≠ [] → sink.inflight = true

/-- The sentinel is queued or was taken. -/
def Stopped (sink : LiveBarSink α) : Prop := none ∈ sink.queue ∨ sink.writer = .exited

/-- The writer has taken the bars in the order in which they were reported, and the counter is that of the queue
and of the item in hand. -/
structure Sound (sink : LiveBarSink α) : Prop where
  fifo : sink.reported = sink.handled.map Prod.fst ++ sink.pending
  unfinished : sink.unfinishedTasks = sink.queue.length + sink.writer.held

/-- What no step takes back. -/
structure Grows (before after : LiveBarSink α) : Prop where
  reported : before.reported <+: after.reported
  handled : before.handled <+: after.handled
  stopped : before.Stopped → after.Stopped

variable {sink after : LiveBarSink α} {caller moved : Caller α} {step : SinkStep α} {own : WriterStep}

theorem Grows.refl (sink : LiveBarSink α) : sink.Grows sink := ⟨List.prefix_rfl, List.prefix_rfl, id⟩

theorem sound_empty : ({} : LiveBarSink α).Sound := ⟨rfl, rfl⟩

/-- A queue that was counted down to zero has nothing pending, and no sentinel was put. -/
theorem Sound.drained (sound : sink.Sound) (counted : sink.unfinishedTasks = 0) :
    sink.pending = [] ∧ ¬ sink.Stopped := by
  have both := sound.unfinished.symm.trans counted
  have queued : sink.queue = [] := List.length_eq_zero_iff.mp (by omega)
  have free : sink.writer = .waiting := by
    cases state : sink.writer with
    | waiting => rfl
    | _ =>
      rw [state] at both
      exact absurd both (by simp only [Writer.held]; omega)
  refine ⟨by rw [pending, free, queued]; rfl, ?_⟩
  rintro (inside | gone)
  · rw [queued] at inside
    cases inside
  · rw [free] at gone
    cases gone

/-- What a step of the writer can do. -/
inductive Wrote (sink : LiveBarSink α) : WriterStep → LiveBarSink α → Prop
  | got {bar : α} {queue : List (Option α)} (free : sink.writer = .waiting) (queued : sink.queue = some bar :: queue) :
      Wrote sink .get { sink with writer := .got bar, queue := queue }
  | exited {queue : List (Option α)} (free : sink.writer = .waiting) (queued : sink.queue = none :: queue) :
      Wrote sink .get { sink with writer := .exited, queue := queue }
  | writing {bar : α} (state : sink.writer = .got bar) :
      Wrote sink .set { sink with writer := .writing bar, inflight := true }
  | persisted {bar : α} (succeeds : Bool) (state : sink.writer = .writing bar) :
      Wrote sink (.persist succeeds) { sink with writer := .wrote, handled := sink.handled ++ [(bar, succeeds)] }
  | cleared (state : sink.writer = .wrote) : Wrote sink .clear { sink with writer := .cleared, inflight := false }
  | done (state : sink.writer = .cleared) :
      Wrote sink .taskDone { sink with writer := .waiting, unfinishedTasks := sink.unfinishedTasks - 1 }

theorem writerStep_inv (taken : sink.writerStep own = some after) : sink.Wrote own after := by
  cases own with
  | get =>
    simp only [writerStep] at taken
    split at taken
    · next bar queue free queued =>
      cases taken
      exact .got free queued
    · next queue free queued =>
      cases taken
      exact .exited free queued
    · cases taken
  | set =>
    simp only [writerStep] at taken
    split at taken
    · next bar state =>
      cases taken
      exact .writing state
    · cases taken
  | persist succeeds =>
    simp only [writerStep] at taken
    split at taken
    · next bar state =>
      cases taken
      exact .persisted succeeds state
    · cases taken
  | clear =>
    simp only [writerStep] at taken
    split at taken
    · next state =>
      cases taken
      exact .cleared state
    · cases taken
  | taskDone =>
    simp only [writerStep] at taken
    split at taken
    · next state =>
      cases taken
      exact .done state
    · cases taken

theorem Wrote.sound (wrote : sink.Wrote own after) (sound : sink.Sound) : after.Sound := by
  obtain ⟨fifo, unfinished⟩ := sound
  cases wrote with
  | got free queued | exited free queued =>
    simp only [pending, free, queued, Writer.inHand, Writer.held, List.length_cons] at fifo unfinished
    exact ⟨fifo, unfinished⟩
  | writing state | cleared state =>
    rw [state] at unfinished
    rw [pending, state] at fifo
    exact ⟨fifo, unfinished⟩
  | persisted succeeds state =>
    rw [state] at unfinished
    rw [pending, state] at fifo
    refine ⟨?_, unfinished⟩
    rw [List.map_append, List.append_assoc]
    exact fifo
  | done state =>
    rw [state] at unfinished
    rw [pending, state] at fifo
    refine ⟨fifo, ?_⟩
    rw [unfinished]
    rfl

theorem Wrote.grows (wrote : sink.Wrote own after) : sink.Grows after := by
  -- a writer that is at work has not exited
  have atWork : ∀ phase : Writer α, sink.writer = phase → phase ≠ .exited → sink.Stopped → none ∈ sink.queue := by
    rintro _ rfl other (inside | gone)
    · exact inside
    · exact absurd gone other
  cases wrote with
  | got free queued =>
    refine ⟨List.prefix_rfl, List.prefix_rfl, fun stopped => ?_⟩
    have inside := atWork _ free nofun stopped
    rw [queued] at inside
    exact .inl ((List.mem_cons.mp inside).resolve_left nofun)
  | exited => exact ⟨List.prefix_rfl, List.prefix_rfl, fun _ => .inr rfl⟩
  | writing state | cleared state | done state =>
    exact ⟨List.prefix_rfl, List.prefix_rfl, fun stopped => .inl (atWork _ state nofun stopped)⟩
  | persisted succeeds state =>
    exact ⟨List.prefix_rfl, List.prefix_append _ _, fun stopped => .inl (atWork _ state nofun stopped)⟩

/-- Reporting a bar puts it last. -/
theorem Sound.put (sound : sink.Sound) (bar : α) : Sound { sink with
    queue := sink.queue ++ [some bar]
    unfinishedTasks := sink.unfinishedTasks + 1
    reported := sink.reported ++ [bar] } := by
  obtain ⟨fifo, unfinished⟩ := sound
  refine ⟨?_, ?_⟩
  · have last : (sink.queue ++ [some bar]).reduceOption = sink.queue.reduceOption ++ [bar] :=
      List.reduceOption_append _ _
    rw [fifo]
    simp only [pending, last, List.append_assoc]
  · rw [unfinished, List.length_append, List.length_singleton]
    exact Nat.add_right_comm _ _ _

theorem Sound.putSentinel (sound : sink.Sound) : Sound { sink with
    queue := sink.queue ++ [none]
    unfinishedTasks := sink.unfinishedTasks + 1 } := by
  obtain ⟨fifo, unfinished⟩ := sound
  refine ⟨?_, ?_⟩
  · have same : (sink.queue ++ [none]).reduceOption = sink.queue.reduceOption :=
      (List.reduceOption_append _ _).trans (List.append_nil _)
    rw [fifo]
    simp only [pending, same]
  · rw [unfinished, List.length_append, List.length_singleton]
    exact Nat.add_right_comm _ _ _

/-- What a step can do. -/
inductive Acted (sink : LiveBarSink α) : Caller α → SinkStep α → LiveBarSink α → Caller α → Prop
  | write (bar : α) : Acted sink .idle (.write bar) { sink with inflight := true } (.putting bar)
  | put (bar : α) (room : sink.queue.length < maxsize) : Acted sink (.putting bar) .put { sink with
      queue := sink.queue ++ [some bar]
      unfinishedTasks := sink.unfinishedTasks + 1
      reported := sink.reported ++ [bar] } .idle
  | refuse (bar : α) : Acted sink (.putting bar) .put sink .refused
  | clear : Acted sink .refused .clear { sink with inflight := false } .idle
  | flush : Acted sink .idle .flush sink (.flushing sink.reported false)
  | close : Acted sink .idle .close sink (.flushing sink.reported true)
  | enter (started : List α) (closing : Bool) :
      Acted sink (.flushing started closing) .enter sink (.blocked started closing)
  | join (started : List α) (closing : Bool) (counted : sink.unfinishedTasks = 0) :
      Acted sink (.blocked started closing) .join sink (.joined started closing)
  | check (started : List α) (closing : Bool) : Acted sink (.joined started closing) .check sink
      (if sink.inflight then .flushing started closing else flushed closing)
  | timeOut (started : List α) (closing : Bool) : Acted sink (.flushing started closing) .timeOut sink (flushed closing)
  | putSentinel : Acted sink .stopping .putSentinel { sink with
      queue := sink.queue ++ [none]
      unfinishedTasks := sink.unfinishedTasks + 1 } .joining
  | closeReturns : Acted sink .joining .closeReturns { sink with closed := true } .idle
  | writer {own : WriterStep} {after : LiveBarSink α} (caller : Caller α) (wrote : sink.Wrote own after) :
      Acted sink caller (.writer own) after caller

theorem act_inv (taken : sink.act caller step = some (after, moved)) : sink.Acted caller step after moved := by
  cases step with
  | put =>
    simp only [act] at taken
    split at taken
    · next bar =>
      split at taken
      · next room =>
        cases taken
        exact .put bar room
      · cases taken
        exact .refuse bar
    · cases taken
  | putSentinel =>
    simp only [act] at taken
    split at taken
    · split at taken
      · cases taken
        exact .putSentinel
      · cases taken
    · cases taken
  | join =>
    simp only [act] at taken
    split at taken
    · next started closing =>
      split at taken
      · next counted =>
        cases taken
        exact .join started closing counted
      · cases taken
    · cases taken
  | writer own =>
    obtain ⟨sink, stepped, same⟩ := Option.map_eq_some_iff.mp taken
    cases same
    exact .writer caller (writerStep_inv stepped)
  | write | clear | flush | enter | timeOut | check | close | closeReturns =>
    simp only [act] at taken
    split at taken
    · cases taken
      constructor
    · cases taken

theorem Acted.sound (acted : sink.Acted caller step after moved) (sound : sink.Sound) : after.Sound := by
  cases acted with
  | put bar room => exact sound.put bar
  | putSentinel => exact sound.putSentinel
  | writer _ wrote => exact wrote.sound sound
  | write | refuse | clear | flush | close | enter | join | check | timeOut | closeReturns =>
    exact ⟨sound.fifo, sound.unfinished⟩

theorem Acted.grows (acted : sink.Acted caller step after moved) : sink.Grows after := by
  cases acted with
  | put bar room => exact ⟨List.prefix_append _ _, List.prefix_rfl, Or.imp_left (List.mem_append_left _)⟩
  | putSentinel => exact ⟨List.prefix_rfl, List.prefix_rfl, Or.imp_left (List.mem_append_left _)⟩
  | writer _ wrote => exact wrote.grows
  | write | refuse | clear | flush | close | enter | join | check | timeOut | closeReturns =>
    exact ⟨List.prefix_rfl, List.prefix_rfl, id⟩

end LiveBarSink

/-- What a caller relies on: a flush on the bars it began with, a close on its sentinel. -/
def Caller.Relies (sink : LiveBarSink α) : Caller α → Prop
  | flushing started _ | blocked started _ => started <+: sink.reported
  | joined started _ => started <+: sink.handled.map Prod.fst
  | joining => sink.Stopped
  | _ => True

namespace LiveBarSink

variable {α : Type u} {sink after : LiveBarSink α} {caller moved other : Caller α} {step : SinkStep α}

theorem Grows.relies (grown : sink.Grows after) (relied : caller.Relies sink) : caller.Relies after := by
  cases caller with
  | flushing | blocked => exact List.IsPrefix.trans relied grown.reported
  | joined => exact List.IsPrefix.trans relied (grown.handled.map _)
  | joining => exact grown.stopped relied
  | idle | putting | refused | stopping => trivial

theorem relies_flushed (sink : LiveBarSink α) (closing : Bool) : (flushed closing : Caller α).Relies sink := by
  cases closing <;> trivial

theorem Acted.relies (acted : sink.Acted caller step after moved) (sound : sink.Sound) (relied : caller.Relies sink) :
    moved.Relies after := by
  cases acted with
  | flush | close => exact List.prefix_rfl
  | enter => exact relied
  | join started closing counted =>
    have reported : started <+: sink.reported := relied
    rw [sound.fifo, (sound.drained counted).1, List.append_nil] at reported
    exact reported
  | check started closing =>
    by_cases set : sink.inflight = true
    · rw [if_pos set]
      exact List.IsPrefix.trans relied ⟨sink.pending, sound.fifo.symm⟩
    · rw [if_neg set]
      exact relies_flushed sink closing
  | timeOut started closing => exact relies_flushed sink closing
  | putSentinel => exact .inl (List.mem_append_right _ List.mem_cons_self)
  | writer _ wrote => exact wrote.grows.relies relied
  | write | put | refuse | clear | closeReturns => trivial

variable {ι : Type v} [DecidableEq ι]

/-- What holds in every run: a sound sink, and what every caller relies on. -/
abbrev Safe (pool : Pool ι (LiveBarSink α) (Caller α)) : Prop :=
  pool.Holds Sound (fun sink caller => caller.Relies sink) fun _ _ => True

theorem act_preserves : Pool.Preserves act (fun _ _ _ => True) (Sound : LiveBarSink α → Prop)
    (fun sink caller => caller.Relies sink) fun _ _ => True where
  own sound relied _ taken := ⟨(act_inv taken).sound sound, (act_inv taken).relies sound relied⟩
  other _ _ relied _ _ _ taken := ⟨(act_inv taken).grows.relies relied, trivial, trivial⟩

/-- All callers are idle, and nothing was put. -/
def start : Pool ι (LiveBarSink α) (Caller α) := ⟨{}, fun _ => .idle⟩

omit [DecidableEq ι] in
theorem safe_start : Safe (start : Pool ι (LiveBarSink α) (Caller α)) where
  common := sound_empty
  each _ := trivial
  pair _ _ _ := trivial

/-- The steps before which the flag is read or cleared must find it right: a bar is put while the flag is set, and
it is cleared where nothing is pending. No close may return, since the counter has its sentinel from then on. -/
def Considerate (sink : LiveBarSink α) (caller : Caller α) : SinkStep α → Prop
  | .put => ∀ bar, caller = .putting bar → sink.queue.length < maxsize → sink.inflight = true
  | .clear => caller = .refused → sink.pending = []
  | .writer .clear => sink.writer = .wrote → sink.pending = []
  | .closeReturns => caller ≠ .joining
  | _ => True

theorem Wrote.flagged {own : WriterStep} (wrote : sink.Wrote own after) (flagged : sink.Flagged)
    (considerate : sink.Considerate caller (.writer own)) : after.Flagged := by
  cases wrote with
  | got free queued | exited free queued =>
    simp only [Flagged, pending, free, queued, Writer.inHand] at flagged
    exact flagged
  | writing => exact fun _ => rfl
  | persisted succeeds state =>
    refine fun _ => flagged ?_
    rw [pending, state]
    exact List.cons_ne_nil _ _
  | cleared state =>
    have none := considerate state
    rw [pending, state] at none
    exact fun some => absurd none some
  | done state =>
    rw [Flagged, pending, state] at flagged
    exact flagged

/-- A considerate step keeps the flag. -/
theorem Acted.flagged (acted : sink.Acted caller step after moved) (flagged : sink.Flagged)
    (considerate : sink.Considerate caller step) : after.Flagged := by
  cases acted with
  | write => exact fun _ => rfl
  | put bar room => exact fun _ => considerate bar rfl room
  | clear => exact fun some => absurd (considerate rfl) some
  | putSentinel =>
    have same : (sink.queue ++ [none]).reduceOption = sink.queue.reduceOption :=
      (List.reduceOption_append _ _).trans (List.append_nil _)
    simp only [Flagged, pending, same]
    exact flagged
  | writer _ wrote => exact wrote.flagged flagged considerate
  | refuse | flush | close | enter | join | check | timeOut | closeReturns => exact flagged

/-- Where the flag is right after the step, the step was considerate, or it ends a close. -/
theorem considerate_of_flagged (ends : step ≠ .closeReturns)
    (flags : ∀ after moved, sink.act caller step = some (after, moved) → after.Flagged) :
    sink.Considerate caller step := by
  cases step with
  | put =>
    rintro bar rfl room
    have acted : sink.act (.putting bar) .put = some ({ sink with
        queue := sink.queue ++ [some bar]
        unfinishedTasks := sink.unfinishedTasks + 1
        reported := sink.reported ++ [bar] }, .idle) := if_pos room
    have kept := flags _ _ acted
    simp only [Flagged, pending, List.reduceOption_append] at kept
    apply kept
    exact List.append_ne_nil_of_right_ne_nil _ (List.append_ne_nil_of_right_ne_nil _ (List.cons_ne_nil bar []))
  | clear =>
    rintro rfl
    by_contra some
    cases flags _ _ rfl some
  | writer own =>
    cases own with
    | clear =>
      intro state
      by_contra some
      have stepped : sink.writerStep .clear = Option.some { sink with writer := .cleared, inflight := false } := by
        simp only [writerStep, state]
      rw [pending, state] at some
      have acted : sink.act caller (.writer .clear) = Option.some (_, caller) :=
        congrArg (Option.map (·, caller)) stepped
      cases flags _ _ acted some
    | get | set | persist | taskDone => trivial
  | closeReturns => exact absurd rfl ends
  | write | flush | enter | timeOut | join | check | close | putSentinel => trivial

/-- Only a close that returns closes the sink. -/
theorem Acted.closed (acted : sink.Acted caller step after moved) (considerate : sink.Considerate caller step) :
    after.closed = sink.closed := by
  cases acted with
  | closeReturns => exact absurd rfl considerate
  | writer _ wrote => cases wrote <;> rfl
  | write | put | refuse | clear | flush | close | enter | join | check | timeOut | putSentinel => rfl

variable {pool later : Pool ι (LiveBarSink α) (Caller α)} {event : ι × SinkStep α} {events : List (ι × SinkStep α)}

theorem safe_step (safe : Safe pool) (taken : Pool.step act pool event = some later) : Safe later :=
  act_preserves.step safe trivial taken

/-- A flush that begins after the state waits for a count of zero. -/
def Drains (pool : Pool ι (LiveBarSink α) (Caller α)) : Prop :=
  ∃ events later, exec (Pool.step act) pool events = some later ∧ later.shared.unfinishedTasks = 0

/-- Once the sentinel was put no flush gets through its join. -/
theorem stopped_never_drains (safe : Safe pool) (stopped : pool.shared.Stopped) : ¬ Drains pool := by
  rintro ⟨events, later, ran, counted⟩
  have preserved : ∀ (s : Pool ι (LiveBarSink α) (Caller α)) e t, Safe s ∧ s.shared.Stopped → True →
      Pool.step act s e = some t → Safe t ∧ t.shared.Stopped := by
    intro s e t held _ taken
    refine ⟨safe_step held.1 taken, ?_⟩
    obtain ⟨sink, caller, acted, rfl⟩ := Pool.step_some taken
    exact (act_inv acted).grows.stopped held.2
  have held := exec_invariant preserved ⟨safe, stopped⟩ (meets_of_forall fun _ _ => trivial) ran
  exact (held.1.common.drained counted).2 held.2

/-- A flush whose look at the flag lets it return finds every bar reported before it began handled, and every
reported bar is handled once and in order, or pending. -/
def FlushHandles (pool after : Pool ι (LiveBarSink α) (Caller α)) (event : ι × SinkStep α) : Prop :=
  after.shared.reported = after.shared.handled.map Prod.fst ++ after.shared.pending ∧
    ∀ started closing, event.2 = .check → pool.thread event.1 = .joined started closing →
      pool.shared.inflight = false → started <+: after.shared.handled.map Prod.fst

theorem flush_handles (safe : Safe pool) (taken : Pool.step act pool event = some later) :
    FlushHandles pool later event := by
  refine ⟨(safe_step safe taken).common.fifo, ?_⟩
  intro started closing _ phase _
  obtain ⟨sink, caller, acted, rfl⟩ := Pool.step_some taken
  have relied := safe.each event.1
  rw [phase] at relied
  exact List.IsPrefix.trans relied ((act_inv acted).grows.handled.map _)

/-- What is asked of every step: a flush that returns has seen its bars handled, the flag is set while a bar is
pending, and after a close nothing is pending and a flush can return. -/
def Lawful (pool : Pool ι (LiveBarSink α) (Caller α)) (event : ι × SinkStep α) : Prop :=
  ∀ after, Pool.step act pool event = some after →
    FlushHandles pool after event ∧ after.shared.Flagged ∧
      (after.shared.closed = true → after.shared.pending = [] ∧ Drains after)

/-- The state as long as every step was lawful. -/
structure Kept (pool : Pool ι (LiveBarSink α) (Caller α)) : Prop where
  safe : Safe pool
  flagged : pool.shared.Flagged
  running : pool.shared.closed = false

omit [DecidableEq ι] in
theorem kept_start : Kept (start : Pool ι (LiveBarSink α) (Caller α)) := ⟨safe_start, nofun, rfl⟩

theorem Kept.onward (kept : Kept pool) (considerate : pool.shared.Considerate (pool.thread event.1) event.2)
    (taken : Pool.step act pool event = some later) : Kept later := by
  refine ⟨safe_step kept.safe taken, ?_, ?_⟩
  · obtain ⟨sink, caller, acted, rfl⟩ := Pool.step_some taken
    exact (act_inv acted).flagged kept.flagged considerate
  · obtain ⟨sink, caller, acted, rfl⟩ := Pool.step_some taken
    exact ((act_inv acted).closed considerate).trans kept.running

/-- A close that returns leaves the sink stopped. -/
theorem Kept.closeReturns (kept : Kept pool) (phase : pool.thread event.1 = .joining)
    (ends : event.2 = .closeReturns) : ¬ Lawful pool event := by
  intro lawful
  have acted : pool.shared.act (pool.thread event.1) event.2 = some ({ pool.shared with closed := true }, .idle) := by
    rw [phase, ends]
    rfl
  have taken : Pool.step act pool event = some ⟨{ pool.shared with closed := true }, _⟩ :=
    congrArg (Option.map _) acted
  have stopped := kept.safe.each event.1
  rw [phase] at stopped
  exact stopped_never_drains (safe_step kept.safe taken) stopped ((lawful _ taken).2.2 rfl).2

theorem Kept.lawful_iff (kept : Kept pool) (event : ι × SinkStep α) :
    Lawful pool event ↔ pool.shared.Considerate (pool.thread event.1) event.2 := by
  constructor
  · intro lawful
    by_cases ends : event.2 = .closeReturns
    · rw [ends]
      exact fun phase => kept.closeReturns phase ends lawful
    · refine considerate_of_flagged ends fun after moved acted => ?_
      exact (lawful ⟨after, Function.update pool.thread event.1 moved⟩ (congrArg (Option.map _) acted)).2.1
  · intro considerate after taken
    have held := kept.onward considerate taken
    refine ⟨flush_handles kept.safe taken, held.flagged, fun closed => ?_⟩
    rw [held.running] at closed
    cases closed

/-- A flush that returns has seen its bars handled, whatever the callers and the writer do. -/
theorem flushes_handle (events : List (ι × SinkStep α)) :
    Meets (Pool.step act) (fun pool event => ∀ after, Pool.step act pool event = some after →
      FlushHandles pool after event) (start : Pool ι (LiveBarSink α) (Caller α)) events := by
  have preserved : ∀ (s : Pool ι (LiveBarSink α) (Caller α)) e t, Safe s → True →
      Pool.step act s e = some t → Safe t := fun _ _ _ safe _ taken => safe_step safe taken
  have any : Meets (Pool.step act) (fun _ _ => True) (start : Pool ι (LiveBarSink α) (Caller α)) events :=
    meets_of_forall fun _ _ => trivial
  have along := meets_invariant preserved safe_start any
  exact along.mono fun _ _ held _ taken => flush_handles held.1 taken

/-- A run keeps the flag and its closes exactly where no bar is put and nothing is cleared against the flag, and
where no close returns. -/
theorem sink_lawful_iff (events : List (ι × SinkStep α)) :
    Meets (Pool.step act) Lawful (start : Pool ι (LiveBarSink α) (Caller α)) events ↔
      Meets (Pool.step act) (fun pool event => pool.shared.Considerate (pool.thread event.1) event.2) start events := by
  refine meets_iff (fun _ event kept => kept.lawful_iff event) ?_ kept_start
  exact fun _ event _ kept lawful taken => kept.onward ((kept.lawful_iff event).mp lawful) taken

/-- The writer clears the flag for its bar while a second one is queued. -/
theorem flag_cleared_for_queued : ∃ before after : Pool ℕ (LiveBarSink ℕ) (Caller ℕ),
    exec (Pool.step act) start [(1, .write 10), (1, .put), (0, .writer .get), (0, .writer .set), (1, .write 20),
      (1, .put), (0, .writer (.persist true))] = some before ∧
      Pool.step act before (0, .writer .clear) = some after ∧ after.shared.queue = [some 20] ∧
      after.shared.inflight = false ∧ ¬ Lawful before (0, .writer .clear) := by
  refine ⟨_, _, rfl, rfl, rfl, rfl, fun lawful => ?_⟩
  cases (lawful _ rfl).2.1 (List.cons_ne_nil _ _)

end LiveBarSink

end TradeX.V1.LiveBars
