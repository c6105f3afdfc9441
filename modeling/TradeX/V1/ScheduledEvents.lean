import TradeX.Lib.KeyedFold
import TradeX.V1.ReplayEngine

/-! The events of a schedule that a replay publishes between its bars. The engine has a bus; what the bus
makes of an event, and whether it raises, does not come back to the replay. -/

namespace TradeX.V1

open Lib

/-- What is seen of a replay: the events that it publishes by its schedule, and its bars. -/
inductive Moment (ε : Type) where
  | published (event : ε)
  | bar (bar : HistoricalBar)

/-- `event_schedule`: lists of events by timestamp. -/
abbrev EventSchedule (ε : Type) := Dict ℚ (List ε)

variable {ε σ : Type}

namespace EventSchedule

variable (schedule : EventSchedule ε)

/-- `publish_scheduled_events`: the loop over the sorted timestamps, up to the first behind the bar. -/
def publishScheduledEvents (barTs : ℚ) : List ε :=
  ((sortedBy id schedule.keys).takeWhile fun ts => ts ≤ barTs).flatMap fun ts => (schedule.get ts).getD []

/-- The events up to an instant, in the order of their timestamps and then of their lists. -/
def due (ts : ℚ) : List ε := ((sortedBy Prod.fst schedule.entries).filter fun entry => entry.1 ≤ ts).flatMap Prod.snd

/-- One bar of a loop: what is scheduled is published before the bar is processed. -/
def replayBar (process : σ → HistoricalBar → σ) (run : σ × List (Moment ε)) (bar : HistoricalBar) :
    σ × List (Moment ε) :=
  (process run.1 bar, run.2 ++ (schedule.publishScheduledEvents bar.timestamp).map .published ++ [.bar bar])

/-- A loop over the bars, from a state. -/
def replay (process : σ → HistoricalBar → σ) (state : σ) (bars : List HistoricalBar) : σ × List (Moment ε) :=
  bars.foldl (schedule.replayBar process) (state, [])

end EventSchedule

namespace Moment

/-- The events that are published among these moments. -/
def events (moments : List (Moment ε)) : List ε :=
  moments.filterMap fun
    | published event => some event
    | bar _ => none

variable {first second : List (Moment ε)} {events_ : List ε} {bar_ : HistoricalBar}

theorem events_append : events (first ++ second) = events first ++ events second := List.filterMap_append

theorem events_published : events (events_.map published) = events_ := by
  rw [events, List.filterMap_map]
  exact List.filterMap_some

theorem events_bar : events [(bar bar_ : Moment ε)] = [] := rfl

end Moment

namespace EventSchedule

variable {schedule : EventSchedule ε} {process : σ → HistoricalBar → σ} {state : σ}
  {bars done rest : List HistoricalBar} {front back : List (Moment ε)} {bar : HistoricalBar}

theorem sorted_keys (schedule : EventSchedule ε) :
    sortedBy id schedule.keys = (sortedBy Prod.fst schedule.entries).map Prod.fst := by
  apply eq_of_perm_of_ranked id
  · exact (sortedBy_perm id schedule.keys).trans ((sortedBy_perm Prod.fst schedule.entries).map Prod.fst).symm
  · rw [List.map_id]
    exact (sortedBy_perm id schedule.keys).nodup_iff.mpr schedule.nodup
  · exact sortedBy_pairwise id schedule.keys
  · exact List.pairwise_map.mpr (sortedBy_pairwise Prod.fst schedule.entries)

theorem publish_due (ts : ℚ) : schedule.publishScheduledEvents ts = schedule.due ts := by
  have upto := takeWhile_upto (sortedBy_pairwise id schedule.keys) ts
  simp only [id_eq] at upto
  rw [publishScheduledEvents, due, upto, sorted_keys, List.filter_map, List.flatMap_map]
  apply List.flatMap_congr
  intro entry member
  have listed := (sortedBy_perm Prod.fst schedule.entries).mem_iff.mp (List.mem_of_mem_filter member)
  rw [Dict.get_eq_some.mpr listed, Option.getD_some]

theorem due_eq_nil {ts : ℚ} :
    schedule.due ts = [] ↔ ∀ key events, schedule.get key = some events → key ≤ ts → events = [] := by
  simp only [due, List.flatMap_eq_nil_iff, List.mem_filter, decide_eq_true_eq, (sortedBy_perm _ _).mem_iff]
  constructor
  · intro none_ key events found early
    exact none_ (key, events) ⟨Dict.get_eq_some.mp found, early⟩
  · intro none_ entry member
    exact none_ entry.1 entry.2 (Dict.get_eq_some.mpr member.1) member.2

/-- The moments of the bars, one after the other. -/
def moments (schedule : EventSchedule ε) (bars : List HistoricalBar) : List (Moment ε) :=
  bars.flatMap fun bar => (schedule.due bar.timestamp).map .published ++ [.bar bar]

/-- Whatever a loop does with its bars, it processes them as it does without a schedule, and between them it
publishes what is due at each. -/
theorem replay_eq (state : σ) (bars : List HistoricalBar) :
    schedule.replay process state bars = (bars.foldl process state, schedule.moments bars) := by
  induction bars using List.reverseRecOn with
  | nil => rfl
  | append_singleton bars bar ih =>
    rw [replay, List.foldl_concat, ← replay, ih, replayBar, publish_due, List.foldl_concat, moments, moments,
      List.flatMap_append, List.flatMap_singleton, List.append_assoc]

theorem events_moments :
    Moment.events (schedule.moments bars) = bars.flatMap fun bar => schedule.due bar.timestamp := by
  induction bars with
  | nil => rfl
  | cons bar bars ih =>
    rw [moments, List.flatMap_cons, ← moments, Moment.events_append, Moment.events_append, Moment.events_published,
      Moment.events_bar, List.append_nil, ih, List.flatMap_cons]

/-- The moments in front of a bar: those of the bars before it, and what is published for it. -/
theorem moments_front (split : schedule.moments bars = front ++ .bar bar :: back) : ∃ done rest,
    bars = done ++ bar :: rest ∧ front = schedule.moments done ++ (schedule.due bar.timestamp).map .published := by
  induction bars generalizing front with
  | nil => exact absurd (congrArg List.length split) (by simp [moments])
  | cons first bars ih =>
    rw [moments, List.flatMap_cons, ← moments, List.append_assoc, List.singleton_append] at split
    rcases List.append_eq_append_iff.mp split with ⟨more, rfl, later⟩ | ⟨more, all, later⟩
    · cases more with
      | nil =>
        rw [List.nil_append] at later
        obtain ⟨same, -⟩ := List.cons.inj later
        cases same
        exact ⟨[], bars, rfl, List.append_nil _⟩
      | cons moment more =>
        obtain ⟨same, behind⟩ := List.cons.inj later
        subst same
        obtain ⟨done, rest, rfl, rfl⟩ := ih behind
        refine ⟨first :: done, rest, rfl, ?_⟩
        simp only [moments, List.flatMap_cons, List.append_assoc, List.cons_append, List.nil_append]
    · -- A bar is not among the events that are published for the first one.
      cases more with
      | nil =>
        rw [List.nil_append] at later
        obtain ⟨same, -⟩ := List.cons.inj later
        cases same
        rw [List.append_nil] at all
        exact ⟨[], bars, rfl, all.symm⟩
      | cons moment more =>
        obtain ⟨rfl, -⟩ := List.cons.inj later
        have member : Moment.bar bar ∈ (schedule.due first.timestamp).map Moment.published := by
          rw [all]
          exact List.mem_append_right _ List.mem_cons_self
        obtain ⟨event, -, impossible⟩ := List.mem_map.mp member
        cases impossible

/-- Each scheduled event up to the last bar is published once, all in order, and whatever is due at a bar
is published in front of it. -/
structure PublishesOnce (schedule : EventSchedule ε) (bars : List HistoricalBar) (moments : List (Moment ε)) :
    Prop where
  once : ∀ last ∈ bars.getLast?, Moment.events moments = schedule.due last.timestamp
  before : ∀ front bar back, moments = front ++ .bar bar :: back →
    schedule.due bar.timestamp <+: Moment.events front

/-- No event is scheduled at a bar or before it, but for the last one. -/
def OnlyAtLast (schedule : EventSchedule ε) (bars : List HistoricalBar) : Prop :=
  ∀ bar ∈ bars.dropLast, ∀ ts events, schedule.get ts = some events → ts ≤ bar.timestamp → events = []

theorem publishesOnce_iff : PublishesOnce schedule bars (schedule.moments bars) ↔ schedule.OnlyAtLast bars := by
  have idle : schedule.OnlyAtLast bars ↔ bars.dropLast.flatMap (fun bar => schedule.due bar.timestamp) = [] := by
    rw [List.flatMap_eq_nil_iff]
    exact forall_congr' fun bar => imp_congr_right fun _ => due_eq_nil.symm
  rw [idle]
  rcases List.eq_nil_or_concat bars with rfl | ⟨done, last, rfl⟩
  · refine iff_of_true ⟨?_, ?_⟩ rfl
    · intro last none_
      cases none_
    · intro front bar back split
      exact absurd (congrArg List.length split) (by simp [moments])
  · rw [List.concat_eq_append, List.dropLast_concat]
    have events : Moment.events (schedule.moments (done ++ [last])) =
        (done.flatMap fun bar => schedule.due bar.timestamp) ++ schedule.due last.timestamp := by
      rw [events_moments, List.flatMap_append, List.flatMap_singleton]
    constructor
    · intro publishes
      have once := publishes.once last List.getLast?_concat
      rwa [events, List.append_left_eq_self] at once
    · intro quiet
      constructor
      · intro bar ends
        rw [List.getLast?_concat] at ends
        cases ends
        rw [events, quiet, List.nil_append]
      · intro front bar back split
        obtain ⟨earlier, rest, cut, rfl⟩ := moments_front split
        rw [Moment.events_append, Moment.events_published, events_moments]
        -- What was published for the bars before is nothing.
        have none_ : earlier.flatMap (fun bar => schedule.due bar.timestamp) = [] := by
          apply List.flatMap_eq_nil_iff.mpr
          intro before member
          apply List.flatMap_eq_nil_iff.mp quiet
          have dropped : (earlier ++ bar :: rest).dropLast = done := by rw [← cut, List.dropLast_concat]
          rw [← dropped, List.dropLast_append_of_ne_nil (List.cons_ne_nil _ _)]
          exact List.mem_append_left _ member
        rw [none_, List.nil_append]

end EventSchedule

section

variable {φ : Type} (engine : ReplayEngine σ φ) (schedule : EventSchedule ε)

/-- The loop of `run_single` with a schedule. -/
def ReplayEngine.replaySingle (state : σ) (first : HistoricalBar) (bars : List HistoricalBar) :
    ReplayStream σ × List (Moment ε) :=
  schedule.replay engine.processBar { session := engine.newSession first, research := state } bars

/-- The loop of `run_multi_symbol` with a schedule. -/
def ReplayEngine.replayMultiSymbol (state : σ) (first : HistoricalBar) (bars : List HistoricalBar) :
    MultiReplayStream σ × List (Moment ε) :=
  schedule.replay engine.processBarMulti { session := engine.newSession first, research := state } bars

/-- Both loops go over their bars as they do without a schedule. -/
theorem replay_processes (state : σ) (first : HistoricalBar) (bars : List HistoricalBar) :
    (engine.replaySingle schedule state first bars).1 = engine.processBars state first bars ∧
    (engine.replayMultiSymbol schedule state first bars).1 = engine.processBarsMulti state first bars := by
  rw [ReplayEngine.replaySingle, ReplayEngine.replayMultiSymbol, EventSchedule.replay_eq, EventSchedule.replay_eq]
  exact ⟨rfl, rfl⟩

/-- Either loop publishes its schedule once exactly when nothing of it is due before the last bar: what is due
at a bar is published again at each later one. -/
theorem replay_publishesOnce_iff (state : σ) (first : HistoricalBar) (bars : List HistoricalBar) :
    (schedule.PublishesOnce bars (engine.replaySingle schedule state first bars).2 ↔ schedule.OnlyAtLast bars) ∧
    (schedule.PublishesOnce bars (engine.replayMultiSymbol schedule state first bars).2 ↔
      schedule.OnlyAtLast bars) := by
  rw [ReplayEngine.replaySingle, ReplayEngine.replayMultiSymbol, EventSchedule.replay_eq, EventSchedule.replay_eq]
  exact ⟨EventSchedule.publishesOnce_iff, EventSchedule.publishesOnce_iff⟩

end

/-- A replay without features. -/
def quietReplay : ReplayEngine Unit Unit where
  config :=
    { slippage_nonneg := ReplayConfig.no_cost
      position_pos := by decide +kernel
      warmup_nonneg := ReplayConfig.no_warmup
      commission_nonneg := ReplayConfig.no_cost }
  research :=
    { features := fun _ => none
      evaluateSingle := fun state _ _ _ => ([], state) }

def flatBar (timestamp : ℚ) : HistoricalBar where
  symbol := "RELIANCE"
  timestamp := timestamp
  openPrice := 100
  high := 100
  low := 100
  close := 100
  volume := 10

/-- An event at the first of two bars is published at both. -/
theorem first_event_published_twice :
    ¬ EventSchedule.PublishesOnce ((∅ : Dict ℚ (List String)).set 1 ["TRADE"]) [flatBar 1, flatBar 2]
      (quietReplay.replaySingle ((∅ : Dict ℚ (List String)).set 1 ["TRADE"]) () (flatBar 1)
        [flatBar 1, flatBar 2]).2 := by
  intro publishes
  have once := publishes.once (flatBar 2) rfl
  rw [ReplayEngine.replaySingle, EventSchedule.replay_eq, EventSchedule.events_moments] at once
  exact absurd once (by decide +kernel)

end TradeX.V1
