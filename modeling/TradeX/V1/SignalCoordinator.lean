import TradeX.Lib.Champions
import TradeX.V1.ExecutionPlanner

/-! The two ways in which the signals of one bar are reduced to one for each symbol: in a list at once, and one
by one in a coordinator. Both keep the most confident signal, of equal ones the one whose strategy is last by
name, and of those the last that arrived. Confidences are compared as floats. -/

namespace TradeX.V1.Trading

open Lib Lib.Champions

/-- `_pick_winner` -/
def pickWinner (a b : Signal) : Signal :=
  if floatLt a.confidence b.confidence then b
  else if floatLt b.confidence a.confidence then a
  else if a.strategy ≤ b.strategy then b else a

structure SignalCoordinator (κ : Type) [DecidableEq κ] where
  pending : Dict (String × κ) Signal := ∅

namespace SignalCoordinator

variable {κ : Type} [DecidableEq κ]

/-- `submit`, with its result. -/
def submit (coordinator : SignalCoordinator κ) (signal : Signal) (barKey : κ) : SignalCoordinator κ × Option Signal :=
  match coordinator.pending.get (signal.symbol, barKey) with
  | none => (⟨coordinator.pending.set (signal.symbol, barKey) signal⟩, some signal)
  | some existing =>
    let winner := pickWinner existing signal
    (⟨coordinator.pending.set (signal.symbol, barKey) winner⟩, if winner = signal then none else some winner)

/-- `flush` -/
def flush (coordinator : SignalCoordinator κ) (barKey : κ) : List Signal × SignalCoordinator κ :=
  let taken := coordinator.pending.entries.filter fun entry => entry.1.2 = barKey
  (taken.map Prod.snd, ⟨taken.foldl (fun pending entry => pending.pop entry.1) coordinator.pending⟩)

/-- The signals are submitted one by one under the key of their bar. -/
def submitAll (coordinator : SignalCoordinator κ) (signals : List Signal) (barKey : κ) : SignalCoordinator κ :=
  signals.foldl (fun coordinator signal => (coordinator.submit signal barKey).1) coordinator

end SignalCoordinator

/-- A float among the floats, the infinities around them. -/
def floatRank (value : ℚ) : WithBot (WithTop ℚ) :=
  match Binary64.round value with
  | .finite value => ((value : WithTop ℚ) : WithBot (WithTop ℚ))
  | .infinite true => ⊥
  | .infinite false => ((⊤ : WithTop ℚ) : WithBot (WithTop ℚ))
  | .nan => ⊥

/-- What decides between two signals: the confidence, then the name of the strategy. -/
def Signal.score (signal : Signal) : WithBot (WithTop ℚ) ×ₗ String :=
  toLex (floatRank signal.confidence, signal.strategy)

theorem round_ne_nan (value : ℚ) : Binary64.round value ≠ .nan := by
  simp only [Binary64.round]
  split
  · exact nofun
  · exact nofun

theorem floatLt_iff (first second : ℚ) : floatLt first second = true ↔ floatRank first < floatRank second := by
  delta floatLt floatRank
  cases one : Binary64.round first with
  | nan => exact absurd one (round_ne_nan first)
  | infinite low =>
    cases other : Binary64.round second with
    | nan => exact absurd other (round_ne_nan second)
    | infinite high =>
      cases low with
      | true =>
        cases high with
        | true => exact iff_of_false Bool.false_ne_true (lt_irrefl ⊥)
        | false => exact iff_of_true rfl (WithBot.bot_lt_coe ⊤)
      | false =>
        cases high with
        | true => exact iff_of_false Bool.false_ne_true not_lt_bot
        | false => exact iff_of_false Bool.false_ne_true (lt_irrefl _)
    | finite b =>
      cases low with
      | true => exact iff_of_true rfl (WithBot.bot_lt_coe (b : WithTop ℚ))
      | false => exact iff_of_false Bool.false_ne_true fun less => not_top_lt (WithBot.coe_lt_coe.mp less)
  | finite a =>
    cases other : Binary64.round second with
    | nan => exact absurd other (round_ne_nan second)
    | infinite high =>
      cases high with
      | true => exact iff_of_false Bool.false_ne_true not_lt_bot
      | false => exact iff_of_true rfl (WithBot.coe_lt_coe.mpr (WithTop.coe_lt_top a))
    | finite b =>
      dsimp only
      rw [decide_eq_true_iff, WithBot.coe_lt_coe, WithTop.coe_lt_coe]

/-- The comparisons of the confidences and of the names together are one of the scores. -/
theorem supersedes_iff (existing signal : Signal) :
    floatLt existing.confidence signal.confidence = true ∨ floatLt signal.confidence existing.confidence = false ∧
      existing.strategy ≤ signal.strategy ↔ existing.score ≤ signal.score := by
  rw [Signal.score, Signal.score, Prod.Lex.toLex_le_toLex, ← Bool.not_eq_true, floatLt_iff, floatLt_iff, not_lt]
  constructor
  · rintro (less | ⟨below, named⟩)
    · exact .inl less
    · exact (lt_or_eq_of_le below).imp_right fun same => ⟨same, named⟩
  · rintro (less | ⟨same, named⟩)
    · exact .inl less
    · exact .inr ⟨same.le, named⟩

/-- The loop over the actionable signals is a contest of their scores. -/
theorem winners_eq (signals : List Signal) : winners signals = champions Signal.symbol Signal.score signals := by
  rw [winners, champions]
  refine congrArg (fun step => signals.foldl step ∅) ?_
  funext held signal
  rw [contest]
  cases held.get signal.symbol with
  | none => rfl
  | some existing =>
    simp only [← supersedes_iff]
    by_cases less : floatLt existing.confidence signal.confidence = true
    · simp only [less, if_true, true_or]
    · simp [less]

theorem pickWinner_eq (a b : Signal) : pickWinner a b = if a.score ≤ b.score then b else a := by
  simp only [← supersedes_iff, pickWinner]
  by_cases less : floatLt a.confidence b.confidence = true
  · simp only [less, if_true, true_or]
  · by_cases more : floatLt b.confidence a.confidence = true
    · simp [less, more]
    · simp [less, more]

namespace SignalCoordinator

variable {κ : Type} [DecidableEq κ] {coordinator : SignalCoordinator κ} {barKey : κ}

/-- What is pending under the key of a bar, by symbol. -/
def under (coordinator : SignalCoordinator κ) (barKey : κ) : List (String × Signal) :=
  (coordinator.pending.entries.filter fun entry => entry.1.2 = barKey).map fun entry => (entry.1.1, entry.2)

theorem get_pending {held : Dict String Signal} (view : coordinator.under barKey = held.entries) (symbol : String) :
    coordinator.pending.get (symbol, barKey) = held.get symbol := by
  have same (signal : Signal) :
      coordinator.pending.get (symbol, barKey) = some signal ↔ held.get symbol = some signal := by
    rw [Dict.get_eq_some, Dict.get_eq_some, ← view, under, List.mem_map]
    constructor
    · intro member
      exact ⟨_, List.mem_filter.mpr ⟨member, decide_eq_true rfl⟩, rfl⟩
    · rintro ⟨⟨⟨other, bar⟩, found⟩, member, equal⟩
      obtain ⟨listed, here⟩ := List.mem_filter.mp member
      cases equal
      rwa [← of_decide_eq_true here]
  exact Option.ext same

/-- Writing a signal under a symbol and the bar writes it in the view of the bar. -/
theorem under_set {held : Dict String Signal} (view : coordinator.under barKey = held.entries) (symbol : String)
    (signal : Signal) :
    under ⟨coordinator.pending.set (symbol, barKey) signal⟩ barKey = (held.set symbol signal).entries := by
  have keys : (symbol, barKey) ∈ coordinator.pending.keys ↔ symbol ∈ held.keys := by
    constructor
    · intro listed
      obtain ⟨⟨_, found⟩, member, rfl⟩ := List.mem_map.mp listed
      rw [← Dict.get_eq_some, get_pending view] at member
      exact Dict.mem_keys member
    · intro listed
      obtain ⟨⟨_, found⟩, member, rfl⟩ := List.mem_map.mp listed
      rw [← Dict.get_eq_some, ← get_pending view] at member
      exact Dict.mem_keys member
  rw [under, Dict.entries_set, Dict.entries_set]
  by_cases present : symbol ∈ held.keys
  · rw [if_pos (keys.mpr present), if_pos present, ← view, under, List.filter_map, List.map_map, List.map_map]
    -- Writing over the entry leaves its key, and with it the bar of every entry.
    have bars : ((fun entry : (String × κ) × Signal => decide (entry.1.2 = barKey)) ∘ fun entry =>
        if entry.1 = (symbol, barKey) then ((symbol, barKey), signal) else entry) =
        fun entry => decide (entry.1.2 = barKey) := by
      funext entry
      simp only [Function.comp_apply]
      split
      · next same => rw [same]
      · rfl
    rw [bars]
    apply List.map_congr_left
    intro entry member
    have here : entry.1.2 = barKey := of_decide_eq_true (List.mem_filter.mp member).2
    have keyed : entry.1 = (symbol, barKey) ↔ entry.1.1 = symbol := by
      rw [Prod.ext_iff]
      exact and_iff_left here
    simp only [Function.comp_apply, keyed]
    split
    · rfl
    · rfl
  · rw [if_neg (keys.not.mpr present), if_neg present, ← view, under, List.filter_append, List.map_append]
    simp only [List.filter_cons, List.filter_nil, decide_true, if_true, List.map_cons, List.map_nil]

/-- A signal that is submitted stands against the one that is pending. -/
theorem under_submit {held : Dict String Signal} (view : coordinator.under barKey = held.entries) (signal : Signal) :
    (coordinator.submit signal barKey).1.under barKey = (contest Signal.symbol Signal.score held signal).entries := by
  rw [submit, contest, get_pending view]
  cases found : held.get signal.symbol with
  | none => exact under_set view signal.symbol signal
  | some existing =>
    simp only [pickWinner_eq]
    split
    · exact under_set view signal.symbol signal
    · rw [under_set view signal.symbol existing, Dict.set_same found]

theorem under_submitAll {held : Dict String Signal} (view : coordinator.under barKey = held.entries)
    (signals : List Signal) : (coordinator.submitAll signals barKey).under barKey =
      (signals.foldl (contest Signal.symbol Signal.score) held).entries := by
  induction signals generalizing coordinator held with
  | nil => exact view
  | cons signal signals ih => exact ih (under_submit view signal)

/-- The coordinator that had nothing pending under the key of the bar gives out the winners. -/
theorem flush_submitAll (fresh : coordinator.under barKey = []) (signals : List Signal) :
    ((coordinator.submitAll signals barKey).flush barKey).1 =
      (champions Signal.symbol Signal.score signals).values := by
  have given : ((coordinator.submitAll signals barKey).under barKey).map Prod.snd =
      ((coordinator.submitAll signals barKey).flush barKey).1 := List.map_map
  have view : coordinator.under barKey = (∅ : Dict String Signal).entries := fresh
  rw [← given, under_submitAll view]
  rfl

end SignalCoordinator

/-- The actionable signals. -/
def actionable (signals : List Signal) : List Signal := signals.filter Signal.isActionable

theorem coalesce_eq (signals : List Signal) : coalesceStrategySignals signals =
    (signals.filter fun signal => !signal.isActionable) ++
      (champions Signal.symbol Signal.score (actionable signals)).values := by
  rw [coalesceStrategySignals]
  split
  · next short =>
    -- One signal alone is returned as it is, and it is its own champion.
    rcases signals with _ | ⟨signal, _ | ⟨other, more⟩⟩
    · simp [actionable, champions_nil]
    · cases acts : signal.isActionable with
      | true => simp [actionable, acts, champions_singleton]
      | false => simp [actionable, acts, champions_nil]
    · rw [List.length_cons, List.length_cons] at short
      omega
  · rw [winners_eq, actionable]

variable {signals reordered : List Signal} {signal : Signal}

theorem values_actionable (member : signal ∈ (champions Signal.symbol Signal.score (actionable signals)).values) :
    signal ∈ signals ∧ signal.isActionable = true := by
  obtain ⟨⟨symbol, found⟩, entry, rfl⟩ := List.mem_map.mp member
  obtain ⟨-, top⟩ := get_champions_some (Dict.get_eq_some.mpr entry)
  exact List.mem_filter.mp top.mem

theorem coalesce_others (signals : List Signal) :
    (coalesceStrategySignals signals).filter (fun signal => !signal.isActionable) =
      signals.filter fun signal => !signal.isActionable := by
  have none_ : (champions Signal.symbol Signal.score (actionable signals)).values.filter
      (fun signal => !signal.isActionable) = [] := by
    apply List.filter_eq_nil_iff.mpr
    intro signal member
    rw [(values_actionable member).2]
    exact Bool.false_ne_true
  rw [coalesce_eq, List.filter_append, none_, List.append_nil, List.filter_filter]
  simp only [Bool.and_self]

theorem coalesce_actionable (signals : List Signal) : (coalesceStrategySignals signals).filter Signal.isActionable =
    (champions Signal.symbol Signal.score (actionable signals)).values := by
  rw [coalesce_eq, List.filter_append, List.filter_filter]
  have none_ : signals.filter (fun signal => signal.isActionable && !signal.isActionable) = [] := by
    apply List.filter_eq_nil_iff.mpr
    intro signal _
    rw [Bool.and_not_self]
    exact Bool.false_ne_true
  rw [none_, List.nil_append]
  exact List.filter_eq_self.mpr fun signal member => (values_actionable member).2

/-- The actionable signals of a symbol that are left: the one that holds it. -/
theorem coalesce_symbol (signals : List Signal) (symbol : String) :
    (coalesceStrategySignals signals).filter (fun signal => signal.isActionable && decide (signal.symbol = symbol)) =
      ((champions Signal.symbol Signal.score (actionable signals)).get symbol).toList := by
  rw [← values_champions, ← coalesce_actionable, List.filter_filter]
  exact List.filter_congr fun signal _ => Bool.and_comm _ _

/-- The same signals are left for two lists that hold the same signals exactly when the same ones hold the symbols. -/
theorem coalesce_same_iff (perm : reordered.Perm signals) :
    (∀ signal, signal ∈ coalesceStrategySignals reordered ↔ signal ∈ coalesceStrategySignals signals) ↔
      ∀ symbol, (champions Signal.symbol Signal.score (actionable reordered)).get symbol =
        (champions Signal.symbol Signal.score (actionable signals)).get symbol := by
  constructor
  · intro same symbol
    have lists (list : List Signal) (signal : Signal) :
        (champions Signal.symbol Signal.score (actionable list)).get symbol = some signal ↔
          signal ∈ coalesceStrategySignals list ∧ (signal.isActionable && decide (signal.symbol = symbol)) = true := by
      rw [← Option.mem_toList, ← coalesce_symbol]
      exact List.mem_filter
    exact Option.ext fun signal => by rw [lists, lists, same]
  · intro same signal
    have lists (list : List Signal) : signal ∈ (champions Signal.symbol Signal.score (actionable list)).values ↔
        (champions Signal.symbol Signal.score (actionable list)).get signal.symbol = some signal := by
      rw [← Option.mem_toList, ← values_champions, List.mem_filter, decide_eq_true_iff, and_iff_left rfl]
    rw [coalesce_eq, coalesce_eq, List.mem_append, List.mem_append, lists, lists, same, List.mem_filter,
      List.mem_filter, perm.mem_iff]

/-- An actionable signal that none of its symbol exceeds in confidence, as floats have it, and of equal ones in the
name of its strategy. -/
abbrev Leads (signals : List Signal) (signal : Signal) : Prop :=
  Top Signal.symbol Signal.score (actionable signals) signal

/-- What the reduction to one signal for each symbol is to do. -/
structure Coalesces {κ : Type} [DecidableEq κ] (coordinator : SignalCoordinator κ) (barKey : κ)
    (signals : List Signal) : Prop where
  order : ∀ reordered, reordered.Perm signals →
    ∀ signal, signal ∈ coalesceStrategySignals reordered ↔ signal ∈ coalesceStrategySignals signals
  others : (coalesceStrategySignals signals).filter (fun signal => !signal.isActionable) =
    signals.filter fun signal => !signal.isActionable
  one : ∀ signal ∈ signals, signal.isActionable = true → ∃ winner ∈ signals,
    (coalesceStrategySignals signals).filter
      (fun other => other.isActionable && decide (other.symbol = signal.symbol)) = [winner] ∧
    ∀ other ∈ signals, other.isActionable = true → other.symbol = signal.symbol → other.confidence ≤ winner.confidence
  flushed : ((coordinator.submitAll (actionable signals) barKey).flush barKey).1 =
    (coalesceStrategySignals signals).filter Signal.isActionable

/-- Of a symbol one signal leads, and no other of the symbol is more confident by what floats do not tell. -/
structure Decided (signals : List Signal) : Prop where
  alone : ∀ first second, Leads signals first → Leads signals second → first.symbol = second.symbol → first = second
  confident : ∀ signal other, Leads signals signal → other ∈ signals → other.isActionable = true →
    other.symbol = signal.symbol → other.confidence ≤ signal.confidence

/-- Every symbol of an actionable signal is held by one that leads. -/
theorem leads_of_mem (member : signal ∈ signals) (acts : signal.isActionable = true) :
    ∃ winner, (champions Signal.symbol Signal.score (actionable signals)).get signal.symbol = some winner ∧
      winner.symbol = signal.symbol ∧ Leads signals winner := by
  have some_ : (champions Signal.symbol Signal.score (actionable signals)).get signal.symbol ≠ none := fun none_ =>
    get_champions_none.mp none_ signal (List.mem_filter.mpr ⟨member, acts⟩) rfl
  obtain ⟨winner, found⟩ := Option.ne_none_iff_exists'.mp some_
  exact ⟨winner, found, get_champions_some found⟩

theorem order_iff (signals : List Signal) :
    (∀ reordered, reordered.Perm signals →
      ∀ signal, signal ∈ coalesceStrategySignals reordered ↔ signal ∈ coalesceStrategySignals signals) ↔
    ∀ first second, Leads signals first → Leads signals second → first.symbol = second.symbol → first = second := by
  rw [← champions_perm_iff]
  constructor
  · intro same acts perm
    -- An order of the actionable signals is one of all signals, with the others behind.
    have reordered : (acts ++ signals.filter fun signal => !signal.isActionable).Perm signals :=
      (perm.append_right _).trans (List.filter_append_perm Signal.isActionable signals)
    have selected : actionable (acts ++ signals.filter fun signal => !signal.isActionable) = acts := by
      have all : acts.filter Signal.isActionable = acts :=
        List.filter_eq_self.mpr fun signal member => (List.mem_filter.mp (perm.mem_iff.mp member)).2
      rw [actionable, List.filter_append, all, List.filter_filter]
      simp
    have held := (coalesce_same_iff reordered).mp (same _ reordered)
    rwa [selected] at held
  · intro same reordered perm
    exact (coalesce_same_iff perm).mpr (same _ (perm.filter _))

/-- Signals are reduced to one for each symbol, whatever their order and in both ways, exactly when one leads of
each symbol and floats do not hide a more confident one. -/
theorem coalesces_iff {κ : Type} [DecidableEq κ] (coordinator : SignalCoordinator κ) (barKey : κ)
    (fresh : coordinator.under barKey = []) (signals : List Signal) :
    Coalesces coordinator barKey signals ↔ Decided signals := by
  constructor
  · intro coalesces
    have alone := (order_iff signals).mp coalesces.order
    refine ⟨alone, ?_⟩
    intro signal other leads member acts same
    obtain ⟨present, active⟩ := List.mem_filter.mp leads.mem
    obtain ⟨winner, found, own, best⟩ := leads_of_mem present active
    obtain ⟨listed, -, only, most⟩ := coalesces.one signal present active
    rw [coalesce_symbol, found, Option.toList_some, List.singleton_inj] at only
    rw [alone signal winner leads best own.symm, only]
    exact most other member acts same
  · intro decided
    refine ⟨(order_iff signals).mpr decided.alone, coalesce_others signals, ?_, ?_⟩
    · intro signal member acts
      obtain ⟨winner, found, own, best⟩ := leads_of_mem member acts
      refine ⟨winner, (List.mem_filter.mp best.mem).1, ?_, ?_⟩
      · rw [coalesce_symbol, found, Option.toList_some]
      · intro other listed active same
        exact decided.confident winner other best listed active (same.trans own.symm)
    · rw [SignalCoordinator.flush_submitAll fresh, coalesce_actionable]

/-- Two strategies that differ in their confidence in one symbol. -/
theorem two_strategies_iff :
    let weak : Signal := {
      symbol := "TCS"
      exchange := "NSE"
      signalType := .BUY
      confidence := 1 / 2
      strategy := "momentum" }
    let strong : Signal := {
      symbol := "TCS"
      exchange := "NSE"
      signalType := .SELL
      confidence := 3 / 4
      strategy := "reversal" }
    Coalesces (⟨∅⟩ : SignalCoordinator ℕ) 915 [weak, strong] ↔ Decided [weak, strong] :=
  coalesces_iff ⟨∅⟩ 915 rfl _

/-- One strategy gives a signal to buy and one to sell, and is as confident in both: the last of them is left. -/
theorem last_of_equals_left :
    let buy : Signal := {
      symbol := "TCS"
      exchange := "NSE"
      signalType := .BUY
      confidence := 1 / 2
      strategy := "momentum" }
    let sell : Signal := {
      symbol := "TCS"
      exchange := "NSE"
      signalType := .SELL
      confidence := 1 / 2
      strategy := "momentum" }
    coalesceStrategySignals [buy, sell] = [sell] ∧ coalesceStrategySignals [sell, buy] = [buy] ∧
      ¬ Coalesces (⟨∅⟩ : SignalCoordinator ℕ) 915 [buy, sell] := by
  intro buy sell
  have first : coalesceStrategySignals [buy, sell] = [sell] := by decide +kernel
  have second : coalesceStrategySignals [sell, buy] = [buy] := by decide +kernel
  refine ⟨first, second, fun coalesces => ?_⟩
  have same := coalesces.order [sell, buy] (List.Perm.swap ..) buy
  rw [first, second] at same
  have both := same.mp (List.mem_singleton_self buy)
  exact absurd (List.mem_singleton.mp both) (by decide)

end TradeX.V1.Trading
