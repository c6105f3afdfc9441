import TradeX.Lib.Dict
import TradeX.Lib.Runs
import TradeX.Lib.Text

/-! The subscriptions of the Upstox feed: a set of keys for each mode, with the mode of each key. The limits of a
mode are checked when its keys are in place. -/

namespace TradeX.V1.UpstoxFeed

open Lib

inductive Mode where
  | ltpc
  | option_greeks
  | full
  | full_d30
  deriving DecidableEq, Repr

namespace Mode

/-- `MODES`. -/
def all : List Mode := [ltpc, option_greeks, full, full_d30]

def name : Mode → String
  | ltpc => "ltpc"
  | option_greeks => "option_greeks"
  | full => "full"
  | full_d30 => "full_d30"

def ofName (name : String) : Option Mode := all.find? fun mode => mode.name = name

theorem name_injective : Function.Injective name := by
  intro first second same
  cases first <;> cases second <;> first | rfl | exact absurd same (by decide)

theorem name_ne_empty (mode : Mode) : mode.name ≠ "" := by
  cases mode <;> decide

end Mode

/-- `str.lower` and `str.strip`. -/
structure Letters where
  lower : String → String
  strip : String → String

def Letters.ascii : Letters where
  lower text := String.ofList (Text.lower text)
  strip := Text.strip

def modeAliases : List (String × String) := [
  ("ltp", "ltpc"),
  ("quote", "ltpc"),
  ("ltpc", "ltpc"),
  ("greeks", "option_greeks"),
  ("option_greeks", "option_greeks"),
  ("full_d30", "full_d30"),
  ("d30", "full_d30")]

def normaliseMode (letters : Letters) (mode : String) : String :=
  let m := letters.strip (letters.lower mode)
  (modeAliases.lookup m).getD m

structure UpstoxV3SubscriptionLimits where
  ltpcIndividual : ℤ := 5000
  ltpcCombined : ℤ := 2000
  greeksIndividual : ℤ := 3000
  greeksCombined : ℤ := 2000
  fullIndividual : ℤ := 2000
  fullCombined : ℤ := 1500
  d30Individual : ℤ := 50
  d30Combined : ℤ := 1500
  deriving DecidableEq, Repr

namespace UpstoxV3SubscriptionLimits

variable (limits : UpstoxV3SubscriptionLimits)

def individualCap : Mode → ℤ
  | .ltpc => limits.ltpcIndividual
  | .option_greeks => limits.greeksIndividual
  | .full => limits.fullIndividual
  | .full_d30 => limits.d30Individual

def combinedCap : Mode → ℤ
  | .ltpc => limits.ltpcCombined
  | .option_greeks => limits.greeksCombined
  | .full => limits.fullCombined
  | .full_d30 => limits.d30Combined

end UpstoxV3SubscriptionLimits

inductive Error where
  | KeyError (mode : String)
  | SubscriptionLimitExceededError (message : String)
  deriving DecidableEq, Repr

structure UpstoxV3SubscriptionManager where
  limits : UpstoxV3SubscriptionLimits
  byMode : Mode → Finset String := fun _ => ∅
  byKey : Dict String Mode := .empty

namespace UpstoxV3SubscriptionManager

variable (manager : UpstoxV3SubscriptionManager)

def modeFor (instrumentKey : String) : String := ((manager.byKey.get instrumentKey).map Mode.name).getD ""

def discard (mode : Mode) (key : String) : UpstoxV3SubscriptionManager :=
  { manager with byMode := Function.update manager.byMode mode ((manager.byMode mode).erase key) }

/-- One key of a subscribe: out of the set it is in, and into that of the mode, if there is such a mode. -/
def move (mode : Option Mode) (key : String) : UpstoxV3SubscriptionManager × Bool :=
  match manager.byKey.get key, mode with
  | existing, some mode =>
    if existing = some mode then (manager, true)
    else
      let left := existing.elim manager fun held => manager.discard held key
      ({ left with
        byMode := Function.update left.byMode mode (insert key (left.byMode mode))
        byKey := left.byKey.set key mode }, true)
  | existing, none => (existing.elim manager fun held => manager.discard held key, false)

def moveAll (mode : Option Mode) (manager : UpstoxV3SubscriptionManager) :
    List String → UpstoxV3SubscriptionManager × Bool
  | [] => (manager, true)
  | key :: keys =>
    match manager.move mode key with
    | (moved, true) => moveAll mode moved keys
    | (moved, false) => (moved, false)

/-- `_enforce`, for a mode that there is. -/
def enforce (mode : Mode) : Option Error :=
  let size := ((manager.byMode mode).card : ℤ)
  let anyActive := Mode.all.any fun other => other ≠ mode && 0 < (manager.byMode other).card
  if manager.limits.individualCap mode < size then
    some (.SubscriptionLimitExceededError
      s!"Upstox V3 {mode.name} individual subscription limit exceeded: {size} > {manager.limits.individualCap mode}")
  else if anyActive ∧ manager.limits.combinedCap mode < size then
    some (.SubscriptionLimitExceededError
      s!"Upstox V3 {mode.name} combined subscription limit exceeded: {size} > {manager.limits.combinedCap mode}")
  else none

/-- `subscribe`, with the error that it raises. The sets are not put back. -/
def subscribe (letters : Letters) (instrumentKeys : List String) (mode : String) :
    UpstoxV3SubscriptionManager × Option Error :=
  let normalised := normaliseMode letters mode
  match Mode.ofName normalised with
  | none => ((moveAll none manager instrumentKeys).1, some (.KeyError normalised))
  | some mode =>
    let moved := (moveAll (some mode) manager instrumentKeys).1
    (moved, moved.enforce mode)

def changeMode (letters : Letters) (instrumentKeys : List String) (mode : String) :
    UpstoxV3SubscriptionManager × Option Error :=
  manager.subscribe letters instrumentKeys mode

def unsubscribeKey (key : String) : UpstoxV3SubscriptionManager :=
  match manager.byKey.get key with
  | none => manager
  | some mode => { manager.discard mode key with byKey := manager.byKey.pop key }

def unsubscribe (instrumentKeys : List String) : UpstoxV3SubscriptionManager :=
  instrumentKeys.foldl unsubscribeKey manager

end UpstoxV3SubscriptionManager

inductive Call where
  | subscribe (instrumentKeys : List String) (mode : String)
  | changeMode (instrumentKeys : List String) (mode : String)
  | unsubscribe (instrumentKeys : List String)
  deriving DecidableEq, Repr

namespace UpstoxV3SubscriptionManager

def perform (letters : Letters) (manager : UpstoxV3SubscriptionManager) :
    Call → UpstoxV3SubscriptionManager × Option Error
  | .subscribe instrumentKeys mode => manager.subscribe letters instrumentKeys mode
  | .changeMode instrumentKeys mode => manager.changeMode letters instrumentKeys mode
  | .unsubscribe instrumentKeys => (manager.unsubscribe instrumentKeys, none)

def step (letters : Letters) (manager : UpstoxV3SubscriptionManager) (call : Call) :
    Option UpstoxV3SubscriptionManager :=
  some (manager.perform letters call).1

end UpstoxV3SubscriptionManager

/-- Each mode within its own limit, and every active one within the combined limit where two are active. -/
def UpstoxV3SubscriptionLimits.Admit (limits : UpstoxV3SubscriptionLimits) (sets : Mode → Finset String) : Prop :=
  ∀ mode, ((sets mode).card : ℤ) ≤ limits.individualCap mode ∧
    ((∃ first second, first ≠ second ∧ (sets first).Nonempty ∧ (sets second).Nonempty) → (sets mode).Nonempty →
      ((sets mode).card : ℤ) ≤ limits.combinedCap mode)

/-- The sets with the keys moved to a mode. -/
def placed (mode : Mode) (keys : Finset String) (sets : Mode → Finset String) : Mode → Finset String :=
  fun other => if other = mode then sets other ∪ keys else sets other \ keys

namespace UpstoxV3SubscriptionManager

/-- The sets of the modes are disjoint, the reported modes are those of the sets, and the limits are met. -/
structure Kept (manager : UpstoxV3SubscriptionManager) : Prop where
  disjoint : ∀ first second, first ≠ second → Disjoint (manager.byMode first) (manager.byMode second)
  reported : ∀ key mode, key ∈ manager.byMode mode ↔ manager.modeFor key = mode.name
  admitted : manager.limits.Admit manager.byMode

/-- The set of a mode has the keys that are filed under it. -/
def Indexed (manager : UpstoxV3SubscriptionManager) : Prop :=
  ∀ key mode, key ∈ manager.byMode mode ↔ manager.byKey.get key = some mode

variable {manager : UpstoxV3SubscriptionManager} {mode : Mode} {key : String} {keys : List String}

theorem modeFor_eq_name : manager.modeFor key = mode.name ↔ manager.byKey.get key = some mode := by
  rw [modeFor]
  cases manager.byKey.get key with
  | none => exact iff_of_false (Mode.name_ne_empty mode).symm (Option.some_ne_none mode).symm
  | some held =>
    rw [Option.map_some, Option.getD_some, Option.some.injEq]
    exact Mode.name_injective.eq_iff

theorem kept_iff : manager.Kept ↔ manager.Indexed ∧ manager.limits.Admit manager.byMode := by
  constructor
  · intro kept
    exact ⟨fun key mode => (kept.reported key mode).trans modeFor_eq_name, kept.admitted⟩
  · rintro ⟨indexed, admitted⟩
    refine ⟨?_, fun key mode => (indexed key mode).trans modeFor_eq_name.symm, admitted⟩
    intro first second other
    rw [Finset.disjoint_left]
    intro key inFirst inSecond
    have same := ((indexed key first).mp inFirst).symm.trans ((indexed key second).mp inSecond)
    exact other (Option.some.inj same)

@[simp] theorem discard_byMode (manager : UpstoxV3SubscriptionManager) (mode : Mode) (key : String) :
    (manager.discard mode key).byMode = Function.update manager.byMode mode ((manager.byMode mode).erase key) := rfl

/-- A key is taken out of the set that it is in. -/
theorem Indexed.left (indexed : manager.Indexed) (key : String) (other : Mode) :
    ((manager.byKey.get key).elim manager fun held => manager.discard held key).byMode other =
      (manager.byMode other).erase key := by
  cases held : manager.byKey.get key with
  | none =>
    rw [Option.elim_none, Finset.erase_eq_of_notMem]
    intro member
    rw [(indexed key other).mp member] at held
    cases held
  | some mode =>
    rw [Option.elim_some, discard_byMode]
    by_cases same : other = mode
    · rw [same, Function.update_self]
    · rw [Function.update_of_ne same, Finset.erase_eq_of_notMem]
      intro member
      rw [(indexed key other).mp member] at held
      exact same (Option.some.inj held)

theorem left_limits (manager : UpstoxV3SubscriptionManager) (existing : Option Mode) (key : String) :
    (existing.elim manager fun held => manager.discard held key).limits = manager.limits ∧
    (existing.elim manager fun held => manager.discard held key).byKey = manager.byKey := by
  cases existing with
  | none => exact ⟨rfl, rfl⟩
  | some held => exact ⟨rfl, rfl⟩

/-- A key that is moved to a mode is in the set of that mode, and of no other. -/
theorem Indexed.move (indexed : manager.Indexed) (mode : Mode) (key : String) :
    (manager.move (some mode) key).1.byMode = placed mode {key} manager.byMode ∧
    (manager.move (some mode) key).1.Indexed ∧ (manager.move (some mode) key).2 = true ∧
    (manager.move (some mode) key).1.limits = manager.limits := by
  simp only [UpstoxV3SubscriptionManager.move]
  by_cases there : manager.byKey.get key = some mode
  · rw [if_pos there]
    refine ⟨?_, indexed, rfl, rfl⟩
    funext other
    by_cases same : other = mode
    · rw [placed, if_pos same, same]
      exact (Finset.union_eq_left.mpr (Finset.singleton_subset_iff.mpr ((indexed key mode).mpr there))).symm
    · rw [placed, if_neg same, Finset.sdiff_singleton_eq_erase, Finset.erase_eq_of_notMem]
      intro elsewhere
      exact same (Option.some.inj (((indexed key other).mp elsewhere).symm.trans there))
  · rw [if_neg there]
    have left := indexed.left key
    obtain ⟨limits, filed⟩ := left_limits manager (manager.byKey.get key) key
    generalize (manager.byKey.get key).elim manager (fun held => manager.discard held key) =
      without at left limits filed
    have sets : Function.update without.byMode mode (insert key (without.byMode mode)) =
        placed mode {key} manager.byMode := by
      funext other
      by_cases same : other = mode
      · subst same
        rw [Function.update_self, placed, if_pos rfl, left]
        ext member
        simp only [Finset.mem_insert, Finset.mem_erase, Finset.mem_union, Finset.mem_singleton]
        tauto
      · rw [Function.update_of_ne same, placed, if_neg same, left, Finset.sdiff_singleton_eq_erase]
    refine ⟨sets, ?_, rfl, limits⟩
    intro other target
    simp only [sets, placed, filed, Dict.get_set]
    by_cases same : target = mode
    · rw [if_pos same, same, Finset.mem_union, Finset.mem_singleton, indexed other mode]
      by_cases own : other = key
      · rw [if_pos own]
        exact iff_of_true (.inr own) rfl
      · rw [if_neg own]
        exact or_iff_left own
    · rw [if_neg same, Finset.mem_sdiff, Finset.mem_singleton, indexed other target]
      by_cases own : other = key
      · rw [if_pos own, Option.some.injEq]
        exact iff_of_false (fun member => member.2 own) (fun moved => same moved.symm)
      · rw [if_neg own]
        exact and_iff_left own

theorem Indexed.moveAll (indexed : manager.Indexed) (mode : Mode) (keys : List String) :
    (moveAll (some mode) manager keys).1.byMode = placed mode keys.toFinset manager.byMode ∧
    (moveAll (some mode) manager keys).1.Indexed ∧
    (moveAll (some mode) manager keys).1.limits = manager.limits := by
  induction keys generalizing manager with
  | nil =>
    refine ⟨?_, indexed, rfl⟩
    funext other
    simp [placed, UpstoxV3SubscriptionManager.moveAll]
  | cons key keys ih =>
    obtain ⟨sets, onward, moved, limits⟩ := indexed.move mode key
    rw [UpstoxV3SubscriptionManager.moveAll]
    cases first : manager.move (some mode) key with
    | mk after ok =>
      rw [first] at sets onward moved limits
      cases moved
      obtain ⟨rest, final, same⟩ := ih onward
      refine ⟨?_, final, same.trans limits⟩
      rw [rest, sets]
      funext other
      simp only [placed, List.toFinset_cons]
      split
      · rw [Finset.insert_eq, Finset.union_assoc]
      · rw [Finset.insert_eq, sdiff_sdiff_left, Finset.sup_eq_union]

/-- What is left of sets within the limits is within them. -/
theorem admit_of_subset {limits : UpstoxV3SubscriptionLimits} {sets fewer : Mode → Finset String}
    (admitted : limits.Admit sets)
    (subset : ∀ mode, fewer mode ⊆ sets mode) : limits.Admit fewer := by
  intro mode
  obtain ⟨individual, combined⟩ := admitted mode
  have less : ((fewer mode).card : ℤ) ≤ (sets mode).card := by exact_mod_cast Finset.card_le_card (subset mode)
  refine ⟨less.trans individual, ?_⟩
  rintro ⟨first, second, other, inFirst, inSecond⟩ active
  exact less.trans (combined ⟨first, second, other, inFirst.mono (subset first), inSecond.mono (subset second)⟩
    (active.mono (subset mode)))

theorem Kept.unsubscribeKey (kept : manager.Kept) (key : String) : (manager.unsubscribeKey key).Kept := by
  obtain ⟨indexed, admitted⟩ := kept_iff.mp kept
  rw [UpstoxV3SubscriptionManager.unsubscribeKey]
  cases held : manager.byKey.get key with
  | none => exact kept
  | some mode =>
    have left := indexed.left key
    rw [held] at left
    refine kept_iff.mpr ⟨?_, ?_⟩
    · intro other target
      have erased : other ∈ (manager.discard mode key).byMode target ↔ other ∈ (manager.byMode target).erase key :=
        Finset.ext_iff.mp (left target) other
      rw [Dict.get_pop]
      refine erased.trans ?_
      rw [Finset.mem_erase, indexed other target]
      by_cases own : other = key
      · rw [if_pos own]
        exact iff_of_false (fun member => member.1 own) (Option.some_ne_none target).symm
      · rw [if_neg own]
        exact and_iff_right own
    · refine admit_of_subset admitted ?_
      intro target
      exact (left target).trans_subset (Finset.erase_subset key _)

theorem Kept.unsubscribe (kept : manager.Kept) (keys : List String) : (manager.unsubscribe keys).Kept := by
  rw [UpstoxV3SubscriptionManager.unsubscribe]
  induction keys generalizing manager with
  | nil => exact kept
  | cons key keys ih => exact ih (kept.unsubscribeKey key)

/-- Within the limits a check fails only for an empty mode, with a combined limit below zero. -/
theorem enforce_admitted (admitted : manager.limits.Admit manager.byMode) (raised : manager.enforce mode ≠ none) :
    manager.byMode mode = ∅ := by
  obtain ⟨individual, combined⟩ := admitted mode
  by_contra some_
  have nonempty := Finset.nonempty_iff_ne_empty.mpr some_
  simp only [enforce, if_neg (not_lt.mpr individual)] at raised
  split at raised
  · next above =>
    obtain ⟨active, above⟩ := above
    obtain ⟨other, -, there⟩ := List.any_eq_true.mp active
    obtain ⟨differs, counted⟩ := Bool.and_eq_true_iff.mp there
    have both := combined
      ⟨other, mode, of_decide_eq_true differs, Finset.card_pos.mp (of_decide_eq_true counted), nonempty⟩
    exact absurd (both nonempty) (not_le.mpr above)
  · exact raised rfl

/-- A subscribe keeps the sets, and changes nothing where it raises. -/
def SubscribesLawfully (letters : Letters) (manager : UpstoxV3SubscriptionManager) (keys : List String)
    (mode : String) : Prop :=
  (manager.subscribe letters keys mode).1.Kept ∧
    ((manager.subscribe letters keys mode).2.isSome → (manager.subscribe letters keys mode).1 = manager)

/-- With a known mode the sets are within the limits once the keys are in place; with an unknown one the first key
is not subscribed. -/
def Fits (letters : Letters) (manager : UpstoxV3SubscriptionManager) (keys : List String) (mode : String) : Prop :=
  match Mode.ofName (normaliseMode letters mode) with
  | some mode => manager.limits.Admit (placed mode keys.toFinset manager.byMode)
  | none => ∀ key ∈ keys.head?, manager.byKey.get key = none

theorem Kept.subscribes_iff {letters : Letters} {name : String} (kept : manager.Kept) :
    manager.SubscribesLawfully letters keys name ↔ manager.Fits letters keys name := by
  obtain ⟨indexed, admitted⟩ := kept_iff.mp kept
  rw [SubscribesLawfully, Fits, subscribe]
  cases Mode.ofName (normaliseMode letters name) with
  | some mode =>
    obtain ⟨sets, onward, limits⟩ := indexed.moveAll mode keys
    simp only
    constructor
    · intro lawful
      rw [← sets, ← limits]
      exact lawful.1.admitted
    · intro fits
      have within : (moveAll (some mode) manager keys).1.Kept := kept_iff.mpr ⟨onward, by rwa [sets, limits]⟩
      refine ⟨within, ?_⟩
      intro raised
      have empty := enforce_admitted within.admitted (Option.isSome_iff_ne_none.mp raised)
      rw [sets, placed, if_pos rfl] at empty
      have none : keys = [] := List.toFinset_eq_empty_iff keys |>.mp (Finset.union_eq_empty.mp empty).2
      rw [none]
      rfl
  | none =>
    simp only
    cases keys with
    | nil => exact iff_of_true ⟨kept, fun _ => rfl⟩ nofun
    | cons key keys =>
      have stopped : (moveAll none manager (key :: keys)).1 = (manager.move none key).1 := by
        rw [moveAll, move]
      rw [stopped, move]
      cases held : manager.byKey.get key with
      | none =>
        refine iff_of_true ⟨kept, fun _ => rfl⟩ ?_
        intro first same
        rw [← Option.some.inj same]
        exact held
      | some mode =>
        refine iff_of_false ?_ fun absent => Option.some_ne_none mode (held.symm.trans (absent key rfl))
        intro lawful
        have there := (indexed key mode).mpr held
        have unchanged := congrArg (fun after => after.byMode mode) (lawful.2 rfl)
        simp only [Option.elim_some, discard_byMode, Function.update_self] at unchanged
        rw [← unchanged] at there
        exact Finset.notMem_erase key _ there

section

variable (letters : Letters)

/-- The law of a call: the sets are kept, and a call that raises leaves them as they were. -/
def Lawful (manager : UpstoxV3SubscriptionManager) (call : Call) : Prop :=
  (manager.perform letters call).1.Kept ∧
    ((manager.perform letters call).2.isSome → (manager.perform letters call).1 = manager)

/-- What a call wants to subscribe is within the limits. -/
def WithinLimits (manager : UpstoxV3SubscriptionManager) : Call → Prop
  | .subscribe keys mode => manager.Fits letters keys mode
  | .changeMode keys mode => manager.Fits letters keys mode
  | .unsubscribe _ => True

variable {letters}

theorem Kept.lawful_iff (kept : manager.Kept) (call : Call) :
    manager.Lawful letters call ↔ manager.WithinLimits letters call := by
  cases call with
  | subscribe keys mode => exact kept.subscribes_iff
  | changeMode keys mode => exact kept.subscribes_iff
  | unsubscribe keys => exact iff_of_true ⟨kept.unsubscribe keys, nofun⟩ trivial

theorem init_kept_iff (limits : UpstoxV3SubscriptionLimits) :
    Kept { limits := limits } ↔ ∀ mode, 0 ≤ limits.individualCap mode := by
  rw [kept_iff]
  constructor
  · rintro ⟨-, admitted⟩ mode
    exact (admitted mode).1
  · intro nonneg
    refine ⟨fun key mode => iff_of_false (Finset.notMem_empty key) (Option.some_ne_none mode).symm, ?_⟩
    intro mode
    exact ⟨nonneg mode, fun _ active => absurd active Finset.not_nonempty_empty⟩

/-- From the first state on and at every call of a run, the sets are disjoint, in step with the reported modes and
within the limits, and calls that raise change nothing, if and only if every subscribe or change of mode wants no
more than the limits of all modes allow, and names a key that is not subscribed where its mode is unknown. -/
theorem limits_kept_iff (limits : UpstoxV3SubscriptionLimits) (calls : List Call) :
    (Kept { limits := limits } ∧ Meets (step letters) (Lawful letters) { limits := limits } calls) ↔
    ((∀ mode, 0 ≤ limits.individualCap mode) ∧
      Meets (step letters) (WithinLimits letters) { limits := limits } calls) := by
  rw [← init_kept_iff]
  have preserved : ∀ manager call after, Kept manager → Lawful letters manager call →
      step letters manager call = some after → Kept after := by
    intro manager call after _ lawful taken
    rw [← Option.some.inj taken]
    exact lawful.1
  exact and_congr_right fun kept => meets_iff (fun _ call kept => kept.lawful_iff call) preserved kept

end

/-- A change to an unknown mode raises, with the key out of its set already. -/
theorem unknown_mode_loses_key : ∃ manager,
    exec (step .ascii) { limits := {} } [.subscribe ["A"] "full", .changeMode ["A"] "depth"] = some manager ∧
    manager.modeFor "A" = Mode.full.name ∧ "A" ∉ manager.byMode .full ∧ ¬manager.Kept := by
  refine ⟨_, rfl, by decide +kernel, by decide +kernel, ?_⟩
  intro kept
  exact absurd ((kept.reported "A" .full).mpr (by decide +kernel)) (by decide +kernel)

end UpstoxV3SubscriptionManager

end TradeX.V1.UpstoxFeed
