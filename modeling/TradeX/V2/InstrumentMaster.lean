import TradeX.V2.InstrumentResolver

/-! The resolver over every sequence of registrations and loads. It answers with the wire last
registered for an id as long as no key of a later registration is the canonical id of another
instrument, and no load gives one instrument two wires. -/

namespace TradeX.V2

open Lib

namespace InMemoryInstrumentResolver

variable (resolver : InMemoryInstrumentResolver) (instrumentId : InstrumentId) (wire : Wire) (keys : List String)

theorem fileUnder_cons (key : String) : resolver.fileUnder instrumentId wire (key :: keys) =
    { resolver with
      wire := resolver.wire.set key wire
      reverseIndex := PairIndex.fileAll resolver.reverseIndex instrumentId wire.pairs }.fileUnder instrumentId wire keys :=
  rfl

theorem fileUnder_wire (key : String) : (resolver.fileUnder instrumentId wire keys).wire.get key =
    if key ∈ keys then some wire else resolver.wire.get key := by
  induction keys generalizing resolver with
  | nil => simp [fileUnder]
  | cons first rest ih =>
    rw [fileUnder_cons, ih]
    by_cases later : key ∈ rest
    · rw [if_pos later, if_pos (List.mem_cons_of_mem _ later)]
    · rw [if_neg later, Dict.get_set]
      simp only [List.mem_cons, later, or_false]

theorem fileUnder_reverse (some_ : keys ≠ []) (key value : String) :
    (resolver.fileUnder instrumentId wire keys).reverse key value =
      PairIndex.find (PairIndex.fileAll resolver.reverseIndex instrumentId wire.pairs) key value := by
  induction keys generalizing resolver with
  | nil => exact absurd rfl some_
  | cons first rest ih =>
    rw [fileUnder_cons]
    cases rest with
    | nil => rfl
    | cons second others =>
      rw [ih _ (List.cons_ne_nil _ _)]
      -- filing the same pairs again changes nothing
      simp only [PairIndex.find_fileAll]
      split <;> rfl

/-- An instrument is filed under its canonical id. -/
theorem value_mem_registeredKeys (fields : AliasFields) : instrumentId.value ∈ registeredKeys instrumentId fields := by
  have canonical : ∀ others : List String, instrumentId.value ∈
      (if instrumentId.stripped ≠ instrumentId.value then [instrumentId.value, instrumentId.stripped]
        else [instrumentId.value]) ++ others := by
    intro others
    split <;> simp
  unfold registeredKeys aliasKeys
  dsimp only
  split
  · simpa using canonical []
  · exact canonical _

theorem value_mem_rowKeys (fields : AliasFields) : instrumentId.value ∈ rowKeys instrumentId fields :=
  List.mem_cons_self

end InMemoryInstrumentResolver

/-- The wire that each canonical id was last registered with, since the last load. -/
abbrev LastWires := Dict InstrumentId Wire

namespace LastWires

variable (last : LastWires) (instrumentId : InstrumentId) (wire : Wire)

/-- No other instrument has one of the values of the wire. -/
def Distinct : Prop :=
  ∀ entry ∈ Dict.entries last, entry.1 ≠ instrumentId → ∀ pair ∈ wire.pairs, pair ∉ entry.2.pairs

/-- None of the keys is the canonical id of another instrument. -/
def Untaken (keys : List String) : Prop :=
  ∀ entry ∈ Dict.entries last, entry.1 ≠ instrumentId → entry.1.value ∉ keys

/-- The wire has all that the instrument's last one had. -/
def Covered : Prop := ∀ pair ∈ ((Dict.get last instrumentId).map Wire.pairs).getD [], pair ∈ wire.pairs

instance : Decidable (last.Distinct instrumentId wire) := inferInstanceAs (Decidable (∀ entry ∈ _, _))

instance (keys : List String) : Decidable (last.Untaken instrumentId keys) :=
  inferInstanceAs (Decidable (∀ entry ∈ _, _))

instance : Decidable (last.Covered instrumentId wire) := inferInstanceAs (Decidable (∀ pair ∈ _, _))

end LastWires

/-- The resolver holds the wires under their canonical ids, and its reverse index is their inverse. -/
structure InMemoryInstrumentResolver.Holds (resolver : InMemoryInstrumentResolver) (last : LastWires) : Prop where
  wires : ∀ instrumentId wire, Dict.get last instrumentId = some wire →
    resolver.wire.get instrumentId.value = some wire
  inverse : Inverse (fun instrumentId => (Dict.get last instrumentId).map Wire.pairs) resolver.reverse

namespace InMemoryInstrumentResolver.Holds

variable {resolver : InMemoryInstrumentResolver} {last : LastWires} {instrumentId : InstrumentId} {wire : Wire}
  {fields : AliasFields} {keys : List String}

theorem empty : Holds {} ∅ where
  wires := by
    intro instrumentId wire held
    cases held
  inverse := by
    intro key value instrumentId
    simp [InMemoryInstrumentResolver.reverse, PairIndex.find]

/-- The table of the pairs after a registration. -/
theorem table_set (last : LastWires) (instrumentId : InstrumentId) (wire : Wire) :
    (fun other => (Dict.get (Dict.set last instrumentId wire) other).map Wire.pairs) =
      Function.update (fun other => (Dict.get last other).map Wire.pairs) instrumentId (some wire.pairs) := by
  funext other
  rw [Dict.get_set, Function.update_apply]
  split <;> rfl

/-- The pairs of another instrument are none of a distinct wire. -/
theorem apart (distinct : last.Distinct instrumentId wire) (other : InstrumentId) (pairs : List (String × String))
    (differs : other ≠ instrumentId) (listed : (Dict.get last other).map Wire.pairs = some pairs) :
    ∀ pair ∈ wire.pairs, pair ∉ pairs := by
  obtain ⟨held, found, rfl⟩ := Option.map_eq_some_iff.mp listed
  exact distinct (other, held) (Dict.get_eq_some.mp found) differs

/-- The wires under their canonical ids, once the instrument is filed under keys that are no other's. -/
theorem wires_filed (holds : resolver.Holds last) (untaken : last.Untaken instrumentId keys)
    (canonical : instrumentId.value ∈ keys) {before : InMemoryInstrumentResolver}
    (same : before.wire = resolver.wire) (other : InstrumentId) (held : Wire)
    (found : Dict.get (Dict.set last instrumentId wire) other = some held) :
    (before.fileUnder instrumentId wire keys).wire.get other.value = some held := by
  rw [fileUnder_wire]
  rw [Dict.get_set] at found
  by_cases isIt : other = instrumentId
  · subst isIt
    rw [if_pos rfl] at found
    rw [if_pos canonical, found]
  · rw [if_neg isIt] at found
    rw [if_neg (untaken (other, held) (Dict.get_eq_some.mp found) isIt), same]
    exact holds.wires other held found

/-- What the index files under an instrument is of its last wire. -/
theorem filed_pairs (holds : resolver.Holds last) {key value : String}
    (found : resolver.reverse key value = some instrumentId) :
    ∃ held, Dict.get last instrumentId = some held ∧ (key, value) ∈ held.pairs := by
  obtain ⟨pairs, listed, member⟩ := (holds.inverse key value instrumentId).mp found
  obtain ⟨held, registered, rfl⟩ := Option.map_eq_some_iff.mp listed
  exact ⟨held, registered, member⟩

theorem register (holds : resolver.Holds last) (distinct : last.Distinct instrumentId wire)
    (untaken : last.Untaken instrumentId (registeredKeys instrumentId fields)) :
    (resolver.register instrumentId wire fields).Holds (Dict.set last instrumentId wire) where
  wires := by
    intro other held found
    unfold InMemoryInstrumentResolver.register
    refine holds.wires_filed untaken (value_mem_registeredKeys instrumentId fields) ?_ other held found
    rfl
  inverse := by
    have known : ∀ key value, PairIndex.find resolver.reverseIndex key value = some instrumentId →
        (key, value) ∈ ((resolver.wire.get instrumentId.value).map Wire.pairs).getD [] := by
      intro key value found
      obtain ⟨held, registered, member⟩ := holds.filed_pairs found
      rw [holds.wires instrumentId held registered]
      exact member
    have refiled := Inverse.refile holds.inverse known (apart distinct)
    rw [table_set]
    intro key value other
    have some_ : aliasKeys instrumentId (registeredMeta instrumentId fields) ≠ [] :=
      List.ne_nil_of_mem (value_mem_registeredKeys instrumentId fields)
    unfold InMemoryInstrumentResolver.register
    dsimp only
    rw [fileUnder_reverse _ _ _ _ some_]
    exact refiled key value other

theorem loadRow (holds : resolver.Holds last) (distinct : last.Distinct instrumentId wire)
    (untaken : last.Untaken instrumentId (rowKeys instrumentId fields)) (covered : last.Covered instrumentId wire) :
    (resolver.loadRow instrumentId wire fields).Holds (Dict.set last instrumentId wire) where
  wires := by
    intro other held found
    unfold InMemoryInstrumentResolver.loadRow
    refine holds.wires_filed untaken (value_mem_rowKeys instrumentId fields) ?_ other held found
    rfl
  inverse := by
    have within : ∀ key value, PairIndex.find resolver.reverseIndex key value = some instrumentId →
        (key, value) ∈ wire.pairs := by
      intro key value found
      obtain ⟨held, registered, member⟩ := holds.filed_pairs found
      refine covered (key, value) ?_
      rw [registered]
      exact member
    have filed := Inverse.fileAll holds.inverse within (apart distinct)
    rw [table_set]
    intro key value other
    unfold InMemoryInstrumentResolver.loadRow
    rw [fileUnder_reverse _ _ _ _ (List.ne_nil_of_mem (value_mem_rowKeys instrumentId fields))]
    exact filed key value other

end InMemoryInstrumentResolver.Holds

/-- The rows of a load each meet the condition, on what the rows before them registered. -/
def LastWires.Rows (parse : String → Option InstrumentId)
    (ok : LastWires → InstrumentId → Wire → AliasFields → Prop) : LastWires → List InstrumentRow → Prop
  | _, [] => True
  | last, row :: rest => match row.entry parse with
    | .ok (some (instrumentId, wire)) => ok last instrumentId wire row.aliasFields ∧
        Rows parse ok (Dict.set last instrumentId wire) rest
    | _ => Rows parse ok last rest

instance LastWires.decidableRows (parse : String → Option InstrumentId)
    (ok : LastWires → InstrumentId → Wire → AliasFields → Prop)
    [decide : ∀ last instrumentId wire fields, Decidable (ok last instrumentId wire fields)] :
    (last : LastWires) → (rows : List InstrumentRow) → Decidable (LastWires.Rows parse ok last rows)
  | _, [] => isTrue trivial
  | last, row :: rest =>
    match read : row.entry parse with
    | .ok (some (instrumentId, wire)) =>
      have := decidableRows parse ok (Dict.set last instrumentId wire) rest
      decidable_of_iff (ok last instrumentId wire row.aliasFields ∧
        LastWires.Rows parse ok (Dict.set last instrumentId wire) rest) (by rw [LastWires.Rows, read])
    | .ok none =>
      have := decidableRows parse ok last rest
      decidable_of_iff (LastWires.Rows parse ok last rest) (by rw [LastWires.Rows, read])
    | .error _ =>
      have := decidableRows parse ok last rest
      decidable_of_iff (LastWires.Rows parse ok last rest) (by rw [LastWires.Rows, read])

/-- What the rows of a load register. -/
def LastWires.loadRows (parse : String → Option InstrumentId) : LastWires → List InstrumentRow → LastWires
  | last, [] => last
  | last, row :: rest => match row.entry parse with
    | .ok (some (instrumentId, wire)) => loadRows parse (Dict.set last instrumentId wire) rest
    | _ => loadRows parse last rest

/-- A resolver, with the wire that each id was last registered with. -/
structure InstrumentMaster where
  resolver : InMemoryInstrumentResolver := {}
  last : LastWires := ∅

inductive ResolverCall where
  | register (instrumentId : InstrumentId) (wire : Wire) (fields : AliasFields)
  | loadFromRows (rows : List InstrumentRow) (source : String)

namespace InstrumentMaster

section

variable (parse : String → Option InstrumentId)

/-- One call on the resolver; a load that raises leaves it as it was. -/
def step (master : InstrumentMaster) : ResolverCall → Option InstrumentMaster
  | .register instrumentId wire fields => some {
      resolver := master.resolver.register instrumentId wire fields
      last := Dict.set master.last instrumentId wire }
  | .loadFromRows rows source => match InMemoryInstrumentResolver.loadFromRows parse rows source with
    | .ok loaded => some { resolver := loaded, last := LastWires.loadRows parse ∅ rows }
    | .error _ => some master

/-- Every row has an instrument id, or is skipped. -/
def Parses (rows : List InstrumentRow) : Prop := ∀ row ∈ rows, (InstrumentRow.entry parse row).isOk

instance (rows : List InstrumentRow) : Decidable (Parses parse rows) := inferInstanceAs (Decidable (∀ row ∈ rows, _))

/-- Distinct instruments are given distinct wire values. -/
def distinctWires (master : InstrumentMaster) : ResolverCall → Prop
  | .register instrumentId wire _ => master.last.Distinct instrumentId wire
  | .loadFromRows rows _ => Parses parse rows →
    LastWires.Rows parse (fun last instrumentId wire _ => last.Distinct instrumentId wire) ∅ rows

/-- No key of an instrument is the canonical id of another one that is registered, and a load gives
no instrument a second wire that lacks a value of the first. -/
def noTakeover (master : InstrumentMaster) : ResolverCall → Prop
  | .register instrumentId _ fields => master.last.Untaken instrumentId
      (InMemoryInstrumentResolver.registeredKeys instrumentId fields)
  | .loadFromRows rows _ => Parses parse rows →
    LastWires.Rows parse (fun last instrumentId wire fields =>
      last.Untaken instrumentId (InMemoryInstrumentResolver.rowKeys instrumentId fields) ∧
      last.Covered instrumentId wire) ∅ rows

instance (master : InstrumentMaster) : (call : ResolverCall) → Decidable (master.distinctWires parse call)
  | .register instrumentId wire _ => inferInstanceAs (Decidable (master.last.Distinct instrumentId wire))
  | .loadFromRows _ _ => inferInstanceAs (Decidable (_ → LastWires.Rows _ _ _ _))

instance (master : InstrumentMaster) : (call : ResolverCall) → Decidable (master.noTakeover parse call)
  | .register instrumentId _ _ => inferInstanceAs (Decidable (master.last.Untaken instrumentId _))
  | .loadFromRows _ _ => inferInstanceAs (Decidable (_ → LastWires.Rows _ _ _ _))

end

/-- Every registered id resolves to the wire last registered for it, and the values that it carries
are those under which the id is found. -/
structure Resolves (master : InstrumentMaster) : Prop where
  resolved : ∀ instrumentId wire, Dict.get master.last instrumentId = some wire →
    master.resolver.resolveRef instrumentId = .ok ⟨instrumentId, wire⟩
  reversed : ∀ instrumentId, Dict.contains master.last instrumentId = true → ∀ key value,
    (master.resolver.reverse key value = some instrumentId ↔
      ∃ ref, master.resolver.resolveRef instrumentId = .ok ref ∧ ref.wire.carries key value)
  registered : ∀ key value instrumentId, master.resolver.reverse key value = some instrumentId →
    Dict.contains master.last instrumentId = true

variable {parse : String → Option InstrumentId}

open InMemoryInstrumentResolver

theorem loadRows_holds {fresh loaded : InMemoryInstrumentResolver} {last : LastWires} {rows : List InstrumentRow}
    (holds : fresh.Holds last) (done : loadRows parse fresh rows = .ok loaded)
    (distinct : LastWires.Rows parse (fun last instrumentId wire _ => last.Distinct instrumentId wire) last rows)
    (free : LastWires.Rows parse (fun last instrumentId wire fields =>
      last.Untaken instrumentId (rowKeys instrumentId fields) ∧ last.Covered instrumentId wire) last rows) :
    loaded.Holds (LastWires.loadRows parse last rows) := by
  induction rows generalizing fresh last with
  | nil =>
    cases done
    exact holds
  | cons row rest ih =>
    unfold InMemoryInstrumentResolver.loadRows at done
    unfold LastWires.Rows at distinct free
    unfold LastWires.loadRows
    cases read : row.entry parse with
    | error raised =>
      rw [read] at done
      cases done
    | ok entry =>
      rw [read] at done distinct free
      cases entry with
      | none => exact ih holds done distinct free
      | some entry =>
        obtain ⟨instrumentId, wire⟩ := entry
        exact ih (holds.loadRow distinct.1 free.1.1 free.1.2) done distinct.2 free.2

/-- Where the load goes through, no row raises. -/
theorem parses_of_loaded {fresh loaded : InMemoryInstrumentResolver} {rows : List InstrumentRow}
    (done : loadRows parse fresh rows = .ok loaded) : Parses parse rows := by
  induction rows generalizing fresh with
  | nil => exact List.forall_mem_nil _
  | cons row rest ih =>
    unfold InMemoryInstrumentResolver.loadRows at done
    refine List.forall_mem_cons.mpr ?_
    cases read : row.entry parse with
    | error raised =>
      rw [read] at done
      cases done
    | ok entry =>
      rw [read] at done
      refine ⟨rfl, ?_⟩
      cases entry with
      | none => exact ih done
      | some entry => exact ih done

theorem step_holds {before after : InstrumentMaster} {call : ResolverCall} (holds : before.resolver.Holds before.last)
    (distinct : before.distinctWires parse call) (free : before.noTakeover parse call)
    (taken : before.step parse call = some after) : after.resolver.Holds after.last := by
  cases call with
  | register instrumentId wire fields =>
    unfold step at taken
    obtain rfl := Option.some.inj taken
    dsimp only
    exact holds.register distinct free
  | loadFromRows rows source =>
    simp only [step, loadFromRows] at taken
    cases done : loadRows parse {} rows with
    | error raised =>
      rw [done] at taken
      cases taken
      exact holds
    | ok loaded =>
      rw [done] at taken
      cases taken
      have parses := parses_of_loaded done
      have loadedHolds := loadRows_holds Holds.empty done (distinct parses) (free parses)
      exact ⟨loadedHolds.wires, loadedHolds.inverse⟩

/-- What the resolver answers, where it holds the wires. -/
theorem Resolves.of_holds {master : InstrumentMaster} (holds : master.resolver.Holds master.last) :
    master.Resolves := by
  have resolved : ∀ instrumentId wire, Dict.get master.last instrumentId = some wire →
      master.resolver.resolveRef instrumentId = .ok ⟨instrumentId, wire⟩ := by
    intro instrumentId wire registered
    unfold resolveRef
    rw [holds.wires instrumentId wire registered, Option.some_or]
  refine ⟨resolved, ?_, ?_⟩
  · intro instrumentId known key value
    obtain ⟨wire, registered⟩ := Option.isSome_iff_exists.mp known
    rw [holds.inverse key value instrumentId, resolved instrumentId wire registered]
    dsimp only
    rw [registered]
    constructor
    · rintro ⟨pairs, same, member⟩
      cases same
      exact ⟨_, rfl, member⟩
    · rintro ⟨ref, same, member⟩
      cases same
      exact ⟨_, rfl, member⟩
  · intro key value instrumentId found
    obtain ⟨wire, registered, -⟩ := holds.filed_pairs found
    unfold Dict.contains
    rw [registered]
    rfl

/-- In a run that gives distinct instruments distinct wire values and in which no instrument takes a
key of another one, the resolver answers with the wires last registered. -/
theorem resolves {calls : List ResolverCall} {after : InstrumentMaster}
    (run : exec (step parse) {} calls = some after) (distinct : Meets (step parse) (distinctWires parse) {} calls)
    (free : Meets (step parse) (noTakeover parse) {} calls) : after.Resolves :=
  Resolves.of_holds (@exec_invariant _ _ (step parse) _ {} after calls
    (fun master => master.resolver.Holds master.last)
    (fun _ _ _ holds allowed taken => step_holds holds allowed.1 allowed.2 taken)
    Holds.empty (distinct.and free) run)

/-- A wire with a security id. -/
def securityWire (securityId : String) : Wire := Dict.set ∅ "security_id" (.text securityId)

/-- Two instruments are registered, one of them again, and then a load replaces both. -/
def quietCalls : List ResolverCall := [
  .register ⟨"NSE:RELIANCE"⟩ (securityWire "2885") {},
  .register ⟨"NSE:BAJAJ-AUTO"⟩ (securityWire "16669") {},
  .register ⟨"NSE:RELIANCE"⟩ (securityWire "2886") {},
  .loadFromRows [⟨.text "NSE:TCS", some (securityWire "11536"), {}⟩,
    ⟨.id ⟨"NSE:INFY"⟩, some (securityWire "1594"), { symbol := some "INFY" }⟩, ⟨.missing, none, {}⟩] "bulk"]

/-- `InstrumentId.parse` at the text of one equity. -/
def parseTcs (text : String) : Option InstrumentId := if text = "NSE:TCS" then some ⟨"NSE:TCS"⟩ else none

theorem resolves_quiet : ∃ after, exec (step parseTcs) {} quietCalls = some after ∧ after.Resolves := by
  have taken : (exec (step parseTcs) {} quietCalls).isSome = true := by decide +kernel
  obtain ⟨after, run⟩ := Option.isSome_iff_exists.mp taken
  have distinct : Meets (step parseTcs) (distinctWires parseTcs) {} quietCalls := by decide +kernel
  have free : Meets (step parseTcs) (noTakeover parseTcs) {} quietCalls := by decide +kernel
  exact ⟨after, run, resolves run distinct free⟩

/-- A registration with a key that is another instrument's canonical id takes that instrument's place:
the other id resolves to the wire just registered. -/
theorem register_takes_over (master : InstrumentMaster) (instrumentId other : InstrumentId) (wire : Wire)
    (fields : AliasFields) (taken : other.value ∈ registeredKeys instrumentId fields) :
    (master.resolver.register instrumentId wire fields).resolveRef other = .ok ⟨other, wire⟩ := by
  unfold registeredKeys at taken
  unfold resolveRef InMemoryInstrumentResolver.register
  dsimp only
  rw [fileUnder_wire, if_pos taken, Option.some_or]

/-- The symbol of the second instrument without its dash is the id of the first. -/
def collidingCalls : List ResolverCall := [
  .register ⟨"NSE:BAJAJAUTO"⟩ (securityWire "1") {},
  .register ⟨"NSE:BAJAJ-AUTO"⟩ (securityWire "2") {}]

/-- Two registrations of distinct wires, after which the first id resolves to the second wire. -/
theorem first_taken_over : ∃ after, exec (step parseTcs) {} collidingCalls = some after ∧
    Meets (step parseTcs) (distinctWires parseTcs) {} collidingCalls ∧
    Dict.get after.last ⟨"NSE:BAJAJAUTO"⟩ = some (securityWire "1") ∧
    after.resolver.resolveRef ⟨"NSE:BAJAJAUTO"⟩ = .ok ⟨⟨"NSE:BAJAJAUTO"⟩, securityWire "2"⟩ ∧
    ¬after.Resolves := by
  have taken : (exec (step parseTcs) {} collidingCalls).isSome = true := by decide +kernel
  obtain ⟨after, run⟩ := Option.isSome_iff_exists.mp taken
  have distinct : Meets (step parseTcs) (distinctWires parseTcs) {} collidingCalls := by decide +kernel
  have registered : (exec (step parseTcs) {} collidingCalls).map (fun master =>
      Dict.get master.last ⟨"NSE:BAJAJAUTO"⟩) = some (some (securityWire "1")) := by decide +kernel
  have held : (exec (step parseTcs) {} collidingCalls).map (fun master =>
      master.resolver.wire.get "NSE:BAJAJAUTO") = some (some (securityWire "2")) := by decide +kernel
  rw [run, Option.map_some, Option.some.injEq] at registered held
  have found : after.resolver.resolveRef ⟨"NSE:BAJAJAUTO"⟩ = .ok ⟨⟨"NSE:BAJAJAUTO"⟩, securityWire "2"⟩ := by
    unfold resolveRef
    rw [held, Option.some_or]
  refine ⟨after, run, distinct, registered, found, ?_⟩
  intro answers
  have right := answers.resolved _ _ registered
  rw [found] at right
  have same : securityWire "2" = securityWire "1" := congrArg BrokerWireRef.wire (Except.ok.inj right)
  exact absurd same (by decide +kernel)

end InstrumentMaster

end TradeX.V2
