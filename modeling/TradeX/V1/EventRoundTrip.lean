import TradeX.Lib.Uuid
import TradeX.V1.EventCodec

/-! What the event log gives back to a process that has serialized nothing: the values that come back
equal, and the events, none of which comes back with its id. -/

namespace TradeX.V1

open Lib

theorem bind_ok {ε α β : Type} {first : Except ε α} {next : α → Except ε β} {result : β} :
    first >>= next = .ok result ↔ ∃ value, first = .ok value ∧ next value = .ok result := by
  cases first with
  | error raised => exact ⟨nofun, fun ⟨_, none_, _⟩ => nomatch none_⟩
  | ok value => exact ⟨fun done => ⟨value, rfl, done⟩, fun ⟨_, same, done⟩ => Except.ok.inj same ▸ done⟩

section

variable {defaultStr : Bool}

theorem serializeItems_cons {item : PyValue} {rest : List PyValue} {jsons : List Json} :
    serializeItems defaultStr (item :: rest) = .ok jsons ↔ ∃ json others, serializeValue defaultStr item = .ok json ∧
      serializeItems defaultStr rest = .ok others ∧ json :: others = jsons := by
  simp [serializeItems, bind_ok, pure, Except.pure]

theorem serializeEntries_cons {name : String} {value : PyValue} {rest : List (PyKey × PyValue)}
    {members : List (String × Json)} :
    serializeEntries defaultStr ((.text name, value) :: rest) = .ok members ↔
      ∃ json others, serializeValue defaultStr value = .ok json ∧ serializeEntries defaultStr rest = .ok others ∧
        (name, json) :: others = members := by
  simp [serializeEntries, bind_ok, pure, Except.pure]

theorem deserializeItems_cons {domainTypes : DomainTypes} {json : Json} {rest : List Json} {values : List PyValue} :
    deserializeItems domainTypes (json :: rest) = .ok values ↔ ∃ value others,
      deserializeValue domainTypes json = .ok value ∧ deserializeItems domainTypes rest = .ok others ∧
        value :: others = values := by
  simp [deserializeItems, bind_ok, pure, Except.pure]

theorem collect_cons {ε α β : Type} {name : α} {value : Except ε β} {rest : List (α × Except ε β)}
    {values : List (α × β)} :
    collect ((name, value) :: rest) = .ok values ↔
      ∃ first others, value = .ok first ∧ collect rest = .ok others ∧ (name, first) :: others = values := by
  simp [collect, bind_ok, pure, Except.pure]

/-- The members of a dictionary without a tag, decoded. -/
def decodeMembers (members : List (String × Json)) : Except ReplayError (List (String × PyValue)) :=
  collect (deserializeMembers freshProcess (fun _ => none) members)

theorem decodeMembers_cons {name : String} {json : Json} {rest : List (String × Json)}
    {values : List (String × PyValue)} :
    decodeMembers ((name, json) :: rest) = .ok values ↔ ∃ value others,
      deserializeValue freshProcess json = .ok value ∧ decodeMembers rest = .ok others ∧
        (name, value) :: others = values := by
  unfold decodeMembers
  rw [deserializeMembers, collect_cons]
  rfl

theorem decodeMembers_names {members : List (String × Json)} {values : List (String × PyValue)}
    (decoded : decodeMembers members = .ok values) : values.map Prod.fst = members.map Prod.fst := by
  induction members generalizing values with
  | nil =>
    cases decoded
    rfl
  | cons member rest ih =>
    obtain ⟨value, others, -, done, rfl⟩ := decodeMembers_cons.mp decoded
    rw [List.map_cons, List.map_cons, ih done]

theorem loadsMembers_names (members : List (String × Json)) :
    (loadsMembers members).map Prod.fst = members.map Prod.fst := by
  induction members with
  | nil => rfl
  | cons member rest ih => rw [loadsMembers, List.map_cons, List.map_cons, ih]

/-- Names that are given once keep their places. -/
theorem lastWins_nodup {members : List (String × Json)} (nodup : (members.map Prod.fst).Nodup) :
    lastWins members = members :=
  Dict.entries_foldl_set (d := ∅) nodup

theorem lastWins_names_nodup (members : List (String × Json)) : ((lastWins members).map Prod.fst).Nodup :=
  (members.foldl (fun filed member => Dict.set filed member.1 member.2) ∅).nodup

/-- The keys that a dictionary comes back with. -/
theorem eqEntries_names {values : List (String × PyValue)} {entries : List (PyKey × PyValue)}
    (same : PyValue.eqEntries (values.map fun entry => (.text entry.1, entry.2)) entries = true) :
    entries.map Prod.fst = (values.map Prod.fst).map PyKey.text := by
  induction values generalizing entries with
  | nil =>
    cases entries with
    | nil => rfl
    | cons entry rest => simp [PyValue.eqEntries] at same
  | cons value rest ih =>
    cases entries with
    | nil => simp [PyValue.eqEntries] at same
    | cons entry others =>
      obtain ⟨key, held⟩ := entry
      simp only [List.map_cons, PyValue.eqEntries, Bool.and_eq_true, beq_iff_eq] at same
      rw [List.map_cons, List.map_cons, List.map_cons, ih same.2, same.1.1]

theorem loads_tagged (type text : String) : loads (tagged type text) = tagged type text := by
  have nodup : (([("__type__", Json.str type), ("value", .str text)] : List (String × Json)).map Prod.fst).Nodup := by
    simp
  unfold tagged
  simp only [loads, loadsMembers]
  rw [lastWins_nodup nodup]

theorem deserialize_scalar (domainTypes : DomainTypes) (value : Scalar) :
    deserializeValue domainTypes (loads value.toJson) = .ok (.scalar value) := by
  cases value <;> simp [Scalar.toJson, loads, deserializeValue]

theorem spelledDecimal_text (value : PyDecimal) : spelledDecimal value.text = .ok (.decimal value) := by
  obtain ⟨text, value, spells⟩ := value
  unfold spelledDecimal
  split
  · next other read =>
    obtain rfl := Option.some.inj (spells.symm.trans read)
    rfl
  · next unread =>
    rw [spells] at unread
    cases unread

theorem spelledDecimal_decimal {text : String} {read : PyValue} (decoded : spelledDecimal text = .ok read) :
    ∃ value, read = .decimal value := by
  unfold spelledDecimal at decoded
  split at decoded
  · exact ⟨_, (Except.ok.inj decoded).symm⟩
  · cases decoded

theorem deserialize_decimal (domainTypes : DomainTypes) (value : PyDecimal) :
    deserializeValue domainTypes (tagged "decimal" value.text) = .ok (.decimal value) := by
  unfold tagged
  rw [deserializeValue]
  simp only [typeTag, readDecimal, taggedText, Json.get, List.lookup, String.reduceBEq, if_true, Except.bind,
    spelledDecimal_text]

theorem deserialize_datetime (domainTypes : DomainTypes) (moment : DateTime) :
    deserializeValue domainTypes (tagged "datetime" moment.isoformat) = .ok (.datetime moment) := by
  unfold tagged
  rw [deserializeValue]
  simp only [typeTag, taggedText, Json.get, List.lookup, String.reduceBEq, String.reduceEq, if_true, if_false, Except.bind,
    DateTime.fromisoformat_isoformat]

theorem deserialize_date (domainTypes : DomainTypes) (day : Date) :
    deserializeValue domainTypes (tagged "date" day.isoformat) = .ok (.date day) := by
  unfold tagged
  rw [deserializeValue]
  simp only [typeTag, taggedText, Json.get, List.lookup, String.reduceBEq, String.reduceEq, if_true, if_false, Except.bind,
    Date.fromisoformat_isoformat]

/-- A value of one of the types that a process with an empty registry decodes to. -/
def PyValue.Plain : PyValue → Prop
  | .enum .. | .dataclass .. | .tuple _ | .object _ | .mixed .. => False
  | _ => True

/-- The form of a tag that the reader passes over. -/
def untagged : Json → Bool
  | .str name => name ∉ ["decimal", "datetime", "date"]
  | .arr _ => false
  | .obj _ => false
  | _ => true

/-- The branch of an object in a process with an empty registry. -/
theorem typeTag_fresh (members : List (String × Json)) (type : DataclassType) :
    typeTag freshProcess members ≠ .dataclass type := by
  unfold typeTag
  cases Json.get members "__type__" with
  | none => nofun
  | some tag =>
    cases tag with
    | str name =>
      dsimp only [freshProcess]
      split_ifs <;> nofun
    | null | bool | int | float | arr | obj => nofun

theorem typeTag_plain (members : List (String × Json)) :
    typeTag freshProcess members = .plain ↔ (Json.get members "__type__").all untagged = true := by
  unfold typeTag
  cases Json.get members "__type__" with
  | none => simp
  | some tag =>
    cases tag with
    | str name =>
      dsimp only [freshProcess]
      split_ifs <;> simp_all [untagged]
    | null | bool | int | float | arr | obj => simp [untagged]

/-- A tagged decimal is decoded to a decimal. -/
theorem readDecimal_decimal {members : List (String × Json)} {read : PyValue}
    (decoded : readDecimal members = .ok read) : ∃ value, read = .decimal value := by
  unfold readDecimal at decoded
  split at decoded
  · exact spelledDecimal_decimal decoded
  · exact spelledDecimal_decimal decoded
  · exact spelledDecimal_decimal decoded
  · obtain ⟨text, -, done⟩ := bind_ok.mp decoded
    exact spelledDecimal_decimal done

theorem deserialize_plain {json : Json} {read : PyValue} (decoded : deserializeValue freshProcess json = .ok read) :
    read.Plain := by
  cases json with
  | null | bool | int | float | str =>
    rw [deserializeValue] at decoded
    obtain rfl := Except.ok.inj decoded
    trivial
  | arr items =>
    rw [deserializeValue] at decoded
    obtain ⟨values, -, same⟩ := bind_ok.mp decoded
    obtain rfl := Except.ok.inj same
    trivial
  | obj members =>
    rw [deserializeValue] at decoded
    cases tag : typeTag freshProcess members with
    | plain =>
      rw [tag] at decoded
      obtain ⟨values, -, same⟩ := bind_ok.mp decoded
      obtain rfl := Except.ok.inj same
      trivial
    | decimal =>
      rw [tag] at decoded
      obtain ⟨value, rfl⟩ := readDecimal_decimal decoded
      trivial
    | datetime =>
      rw [tag] at decoded
      obtain ⟨text, -, done⟩ := bind_ok.mp decoded
      split at done
      · obtain rfl := Except.ok.inj done
        trivial
      · cases done
    | date =>
      rw [tag] at decoded
      obtain ⟨text, -, done⟩ := bind_ok.mp decoded
      split at done
      · obtain rfl := Except.ok.inj done
        trivial
      · cases done
    | unhashable =>
      rw [tag] at decoded
      cases decoded
    | dataclass type => exact absurd tag (typeTag_fresh members type)

/-- The names of the members, where all keys are texts. -/
theorem serializeEntries_names {entries : List (PyKey × PyValue)} {members : List (String × Json)} {names : List String}
    (written : serializeEntries defaultStr entries = .ok members) (texts : entries.map Prod.fst = names.map PyKey.text) :
    members.map Prod.fst = names := by
  induction entries generalizing members names with
  | nil =>
    cases written
    exact (List.map_eq_nil_iff.mp texts.symm).symm
  | cons entry rest ih =>
    obtain ⟨key, value⟩ := entry
    cases names with
    | nil => cases texts
    | cons name others =>
      obtain ⟨isText, later⟩ := List.cons.inj texts
      obtain rfl : key = .text name := isText
      obtain ⟨json, tail, -, restWritten, rfl⟩ := serializeEntries_cons.mp written
      rw [List.map_cons, ih restWritten later]

/-- A tag that the reader passes over is one whose form is. -/
theorem untagged_loads {value : PyValue} {json : Json} (faithful : value.faithful = true)
    (written : serializeValue defaultStr value = .ok json) : untagged (loads json) = value.tagIgnored := by
  cases value with
  | none =>
    cases written
    rfl
  | scalar value =>
    cases value <;> cases written <;> rfl
  | mixed enumeration value =>
    cases value <;> cases written <;> rfl
  | decimal | datetime | date =>
    rw [serializeValue] at written
    obtain rfl := Except.ok.inj written
    rw [loads_tagged]
    rfl
  | list items | mapping entries =>
    rw [serializeValue] at written
    obtain ⟨jsons, -, same⟩ := bind_ok.mp written
    obtain rfl := Except.ok.inj same
    simp [loads, untagged, PyValue.tagIgnored]
  | enum | dataclass | tuple | object => simp [PyValue.faithful] at faithful

/-- The tag of a dictionary, before and after. -/
theorem untagged_entries {entries : List (PyKey × PyValue)} {members : List (String × Json)}
    (faithful : PyValue.faithfulEntries entries = true) (written : serializeEntries defaultStr entries = .ok members) :
    (Json.get (loadsMembers members) "__type__").all untagged =
      (entries.lookup (.text "__type__")).all PyValue.tagIgnored := by
  induction entries generalizing members with
  | nil =>
    cases written
    rfl
  | cons entry rest ih =>
    obtain ⟨key, value⟩ := entry
    simp only [PyValue.faithfulEntries, Bool.and_eq_true] at faithful
    obtain ⟨⟨isText, kept⟩, others⟩ := faithful
    cases key with
    | object => cases isText
    | text name =>
      obtain ⟨json, members, first, later, rfl⟩ := serializeEntries_cons.mp written
      have tail := ih others later
      unfold Json.get at tail ⊢
      rw [loadsMembers, List.lookup_cons, List.lookup_cons]
      by_cases tag : name = "__type__"
      · subst tag
        rw [beq_self_eq_true, beq_self_eq_true, Option.all_some, Option.all_some, untagged_loads kept first]
      · have other : ("__type__" == name) = false := beq_false_of_ne fun same => tag same.symm
        have otherKey : (PyKey.text "__type__" == PyKey.text name) = false :=
          beq_false_of_ne fun same => tag (PyKey.text.inj same).symm
        rw [other, otherKey]
        exact tail

/-- The value is written, and what is read back is equal to it. -/
def Comes (defaultStr : Bool) (value : PyValue) : Prop :=
  ∃ json read, serializeValue defaultStr value = .ok json ∧
    deserializeValue freshProcess (loads json) = .ok read ∧ read.eq value = true

/-- What decodes to other types than a value of these does not come back. -/
theorem not_comes {value : PyValue} (apart : ∀ read : PyValue, read.Plain → read.eq value = false) :
    ¬Comes defaultStr value := by
  rintro ⟨json, read, -, decoded, same⟩
  rw [apart read (deserialize_plain decoded)] at same
  cases same

/-- What an object decodes to, where that is equal to a dictionary. -/
theorem deserialize_mapping {members : List (String × Json)} {read : PyValue} {entries : List (PyKey × PyValue)}
    (decoded : deserializeValue freshProcess (.obj members) = .ok read) (same : read.eq (.mapping entries) = true) :
    typeTag freshProcess members = .plain ∧ ∃ values, decodeMembers members = .ok values ∧
      read = .mapping (values.map fun entry => (.text entry.1, entry.2)) := by
  rw [deserializeValue] at decoded
  cases tag : typeTag freshProcess members with
  | plain =>
    rw [tag] at decoded
    obtain ⟨values, done, isMapping⟩ := bind_ok.mp decoded
    exact ⟨rfl, values, done, (Except.ok.inj isMapping).symm⟩
  | decimal =>
    rw [tag] at decoded
    obtain ⟨value, rfl⟩ := readDecimal_decimal decoded
    simp [PyValue.eq] at same
  | datetime | date =>
    rw [tag] at decoded
    obtain ⟨text, -, done⟩ := bind_ok.mp decoded
    split at done
    · obtain rfl := Except.ok.inj done
      simp [PyValue.eq] at same
    · cases done
  | unhashable =>
    rw [tag] at decoded
    cases decoded
  | dataclass type => exact absurd tag (typeTag_fresh members type)

mutual

/-- The values that come back equal. -/
theorem comes_iff : ∀ value : PyValue, Comes defaultStr value ↔ value.faithful = true
  | .none => by simp [Comes, serializeValue, loads, deserializeValue, PyValue.eq, PyValue.faithful]
  | .scalar value => by
    simp [Comes, serializeValue, deserialize_scalar, PyValue.eq, PyValue.faithful, Scalar.eq]
  | .mixed enumeration value => by
    simp [Comes, serializeValue, deserialize_scalar, PyValue.eq, PyValue.faithful, Scalar.eq]
  | .decimal value => by
    simp [Comes, serializeValue, loads_tagged, deserialize_decimal, PyValue.eq, PyValue.faithful, PyDecimal.eq]
  | .datetime moment => by
    simp [Comes, serializeValue, loads_tagged, deserialize_datetime, PyValue.eq, PyValue.faithful]
  | .date day => by
    simp [Comes, serializeValue, loads_tagged, deserialize_date, PyValue.eq, PyValue.faithful]
  | .enum .. => iff_of_false (not_comes fun read plain => by cases read <;> simp_all [PyValue.eq, PyValue.Plain])
      (by simp [PyValue.faithful])
  | .dataclass .. => iff_of_false (not_comes fun read plain => by cases read <;> simp_all [PyValue.eq, PyValue.Plain])
      (by simp [PyValue.faithful])
  | .tuple .. => iff_of_false (not_comes fun read plain => by cases read <;> simp_all [PyValue.eq, PyValue.Plain])
      (by simp [PyValue.faithful])
  | .object .. => iff_of_false (not_comes fun read plain => by cases read <;> simp_all [PyValue.eq, PyValue.Plain])
      (by simp [PyValue.faithful])
  | .list items => by
    have inner := comesItems_iff items
    rw [PyValue.faithful, ← inner]
    constructor
    · rintro ⟨json, read, written, decoded, same⟩
      rw [serializeValue] at written
      obtain ⟨jsons, itemsWritten, isArr⟩ := bind_ok.mp written
      obtain rfl := Except.ok.inj isArr
      rw [loads, deserializeValue] at decoded
      obtain ⟨values, itemsRead, isList⟩ := bind_ok.mp decoded
      obtain rfl := Except.ok.inj isList
      rw [PyValue.eq] at same
      exact ⟨jsons, values, itemsWritten, itemsRead, same⟩
    · rintro ⟨jsons, values, itemsWritten, itemsRead, same⟩
      refine ⟨.arr jsons, .list values, ?_, ?_, ?_⟩
      · rw [serializeValue, itemsWritten]
        rfl
      · rw [loads, deserializeValue, itemsRead]
        rfl
      · rw [PyValue.eq]
        exact same
  | .mapping entries => by
    have inner := comesEntries_iff entries
    rw [PyValue.faithful, Bool.and_eq_true, Bool.and_eq_true, decide_eq_true_iff, ← inner]
    constructor
    · rintro ⟨json, read, written, decoded, same⟩
      rw [serializeValue] at written
      obtain ⟨members, entriesWritten, isObj⟩ := bind_ok.mp written
      obtain rfl := Except.ok.inj isObj
      rw [loads] at decoded
      obtain ⟨plain, values, read_, rfl⟩ := deserialize_mapping decoded same
      rw [PyValue.eq] at same
      have names := eqEntries_names same
      have once : (values.map Prod.fst).Nodup := by
        rw [decodeMembers_names read_]
        exact lastWins_names_nodup _
      have membersOnce : ((loadsMembers members).map Prod.fst).Nodup := by
        rw [loadsMembers_names, serializeEntries_names entriesWritten names]
        exact once
      rw [lastWins_nodup membersOnce] at plain read_
      have kept : ∃ members values, serializeEntries defaultStr entries = .ok members ∧
          decodeMembers (loadsMembers members) = .ok values ∧
          PyValue.eqEntries (values.map fun entry => (.text entry.1, entry.2)) entries = true :=
        ⟨members, values, entriesWritten, read_, same⟩
      refine ⟨⟨kept, ?_⟩, ?_⟩
      · rw [names]
        exact once.map fun _ _ => PyKey.text.inj
      · rw [← untagged_entries (inner.mp kept) entriesWritten]
        exact (typeTag_plain _).mp plain
    · rintro ⟨⟨⟨members, values, entriesWritten, entriesRead, same⟩, nodup⟩, ignored⟩
      have membersOnce : ((loadsMembers members).map Prod.fst).Nodup := by
        rw [eqEntries_names same, decodeMembers_names entriesRead] at nodup
        exact nodup.of_map _
      have plain : typeTag freshProcess (loadsMembers members) = .plain := by
        rw [typeTag_plain, untagged_entries (inner.mp ⟨members, values, entriesWritten, entriesRead, same⟩) entriesWritten]
        exact ignored
      refine ⟨.obj members, .mapping (values.map fun entry => (.text entry.1, entry.2)), ?_, ?_, ?_⟩
      · rw [serializeValue, entriesWritten]
        rfl
      · unfold decodeMembers at entriesRead
        rw [loads, lastWins_nodup membersOnce, deserializeValue, plain]
        dsimp only
        rw [entriesRead]
        rfl
      · rw [PyValue.eq]
        exact same

theorem comesItems_iff : ∀ items : List PyValue,
    (∃ jsons values, serializeItems defaultStr items = .ok jsons ∧
      deserializeItems freshProcess (loadsItems jsons) = .ok values ∧ PyValue.eqItems values items = true) ↔
    PyValue.faithfulItems items = true
  | [] => by simp [serializeItems, loadsItems, deserializeItems, PyValue.eqItems, PyValue.faithfulItems]
  | item :: rest => by
    have first := comes_iff item
    have later := comesItems_iff rest
    rw [PyValue.faithfulItems, Bool.and_eq_true, ← first, ← later]
    constructor
    · rintro ⟨jsons, values, written, decoded, same⟩
      obtain ⟨json, others, itemWritten, restWritten, rfl⟩ := serializeItems_cons.mp written
      rw [loadsItems] at decoded
      obtain ⟨value, restValues, itemRead, restRead, rfl⟩ := deserializeItems_cons.mp decoded
      rw [PyValue.eqItems, Bool.and_eq_true] at same
      exact ⟨⟨json, value, itemWritten, itemRead, same.1⟩, ⟨others, restValues, restWritten, restRead, same.2⟩⟩
    · rintro ⟨⟨json, value, itemWritten, itemRead, itemSame⟩, ⟨others, restValues, restWritten, restRead, restSame⟩⟩
      refine ⟨json :: others, value :: restValues, serializeItems_cons.mpr ⟨_, _, itemWritten, restWritten, rfl⟩, ?_, ?_⟩
      · rw [loadsItems]
        exact deserializeItems_cons.mpr ⟨_, _, itemRead, restRead, rfl⟩
      · rw [PyValue.eqItems, itemSame, restSame]
        rfl

theorem comesEntries_iff : ∀ entries : List (PyKey × PyValue),
    (∃ members values, serializeEntries defaultStr entries = .ok members ∧
      decodeMembers (loadsMembers members) = .ok values ∧
      PyValue.eqEntries (values.map fun entry => (.text entry.1, entry.2)) entries = true) ↔
    PyValue.faithfulEntries entries = true
  | [] => by
    simp [serializeEntries, loadsMembers, decodeMembers, deserializeMembers, collect, PyValue.eqEntries,
      PyValue.faithfulEntries]
  | (.text name, value) :: rest => by
    have first := comes_iff value
    have later := comesEntries_iff rest
    rw [PyValue.faithfulEntries, PyKey.isText, Bool.true_and, Bool.and_eq_true, ← first, ← later]
    constructor
    · rintro ⟨members, values, written, decoded, same⟩
      obtain ⟨json, others, valueWritten, restWritten, rfl⟩ := serializeEntries_cons.mp written
      rw [loadsMembers] at decoded
      obtain ⟨read, restValues, valueRead, restRead, rfl⟩ := decodeMembers_cons.mp decoded
      rw [List.map_cons, PyValue.eqEntries, Bool.and_eq_true, Bool.and_eq_true] at same
      exact ⟨⟨json, read, valueWritten, valueRead, same.1.2⟩, ⟨others, restValues, restWritten, restRead, same.2⟩⟩
    · rintro ⟨⟨json, read, valueWritten, valueRead, valueSame⟩, ⟨others, restValues, restWritten, restRead, restSame⟩⟩
      refine ⟨(name, json) :: others, (name, read) :: restValues,
        serializeEntries_cons.mpr ⟨_, _, valueWritten, restWritten, rfl⟩, ?_, ?_⟩
      · rw [loadsMembers]
        exact decodeMembers_cons.mpr ⟨_, _, valueRead, restRead, rfl⟩
      · rw [List.map_cons, PyValue.eqEntries, beq_self_eq_true, valueSame, restSame]
        rfl
  | (.object identity json, value) :: rest => by
    refine iff_of_false ?_ (by simp [PyValue.faithfulEntries, PyKey.isText])
    rintro ⟨members, values, written, decoded, same⟩
    have names := eqEntries_names same
    cases values with
    | nil => cases names
    | cons value others => cases (List.cons.inj names).1

end

end

/-- A domain event. Its timestamp has a zone, and its payload is a dictionary. -/
structure DomainEvent where
  eventType : String
  timestamp : DateTime
  payload : Dict PyKey PyValue
  symbol : Option String := none
  source : Option String := none
  eventId : String
  correlationId : Option String := none
  sequenceNumber : ℤ := 0
  aware : timestamp.time.offset.isSome = true

/-- The two logs: `EventLog` and `BufferedEventLog`. -/
inductive LogKind where
  | plain
  | buffered
  deriving DecidableEq, Repr

def optional : Option String → Json
  | some text => .str text
  | none => .null

namespace LogKind

/-- The record of an event, for the serialized payload. The buffered log has no `event_id`. -/
def recordOf (kind : LogKind) (event : DomainEvent) (payload : List (String × Json)) : Json :=
  match kind with
  | plain => .obj [
      ("event_type", .str event.eventType),
      ("event_id", .str event.eventId),
      ("timestamp", .str event.timestamp.isoformat),
      ("source", optional event.source),
      ("symbol", optional event.symbol),
      ("payload", .obj payload),
      ("correlation_id", optional event.correlationId),
      ("sequence_number", .int event.sequenceNumber)]
  | buffered => .obj [
      ("event_type", .str event.eventType),
      ("timestamp", .str event.timestamp.isoformat),
      ("payload", .obj payload),
      ("symbol", optional event.symbol),
      ("source", optional event.source),
      ("correlation_id", optional event.correlationId),
      ("sequence_number", .int event.sequenceNumber)]

/-- `json.dumps` has the default `str` in `EventLog` only. -/
def defaultStr : LogKind → Bool
  | plain => true
  | buffered => false

/-- The record that `append` writes. -/
def record (kind : LogKind) (event : DomainEvent) : Except AppendError Json := do
  let payload ← serializeEntries kind.defaultStr (Dict.entries event.payload)
  return kind.recordOf event payload

/-- The records of the events that are appended. -/
def records (kind : LogKind) : List DomainEvent → Except AppendError (List Json)
  | [] => .ok []
  | event :: rest => do
    let first ← kind.record event
    return first :: (← records kind rest)

end LogKind

/-- `record.get(name, default)` of a text that may be missing. -/
def textOr (members : List (String × Json)) (name : String) (default : Option String) : Option String :=
  match Json.get members name with
  | some (.str text) => some text
  | some _ => none
  | none => default

/-- The dictionary of the given values. -/
def payloadOf (values : List (String × PyValue)) : Dict PyKey PyValue :=
  (values.map fun entry => (PyKey.text entry.1, entry.2)).foldl (fun filed entry => Dict.set filed entry.1 entry.2) ∅

/-- `_deserialize_payload`. -/
def deserializePayload (domainTypes : DomainTypes) : Option Json → Except ReplayError (Dict PyKey PyValue)
  | some (.obj members) => (collect (deserializeMembers domainTypes (fun _ => none) members)).map payloadOf
  | _ => .ok ∅

/-- `datetime.fromisoformat(record["timestamp"])`. -/
def recordTime (members : List (String × Json)) : Except ReplayError DateTime :=
  match Json.get members "timestamp" with
  | some (.str text) => match DateTime.fromisoformat text with
    | some moment => .ok moment
    | none => .error (.valueError text)
  | some _ => .error (.typeError "timestamp")
  | none => .error (.keyError "timestamp")

/-- The event that `replay` builds of a record; its id is a new one. -/
def restoreEvent (domainTypes : DomainTypes) (newId : String) : Json → Except ReplayError DomainEvent
  | .obj members => do
    let timestamp ← recordTime members
    let payload ← deserializePayload domainTypes (Json.get members "payload")
    if aware : timestamp.time.offset.isSome = true then
      return {
        eventType := (textOr members "event_type" (some "")).getD ""
        timestamp := timestamp
        payload := payload
        symbol := textOr members "symbol" none
        source := textOr members "source" (some "")
        eventId := newId
        correlationId := textOr members "correlation_id" none
        sequenceNumber := match Json.get members "sequence_number" with
          | some (.int n) => n
          | _ => 0
        aware := aware }
    else throw (.valueError "timestamp")
  | _ => .error (.typeError "record")

/-- `replay` of all records; the ids are those that the process draws next. -/
def replay (domainTypes : DomainTypes) (newId : ℕ → String) : ℕ → List Json → Except ReplayError (List DomainEvent)
  | _, [] => .ok []
  | drawn, record :: rest => do
    let event ← restoreEvent domainTypes (newId drawn) (loads record)
    return event :: (← replay domainTypes newId (drawn + 1) rest)

/-- The event has all that the written one had, the id apart. -/
structure DomainEvent.KeptButId (read written : DomainEvent) : Prop where
  eventType : read.eventType = written.eventType
  timestamp : read.timestamp = written.timestamp
  payload : PyValue.eqEntries (Dict.entries read.payload) (Dict.entries written.payload) = true

/-- The event is the written one. -/
structure DomainEvent.Restored (read written : DomainEvent) : Prop extends read.KeptButId written where
  eventId : read.eventId = written.eventId

section

variable {kind : LogKind} {event : DomainEvent}

theorem loads_optional (text : Option String) : loads (optional text) = optional text := by
  cases text <;> simp [optional, loads]

/-- Reading the text of a record changes its payload only. -/
theorem loads_recordOf (members : List (String × Json)) :
    loads (kind.recordOf event members) = kind.recordOf event (lastWins (loadsMembers members)) := by
  cases kind with
  | plain =>
    simp only [LogKind.recordOf, loads, loadsMembers, loads_optional]
    rw [lastWins_nodup (by simp)]
  | buffered =>
    simp only [LogKind.recordOf, loads, loadsMembers, loads_optional]
    rw [lastWins_nodup (by simp)]

theorem textOr_optional {members : List (String × Json)} {name : String} {default text : Option String}
    (held : Json.get members name = some (optional text)) : textOr members name default = text := by
  unfold textOr
  rw [held]
  cases text <;> rfl

/-- The event of a record, with the payload that its members decode to. -/
theorem restoreEvent_recordOf (newId : String) (members : List (String × Json)) :
    restoreEvent freshProcess newId (kind.recordOf event members) = (decodeMembers members).map fun values =>
      { event with payload := payloadOf values, eventId := newId } := by
  obtain ⟨names, isObj, eventType, timestamp, payload, symbol, source, correlation, sequence⟩ :
      ∃ names, kind.recordOf event members = .obj names ∧ Json.get names "event_type" = some (.str event.eventType) ∧
        Json.get names "timestamp" = some (.str event.timestamp.isoformat) ∧
        Json.get names "payload" = some (.obj members) ∧ Json.get names "symbol" = some (optional event.symbol) ∧
        Json.get names "source" = some (optional event.source) ∧
        Json.get names "correlation_id" = some (optional event.correlationId) ∧
        Json.get names "sequence_number" = some (.int event.sequenceNumber) := by
    cases kind <;> exact ⟨_, rfl, rfl, rfl, rfl, rfl, rfl, rfl, rfl⟩
  have time : recordTime names = .ok event.timestamp := by
    unfold recordTime
    rw [timestamp]
    dsimp only
    rw [DateTime.fromisoformat_isoformat]
  have type : textOr names "event_type" (some "") = some event.eventType := by
    unfold textOr
    rw [eventType]
  rw [isObj, restoreEvent, time, payload, type, textOr_optional symbol, textOr_optional source,
    textOr_optional correlation, sequence]
  unfold deserializePayload decodeMembers
  cases decoded : collect (deserializeMembers freshProcess (fun _ => none) members) with
  | error raised => simp only [decoded, bind, Except.bind, Except.map]
  | ok values =>
    simp only [decoded, bind, Except.bind, Except.map, dif_pos event.aware]
    rfl

/-- The record of an event is read back with the values of its payload, whatever they have become. -/
theorem restoreEvent_record {record : Json} (newId : String) (written : kind.record event = .ok record) :
    ∃ members, serializeEntries kind.defaultStr (Dict.entries event.payload) = .ok members ∧
      restoreEvent freshProcess newId (loads record) = (decodeMembers (lastWins (loadsMembers members))).map
        fun values => { event with payload := payloadOf values, eventId := newId } := by
  obtain ⟨members, serialized, isRecord⟩ := bind_ok.mp written
  obtain rfl := Except.ok.inj isRecord
  exact ⟨members, serialized, by rw [loads_recordOf, restoreEvent_recordOf]⟩

/-- An event that is read back has the id that the reader draws. -/
theorem restoreEvent_eventId {domainTypes : DomainTypes} {newId : String} {record : Json} {read : DomainEvent}
    (restored : restoreEvent domainTypes newId record = .ok read) : read.eventId = newId := by
  cases record with
  | obj members =>
    rw [restoreEvent] at restored
    obtain ⟨timestamp, -, restored⟩ := bind_ok.mp restored
    obtain ⟨payload, -, restored⟩ := bind_ok.mp restored
    split at restored
    · obtain rfl := Except.ok.inj restored
      rfl
    · cases restored
  | null | bool | int | float | str | arr => cases restored

theorem payloadOf_entries {values : List (String × PyValue)} (once : (values.map Prod.fst).Nodup) :
    Dict.entries (payloadOf values) = values.map fun entry => (PyKey.text entry.1, entry.2) := by
  have keys : ((values.map fun entry => (PyKey.text entry.1, entry.2)).map Prod.fst).Nodup := by
    rw [List.map_map]
    have same : (Prod.fst ∘ fun entry : String × PyValue => (PyKey.text entry.1, entry.2)) = PyKey.text ∘ Prod.fst := rfl
    rw [same, ← List.map_map]
    exact once.map fun _ _ => PyKey.text.inj
  exact Dict.entries_foldl_set (d := ∅) keys

/-- An event comes back, its id apart, where the values of its payload do. -/
theorem keptButId_iff (kind : LogKind) (event : DomainEvent) (newId : String) :
    (∃ record read, kind.record event = .ok record ∧ restoreEvent freshProcess newId (loads record) = .ok read ∧
      read.KeptButId event) ↔ PyValue.faithfulEntries (Dict.entries event.payload) = true := by
  constructor
  · rintro ⟨record, read, written, restored, kept⟩
    obtain ⟨members, serialized, isRead⟩ := restoreEvent_record newId written
    rw [isRead] at restored
    cases decoded : decodeMembers (lastWins (loadsMembers members)) with
    | error raised =>
      rw [decoded] at restored
      cases restored
    | ok values =>
      rw [decoded] at restored
      obtain rfl := Except.ok.inj restored
      have once : (values.map Prod.fst).Nodup := by
        rw [decodeMembers_names decoded]
        exact lastWins_names_nodup _
      have same := kept.payload
      dsimp only at same
      rw [payloadOf_entries once] at same
      have membersOnce : ((loadsMembers members).map Prod.fst).Nodup := by
        rw [loadsMembers_names, serializeEntries_names serialized (eqEntries_names same)]
        exact once
      rw [lastWins_nodup membersOnce] at decoded
      exact (comesEntries_iff _).mp ⟨members, values, serialized, decoded, same⟩
  · intro faithful
    obtain ⟨members, values, serialized, decoded, same⟩ := (@comesEntries_iff kind.defaultStr _).mpr faithful
    have once : (values.map Prod.fst).Nodup := by
      have keys := event.payload.nodup
      rw [eqEntries_names same] at keys
      exact keys.of_map _
    have membersOnce : ((loadsMembers members).map Prod.fst).Nodup := by
      rw [← decodeMembers_names decoded]
      exact once
    have written : kind.record event = .ok (kind.recordOf event members) := by
      unfold LogKind.record
      rw [serialized]
      rfl
    refine ⟨_, { event with payload := payloadOf values, eventId := newId }, written, ?_, rfl, rfl, ?_⟩
    · rw [loads_recordOf, lastWins_nodup membersOnce, restoreEvent_recordOf, decoded]
      rfl
    · dsimp only
      rw [payloadOf_entries once]
      exact same

theorem records_cons {rest : List DomainEvent} {records : List Json} :
    kind.records (event :: rest) = .ok records ↔ ∃ record others, kind.record event = .ok record ∧
      kind.records rest = .ok others ∧ record :: others = records := by
  simp [LogKind.records, bind_ok, pure, Except.pure]

theorem replay_cons {domainTypes : DomainTypes} {newId : ℕ → String} {drawn : ℕ} {record : Json} {rest : List Json}
    {read : List DomainEvent} : replay domainTypes newId drawn (record :: rest) = .ok read ↔ ∃ first others,
      restoreEvent domainTypes (newId drawn) (loads record) = .ok first ∧
        replay domainTypes newId (drawn + 1) rest = .ok others ∧ first :: others = read := by
  simp [replay, bind_ok, pure, Except.pure]

/-- Every event that is read back has an id that the reader draws. -/
theorem replay_eventId {domainTypes : DomainTypes} {newId : ℕ → String} {records : List Json} {read : List DomainEvent}
    {drawn : ℕ} (replayed : replay domainTypes newId drawn records = .ok read) :
    ∀ event ∈ read, ∃ n, event.eventId = newId n := by
  induction records generalizing read drawn with
  | nil =>
    cases replayed
    exact List.forall_mem_nil _
  | cons record rest ih =>
    obtain ⟨first, others, restored, later, rfl⟩ := replay_cons.mp replayed
    exact List.forall_mem_cons.mpr ⟨⟨drawn, restoreEvent_eventId restored⟩, ih later⟩

/-- All events come back, their ids apart, where the payloads of all do. -/
theorem replay_keptButId_iff (kind : LogKind) (newId : ℕ → String) (drawn : ℕ) (events : List DomainEvent) :
    (∃ records read, kind.records events = .ok records ∧ replay freshProcess newId drawn records = .ok read ∧
      List.Forall₂ DomainEvent.KeptButId read events) ↔
    ∀ event ∈ events, PyValue.faithfulEntries (Dict.entries event.payload) = true := by
  induction events generalizing drawn with
  | nil => exact ⟨fun _ => List.forall_mem_nil _, fun _ => ⟨[], [], rfl, rfl, .nil⟩⟩
  | cons event rest ih =>
    rw [List.forall_mem_cons, ← keptButId_iff kind event (newId drawn), ← ih (drawn + 1)]
    constructor
    · rintro ⟨records, read, written, replayed, kept⟩
      obtain ⟨record, others, first, later, rfl⟩ := records_cons.mp written
      obtain ⟨event, events, restored, restoredLater, rfl⟩ := replay_cons.mp replayed
      obtain ⟨keptFirst, keptLater⟩ := List.forall₂_cons.mp kept
      exact ⟨⟨record, event, first, restored, keptFirst⟩, ⟨others, events, later, restoredLater, keptLater⟩⟩
    · rintro ⟨⟨record, read, first, restored, keptFirst⟩, ⟨others, events, later, restoredLater, keptLater⟩⟩
      exact ⟨record :: others, read :: events, records_cons.mpr ⟨_, _, first, later, rfl⟩,
        replay_cons.mpr ⟨_, _, restored, restoredLater, rfl⟩, .cons keptFirst keptLater⟩

/-- No event that a fresh process reads back is one that was written: its id is another. Apart from
the ids, the events come back where their payloads are of the types that the codec keeps. -/
theorem events_not_restored (kind : LogKind) (newId : ℕ → String) (drawn : ℕ) (events : List DomainEvent)
    (unused : ∀ n, ∀ event ∈ events, newId n ≠ event.eventId) :
    (∀ records read, kind.records events = .ok records → replay freshProcess newId drawn records = .ok read →
      ∀ other ∈ read, ∀ event ∈ events, ¬other.Restored event) ∧
    ((∃ records read, kind.records events = .ok records ∧ replay freshProcess newId drawn records = .ok read ∧
      List.Forall₂ DomainEvent.KeptButId read events) ↔
      ∀ event ∈ events, PyValue.faithfulEntries (Dict.entries event.payload) = true) := by
  refine ⟨?_, replay_keptButId_iff kind newId drawn events⟩
  intro records read written replayed other member event wrote restored
  obtain ⟨n, drawnId⟩ := replay_eventId replayed other member
  exact unused n event wrote (drawnId.symm.trans restored.eventId)

end

/-- Half past nine in the morning, on the clock of UTC. -/
def openingTime : DateTime where
  date := ⟨2026, 1, 5, by decide⟩
  time := ⟨9, 30, 0, 0, some 0, by decide⟩

/-- A trade with a price of two places and a side, as texts and numbers. -/
def tradeEvent : DomainEvent where
  eventType := "TRADE"
  timestamp := openingTime
  payload := Dict.set (Dict.set ∅ (.text "price") (.decimal ⟨"2500.50", .finite 2500.5, by decide +kernel⟩))
    (.text "side") (.mixed "OrderSide" (.str "BUY"))
  eventId := "TRADE-1"
  aware := rfl

/-- An update with the order itself, a dataclass. -/
def orderEvent : DomainEvent where
  eventType := "ORDER_UPDATED"
  timestamp := openingTime
  payload := Dict.set ∅ (.text "order") (.dataclass "domain.entities.order.Order" [("order_id", .scalar (.str "O-1"))])
  eventId := "ORDER-1"
  aware := rfl

/-- Ids of sixteen hexadecimal digits. -/
def hexIds (n : ℕ) : String := String.ofList (Uuid.hexNumeral 16 (n + 1))

theorem hexIds_ne (n : ℕ) {id : String} (other : id.toList.length ≠ 16) : hexIds n ≠ id := by
  rintro rfl
  unfold hexIds at other
  rw [String.toList_ofList, Uuid.hexNumeral_length] at other
  exact other rfl

theorem trade_not_restored :
    (∀ records read, LogKind.plain.records [tradeEvent] = .ok records →
      replay freshProcess hexIds 0 records = .ok read → ∀ other ∈ read, ∀ event ∈ [tradeEvent], ¬other.Restored event) ∧
    ∃ records read, LogKind.plain.records [tradeEvent] = .ok records ∧
      replay freshProcess hexIds 0 records = .ok read ∧ List.Forall₂ DomainEvent.KeptButId read [tradeEvent] := by
  have unused : ∀ n, ∀ event ∈ [tradeEvent], hexIds n ≠ event.eventId := by
    intro n event member
    obtain rfl := List.mem_singleton.mp member
    exact hexIds_ne n (by decide)
  have law := events_not_restored .plain hexIds 0 [tradeEvent] unused
  exact ⟨law.1, law.2.mpr (by decide +kernel)⟩

/-- The trade is written and read back under another id, and an order that is a dataclass does not
come back from the buffered log even when the ids are left aside. -/
theorem trade_id_lost :
    (∃ records read, LogKind.plain.records [tradeEvent] = .ok records ∧
      replay freshProcess hexIds 0 records = .ok read ∧ read.length = 1 ∧ ∀ other ∈ read, ¬other.Restored tradeEvent) ∧
    ¬∃ records read, LogKind.buffered.records [orderEvent] = .ok records ∧
      replay freshProcess hexIds 0 records = .ok read ∧ List.Forall₂ DomainEvent.KeptButId read [orderEvent] := by
  constructor
  · obtain ⟨records, read, written, replayed, kept⟩ :=
      (replay_keptButId_iff .plain hexIds 0 [tradeEvent]).mpr (by decide +kernel)
    refine ⟨records, read, written, replayed, kept.length_eq, ?_⟩
    intro other member restored
    obtain ⟨n, drawn⟩ := replay_eventId replayed other member
    exact hexIds_ne n (by decide) (drawn.symm.trans restored.eventId)
  · rw [replay_keptButId_iff]
    decide +kernel

end TradeX.V1
