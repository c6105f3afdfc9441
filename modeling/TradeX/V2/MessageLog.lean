import TradeX.Lib.IsoTime
import TradeX.Lib.Json
import TradeX.Lib.KeyedFold

/-! The SQLite message log. A message is stored as the JSON of its attribute dictionary, and as its
text where it has none. The classes of the domain events have slots and no dictionary, and the
reader takes what was stored for a dictionary in any case. -/

namespace TradeX.V2

open Lib

/-- A Python value as an attribute of a message. -/
inductive Attribute where
  | json (value : Json)
  | datetime (moment : DateTime)
  | object (attributes : List (String × Attribute))
  | opaque_ (text : String)

/-- A published object: its class, the fields with their values, whether the class has slots, and
what `str` writes of it. -/
structure LoggedObject where
  className : String
  fields : List (String × Attribute)
  slotted : Bool
  text : String

/-- The classes of `domain.events` are declared with slots, and so are their bases. -/
structure DomainMessage extends LoggedObject where
  timestamp : DateTime
  slots : toLoggedObject.slotted = true
  timed : toLoggedObject.fields.lookup "timestamp" = some (.datetime timestamp)

/-- What reading a row can raise. -/
inductive ReadError where
  | attributeError (message : String)
  | keyError (name : String)
  | typeError (message : String)
  deriving DecidableEq, Repr

namespace LoggedObject

/-- `message.__dict__`, where the object has one. -/
def dict (message : LoggedObject) : Option (List (String × Attribute)) :=
  if message.slotted then none else some message.fields

end LoggedObject

mutual

/-- The value as `json.dumps` writes it, with `_json_serializer` for what JSON has no form for. -/
def Attribute.toJson : Attribute → Json
  | .json value => value
  | .datetime moment => .str moment.isoformat
  | .object attributes => .obj (Attribute.membersToJson attributes)
  | .opaque_ text => .str text

def Attribute.membersToJson : List (String × Attribute) → List (String × Json)
  | [] => []
  | (name, value) :: rest => (name, value.toJson) :: Attribute.membersToJson rest

end

/-- A row of the table `messages`. -/
structure MessageRow where
  id : Nat
  timestamp : String
  sessionId : Option Attribute
  messageType : String
  payload : Json

namespace MessageRow

/-- `ORDER BY timestamp ASC`: the texts in their order, equal ones in the order of the row ids. -/
def rank (row : MessageRow) : String ×ₗ Nat := toLex (row.timestamp, row.id)

end MessageRow

/-- What `_deserialize` finds under the name of a class: its constructor. -/
abbrev Constructors := String → Option (List (String × Attribute) → Except ReadError LoggedObject)

/-- `SQLiteMessageLog`. -/
structure SQLiteMessageLog where
  rows : List MessageRow := []

namespace SQLiteMessageLog

/-- `_serialize`. -/
def serialize (message : LoggedObject) : Json :=
  .obj [
    ("type", .str message.className),
    ("data", match message.dict with
      | some attributes => .obj (Attribute.membersToJson attributes)
      | none => .str message.text)]

/-- The keys whose texts `_deserialize` reads as times. -/
def timeKey (key : String) : Bool := key.endsWith "_at" || key.endsWith "_time" || key.endsWith "timestamp"

/-- A member of `msg_data` after the loop over its items. -/
def reviveMember (member : String × Json) : String × Attribute :=
  match member.2 with
  | .str text =>
    if timeKey member.1 then
      match DateTime.fromisoformat text with
      | some moment => (member.1, .datetime moment)
      | none => (member.1, .json (.str text))
    else (member.1, .json (.str text))
  | value => (member.1, .json value)

/-- The object of a class that `_deserialize` does not know. -/
def dynamicMessage (attributes : List (String × Attribute)) : LoggedObject where
  className := "DynamicMessage"
  fields := attributes
  slotted := false
  text := "DynamicMessage"

/-- The type name of a JSON value, as the message of an `AttributeError` shows it. -/
def typeName : Json → String
  | .null => "NoneType"
  | .bool _ => "bool"
  | .int _ => "int"
  | .float _ => "float"
  | .str _ => "str"
  | .arr _ => "list"
  | .obj _ => "dict"

/-- `_deserialize`. -/
def deserialize (constructors : Constructors) (row : MessageRow) : Except ReadError LoggedObject :=
  match row.payload with
  | .obj data =>
    match Json.get data "type", Json.get data "data" with
    | some (.str className), some (.obj members) =>
      match constructors className with
      | none => .ok (dynamicMessage (members.map reviveMember))
      | some construct => construct (members.map reviveMember)
    | some (.str _), some value => .error (.attributeError ("'" ++ typeName value ++ "' object has no attribute 'items'"))
    | some (.str _), none => .error (.keyError "data")
    | some _, _ => .error (.typeError "attribute name must be string")
    | none, _ => .error (.keyError "type")
  | payload => .error (.typeError (typeName payload ++ " is not subscriptable"))

section

-- `str` of a value that is no time, and the clock for a message without a timestamp
variable (str : Attribute → String) (now : DateTime)

/-- `append`. -/
def append (log : SQLiteMessageLog) (message : LoggedObject) : SQLiteMessageLog where
  rows := log.rows ++ [{
    id := log.rows.length + 1
    timestamp := match message.fields.lookup "timestamp" with
      | none => now.isoformat
      | some (.datetime moment) => moment.isoformat
      | some other => str other
    sessionId := message.fields.lookup "session_id"
    messageType := message.className
    payload := serialize message }]

/-- The domain messages, appended in their order to an empty log. -/
def appended (messages : List DomainMessage) : SQLiteMessageLog :=
  messages.foldl (fun log message => log.append str now message.toLoggedObject) {}

end

/-- `read`, to its end. -/
def read (constructors : Constructors) (log : SQLiteMessageLog) (start stop : Option DateTime) :
    Except ReadError (List LoggedObject) :=
  let rows := log.rows.filter fun row =>
    (start.all fun first => decide (first.isoformat ≤ row.timestamp)) &&
      stop.all fun last => decide (row.timestamp ≤ last.isoformat)
  (sortedBy MessageRow.rank rows).mapM (deserialize constructors)

/-- The messages in the order of their times, and of their places where the times are equal. -/
def inTimeOrder (messages : List DomainMessage) : List DomainMessage :=
  (sortedBy (fun placed : DomainMessage × Nat => toLex (placed.1.timestamp.instant, placed.2))
    messages.zipIdx).map Prod.fst

/-- Everything appended is read back as it was, in the order of the times. -/
def RoundTrips (constructors : Constructors) (str : Attribute → String) (now : DateTime)
    (messages : List DomainMessage) : Prop :=
  (appended str now messages).read constructors none none =
    .ok ((inTimeOrder messages).map DomainMessage.toLoggedObject)

variable {constructors : Constructors} {str : Attribute → String} {now : DateTime}

/-- What is stored for a domain message is no dictionary, and reading it raises. -/
theorem deserialize_raises {row : MessageRow} {message : DomainMessage}
    (stored : row.payload = serialize message.toLoggedObject) :
    deserialize constructors row = .error (.attributeError "'str' object has no attribute 'items'") := by
  have noDict : message.toLoggedObject.dict = none := by
    unfold LoggedObject.dict
    rw [message.slots, if_pos rfl]
  unfold deserialize
  rw [stored, serialize, noDict]
  rfl

/-- Every row of the log is that of a domain message. -/
theorem appended_rows (messages : List DomainMessage) :
    ((appended str now messages).rows.map MessageRow.payload) =
      messages.map fun message => serialize message.toLoggedObject := by
  have rows : ∀ log : SQLiteMessageLog,
      ((messages.foldl (fun log message => log.append str now message.toLoggedObject) log).rows.map MessageRow.payload) =
        log.rows.map MessageRow.payload ++ messages.map fun message => serialize message.toLoggedObject := by
    induction messages with
    | nil => exact fun log => (List.append_nil _).symm
    | cons message rest ih =>
      intro log
      rw [List.foldl_cons, ih, append, List.map_append, List.append_assoc]
      rfl
  exact rows {}

/-- The reader comes past no row. -/
theorem read_raises {messages : List DomainMessage} (some_ : messages ≠ []) :
    (appended str now messages).read constructors none none =
      .error (.attributeError "'str' object has no attribute 'items'") := by
  have payloads := @appended_rows str now messages
  unfold read
  simp only [Option.all_none, Bool.and_self, List.filter_true]
  have perm := sortedBy_perm MessageRow.rank (appended str now messages).rows
  cases sorted : sortedBy MessageRow.rank (appended str now messages).rows with
  | nil =>
    rw [sorted] at perm
    rw [perm.symm.eq_nil] at payloads
    exact absurd (List.map_eq_nil_iff.mp payloads.symm) some_
  | cons row rest =>
    have member : row ∈ (appended str now messages).rows := perm.mem_iff.mp (sorted ▸ List.mem_cons_self)
    have listed : row.payload ∈ messages.map fun message => serialize message.toLoggedObject :=
      payloads ▸ List.mem_map_of_mem member
    obtain ⟨message, -, stored⟩ := List.mem_map.mp listed
    rw [List.mapM_cons, deserialize_raises stored.symm]
    rfl

/-- A log of domain messages is read back exactly when there are none. -/
theorem round_trip_iff (constructors : Constructors) (str : Attribute → String) (now : DateTime)
    (messages : List DomainMessage) : RoundTrips constructors str now messages ↔ messages = [] := by
  constructor
  · intro back
    by_contra some_
    unfold RoundTrips at back
    rw [read_raises some_] at back
    cases back
  · rintro rfl
    rfl

/-- A quarter past nine on the second of January 2026, in UTC. -/
def marketOpen : DateTime where
  date := ⟨2026, 1, 2, by decide⟩
  time := ⟨9, 15, 0, 0, some 0, by decide⟩

example : marketOpen.isoformat = "2026-01-02T09:15:00+00:00" := by decide +kernel

/-- The message of a trip of the kill switch. -/
def shutdown : DomainMessage where
  className := "Shutdown"
  fields := [("timestamp", .datetime marketOpen), ("reason", .json (.str "kill switch"))]
  slotted := true
  text := "Shutdown(timestamp=datetime.datetime(2026, 1, 2, 9, 15, tzinfo=datetime.timezone.utc), reason='kill switch')"
  timestamp := marketOpen
  slots := rfl
  timed := rfl

/-- One message, and the reader raises. -/
theorem shutdown_not_read :
    ¬ ∀ (constructors : Constructors) (str : Attribute → String) (now : DateTime) (messages : List DomainMessage),
      RoundTrips constructors str now messages := by
  intro all
  have back := all (fun _ => none) (fun _ => "") marketOpen [shutdown]
  unfold RoundTrips at back
  rw [read_raises (List.cons_ne_nil _ _)] at back
  cases back

end SQLiteMessageLog

end TradeX.V2
