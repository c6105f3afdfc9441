import TradeX.Lib.KeyClaims
import TradeX.V1.AlternateKeys

/-! The instrument resolver of the Upstox broker. A record is filed by its instrument key, and under its symbol and all
aliases on three spellings of its segment, where it replaces whatever was there. -/

namespace TradeX.V1.Upstox

open Lib
open Symbols (generateAlternateKeys lookupForms)

/-- A record of the instrument master, with the fields that the resolver reads. -/
structure UpstoxInstrumentDefinition where
  instrumentKey : String := ""
  exchangeSegment : String := ""
  instrumentType : String := ""
  symbol : String := ""
  tradingSymbol : String := ""
  name : String := ""
  expiry : Option String := none
  strike : Option Extended := none
  optionType : Option String := none
  underlyingSymbol : Option String := none
  deriving DecidableEq

/-- `_UPSTOX_TO_SEGMENT`. -/
def upstoxToSegment : List (String × ExchangeSegment) := [
  ("NSE_EQ", .NSE),
  ("BSE_EQ", .BSE),
  ("NSE_FO", .NSE_FNO),
  ("BSE_FO", .BSE_FNO),
  ("NCD_FO", .NSE_CURRENCY),
  ("BCD_FO", .BSE_CURRENCY),
  ("MCX_FO", .MCX),
  ("MCX_COMM", .MCX),
  ("NSE_COM", .MCX),
  ("NSE_INDEX", .IDX_I),
  ("BSE_INDEX", .IDX_I),
  ("MCX_INDEX", .IDX_I),
  ("GLOBAL_INDEX", .IDX_I),
  ("UNKNOWN", .NSE)]

section

variable (table : CharTable)

/-- `UpstoxSegmentMapper.to_safe`. -/
def toSafe (upstoxSegment : String) : ExchangeSegment :=
  if upstoxSegment = "" then .NSE else (upstoxToSegment.lookup (Symbols.upper table upstoxSegment)).getD .NSE

namespace UpstoxInstrumentDefinition

/-- `definition.symbol or definition.trading_symbol`. -/
def sym (definition : UpstoxInstrumentDefinition) : String :=
  if definition.symbol = "" then definition.tradingSymbol else definition.symbol

def alternateKeys (definition : UpstoxInstrumentDefinition) : List String :=
  generateAlternateKeys table {
    symbol := definition.sym
    instType := definition.instrumentType
    expiry := definition.expiry
    strike := definition.strike.map .float
    optionType := definition.optionType.getD "None"
    underlying := definition.underlyingSymbol
    canonicalSymbol := some definition.name }

/-- The spellings of the segment under which the aliases are filed. -/
def segments (definition : UpstoxInstrumentDefinition) : List String :=
  let xv2Segment := toSafe table definition.exchangeSegment
  [Symbols.upper table definition.exchangeSegment, Symbols.upper table xv2Segment.value,
    Symbols.upper table xv2Segment.canonicalExchangeShort]

/-- The keys under which `register` files a record, besides its instrument key. -/
def fileKeys (definition : UpstoxInstrumentDefinition) : List (String × String) :=
  if definition.sym = "" ∨ definition.exchangeSegment = "" then []
  else
    (Symbols.upper table definition.sym, Symbols.upper table definition.exchangeSegment) ::
      (definition.alternateKeys table).flatMap fun key => (definition.segments table).map fun segment => (key, segment)

end UpstoxInstrumentDefinition

structure UpstoxInstrumentResolver where
  byKey : Dict String UpstoxInstrumentDefinition := ∅
  bySymbolSegment : Dict (String × String) UpstoxInstrumentDefinition := ∅

/-- The instrument key of a record that has one. -/
def instrumentKeys (definition : UpstoxInstrumentDefinition) : List String :=
  if definition.instrumentKey = "" then [] else [definition.instrumentKey]

/-- `register_many` on an empty resolver: every record replaces what is filed under its keys. -/
def registerMany (definitions : List UpstoxInstrumentDefinition) : UpstoxInstrumentResolver where
  byKey := KeyClaims.files (fun _ _ => true) instrumentKeys definitions
  bySymbolSegment := KeyClaims.files (fun _ _ => true) (UpstoxInstrumentDefinition.fileKeys table) definitions

/-- The answer by symbol and segment: of the first form of the symbol that is filed on the segment. -/
def bySymbol (resolver : UpstoxInstrumentResolver) (symbol exchangeSegment : String) :
    Option UpstoxInstrumentDefinition :=
  if symbol = "" ∨ exchangeSegment = "" then none
  else
    (lookupForms table symbol).findSome? fun form =>
      resolver.bySymbolSegment.get (form, Symbols.normalize table exchangeSegment)

/-- `resolve`, where an argument that is not given is empty. -/
def resolve (resolver : UpstoxInstrumentResolver) (instrumentKey symbol exchangeSegment : String) :
    Option UpstoxInstrumentDefinition :=
  (if instrumentKey = "" then none else resolver.byKey.get instrumentKey).or
    (bySymbol table resolver symbol exchangeSegment)

/-- A record whose symbol is not blank. -/
def UpstoxInstrumentDefinition.Valid (definition : UpstoxInstrumentDefinition) : Prop :=
  Symbols.normalize table definition.sym ≠ ""

/-- What is asked of a registration: every record is found by its trading symbol on its segment, and every lookup has
the same answer for every order of the records. -/
structure Kept (definitions : List UpstoxInstrumentDefinition) : Prop where
  own : ∀ definition ∈ definitions, resolve table (registerMany table definitions) "" definition.tradingSymbol
    definition.exchangeSegment = some definition
  unordered : ∀ ordered, ordered.Perm definitions → ∀ instrumentKey symbol exchangeSegment,
    resolve table (registerMany table ordered) instrumentKey symbol exchangeSegment =
      resolve table (registerMany table definitions) instrumentKey symbol exchangeSegment

/-- No two records share a key that a lookup may ask for, and of the forms of a trading symbol the first that is filed
on the segment of the record is one of its keys. -/
structure Undisputed (definitions : List UpstoxInstrumentDefinition) : Prop where
  own : ∀ definition ∈ definitions, ∃ before form after,
    lookupForms table definition.tradingSymbol = before ++ form :: after ∧
    (form, Symbols.normalize table definition.exchangeSegment) ∈ definition.fileKeys table ∧
    ∀ earlier ∈ before, ∀ other ∈ definitions,
      (earlier, Symbols.normalize table definition.exchangeSegment) ∉ other.fileKeys table
  once : ∀ first ∈ definitions, ∀ second ∈ definitions, ∀ key ∈ first.fileKeys table, key ∈ second.fileKeys table →
    Symbols.normalize table key.1 = key.1 → Symbols.normalize table key.2 = key.2 → first = second

variable {table} {definition other : UpstoxInstrumentDefinition} {definitions ordered : List UpstoxInstrumentDefinition}
  {key : String × String} {symbol exchangeSegment : String}

theorem mem_fileKeys : key ∈ definition.fileKeys table ↔ definition.sym ≠ "" ∧ definition.exchangeSegment ≠ "" ∧
    (key = (Symbols.upper table definition.sym, Symbols.upper table definition.exchangeSegment) ∨
      key.1 ∈ definition.alternateKeys table ∧ key.2 ∈ definition.segments table) := by
  rw [UpstoxInstrumentDefinition.fileKeys]
  by_cases missing : definition.sym = "" ∨ definition.exchangeSegment = ""
  · rw [if_pos missing]
    refine iff_of_false List.not_mem_nil ?_
    rintro ⟨named, placed, -⟩
    exact missing.elim named placed
  · obtain ⟨named, placed⟩ := not_or.mp missing
    have product : (∃ text ∈ definition.alternateKeys table, ∃ segment ∈ definition.segments table,
        (text, segment) = key) ↔ key.1 ∈ definition.alternateKeys table ∧ key.2 ∈ definition.segments table := by
      constructor
      · rintro ⟨text, generated, segment, spelled, rfl⟩
        exact ⟨generated, spelled⟩
      · rintro ⟨generated, spelled⟩
        exact ⟨key.1, generated, key.2, spelled, rfl⟩
    rw [if_neg missing, List.mem_cons, List.mem_flatMap]
    simp only [List.mem_map, product, ne_eq, named, placed, not_false_eq_true, true_and]

theorem instrumentKey_of_mem {instrumentKey : String} (member : instrumentKey ∈ instrumentKeys definition) :
    instrumentKey = definition.instrumentKey := by
  rw [instrumentKeys] at member
  split at member
  · cases member
  · exact List.mem_singleton.mp member

/-- No part of a key is empty. -/
theorem fileKeys_ne_empty (member : key ∈ definition.fileKeys table) : key.1 ≠ "" ∧ key.2 ≠ "" := by
  obtain ⟨named, placed, rfl | ⟨generated, spelled⟩⟩ := mem_fileKeys.mp member
  · exact ⟨Symbols.upper_ne_empty named, Symbols.upper_ne_empty placed⟩
  · refine ⟨(Symbols.normalize_of_mem generated).2, ?_⟩
    simp only [UpstoxInstrumentDefinition.segments, List.mem_cons, List.not_mem_nil, or_false] at spelled
    rcases spelled with same | same | same
    · rw [same]
      exact Symbols.upper_ne_empty placed
    · rw [same]
      refine Symbols.upper_ne_empty ?_
      cases toSafe table definition.exchangeSegment <;> decide
    · rw [same]
      refine Symbols.upper_ne_empty ?_
      cases toSafe table definition.exchangeSegment <;> decide

/-- The symbol in normal form is filed on the segment. -/
theorem normal_mem_fileKeys (valid : definition.Valid table) (placed : definition.exchangeSegment ≠ "") :
    (Symbols.normalize table definition.sym, Symbols.upper table definition.exchangeSegment) ∈
      definition.fileKeys table := by
  refine mem_fileKeys.mpr ⟨?_, placed, .inr ⟨Symbols.normalize_symbol_mem valid, List.mem_cons_self⟩⟩
  intro blank
  refine valid ?_
  rw [blank]
  rfl

/-- A key in normal form that is filed is resolved to its holder. -/
theorem resolve_key {resolver : UpstoxInstrumentResolver} (filed : resolver.bySymbolSegment.get key = some definition)
    (some_ : key.1 ≠ "" ∧ key.2 ≠ "") (normal : Symbols.normalize table key.1 = key.1)
    (placed : Symbols.normalize table key.2 = key.2) :
    resolve table resolver "" key.1 key.2 = some definition := by
  rw [resolve, if_pos rfl, Option.none_or, bySymbol, if_neg (not_or.mpr some_), placed]
  simp only [lookupForms, List.findSome?_cons, normal, filed]

/-- Where every lookup has the same answer, a key that may be asked for has the same holder. -/
theorem Kept.same_holder (kept : Kept table definitions) (member : definition ∈ definitions)
    (claim : key ∈ definition.fileKeys table) (normal : Symbols.normalize table key.1 = key.1)
    (placed : Symbols.normalize table key.2 = key.2) (order : ordered.Perm definitions) :
    (registerMany table ordered).bySymbolSegment.get key =
      (registerMany table definitions).bySymbolSegment.get key := by
  have filed : ∀ xs : List UpstoxInstrumentDefinition, definition ∈ xs →
      ∃ holder, (registerMany table xs).bySymbolSegment.get key = some holder := by
    intro xs inside
    refine Option.ne_none_iff_exists'.mp fun free => ?_
    exact KeyClaims.get_files_eq_none.mp free definition inside claim
  obtain ⟨first, ofFirst⟩ := filed ordered (order.mem_iff.mpr member)
  obtain ⟨second, ofSecond⟩ := filed definitions member
  have some_ := fileKeys_ne_empty claim
  have same := kept.unordered ordered order "" key.1 key.2
  rw [resolve_key ofFirst some_ normal placed, resolve_key ofSecond some_ normal placed] at same
  rw [ofFirst, ofSecond, same]

/-- A key that is not in normal form is that of the symbol as it was given, so two that share it share the normal form,
too. -/
theorem Undisputed.once_placed (undisputed : Undisputed table definitions)
    (valid : ∀ definition ∈ definitions, definition.Valid table) {first second : UpstoxInstrumentDefinition}
    (inFirst : first ∈ definitions) (inSecond : second ∈ definitions) (ofFirst : key ∈ first.fileKeys table)
    (ofSecond : key ∈ second.fileKeys table) (placed : Symbols.normalize table key.2 = key.2) : first = second := by
  by_cases normal : Symbols.normalize table key.1 = key.1
  · exact undisputed.once first inFirst second inSecond key ofFirst ofSecond normal placed
  · have given : ∀ definition : UpstoxInstrumentDefinition, key ∈ definition.fileKeys table →
        key = (Symbols.upper table definition.sym, Symbols.upper table definition.exchangeSegment) ∧
          definition.exchangeSegment ≠ "" := by
      intro definition claim
      obtain ⟨-, there, same | ⟨generated, -⟩⟩ := mem_fileKeys.mp claim
      · exact ⟨same, there⟩
      · exact absurd (Symbols.normalize_of_mem generated).1 normal
    obtain ⟨firstKey, firstPlaced⟩ := given first ofFirst
    obtain ⟨secondKey, secondPlaced⟩ := given second ofSecond
    have shared : (Symbols.normalize table first.sym, Symbols.upper table first.exchangeSegment) ∈
        second.fileKeys table := by
      have both := Prod.mk.inj (firstKey.symm.trans secondKey)
      rw [← Symbols.normalize_upper, both.1, Symbols.normalize_upper, both.2]
      exact normal_mem_fileKeys (valid second inSecond) secondPlaced
    refine undisputed.once first inFirst second inSecond _
      (normal_mem_fileKeys (valid first inFirst) firstPlaced) shared (Symbols.normalize_normalize _) ?_
    rw [firstKey] at placed
    exact placed

/-- Where every record is found and every lookup has the same answer, no key is disputed. -/
theorem Kept.undisputed (kept : Kept table definitions) (distinct : definitions.Nodup) :
    Undisputed table definitions := by
  refine ⟨fun definition member => ?_, fun first inFirst second inSecond key ofFirst ofSecond normal placed => ?_⟩
  · have found := kept.own definition member
    rw [resolve, if_pos rfl, Option.none_or, bySymbol] at found
    split at found
    · cases found
    · obtain ⟨before, form, after, forms, filed, free⟩ := List.findSome?_eq_some_iff.mp found
      refine ⟨before, form, after, forms, (KeyClaims.get_files_mem filed).2, fun earlier inside => ?_⟩
      exact KeyClaims.get_files_eq_none.mp (free earlier inside)
  · exact (KeyClaims.unordered_last_iff distinct).mp
      (fun ordered order => kept.same_holder inFirst ofFirst normal placed order) first inFirst second inSecond ofFirst
      ofSecond

/-- A record is found by its trading symbol. -/
theorem Undisputed.found (undisputed : Undisputed table definitions)
    (valid : ∀ definition ∈ definitions, definition.Valid table) (member : definition ∈ definitions) :
    resolve table (registerMany table definitions) "" definition.tradingSymbol definition.exchangeSegment =
      some definition := by
  obtain ⟨before, form, after, forms, claim, free⟩ := undisputed.own definition member
  have named : definition.tradingSymbol ≠ "" := by
    intro blank
    have among : form ∈ lookupForms table definition.tradingSymbol := by
      rw [forms]
      exact List.mem_append_right _ List.mem_cons_self
    rw [blank] at among
    exact (fileKeys_ne_empty claim).1 (Symbols.lookupForms_empty among)
  have filed : (registerMany table definitions).bySymbolSegment.get
      (form, Symbols.normalize table definition.exchangeSegment) = some definition := by
    obtain ⟨holder, found⟩ := Option.ne_none_iff_exists'.mp fun nothing =>
      (@KeyClaims.get_files_eq_none _ _ (fun _ _ => true)).mp nothing definition member claim
    obtain ⟨inside, ofHolder⟩ := KeyClaims.get_files_mem found
    have same := undisputed.once_placed valid inside member ofHolder claim (Symbols.normalize_normalize _)
    exact found.trans (congrArg some same)
  rw [resolve, if_pos rfl, Option.none_or, bySymbol, if_neg (not_or.mpr ⟨named, (mem_fileKeys.mp claim).2.1⟩)]
  exact List.findSome?_eq_some_iff.mpr ⟨before, form, after, forms, filed, fun earlier inside =>
    KeyClaims.get_files_eq_none.mpr (free earlier inside)⟩

/-- The lookups have the same answer for every order. -/
theorem Undisputed.unordered (undisputed : Undisputed table definitions)
    (valid : ∀ definition ∈ definitions, definition.Valid table)
    (ids : (definitions.map UpstoxInstrumentDefinition.instrumentKey).Nodup) (order : ordered.Perm definitions)
    (instrumentKey symbol exchangeSegment : String) :
    resolve table (registerMany table ordered) instrumentKey symbol exchangeSegment =
      resolve table (registerMany table definitions) instrumentKey symbol exchangeSegment := by
  have distinct : definitions.Nodup := ids.of_map
  have byKey : (registerMany table ordered).byKey.get instrumentKey =
      (registerMany table definitions).byKey.get instrumentKey := by
    refine (KeyClaims.unordered_last_iff distinct).mpr ?_ ordered order
    intro first inFirst second inSecond ofFirst ofSecond
    refine List.inj_on_of_nodup_map ids inFirst inSecond ?_
    rw [← instrumentKey_of_mem ofFirst, ← instrumentKey_of_mem ofSecond]
  have forms : ∀ form,
      (registerMany table ordered).bySymbolSegment.get (form, Symbols.normalize table exchangeSegment) =
        (registerMany table definitions).bySymbolSegment.get (form, Symbols.normalize table exchangeSegment) := by
    intro form
    refine (KeyClaims.unordered_last_iff distinct).mpr ?_ ordered order
    intro first inFirst second inSecond ofFirst ofSecond
    exact undisputed.once_placed valid inFirst inSecond ofFirst ofSecond (Symbols.normalize_normalize _)
  rw [resolve, resolve, bySymbol, bySymbol, byKey, funext forms]

/-- A registration keeps what is asked of it exactly where its keys are undisputed. -/
theorem kept_iff_undisputed (valid : ∀ definition ∈ definitions, definition.Valid table)
    (ids : (definitions.map UpstoxInstrumentDefinition.instrumentKey).Nodup) :
    Kept table definitions ↔ Undisputed table definitions := by
  constructor
  · exact fun kept => kept.undisputed ids.of_map
  · intro undisputed
    exact ⟨fun _ member => undisputed.found valid member, fun _ order => undisputed.unordered valid ids order⟩

end

end TradeX.V1.Upstox
