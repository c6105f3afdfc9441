import TradeX.Lib.KeyClaims
import TradeX.V1.AlternateKeys

/-! The symbol resolver of the Dhan broker. The rows of the instrument master become instruments, and each is filed
under all its aliases in one map, where it may take over an alias from an instrument that came before. A lookup
tries the forms of a symbol in turn and falls back to the known indices. -/

namespace TradeX.V1.Dhan

open Lib
open Symbols (compact generateAlternateKeys lookupForms shortRight)

inductive Exchange where
  | NSE
  | BSE
  | NFO
  | BFO
  | MCX
  | CDS
  | INDEX
  deriving DecidableEq, Repr

namespace Exchange

def all : List Exchange := [NSE, BSE, NFO, BFO, MCX, CDS, INDEX]

def value : Exchange → String
  | NSE => "NSE"
  | BSE => "BSE"
  | NFO => "NFO"
  | BFO => "BFO"
  | MCX => "MCX"
  | CDS => "CDS"
  | INDEX => "INDEX"

/-- `Exchange(text)`. -/
def ofValue (text : String) : Option Exchange := all.find? fun exchange => exchange.value = text

theorem ofValue_value (exchange : Exchange) : ofValue exchange.value = some exchange := by
  cases exchange <;> rfl

end Exchange

/-- `SEGMENT_TO_EXCHANGE`. There is no exchange `BCD`. -/
def segmentToExchange : List (String × String) := [
  ("NSE_EQ", "NSE"),
  ("BSE_EQ", "BSE"),
  ("NSE_FNO", "NFO"),
  ("BSE_FNO", "BFO"),
  ("MCX_COMM", "MCX"),
  ("NSE_CURRENCY", "CDS"),
  ("BSE_CURRENCY", "BCD"),
  ("IDX_I", "INDEX"),
  ("NSE_COMM", "MCX")]

/-- The types that rows give to instruments. -/
inductive InstrumentType where
  | EQUITY
  | FUTURE
  | OPTION
  deriving DecidableEq, Repr

/-- `str(instrument_type)`. -/
def InstrumentType.str : InstrumentType → String
  | EQUITY => "InstrumentType.EQUITY"
  | FUTURE => "InstrumentType.FUTURE"
  | OPTION => "InstrumentType.OPTION"

inductive OptionType where
  | CALL
  | PUT
  deriving DecidableEq, Repr

/-- `str(option_type)`. -/
def OptionType.str : Option OptionType → String
  | some CALL => "OptionType.CALL"
  | some PUT => "OptionType.PUT"
  | none => "None"

/-- `_NAME_TO_TYPE`. -/
def nameToType : List (String × InstrumentType) := [
  ("EQUITY", .EQUITY),
  ("INDEX", .EQUITY),
  ("OPTIDX", .OPTION),
  ("OPTSTK", .OPTION),
  ("OPTCUR", .OPTION),
  ("OPTFUT", .OPTION),
  ("OPTCOM", .OPTION),
  ("FUTIDX", .FUTURE),
  ("FUTSTK", .FUTURE),
  ("FUTCUR", .FUTURE),
  ("FUTCOM", .FUTURE)]

/-- `_DHAN_OPTION_TYPE`. -/
def dhanOptionType : List (String × OptionType) := [("CE", .CALL), ("CALL", .CALL), ("PE", .PUT), ("PUT", .PUT)]

/-- An instrument, without its lot and tick size and its name. -/
structure DhanInstrument where
  symbol : String
  securityId : String
  exchange : Exchange
  instrumentType : InstrumentType
  optionType : Option OptionType := none
  strikePrice : Option Lib.PyDecimal := none
  expiry : Option String := none
  underlying : Option String := none
  canonicalSymbol : Option String := none
  smSymbolName : Option String := none
  exchInstrumentType : Option String := none
  deriving DecidableEq

namespace DhanInstrument

def isOption (inst : DhanInstrument) : Bool := inst.instrumentType = .OPTION

def isFuture (inst : DhanInstrument) : Bool := inst.instrumentType = .FUTURE

def isEquityShare (inst : DhanInstrument) : Bool := inst.exchInstrumentType = some "ES"

end DhanInstrument

/-- The cells of a row; a missing cell and an empty one are told apart where the source does. -/
structure Row where
  tradingSymbol : String
  securityId : String
  exchId : String
  instrumentName : String
  expiryDate : Option String := none
  optionType : String := ""
  strikePrice : Option String := none
  customSymbol : String := ""
  smSymbolName : String := ""
  exchInstrumentType : String := ""

section

variable (table : CharTable)

def strip (text : String) : String := String.ofList (table.strip text.toList)

/-- The text, none where nothing is left of it. -/
def orNone (text : String) : Option String := if text = "" then none else some text

/-- `text.split()[0]` of a text that is not blank. -/
def firstWord (text : String) : String := String.ofList ((table.strip text.toList).takeWhile fun c => !table.isSpace c)

/-- Every underscore stands between two digits, as `float` demands. -/
def underscored : Bool → List Char → Bool
  | _, [] => true
  | behind, '_' :: rest => behind && (rest.head?.any fun c => (table.digit c).isSome) && underscored false rest
  | _, c :: rest => underscored (table.digit c).isSome rest

/-- `int(float(security_id))` is there and positive. -/
def positive (securityId : String) : Bool :=
  let text := table.strip securityId.toList
  underscored table false text &&
    match table.decimal text with
    | some (.finite negative coefficient exponent) =>
      match Binary64.round (Lib.PyDecimal.sign negative * coefficient * (10 : ℚ) ^ exponent) with
      | .finite value => 1 ≤ value
      | _ => false
    | _ => false

def isCapital (c : Char) : Bool := 'A' ≤ c ∧ c ≤ 'Z'

/-- The group of `^([A-Z]+)\d+[A-Z]{3}FUT$`. -/
def futureRoot (text : List Char) : Option (List Char) :=
  let root := text.takeWhile isCapital
  let behind := text.dropWhile isCapital
  let month := behind.dropWhile fun c => (table.digit c).isSome
  if root ≠ [] ∧ month.length < behind.length ∧ month.length = 6 ∧ (month.take 3).all isCapital ∧
    month.drop 3 = "FUT".toList then some root else none

/-- The underlying of a contract, by its names and else by its symbol. -/
def underlyingOf (symbol : String) (canonical smSymbolName : Option String) : String :=
  match smSymbolName, canonical with
  | some name, _ => Symbols.upper table (firstWord table name)
  | none, some canonical => Symbols.upper table (firstWord table canonical)
  | none, none =>
    if '-' ∈ symbol.toList then Symbols.upper table (String.ofList (symbol.toList.takeWhile (· ≠ '-')))
    else Symbols.upper table (((futureRoot table (Symbols.upper table symbol).toList).map String.ofList).getD symbol)

/-- `_row_to_instrument`, none where the row is skipped. -/
def rowToInstrument (row : Row) : Option DhanInstrument := do
  let symbol := strip table row.tradingSymbol
  let securityId := strip table row.securityId
  guard (symbol ≠ "" ∧ securityId ≠ "")
  guard (positive table securityId)
  let exchange ← (segmentToExchange.lookup (Symbols.normalize table row.exchId)).bind Exchange.ofValue
  let itype ← nameToType.lookup (Symbols.normalize table row.instrumentName)
  let canonical := orNone (strip table row.customSymbol)
  let smSymbolName := orNone (strip table row.smSymbolName)
  let contract := itype ≠ .EQUITY
  let option := itype = .OPTION
  return {
    symbol := symbol
    securityId := securityId
    exchange := exchange
    instrumentType := itype
    optionType := if option then dhanOptionType.lookup (Symbols.normalize table row.optionType) else none
    strikePrice := if option then
      row.strikePrice.map fun text => (table.decimal text.toList).getD (.finite false 0 0) else none
    expiry := if contract then row.expiryDate else none
    underlying := if contract then some (underlyingOf table symbol canonical smSymbolName) else none
    canonicalSymbol := canonical
    smSymbolName := smSymbolName
    exchInstrumentType := orNone (strip table row.exchInstrumentType) }

/-- The keys under which an instrument is filed. -/
def aliasKeys (inst : DhanInstrument) : List (String × Exchange) :=
  (generateAlternateKeys table {
    symbol := inst.symbol
    instType := inst.instrumentType.str
    expiry := inst.expiry
    strike := inst.strikePrice.map .decimal
    optionType := OptionType.str inst.optionType
    underlying := inst.underlying
    canonicalSymbol := inst.canonicalSymbol
    smSymbolName := inst.smSymbolName }).map fun key => (key, inst.exchange)

/-- Whether an instrument takes an alias over: from an option if it is none, from a future that is further away or
gone, and from a security that is no equity share. -/
def takesOver (today : String) (existing inst : DhanInstrument) : Bool :=
  if existing.isOption && !inst.isOption then true
  else if existing.isFuture && inst.isFuture then
    let eExp := existing.expiry.getD ""
    let iExp := inst.expiry.getD ""
    let eActive := decide (today ≤ eExp)
    let iActive := decide (today ≤ iExp)
    (iActive && !eActive) || (iActive && eActive && decide (iExp < eExp)) ||
      (!iActive && !eActive && decide (eExp < iExp))
  else
    !existing.isOption && !inst.isOption && !existing.isFuture && !inst.isFuture &&
      inst.isEquityShare && !existing.isEquityShare

structure SymbolResolver where
  bySymbol : Dict (String × Exchange) DhanInstrument := ∅
  bySecurityId : Dict String DhanInstrument := ∅

structure LoadStats where
  total : ℕ
  skipped : ℕ
  skipRate : ℚ
  deriving DecidableEq, Repr

/-- The maps of `load_from_rows`, for the instruments of its rows. -/
def load (today : String) (instruments : List DhanInstrument) : SymbolResolver where
  bySymbol := KeyClaims.files (takesOver today) (aliasKeys table) instruments
  bySecurityId := KeyClaims.files (fun _ _ => true) (fun inst => [inst.securityId]) instruments

def loadFromRows (today : String) (rows : List Row) : SymbolResolver × LoadStats :=
  let resolver := load table today (rows.filterMap (rowToInstrument table))
  let skipped := rows.countP fun row => (rowToInstrument table row).isNone
  let total := resolver.bySecurityId.size
  (resolver, ⟨total, skipped, if 0 < total + skipped then skipped / (total + skipped) else 0⟩)

/-- An entry of the index map: a symbol, the canonical name and the security id of Dhan where it is known. -/
structure IndexEntry where
  symbol : String
  canonicalName : String
  dhanSecurityId : Option String := none
  deriving DecidableEq, Repr

/-- `_INDEX_MAP`. -/
def indexMap : List IndexEntry := [
  { symbol := "NIFTY", canonicalName := "NIFTY 50", dhanSecurityId := some "13" },
  { symbol := "NIFTY50", canonicalName := "NIFTY 50", dhanSecurityId := some "13" },
  { symbol := "BANKNIFTY", canonicalName := "NIFTY BANK", dhanSecurityId := some "25" },
  { symbol := "NIFTYBANK", canonicalName := "NIFTY BANK", dhanSecurityId := some "25" },
  { symbol := "FINNIFTY", canonicalName := "NIFTY FINANCIAL SERVICES", dhanSecurityId := some "27" },
  { symbol := "NIFTYFIN", canonicalName := "NIFTY FINANCIAL SERVICES", dhanSecurityId := some "27" },
  { symbol := "MIDCAPNIFTY", canonicalName := "NIFTY MIDCAP 100" },
  { symbol := "NIFTYMIDCAP", canonicalName := "NIFTY MIDCAP 100" },
  { symbol := "NIFTYIT", canonicalName := "NIFTY IT" },
  { symbol := "NIFTYPHARMA", canonicalName := "NIFTY PHARMA" },
  { symbol := "NIFTYAUTO", canonicalName := "NIFTY AUTO" },
  { symbol := "NIFTYFMCG", canonicalName := "NIFTY FMCG" },
  { symbol := "NIFTYMETAL", canonicalName := "NIFTY METAL" },
  { symbol := "NIFTYREALTY", canonicalName := "NIFTY REALTY" },
  { symbol := "NIFTYENERGY", canonicalName := "NIFTY ENERGY" },
  { symbol := "NIFTYMEDIA", canonicalName := "NIFTY MEDIA" },
  { symbol := "NIFTYPSB", canonicalName := "NIFTY PSU BANK" },
  { symbol := "NIFTYPVTBANK", canonicalName := "NIFTY PRIVATE BANK" },
  { symbol := "NIFTYCONS", canonicalName := "NIFTY CONSUMER DURABLES" },
  { symbol := "NIFTYOILGAS", canonicalName := "NIFTY OIL AND GAS" },
  { symbol := "NIFTYCOMM", canonicalName := "NIFTY COMMODITIES" },
  { symbol := "NIFTYIND", canonicalName := "NIFTY INDUSTRIALS" },
  { symbol := "NIFTYMNC", canonicalName := "NIFTY MNC" },
  { symbol := "NIFTYSMALL", canonicalName := "NIFTY SMALLCAP 250" },
  { symbol := "NIFTYMICRO", canonicalName := "NIFTY MICROCAP 250" },
  { symbol := "NIFTYNEXT50", canonicalName := "NIFTY NEXT 50" },
  { symbol := "NIFTY100", canonicalName := "NIFTY 100" },
  { symbol := "NIFTY200", canonicalName := "NIFTY 200" },
  { symbol := "NIFTY500", canonicalName := "NIFTY 500" },
  { symbol := "VXNIFTY", canonicalName := "NIFTY VOLATILITY" },
  { symbol := "INDIAVIX", canonicalName := "INDIA VIX" },
  { symbol := "SENSEX", canonicalName := "SENSEX" },
  { symbol := "BSESENSEX", canonicalName := "SENSEX" },
  { symbol := "BSE100", canonicalName := "BSE 100" },
  { symbol := "BSE200", canonicalName := "BSE 200" },
  { symbol := "BSE500", canonicalName := "BSE 500" },
  { symbol := "BSEMIDCAP", canonicalName := "BSE MIDCAP" },
  { symbol := "BSESMALLCAP", canonicalName := "BSE SMALLCAP" },
  { symbol := "DOW", canonicalName := "DOW JONES" },
  { symbol := "NASDAQ", canonicalName := "NASDAQ" },
  { symbol := "S&P500", canonicalName := "S&P 500" }]

/-- `get_index_entry`. -/
def getIndexEntry (symbol : String) : Option IndexEntry :=
  indexMap.find? fun entry => entry.symbol = Symbols.normalize table symbol

inductive ResolveError where
  | unknownExchange (exchange : String)
  | noSuchExchange (value : String)
  | notFound (symbol exchange : String)
  | isIndex (symbol expectedSegment : String)
  deriving DecidableEq, Repr

def derivativeSegments : List String := ["NSE_FNO", "BSE_FNO", "MCX_COMM", "NSE_CURRENCY", "BSE_CURRENCY"]

/-- `_normalise_exchange`. -/
def normaliseExchange (exchange : String) : Except ResolveError Exchange :=
  let up := Symbols.normalize table exchange
  match Exchange.ofValue up with
  | some exch => .ok exch
  | none =>
    match segmentToExchange.lookup up with
    | none => .error (.unknownExchange exchange)
    | some mapped => ((Exchange.ofValue mapped).map .ok).getD (.error (.noSuchExchange mapped))

/-- An index that is known by its id alone. -/
def syntheticIndex (symbol securityId canonicalName : String) : DhanInstrument where
  symbol := symbol
  securityId := securityId
  exchange := .INDEX
  instrumentType := .EQUITY
  canonicalSymbol := some canonicalName

/-- What is found of an index where the symbol itself is not filed. -/
def findIndex (held : String × Exchange → Option DhanInstrument) (symbol : String) (exch : Exchange)
    (expected : Option String) : Except ResolveError (Option DhanInstrument) :=
  let stripped := compact (Symbols.normalize table symbol)
  let clean := shortRight (Symbols.normalize table symbol)
  match getIndexEntry table clean with
  | none => .ok none
  | some entry =>
    match if exch ≠ .INDEX then (held (clean, .INDEX)).or (held (stripped, .INDEX)) else none with
    | some inst => .ok (some inst)
    | none =>
      match entry.dhanSecurityId with
      | none => .ok none
      | some securityId =>
        match expected with
        | some segment =>
          if segment ∈ derivativeSegments then .error (.isIndex symbol segment)
          else .ok (some (syntheticIndex clean securityId entry.canonicalName))
        | none => .ok (some (syntheticIndex clean securityId entry.canonicalName))

/-- `_find`, over what is held under the keys. -/
def find (held : String × Exchange → Option DhanInstrument) (symbol : String) (exch : Exchange)
    (expected : Option String) : Except ResolveError (Option DhanInstrument) :=
  match (lookupForms table symbol).findSome? fun form => held (form, exch) with
  | some inst => .ok (some inst)
  | none => findIndex table held symbol exch expected

namespace SymbolResolver

def resolve (resolver : SymbolResolver) (symbol exchange : String) (expected : Option String) :
    Except ResolveError DhanInstrument := do
  let exch ← normaliseExchange table exchange
  match ← find table resolver.bySymbol.get symbol exch expected with
  | some inst => return inst
  | none => throw (.notFound symbol exchange)

/-- `get_by_symbol`, none where something is raised. -/
def getBySymbol (resolver : SymbolResolver) (symbol exchange : String) : Option DhanInstrument :=
  match normaliseExchange table exchange with
  | .ok exch =>
    match find table resolver.bySymbol.get symbol exch none with
    | .ok found => found
    | .error _ => none
  | .error _ => none

def getBySecurityId (resolver : SymbolResolver) (securityId : String) : Option DhanInstrument :=
  resolver.bySecurityId.get securityId

end SymbolResolver

/-- An instrument whose symbol is not blank. -/
def DhanInstrument.Valid (inst : DhanInstrument) : Prop := Symbols.normalize table inst.symbol ≠ ""

/-- The key of the instrument's own symbol. -/
def ownKey (inst : DhanInstrument) : String × Exchange := (Symbols.normalize table inst.symbol, inst.exchange)

/-- What is asked of a load: every instrument is found by its own symbol on its exchange, and every lookup has the
same answer for every order of the instruments. -/
structure Kept (today : String) (instruments : List DhanInstrument) : Prop where
  own : ∀ inst ∈ instruments, ∀ expected,
    (load table today instruments).resolve table inst.symbol inst.exchange.value expected = .ok inst
  unordered : ∀ ordered, ordered.Perm instruments →
    (∀ symbol exchange expected, (load table today ordered).resolve table symbol exchange expected =
      (load table today instruments).resolve table symbol exchange expected) ∧
    (∀ symbol exchange, (load table today ordered).getBySymbol table symbol exchange =
      (load table today instruments).getBySymbol table symbol exchange) ∧
    ∀ securityId, (load table today ordered).getBySecurityId securityId =
      (load table today instruments).getBySecurityId securityId

/-- Under each alias one instrument takes over from every other and gives way to none, and under its own symbol that
is the instrument itself. -/
structure Undisputed (today : String) (instruments : List DhanInstrument) : Prop where
  own : ∀ inst ∈ instruments, KeyClaims.Dominant (takesOver today)
    (KeyClaims.claimants (aliasKeys table) (ownKey table inst) instruments) inst
  every : ∀ inst ∈ instruments, ∀ key ∈ aliasKeys table inst, ∃ holder,
    KeyClaims.Dominant (takesOver today) (KeyClaims.claimants (aliasKeys table) key instruments) holder

variable {table} {row : Row} {inst : DhanInstrument} {instruments ordered : List DhanInstrument} {today symbol : String}
  {exch : Exchange} {expected : Option String} {key : String × Exchange}

theorem rowToInstrument_valid (read : rowToInstrument table row = some inst) : inst.Valid table := by
  simp only [rowToInstrument, Option.bind_eq_bind, Option.bind_eq_some_iff] at read
  obtain ⟨_, named, _, -, exchange, -, itype, -, same⟩ := read
  have some_ : strip table row.tradingSymbol ≠ "" := ((Option.guard_eq_some' _).mp named).1
  rw [← Option.some.inj same, DhanInstrument.Valid, strip, Symbols.normalize, String.toList_ofList,
    CharTable.strip_strip]
  have capitals : Symbols.upper table (strip table row.tradingSymbol) ≠ "" := Symbols.upper_ne_empty some_
  rwa [strip, Symbols.upper, String.toList_ofList] at capitals

theorem normaliseExchange_value (exch : Exchange) : normaliseExchange table exch.value = .ok exch := by
  have capitals : exch.value.toList.all Char.isUpper = true := by
    cases exch <;> decide
  have same : Symbols.normalize table exch.value = exch.value :=
    Symbols.normalize_capitals (List.all_eq_true.mp capitals)
  simp only [normaliseExchange, same, Exchange.ofValue_value]

theorem find_of_held {held : String × Exchange → Option DhanInstrument}
    (own : held (Symbols.normalize table symbol, exch) = some inst) :
      find table held symbol exch expected = .ok (some inst) := by
  simp only [find, lookupForms, List.findSome?_cons, own]

/-- A key in normal form is what a lookup of it tries first. -/
theorem resolve_of_held {resolver : SymbolResolver}
    (own : resolver.bySymbol.get (Symbols.normalize table symbol, exch) = some inst) :
    resolver.resolve table symbol exch.value expected = .ok inst := by
  rw [SymbolResolver.resolve, normaliseExchange_value]
  simp only [bind, Except.bind, find_of_held own]
  rfl

theorem aliasKeys_normal (member : key ∈ aliasKeys table inst) : Symbols.normalize table key.1 = key.1 := by
  obtain ⟨text, generated, rfl⟩ := List.mem_map.mp member
  exact (Symbols.normalize_of_mem generated).1

theorem ownKey_mem (valid : inst.Valid table) : ownKey table inst ∈ aliasKeys table inst :=
  List.mem_map.mpr ⟨_, Symbols.normalize_symbol_mem valid, rfl⟩

/-- A key that is filed is resolved to its holder. -/
theorem resolve_key (filed : (load table today instruments).bySymbol.get key = some inst)
    (normal : Symbols.normalize table key.1 = key.1) :
    (load table today instruments).resolve table key.1 key.2.value expected = .ok inst :=
  resolve_of_held (by rwa [normal])

/-- Where every lookup has the same answer, every key has the same holder. -/
theorem Kept.same_holder (kept : Kept table today instruments) (member : inst ∈ instruments)
    (claim : key ∈ aliasKeys table inst) (order : ordered.Perm instruments) :
    (load table today ordered).bySymbol.get key = (load table today instruments).bySymbol.get key := by
  have filed : ∀ xs : List DhanInstrument, inst ∈ xs →
      ∃ holder, (load table today xs).bySymbol.get key = some holder := by
    intro xs inside
    refine Option.ne_none_iff_exists'.mp fun free => ?_
    exact KeyClaims.get_files_eq_none.mp free inst inside claim
  obtain ⟨first, ofFirst⟩ := filed ordered (order.mem_iff.mpr member)
  obtain ⟨second, ofSecond⟩ := filed instruments member
  have normal := aliasKeys_normal claim
  have same := (kept.unordered ordered order).1 key.1 key.2.value none
  rw [resolve_key ofFirst normal, resolve_key ofSecond normal] at same
  rw [ofFirst, ofSecond, Except.ok.inj same]

/-- The lookups have the same answers where both maps have. -/
theorem lookups_same {first second : SymbolResolver} (symbols : ∀ key, first.bySymbol.get key = second.bySymbol.get key)
    (ids : ∀ id, first.bySecurityId.get id = second.bySecurityId.get id) :
    (∀ symbol exchange expected, first.resolve table symbol exchange expected =
      second.resolve table symbol exchange expected) ∧
    (∀ symbol exchange, first.getBySymbol table symbol exchange = second.getBySymbol table symbol exchange) ∧
    ∀ securityId, first.getBySecurityId securityId = second.getBySecurityId securityId := by
  have same : first.bySymbol.get = second.bySymbol.get := funext symbols
  refine ⟨?_, ?_, ids⟩
  · intro symbol exchange expected
    rw [SymbolResolver.resolve, SymbolResolver.resolve, same]
  · intro symbol exchange
    rw [SymbolResolver.getBySymbol, SymbolResolver.getBySymbol, same]

/-- A load keeps what is asked of it exactly where its aliases are undisputed. -/
theorem kept_iff_undisputed (valid : ∀ inst ∈ instruments, inst.Valid table)
    (ids : (instruments.map DhanInstrument.securityId).Nodup) :
    Kept table today instruments ↔ Undisputed table today instruments := by
  have distinct : instruments.Nodup := ids.of_map
  constructor
  · intro kept
    refine ⟨fun inst member => ?_, fun inst member key claim => ?_⟩
    · have claim := ownKey_mem (valid inst member)
      refine (KeyClaims.settled_iff distinct).mp fun ordered order => ?_
      refine (kept.same_holder member claim order).trans ?_
      obtain ⟨holder, filed⟩ := Option.ne_none_iff_exists'.mp fun free =>
        KeyClaims.get_files_eq_none.mp free inst member claim
      have resolved : (load table today instruments).resolve table inst.symbol inst.exchange.value none = .ok holder :=
        resolve_of_held filed
      exact filed.trans (congrArg some (Except.ok.inj (resolved.symm.trans (kept.own inst member none))))
    · exact (KeyClaims.unordered_iff distinct).mp (fun ordered order => kept.same_holder member claim order)
        inst member claim
  · intro undisputed
    refine ⟨fun inst member expected => ?_, fun ordered order => lookups_same (fun key => ?_) fun id => ?_⟩
    · exact resolve_of_held ((KeyClaims.settled_iff distinct).mpr (undisputed.own inst member) instruments (.refl _))
    · exact (KeyClaims.unordered_iff distinct).mpr (fun inst member => undisputed.every inst member key) ordered order
    · refine (KeyClaims.unordered_last_iff distinct).mpr (fun first member other inside named same => ?_) ordered order
      refine List.inj_on_of_nodup_map ids member inside ?_
      rw [← List.mem_singleton.mp named, ← List.mem_singleton.mp same]

/-- The rows of a load need no further condition. -/
theorem loadFromRows_kept_iff {rows : List Row}
    (ids : ((rows.filterMap (rowToInstrument table)).map DhanInstrument.securityId).Nodup) :
    Kept table today (rows.filterMap (rowToInstrument table)) ↔
      Undisputed table today (rows.filterMap (rowToInstrument table)) := by
  refine kept_iff_undisputed (fun inst member => ?_) ids
  obtain ⟨row, -, read⟩ := List.mem_filterMap.mp member
  exact rowToInstrument_valid read

end

end TradeX.V1.Dhan
