import TradeX.V1.OptionChains

/-! What comes back of a chain that is written to a dict and read again: its texts, strikes and moment, and
of its optional values those that are there. An absent price or open interest is read as nought. -/

namespace TradeX.V1

open Lib

variable {runtime : ChainRuntime}

theorem parseDecimal_ofDecimal (value : Option ℚ) : parseDecimal (.ofDecimal value) = value.getD 0 := by
  cases value <;> rfl

theorem parseInt_ofInt (value : Option ℤ) : parseInt (.ofInt value) = value.getD 0 := by
  cases value <;> rfl

/-- A value comes back by itself where nothing stands under the other key, unless it counts as nothing. -/
theorem orElse_null {value : Value} : value.orElse .null = value ↔ value = .null ∨ value.truthy = true := by
  rw [Value.orElse]
  split
  · next holds => exact iff_of_true rfl (.inr holds)
  · next fails => exact ⟨fun same => .inl same.symm, fun either => (either.resolve_right fails).symm⟩

theorem replaceZ_isoformat (moment : DateTime) : replaceZ moment.isoformat = moment.isoformat := by
  have kept : ∀ c ∈ moment.isoformat.toList, (if c = 'Z' then "+00:00".toList else [c]) = [c] := by
    intro c member
    refine if_neg fun same => ?_
    subst same
    rcases DateTime.isoformat_chars member with digit | mark
    · exact absurd digit (by decide)
    · exact absurd mark (by decide)
  rw [replaceZ, List.flatMap_congr kept, List.flatMap_singleton', String.ofList_toList]

theorem parseTimestamp_isoformat (moment : DateTime) :
    parseTimestamp runtime (.text moment.isoformat) = some moment := by
  have read := DateTime.fromisoformat_isoformat moment
  have some_ : moment.isoformat ≠ "" := by
    intro empty
    rw [empty] at read
    exact absurd read (by simp [DateTime.fromisoformat, Date.read, readDigits])
  simp only [parseTimestamp, Value.truthy, some_, ne_eq, not_false_eq_true, decide_true, Bool.not_true,
    Bool.false_eq_true, if_false, replaceZ_isoformat, read]

namespace OptionLeg

/-- The keys of the dict of a leg. -/
def dictKeys : List String :=
  ["ltp", "oi", "volume", "iv", "bid", "ask", "symbol", "instrument_key", "trading_symbol", "greeks"]

theorem field_absent (leg : OptionLeg) {key : String} (absent : key ∉ dictKeys) : Value.field leg.toDict key = .null := by
  have none_ : leg.toDict.lookup key = none := by
    rw [List.lookup_eq_none_iff]
    intro entry member
    rw [bne_iff_ne]
    rintro rfl
    apply absent
    rcases List.mem_append.mp member with front | nested
    · exact List.mem_append_left ["greeks"] (List.mem_map_of_mem front)
    · have own : entry.1 = "greeks" := by
        split at nested
        · rw [List.mem_singleton.mp nested]
        · cases nested
      rw [own]
      exact List.mem_of_elem_eq_true rfl
  rw [Value.field, none_, Option.getD_none]

theorem readGreeks_nested {data : List (String × Value)} {greek : String × Value} {greeks : List (String × Value)}
    (nested : Value.field data "greeks" = .dict (greek :: greeks)) : readGreeks data = some (greek :: greeks) := by
  simp only [readGreeks, nested]

theorem readGreeks_none {data : List (String × Value)} (nested : Value.field data "greeks" = .null)
    (absent : ∀ key ∈ ["delta", "theta", "gamma", "vega", "rho"], Value.field data key = .null) :
    readGreeks data = none := by
  obtain ⟨delta, theta, gamma, vega, rho⟩ : Value.field data "delta" = .null ∧ Value.field data "theta" = .null ∧
      Value.field data "gamma" = .null ∧ Value.field data "vega" = .null ∧ Value.field data "rho" = .null := by
    simpa using absent
  simp [readGreeks, nested, delta, theta, gamma, vega, rho]

theorem readGreeks_toDict (leg : OptionLeg) :
    readGreeks leg.toDict = leg.greeks.filter fun greeks => !greeks.isEmpty := by
  have apart : ∀ key ∈ ["delta", "theta", "gamma", "vega", "rho"], key ∉ dictKeys := by decide
  have absent : ∀ key ∈ ["delta", "theta", "gamma", "vega", "rho"], Value.field leg.toDict key = .null :=
    fun key member => field_absent leg (apart key member)
  obtain ⟨ltp, oi, volume, iv, bid, ask, symbol, instrumentKey, tradingSymbol, instrumentId, greeks⟩ := leg
  rcases greeks with _ | _ | ⟨greek, greeks⟩
  · exact readGreeks_none rfl absent
  · exact readGreeks_none rfl absent
  · exact readGreeks_nested rfl

/-- What a leg becomes. -/
theorem fromDict_toDict (leg : OptionLeg) : fromDict leg.toDict =
    { ltp := some (leg.ltp.getD 0)
      oi := some (leg.oi.getD 0)
      volume := some (leg.volume.getD 0)
      iv := some (leg.iv.getD 0)
      bid := some (leg.bid.getD 0)
      ask := some (leg.ask.getD 0)
      symbol := leg.symbol
      instrumentKey := leg.instrumentKey.orElse .null
      tradingSymbol := leg.tradingSymbol.orElse .null
      instrumentId := none
      greeks := leg.greeks.filter fun greeks => !greeks.isEmpty } := by
  have ltp : Value.field leg.toDict "ltp" = .ofDecimal leg.ltp := rfl
  have oi : Value.field leg.toDict "oi" = .ofInt leg.oi := rfl
  have volume : Value.field leg.toDict "volume" = .ofInt leg.volume := rfl
  have iv : Value.field leg.toDict "iv" = .ofDecimal leg.iv := rfl
  have bid : Value.field leg.toDict "bid" = .ofDecimal leg.bid := rfl
  have ask : Value.field leg.toDict "ask" = .ofDecimal leg.ask := rfl
  have symbol : Value.field leg.toDict "symbol" = leg.symbol := rfl
  have instrumentKey : Value.field leg.toDict "instrument_key" = leg.instrumentKey := rfl
  have tradingSymbol : Value.field leg.toDict "trading_symbol" = leg.tradingSymbol := rfl
  have securityId : Value.field leg.toDict "security_id" = .null := field_absent leg (by decide)
  have other : Value.field leg.toDict "tradingSymbol" = .null := field_absent leg (by decide)
  rw [fromDict, ltp, oi, volume, iv, bid, ask, symbol, instrumentKey, tradingSymbol, securityId, other,
    readGreeks_toDict, parseDecimal_ofDecimal, parseDecimal_ofDecimal, parseDecimal_ofDecimal, parseDecimal_ofDecimal,
    parseInt_ofInt, parseInt_ofInt]

/-- A leg with all its prices and quantities, without an instrument id, and with no empty key or greeks. -/
structure Complete (leg : OptionLeg) : Prop where
  prices : leg.ltp.isSome ∧ leg.iv.isSome ∧ leg.bid.isSome ∧ leg.ask.isSome
  quantities : leg.oi.isSome ∧ leg.volume.isSome
  instrumentKey : leg.instrumentKey = .null ∨ leg.instrumentKey.truthy = true
  tradingSymbol : leg.tradingSymbol = .null ∨ leg.tradingSymbol.truthy = true
  instrumentId : leg.instrumentId = none
  greeks : leg.greeks ≠ some []

theorem fromDict_toDict_iff (leg : OptionLeg) : fromDict leg.toDict = leg ↔ leg.Complete := by
  rw [fromDict_toDict]
  obtain ⟨ltp, oi, volume, iv, bid, ask, symbol, instrumentKey, tradingSymbol, instrumentId, greeks⟩ := leg
  have present {α : Type} (value : Option α) (default_ : α) :
      some (value.getD default_) = value ↔ value.isSome = true := by
    cases value <;> simp
  have kept : (greeks.filter fun greeks => !greeks.isEmpty) = greeks ↔ greeks ≠ some [] := by
    rcases greeks with _ | _ | ⟨greek, greeks⟩ <;> simp
  rw [mk.injEq]
  simp only [present, orElse_null, kept, true_and]
  constructor
  · rintro ⟨ltp, oi, volume, iv, bid, ask, key, symbol, id, greeks⟩
    exact ⟨⟨ltp, iv, bid, ask⟩, ⟨oi, volume⟩, key, symbol, id.symm, greeks⟩
  · rintro ⟨⟨ltp, iv, bid, ask⟩, ⟨oi, volume⟩, key, symbol, id, greeks⟩
    exact ⟨ltp, oi, volume, iv, bid, ask, key, symbol, id.symm, greeks⟩

theorem toDict_ne_nil (leg : OptionLeg) : leg.toDict.isEmpty = false := rfl

end OptionLeg

namespace OptionStrike

theorem legOf_toDict (row : OptionStrike) :
    legOf row.toDict "call" "CE" = row.call.toDict ∧ legOf row.toDict "put" "PE" = row.put.toDict := by
  constructor
  all_goals
    simp [legOf, toDict, Value.field, List.lookup, Value.orElse, Value.truthy, OptionLeg.toDict_ne_nil]

theorem strike_toDict (row : OptionStrike) :
    parseDecimal ((Value.field row.toDict "strike").orElse (.field row.toDict "strikePrice")) = row.strike := by
  have strike : Value.field row.toDict "strike" = .decimal row.strike := rfl
  have other : Value.field row.toDict "strikePrice" = .null := by
    simp [toDict, Value.field, List.lookup]
  rw [strike, other, Value.orElse]
  split
  · rfl
  · next zero =>
    have none_ : row.strike = 0 := by simpa [Value.truthy] using zero
    rw [none_]
    rfl

theorem fromDict_toDict (row : OptionStrike) : fromDict row.toDict =
    { strike := row.strike
      call := .fromDict row.call.toDict
      put := .fromDict row.put.toDict } := by
  rw [fromDict, strike_toDict, (legOf_toDict row).1, (legOf_toDict row).2]

theorem fromDict_toDict_iff (row : OptionStrike) :
    fromDict row.toDict = row ↔ row.call.Complete ∧ row.put.Complete := by
  rw [fromDict_toDict, ← OptionLeg.fromDict_toDict_iff, ← OptionLeg.fromDict_toDict_iff]
  constructor
  · intro same
    exact ⟨congrArg call same, congrArg put same⟩
  · rintro ⟨call, put⟩
    rw [call, put]

end OptionStrike

theorem chainFetchedAt_fetchedEntry (runtime : ChainRuntime) (front : List (String × Value))
    (fetchedAt : Option DateTime) (absent : front.lookup "fetched_at" = none) :
    chainFetchedAt runtime (front ++ fetchedEntry fetchedAt) = fetchedAt.getD runtime.now := by
  cases fetchedAt with
  | none =>
    rw [fetchedEntry, Option.map_none, Option.toList_none, List.append_nil, chainFetchedAt, Value.field, absent]
    rfl
  | some moment =>
    have entry : Value.field (front ++ fetchedEntry (some moment)) "fetched_at" = .text moment.isoformat := by
      rw [Value.field, List.lookup_append, absent]
      simp [fetchedEntry]
    rw [chainFetchedAt, entry]
    simp only [parseTimestamp_isoformat, Option.getD_some]

theorem dictRows_dict (rows : List (List (String × Value))) : dictRows (rows.map .dict) = rows := by
  rw [dictRows, List.filterMap_map]
  exact List.filterMap_some

/-- The moments and values that are read are there: nothing absent comes back absent. -/
theorem some_getD {α : Type} {value : Option α} {default_ : α} :
    some (value.getD default_) = value ↔ value.isSome = true := by
  cases value <;> simp

namespace OptionChain

theorem fromDict_toDict (chain : OptionChain) : fromDict runtime chain.toDict = some
    { underlying := chain.underlying
      exchange := chain.exchange
      expiry := chain.expiry
      strikes := chain.strikes.map fun row => .fromDict row.toDict
      spot := some (chain.spot.getD 0)
      fetchedAt := some (chain.fetchedAt.getD runtime.now) } := by
  have moment := chainFetchedAt_fetchedEntry runtime
    [("underlying", .text chain.underlying), ("exchange", .text chain.exchange), ("expiry", .text chain.expiry),
      ("strikes", .list (chain.strikes.map fun row => .dict row.toDict)), ("spot", .ofDecimal chain.spot)]
    chain.fetchedAt (by simp [List.lookup])
  have rows : dictRows (chain.strikes.map fun row => .dict row.toDict) = chain.strikes.map OptionStrike.toDict := by
    rw [← dictRows_dict (chain.strikes.map OptionStrike.toDict), List.map_map]
    rfl
  rw [toDict, fromDict, moment]
  simp [Value.field, Value.fieldOr, List.lookup, Value.iterate, rows, runtime.str_text, parseDecimal_ofDecimal]

/-- A chain with its spot and moment, whose legs are complete. -/
structure Complete (chain : OptionChain) : Prop where
  spot : chain.spot.isSome
  fetchedAt : chain.fetchedAt.isSome
  legs : ∀ row ∈ chain.strikes, row.call.Complete ∧ row.put.Complete

theorem fromDict_toDict_iff (chain : OptionChain) : fromDict runtime chain.toDict = some chain ↔ chain.Complete := by
  have rows : (chain.strikes.map fun row => OptionStrike.fromDict row.toDict) = chain.strikes ↔
      ∀ row ∈ chain.strikes, row.call.Complete ∧ row.put.Complete := by
    simp only [← OptionStrike.fromDict_toDict_iff]
    simpa using (List.map_inj_left (f := fun row : OptionStrike => OptionStrike.fromDict row.toDict) (g := id))
  rw [fromDict_toDict, Option.some.injEq]
  obtain ⟨underlying, exchange, expiry, strikes, spot, fetchedAt⟩ := chain
  rw [mk.injEq]
  simp only [true_and, some_getD, rows]
  constructor
  · rintro ⟨legs, spot, moment⟩
    exact ⟨spot, moment, legs⟩
  · rintro ⟨spot, moment, legs⟩
    exact ⟨legs, spot, moment⟩

end OptionChain

namespace FutureContract

/-- What a contract becomes. -/
def restored (contract : FutureContract) : FutureContract where
  symbol := contract.symbol
  expiry := contract.expiry
  ltp := some (contract.ltp.getD 0)
  oi := some (contract.oi.getD 0)
  lotSize := if contract.lotSize = 0 then 1 else contract.lotSize
  underlying := contract.underlying

theorem fromDict_toDict (contract : FutureContract) : fromDict runtime contract.toDict = some contract.restored := by
  have lot : toInteger ((Value.int contract.lotSize).orElse (.int 1)) =
      some (if contract.lotSize = 0 then 1 else contract.lotSize) := by
    by_cases none_ : contract.lotSize = 0
    · simp [Value.orElse, Value.truthy, toInteger, none_]
    · simp [Value.orElse, Value.truthy, toInteger, none_]
  simp [fromDict, toDict, Value.field, Value.fieldOr, List.lookup, lot, runtime.str_text, parseDecimal_ofDecimal,
    parseInt_ofInt, restored]

/-- A contract with its price, its open interest and its lot size, and without an instrument id. -/
structure Complete (contract : FutureContract) : Prop where
  ltp : contract.ltp.isSome
  oi : contract.oi.isSome
  lotSize : contract.lotSize ≠ 0
  instrumentId : contract.instrumentId = none

theorem restored_iff (contract : FutureContract) : contract.restored = contract ↔ contract.Complete := by
  obtain ⟨symbol, expiry, ltp, oi, lotSize, underlying, instrumentId⟩ := contract
  rw [restored, mk.injEq]
  have lot : (if lotSize = 0 then 1 else lotSize) = lotSize ↔ lotSize ≠ 0 := by
    split <;> omega
  simp only [true_and, some_getD, lot]
  constructor
  · rintro ⟨ltp, oi, lot, id⟩
    exact ⟨ltp, oi, lot, id.symm⟩
  · rintro ⟨ltp, oi, lot, id⟩
    exact ⟨ltp, oi, lot, id.symm⟩

end FutureContract

namespace FutureChain

theorem fromDict_toDict (chain : FutureChain) : fromDict runtime chain.toDict = some
    { underlying := chain.underlying
      exchange := chain.exchange
      expiries := chain.expiries
      contracts := chain.contracts.map FutureContract.restored
      fetchedAt := some (chain.fetchedAt.getD runtime.now) } := by
  have moment := chainFetchedAt_fetchedEntry runtime
    [("underlying", .text chain.underlying), ("exchange", .text chain.exchange),
      ("expiries", .list (chain.expiries.map .text)),
      ("contracts", .list (chain.contracts.map fun contract => .dict contract.toDict))]
    chain.fetchedAt (by simp [List.lookup])
  have rows : dictRows (chain.contracts.map fun contract => .dict contract.toDict) =
      chain.contracts.map FutureContract.toDict := by
    rw [← dictRows_dict (chain.contracts.map FutureContract.toDict), List.map_map]
    rfl
  have read : (chain.contracts.map FutureContract.toDict).mapM (FutureContract.fromDict runtime) =
      some (chain.contracts.map FutureContract.restored) := by
    induction chain.contracts with
    | nil => rfl
    | cons contract contracts ih =>
      rw [List.map_cons, List.mapM_cons, FutureContract.fromDict_toDict, ih]
      rfl
  have expiries : (chain.expiries.map Value.text).map runtime.str = chain.expiries := by
    rw [List.map_map]
    exact List.map_id'' runtime.str_text chain.expiries
  rw [toDict, fromDict, moment]
  simp [Value.fieldOr, List.lookup, Value.iterate, rows, read, readExpiries, expiries, runtime.str_text]

/-- A chain with its moment, whose contracts are complete. -/
structure Complete (chain : FutureChain) : Prop where
  fetchedAt : chain.fetchedAt.isSome
  contracts : ∀ contract ∈ chain.contracts, contract.Complete

theorem fromDict_toDict_iff (chain : FutureChain) : fromDict runtime chain.toDict = some chain ↔ chain.Complete := by
  have rows : chain.contracts.map FutureContract.restored = chain.contracts ↔
      ∀ contract ∈ chain.contracts, contract.Complete := by
    simp only [← FutureContract.restored_iff]
    simpa using (List.map_inj_left (f := FutureContract.restored) (g := id))
  rw [fromDict_toDict, Option.some.injEq]
  obtain ⟨underlying, exchange, expiries, contracts, fetchedAt⟩ := chain
  rw [mk.injEq]
  simp only [true_and, some_getD, rows]
  exact ⟨fun ⟨contracts, moment⟩ => ⟨moment, contracts⟩, fun ⟨moment, contracts⟩ => ⟨contracts, moment⟩⟩

end FutureChain

/-- The chains that come back are those that are complete. -/
theorem chains_restored_iff (runtime : ChainRuntime) (options : OptionChain) (futures : FutureChain) :
    (OptionChain.fromDict runtime options.toDict = some options ↔ options.Complete) ∧
    (FutureChain.fromDict runtime futures.toDict = some futures ↔ futures.Complete) :=
  ⟨OptionChain.fromDict_toDict_iff options, FutureChain.fromDict_toDict_iff futures⟩

/-- A clock that stands, and a `str` of texts. -/
def chainRuntime : ChainRuntime where
  str
    | .text content => content
    | _ => ""
  str_text := fun _ => rfl
  fromTimestamp := fun _ => none
  now :=
    { date := ⟨2026, 7, 22, by decide⟩
      time := ⟨10, 0, 0, 0, some 0, by decide⟩ }

/-- A strike without any quotes, in a chain that has its spot and its moment. -/
def unquotedChain : OptionChain where
  underlying := "NIFTY"
  exchange := "NFO"
  expiry := "2026-07-30"
  strikes := [{ strike := 25000 }]
  spot := some 25010
  fetchedAt := some chainRuntime.now

/-- Its prices come back as noughts. -/
theorem unquotedChain_not_restored : OptionChain.fromDict chainRuntime unquotedChain.toDict ≠ some unquotedChain := by
  rw [OptionChain.fromDict_toDict]
  intro same
  have prices := congrArg (List.map fun row : OptionStrike => row.call.ltp)
    (congrArg OptionChain.strikes (Option.some.inj same))
  simp [unquotedChain, OptionStrike.fromDict_toDict, OptionLeg.fromDict_toDict] at prices

end TradeX.V1
