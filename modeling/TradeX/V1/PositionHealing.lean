import TradeX.V1.MassStatus
import TradeX.V1.PositionStates

/-! What `apply_mass_status` makes of the local positions, and the drift of them that remains. -/

namespace TradeX.V1

open Lib

/-- `Decimal(str(price) or 0)`, where the text is a numeral. -/
def ReportedPrice.reads (price : ReportedPrice) : Option ℚ :=
  if price.text = "" then some 0 else Decimal.ofText price.text

namespace ReportedPosition

variable (position : ReportedPosition)

/-- What `upsert_position` reads from the dictionary. -/
def fields : Option BrokerPosition :=
  position.avgPrice.reads.bind fun avgPrice => position.ltp.reads.map fun ltp => {
    symbol := position.symbol
    exchange := position.exchangeOrDefault
    quantity := position.quantity
    avgPrice := avgPrice
    ltp := ltp }

variable {position}

/-- The text of `Money` has the currency in it and is never read. -/
theorem reads_money (amount : ℚ) : (ReportedPrice.money amount).reads = none := by
  have spelled : (ReportedPrice.money amount).text.toList =
      (Decimal.toFixed2 amount).toList ++ ' ' :: ['I', 'N', 'R'] := by
    simp only [ReportedPrice.text, String.toList_append]
    rfl
  unfold ReportedPrice.reads
  split
  · next empty =>
    have lengths := congrArg List.length spelled
    rw [empty] at lengths
    simp only [String.toList_empty, List.length_nil, List.length_append, List.length_cons] at lengths
    omega
  · exact Decimal.ofText_amount spelled ⟨'I', List.mem_cons_self, by decide⟩

/-- A price that is read is the price compared. -/
theorem asDecimal_of_reads {price : ReportedPrice} {value : ℚ} (reads : price.reads = some value) :
    price.asDecimal = value := by
  cases price with
  | money amount =>
    rw [reads_money] at reads
    cases reads
  | plain text =>
    simp only [ReportedPrice.asDecimal]
    by_cases empty : text = ""
    · subst empty
      cases reads
      decide +kernel
    · have spelled : Decimal.ofText text = some value := (if_neg empty).symm.trans reads
      rw [spelled, Option.getD_some]

end ReportedPosition

namespace PositionManager

variable {manager : PositionManager} {position : ReportedPosition} {positions : List ReportedPosition}
  {fields : BrokerPosition} {key : String}

/-- Every position is filed under the key of its names. -/
def Keyed (manager : PositionManager) : Prop :=
  ∀ key position, manager.positions.get key = some position →
    makePositionKey position.symbol position.exchange = key

theorem Keyed.set (keyed : manager.Keyed) {stored : Position}
    (names : makePositionKey stored.symbol stored.exchange = key) :
    ({ manager with positions := manager.positions.set key stored } : PositionManager).Keyed := by
  intro other found held
  dsimp only at held
  rw [Dict.get_set] at held
  split at held
  · next same =>
    cases held
    exact names.trans same.symm
  · exact keyed other found held

/-- What the upsert makes of a position depends on the one held under its key. -/
theorem reported_congr {other : PositionManager}
    (same : manager.positions.get (makePositionKey fields.symbol fields.exchange) =
      other.positions.get (makePositionKey fields.symbol fields.exchange)) :
    manager.reported fields = other.reported fields := by
  unfold reported
  rw [same]

/-- A new position has the names of the report, and its average price where it is not flat. -/
theorem reported_new (absent : manager.positions.get (makePositionKey fields.symbol fields.exchange) = none) :
    (manager.reported fields).symbol = fields.symbol ∧ (manager.reported fields).exchange = fields.exchange ∧
      (fields.quantity ≠ 0 → (manager.reported fields).avgPrice = fields.avgPrice) := by
  simp only [reported, absent]
  by_cases quoted : fields.ltp = 0
  · by_cases flat : fields.quantity = 0
    · simp only [quoted, flat, ne_eq, not_true_eq_false, if_false, false_implies, and_self]
    · simp only [quoted, flat, ne_eq, not_true_eq_false, not_false_eq_true, if_false, if_true, true_implies,
        Position.withFill, Position.computeAvgPrice, and_self]
  · by_cases flat : fields.quantity = 0
    · simp only [quoted, flat, ne_eq, not_true_eq_false, not_false_eq_true, if_false, if_true, false_implies,
        Position.withLtp, and_self]
    · simp only [quoted, flat, ne_eq, not_false_eq_true, if_true, true_implies, Position.withLtp,
        Position.withFill, Position.computeAvgPrice, and_self]

theorem reported_names {current : Position}
    (held : manager.positions.get (makePositionKey fields.symbol fields.exchange) = some current) :
    (manager.reported fields).symbol = current.symbol ∧ (manager.reported fields).exchange = current.exchange := by
  simp only [reported, held]
  split
  · simp only [Position.withLtp]
    split
    · exact ⟨rfl, rfl⟩
    · exact ⟨rfl, rfl⟩
  · split
    · exact ⟨rfl, rfl⟩
    · exact ⟨rfl, rfl⟩

theorem Keyed.reported (keyed : manager.Keyed) (fields : BrokerPosition) :
    makePositionKey (manager.reported fields).symbol (manager.reported fields).exchange =
      makePositionKey fields.symbol fields.exchange := by
  cases before : manager.positions.get (makePositionKey fields.symbol fields.exchange) with
  | none => rw [(reported_new before).1, (reported_new before).2.1]
  | some current =>
    rw [(reported_names before).1, (reported_names before).2]
    exact keyed _ current before

theorem Keyed.applyTrade (keyed : manager.Keyed) (trade : Trade) : (manager.applyTrade trade).1.Keyed := by
  have names : makePositionKey (projectTrade (manager.current trade) trade).symbol
      (projectTrade (manager.current trade) trade).exchange = makePositionKey trade.symbol trade.exchange := by
    simp only [projectTrade, Position.withFill, current]
    cases before : manager.positions.get (makePositionKey trade.symbol trade.exchange) with
    | none => rfl
    | some held => exact keyed _ held before
  unfold PositionManager.applyTrade
  dsimp only
  split
  · exact keyed
  · exact (Keyed.set keyed names : Keyed _)

/-- Every operation keeps the positions filed under their names. -/
theorem Keyed.after (keyed : manager.Keyed) (operation : PositionOperation) : (manager.after operation).Keyed := by
  cases operation with
  | applyTrade trade => exact keyed.applyTrade trade
  | onTradeApplied trade =>
    have remembered : (manager.remember trade.tradeId).Keyed := keyed
    simp only [PositionManager.after, onTradeApplied]
    split
    · exact keyed
    · have applied := remembered.applyTrade trade
      split
      · exact applied
      · exact applied
  | upsertPosition data =>
    simp only [PositionManager.after, upsertPosition]
    split
    · exact keyed
    · exact keyed.set (keyed.reported _)
  | updateLtp symbol exchange ltp =>
    simp only [PositionManager.after, updateLtp]
    split
    · exact keyed
    · next current held => exact keyed.set (keyed _ current held)
  | reset =>
    intro key position held
    cases held

/-- The positions of every run from an empty book are filed under their names. -/
theorem keyed_run {enforce : Bool} {operations : List PositionOperation}
    (run : exec operate (opened enforce) operations = some manager) : manager.Keyed := by
  have start : (opened enforce).Keyed := by
    intro key position held
    cases held
  refine exec_invariant (fun before operation after keyed _ operated => ?_) start
    (meets_of_forall fun _ _ => trivial) run
  cases operated
  exact keyed.after operation

/-- What one round makes of the position: the entry has no symbol, it is flat and unknown, a price of it
is not read, or the position is stored. -/
inductive HealsPosition (manager : PositionManager) (position : ReportedPosition) :
    PositionManager × List HealItem × List (String × PositionError) → Prop where
  | nameless : position.symbol = "" → HealsPosition manager position (manager, [], [])
  | absent (items : List HealItem) : position.symbol ≠ "" → manager.positions.get position.key = none →
      position.quantity = 0 → HealsPosition manager position (manager, items, [])
  | unread (items : List HealItem) (error : PositionError) : position.symbol ≠ "" → position.fields = none →
      HealsPosition manager position (manager, items, [(position.symbol, error)])
  | stored (items : List HealItem) (fields : BrokerPosition) : position.symbol ≠ "" →
      position.fields = some fields → (manager.positions.get position.key ≠ none ∨ position.quantity ≠ 0) →
      HealsPosition manager position
        ({ manager with positions := manager.positions.set position.key (manager.reported fields) }, items, [])

/-- The fields keep the names and the quantity of the entry. -/
theorem fields_names (read : position.fields = some fields) :
    fields.symbol = position.symbol ∧ makePositionKey fields.symbol fields.exchange = position.key ∧
      fields.quantity = position.quantity ∧ fields.avgPrice = position.avgPrice.asDecimal := by
  simp only [ReportedPosition.fields, Option.bind_eq_some_iff, Option.map_eq_some_iff] at read
  obtain ⟨avgPrice, reads, ltp, -, rfl⟩ := read
  exact ⟨rfl, rfl, rfl, (ReportedPosition.asDecimal_of_reads reads).symm⟩

/-- A round touches the position of its entry alone. -/
theorem HealsPosition.frame {ends : PositionManager × List HealItem × List (String × PositionError)}
    (heals : HealsPosition manager position ends) (other : position.key = key → position.symbol = "") :
    ends.1.positions.get key = manager.positions.get key := by
  cases heals with
  | nameless => rfl
  | absent => rfl
  | unread => rfl
  | stored items fields named read moves => exact Dict.get_set_other _ _ _ _ fun same => named (other same.symm)

theorem HealsPosition.keyed {ends : PositionManager × List HealItem × List (String × PositionError)}
    (heals : HealsPosition manager position ends) (keyed : manager.Keyed) : ends.1.Keyed := by
  cases heals with
  | nameless => exact keyed
  | absent => exact keyed
  | unread => exact keyed
  | stored items fields named read moves =>
    dsimp only
    rw [← (fields_names read).2.1]
    exact keyed.set (keyed.reported fields)

/-- What the heal makes of an entry of the snapshot. -/
inductive MendedPosition (before after : PositionManager) (failures : List (String × PositionError))
    (position : ReportedPosition) : Prop where
  | nameless : position.symbol = "" → MendedPosition before after failures position
  | absent : before.positions.get position.key = none → position.quantity = 0 →
      after.positions.get position.key = none → MendedPosition before after failures position
  | unread (error : PositionError) : position.fields = none → (position.symbol, error) ∈ failures →
      after.positions.get position.key = before.positions.get position.key →
      MendedPosition before after failures position
  | stored (fields : BrokerPosition) : position.fields = some fields →
      (before.positions.get position.key ≠ none ∨ position.quantity ≠ 0) →
      after.positions.get position.key = some (before.reported fields) →
      MendedPosition before after failures position

theorem HealsPosition.mended {ends : PositionManager × List HealItem × List (String × PositionError)}
    (heals : HealsPosition manager position ends) : MendedPosition manager ends.1 ends.2.2 position := by
  cases heals with
  | nameless nameless => exact .nameless nameless
  | absent items named absent flat => exact .absent absent flat absent
  | unread items error named unread => exact .unread error unread (List.mem_singleton_self _) rfl
  | stored items fields named read moves => exact .stored fields read moves (Dict.get_set_self _ _ _)

theorem MendedPosition.behind {before middle after : PositionManager} {failures others : List (String × PositionError)}
    (mended : MendedPosition before middle failures position)
    (kept : after.positions.get position.key = middle.positions.get position.key) :
    MendedPosition before after (failures ++ others) position := by
  cases mended with
  | nameless nameless => exact .nameless nameless
  | absent absent flat here => exact .absent absent flat (kept.trans here)
  | unread error unread logged here => exact .unread error unread (List.mem_append_left _ logged) (kept.trans here)
  | stored fields read moves here => exact .stored fields read moves (kept.trans here)

theorem MendedPosition.ahead {before middle after : PositionManager} {failures others : List (String × PositionError)}
    (mended : MendedPosition middle after others position)
    (kept : middle.positions.get position.key = before.positions.get position.key) :
    MendedPosition before after (failures ++ others) position := by
  cases mended with
  | nameless nameless => exact .nameless nameless
  | absent absent flat here => exact .absent (kept.symm.trans absent) flat here
  | unread error unread logged here => exact .unread error unread (List.mem_append_right _ logged) (here.trans kept)
  | stored fields read moves here =>
    apply MendedPosition.stored fields read (kept ▸ moves)
    rw [here]
    refine congrArg some (reported_congr ?_)
    rw [(fields_names read).2.1]
    exact kept

/-- The drift that may remain of the positions: one that is held here and that the snapshot does not
name, an entry without its names, one with a price that is not read, one that is flat and unknown, an
average price of a position held before, or a position held under another spelling of its names. -/
inductive RemainingPositionDrift (before after : PositionManager) (positions : List ReportedPosition)
    (failures : List (String × PositionError)) (item : DriftItem) : Prop where
  | unnamed (position : Position) : position.quantity ≠ 0 →
      before.positions.get (makePositionKey position.symbol position.exchange) = some position →
      (∀ entry ∈ positions, entry.key ≠ makePositionKey position.symbol position.exchange) →
      item = ReconciliationEngine.missingBrokerPosition position →
      RemainingPositionDrift before after positions failures item
  | nameless (entry : ReportedPosition) : entry ∈ positions → (entry.symbol = "" ∨ entry.exchange = "") →
      RemainingPositionDrift before after positions failures item
  | unread (entry : ReportedPosition) (error : PositionError) : entry ∈ positions → entry.fields = none →
      (entry.symbol, error) ∈ failures → RemainingPositionDrift before after positions failures item
  | flat (entry : ReportedPosition) : entry ∈ positions → entry.quantity = 0 →
      before.positions.get entry.key = none → item = ReconciliationEngine.missingLocalPosition entry →
      RemainingPositionDrift before after positions failures item
  | prices (entry : ReportedPosition) (held : Position) : entry ∈ positions →
      before.positions.get entry.key = some held → item.kind = .positionAvgPriceMismatch →
      RemainingPositionDrift before after positions failures item
  | respelled (entry : ReportedPosition) (held : Position) : entry ∈ positions →
      after.positions.get entry.key = some held →
      ReconciliationEngine.localNames held ≠ ReconciliationEngine.brokerNames entry →
      (item = ReconciliationEngine.missingLocalPosition entry ∨
        item = ReconciliationEngine.missingBrokerPosition held) →
      RemainingPositionDrift before after positions failures item

section

open ReconciliationEngine

/-- A keyed book finds a position by its names. -/
theorem Keyed.found (keyed : manager.Keyed) {held : Position} (filed : manager.positions.get key = some held) :
    (Dict.latest localNames manager.positions.values).get (localNames held) = some held := by
  apply Dict.get_latest_of_unique (Dict.mem_values.mpr ⟨key, filed⟩)
  intro other member same
  obtain ⟨otherKey, otherFiled⟩ := Dict.mem_values.mp member
  have names : other.exchange = held.exchange ∧ other.symbol = held.symbol := Prod.mk.inj same
  have sameKey : otherKey = key := by
    rw [← keyed _ _ otherFiled, ← keyed _ _ filed, names.1, names.2]
  subst sameKey
  exact Option.some.inj (otherFiled.symm.trans filed)

theorem Keyed.of_found (keyed : manager.Keyed) {names : String × String} {held : Position}
    (found : (Dict.latest localNames manager.positions.values).get names = some held) :
    localNames held = names ∧
      manager.positions.get (makePositionKey held.symbol held.exchange) = some held := by
  obtain ⟨member, same⟩ := Dict.get_latest_mem found
  obtain ⟨key, filed⟩ := Dict.mem_values.mp member
  rw [keyed _ _ filed]
  exact ⟨same, filed⟩

/-- What remains of an entry that the comparison finds here under its names. -/
theorem MendedPosition.found {before after : PositionManager} {failures : List (String × PositionError)}
    {item : DriftItem} {held : Position} (mended : MendedPosition before after failures position)
    (keyed : after.Keyed) (member : position ∈ positions)
    (found : (Dict.latest localNames after.positions.values).get (brokerNames position) = some held)
    (drifts : item ∈ brokerPositionDrift position (some held)) :
    RemainingPositionDrift before after positions failures item := by
  obtain ⟨same, filed⟩ := keyed.of_found found
  have names : held.exchange = position.exchange ∧ held.symbol = position.symbol := Prod.mk.inj same
  by_cases unplaced : position.exchange = ""
  · exact .nameless position member (.inr unplaced)
  · have filedHere : after.positions.get position.key = some held := by
      rw [ReportedPosition.key, ReportedPosition.exchangeOrDefault, if_neg unplaced, ← names.1, ← names.2]
      exact filed
    cases mended with
    | nameless nameless => exact .nameless position member (.inl nameless)
    | absent unknown flat here =>
      rw [filedHere] at here
      cases here
    | unread error unread logged here => exact .unread position error member unread logged
    | stored fields read moves here =>
      obtain ⟨-, key, quantity, price⟩ := fields_names read
      cases filedHere.symm.trans here
      simp only [brokerPositionDrift, reported_quantity, quantity, ne_eq, not_true_eq_false, if_false] at drifts
      split at drifts
      · next apart =>
        have averages := List.mem_singleton.mp drifts
        cases known : before.positions.get position.key with
        | some current => exact .prices position current member known (congrArg DriftItem.kind averages)
        | none =>
          -- a new position took over the average price of the report
          obtain ⟨-, -, average⟩ := reported_new ((congrArg before.positions.get key).trans known)
          rw [average (quantity ▸ apart.1), price, sub_self, abs_zero] at apart
          exact absurd apart.2 (by decide +kernel)
      · cases drifts

end

end PositionManager

end TradeX.V1
