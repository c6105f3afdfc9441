import TradeX.Lib.KeyedFold
import TradeX.V1.PositionManager
import TradeX.V1.TerminalStatus

/-! Recovery of the positions from the fills of the execution ledger. The fills are replayed in the
order of their event times through a fresh reducer, which checks each against the order quantity
recorded with it; the live positions were folded in the order in which the fills were accepted. -/

namespace TradeX.V1

open Lib

/-- The figures of a position that a recovery has to reproduce. -/
structure Figures where
  quantity : ℤ
  avgPrice : ℚ
  realizedPnl : ℚ
  deriving DecidableEq, Repr

namespace Position

def figures (position : Position) : Figures where
  quantity := position.quantity
  avgPrice := position.avgPrice
  realizedPnl := position.realizedPnl

/-- What a fill does to the figures depends on the figures and the multiplier alone. -/
structure Alike (position other : Position) : Prop where
  figures : position.figures = other.figures
  multiplier : position.multiplier = other.multiplier

variable {position other : Position} {trade : Trade} {trades trades' : List Trade}

theorem Alike.quantity (alike : position.Alike other) : position.quantity = other.quantity :=
  congrArg Figures.quantity alike.figures

theorem Alike.avgPrice (alike : position.Alike other) : position.avgPrice = other.avgPrice :=
  congrArg Figures.avgPrice alike.figures

theorem Alike.realizedPnl (alike : position.Alike other) : position.realizedPnl = other.realizedPnl :=
  congrArg Figures.realizedPnl alike.figures

theorem Alike.withFill (alike : position.Alike other) (fillQty : ℤ) (fillPrice : ℚ) :
    (position.withFill fillQty fillPrice).Alike (other.withFill fillQty fillPrice) := by
  refine ⟨?_, alike.multiplier⟩
  simp only [Position.withFill, computeAvgPrice, computeRealizedPnl, closing, mult, alike.quantity, alike.avgPrice,
    alike.realizedPnl, alike.multiplier]
  rfl

theorem Alike.foldl (alike : position.Alike other) (trades : List Trade) :
    (trades.foldl projectTrade position).Alike (trades.foldl projectTrade other) := by
  induction trades generalizing position other with
  | nil => exact alike
  | cons trade rest ih => exact ih (alike.withFill trade.delta trade.price)

/-- A fill on the side of the position averages the price and realizes nothing. -/
theorem withFill_adds {fillQty : ℤ} {fillPrice : ℚ}
    (side : 0 ≤ position.quantity ∧ 0 < fillQty ∨ position.quantity ≤ 0 ∧ fillQty < 0) :
    ((position.withFill fillQty fillPrice).quantity : ℚ) * (position.withFill fillQty fillPrice).avgPrice =
        position.quantity * position.avgPrice + fillQty * fillPrice ∧
      (position.withFill fillQty fillPrice).realizedPnl = position.realizedPnl := by
  have opening : ¬ position.closing fillQty := by
    rintro (⟨long, sells⟩ | ⟨short, buys⟩) <;> omega
  have grown : ((position.quantity + fillQty : ℤ) : ℚ) ≠ 0 := by
    apply Int.cast_ne_zero.mpr
    omega
  by_cases flat : position.quantity = 0
  · simp only [Position.withFill, computeAvgPrice, computeRealizedPnl, flat, if_true]
    refine ⟨?_, trivial⟩
    push_cast
    ring
  · simp only [Position.withFill, computeAvgPrice, computeRealizedPnl, flat, opening, if_false]
    exact ⟨mul_div_cancel₀ _ grown, trivial⟩

/-- Every trade opens the position or adds to it. -/
def Adds (position : Position) (trades : List Trade) : Prop :=
  (0 ≤ position.quantity ∧ ∀ trade ∈ trades, 0 < trade.delta) ∨
    (position.quantity ≤ 0 ∧ ∀ trade ∈ trades, trade.delta < 0)

theorem Adds.foldl (adds : position.Adds trades) :
    (trades.foldl projectTrade position).quantity = position.quantity + (trades.map Trade.delta).sum ∧
      ((trades.foldl projectTrade position).quantity : ℚ) * (trades.foldl projectTrade position).avgPrice =
        position.quantity * position.avgPrice + (trades.map fun trade => (trade.delta : ℚ) * trade.price).sum ∧
      (trades.foldl projectTrade position).realizedPnl = position.realizedPnl := by
  induction trades generalizing position with
  | nil => simp
  | cons trade rest ih =>
    have side : 0 ≤ position.quantity ∧ 0 < trade.delta ∨ position.quantity ≤ 0 ∧ trade.delta < 0 := by
      rcases adds with ⟨long, buys⟩ | ⟨short, sells⟩
      · exact .inl ⟨long, buys trade List.mem_cons_self⟩
      · exact .inr ⟨short, sells trade List.mem_cons_self⟩
    have later : (projectTrade position trade).Adds rest := by
      have moved : (projectTrade position trade).quantity = position.quantity + trade.delta := rfl
      rcases adds with ⟨long, buys⟩ | ⟨short, sells⟩
      · have bought := buys trade List.mem_cons_self
        exact .inl ⟨by omega, fun other member => buys other (List.mem_cons_of_mem _ member)⟩
      · have sold := sells trade List.mem_cons_self
        exact .inr ⟨by omega, fun other member => sells other (List.mem_cons_of_mem _ member)⟩
    obtain ⟨quantity, value, realized⟩ := ih later
    obtain ⟨valued, kept⟩ := @withFill_adds position trade.delta trade.price side
    have moved : (projectTrade position trade).quantity = position.quantity + trade.delta := rfl
    refine ⟨?_, ?_, realized.trans kept⟩
    · rw [List.foldl_cons, quantity, moved, List.map_cons, List.sum_cons, add_assoc]
    · rw [List.foldl_cons, value, List.map_cons, List.sum_cons, ← add_assoc]
      exact congrArg (· + _) valued

/-- Trades that only add to a flat position give the same figures in every order. -/
theorem Adds.foldl_perm (adds : position.Adds trades) (flat : position.quantity = 0) (perm : trades.Perm trades') :
    (trades.foldl projectTrade position).figures = (trades'.foldl projectTrade position).figures := by
  have adds' : position.Adds trades' := by
    rcases adds with ⟨long, buys⟩ | ⟨short, sells⟩
    · exact .inl ⟨long, fun trade member => buys trade (perm.mem_iff.mpr member)⟩
    · exact .inr ⟨short, fun trade member => sells trade (perm.mem_iff.mpr member)⟩
  obtain ⟨quantity, value, realized⟩ := adds.foldl
  obtain ⟨quantity', value', realized'⟩ := adds'.foldl
  have sameQuantity : (trades.foldl projectTrade position).quantity = (trades'.foldl projectTrade position).quantity := by
    rw [quantity, quantity', (perm.map Trade.delta).sum_eq]
  have sameValue : ((trades.foldl projectTrade position).quantity : ℚ) * (trades.foldl projectTrade position).avgPrice =
      (trades.foldl projectTrade position).quantity * (trades'.foldl projectTrade position).avgPrice := by
    rw [value, sameQuantity, value', (perm.map fun trade => (trade.delta : ℚ) * trade.price).sum_eq]
  have samePrice : (trades.foldl projectTrade position).avgPrice = (trades'.foldl projectTrade position).avgPrice := by
    cases trades with
    | nil =>
      rw [perm.symm.eq_nil]
    | cons trade rest =>
      have grown : (((trade :: rest).foldl projectTrade position).quantity : ℚ) ≠ 0 := by
        rw [Int.cast_ne_zero, quantity, flat, zero_add]
        rcases adds with ⟨-, buys⟩ | ⟨-, sells⟩
        · exact (List.sum_pos _ (by simpa using buys) (by simp)).ne'
        · have sold : 0 < (((trade :: rest).map Trade.delta).map Neg.neg).sum :=
            List.sum_pos _ (by simpa using sells) (by simp)
          rw [← List.sum_neg] at sold
          exact (neg_pos.mp sold).ne
      exact mul_left_cancel₀ grown sameValue
  unfold figures
  rw [sameQuantity, samePrice, realized, realized']

end Position

/-- `PortfolioProjector`. -/
structure PortfolioProjector where
  positions : Dict String Position := ∅

/-- The key under which the projector files a trade. -/
def Trade.positionKey (trade : Trade) : String := makePositionKey trade.symbol trade.exchange

/-- `Position(symbol=trade.symbol, exchange=trade.exchange)`. -/
def Trade.opening (trade : Trade) : Position := { symbol := trade.symbol, exchange := trade.exchange }

/-- `PortfolioProjector.apply_trade`. -/
def PortfolioProjector.applyTrade (projector : PortfolioProjector) (trade : Trade) : PortfolioProjector where
  positions := projector.positions.set trade.positionKey
    (projectTrade ((projector.positions.get trade.positionKey).getD trade.opening) trade)

/-- The trades folded in their order. -/
def PortfolioProjector.fold (trades : List Trade) : PortfolioProjector :=
  trades.foldl PortfolioProjector.applyTrade {}

structure SimulationFillPipeline where
  reducer : FillReducer := {}
  projector : PortfolioProjector := {}
  filledByOrder : Dict String ℤ := ∅

/-- `SimulationFillPipeline.apply_trade`, with its answer. -/
def SimulationFillPipeline.applyTrade (pipeline : SimulationFillPipeline) (trade : Trade)
    (orderQuantity : Option ℚ) : Except OmsError (SimulationFillPipeline × Bool) :=
  if trade.quantity ≤ 0 then .ok (pipeline, false)
  else
    let orderId := if trade.orderId = "" then "sim-" ++ trade.tradeId else trade.orderId
    let qtyInt := Decimal.toInt trade.quantity
    let oq : ℚ := orderQuantity.getD qtyInt
    let prior := (pipeline.filledByOrder.get orderId).getD 0
    match FillReducer.fillFromTrade trade.tradeId orderId qtyInt prior trade.price with
    | .error error => .error error
    | .ok fill =>
      match pipeline.reducer.validate fill oq prior with
      | some _ => .ok (pipeline, false)
      | none => .ok ({
          reducer := pipeline.reducer.commit fill
          projector := pipeline.projector.applyTrade trade
          filledByOrder := pipeline.filledByOrder.set orderId (prior + qtyInt) }, true)

namespace LedgerFillRecord

/-- The trade that the recovery makes of a record. -/
def toTrade (record : LedgerFillRecord) : Trade where
  tradeId := record.fillId
  orderId := record.orderId
  symbol := record.symbol
  exchange := record.exchange
  side := record.side
  quantity := record.quantity
  price := record.price
  timestamp := some record.eventTime

/-- `(f.event_time, f.fill_id)`. -/
def rank (record : LedgerFillRecord) : ℚ ×ₗ String := toLex (record.eventTime, record.fillId)

/-- `int(quantity)`. -/
def shares (record : LedgerFillRecord) : ℤ := Decimal.toInt record.quantity

end LedgerFillRecord

/-- The loop of `rebuild_projector_from_fills`, with the records that the pipeline refuses. -/
def SimulationFillPipeline.replay (pipeline : SimulationFillPipeline) :
    List LedgerFillRecord → Except OmsError (SimulationFillPipeline × List LedgerFillRecord)
  | [] => .ok (pipeline, [])
  | record :: rest =>
    match pipeline.applyTrade record.toTrade (some record.orderQuantity) with
    | .error error => .error error
    | .ok (next, true) => next.replay rest
    | .ok (next, false) => (next.replay rest).map fun ends => (ends.1, record :: ends.2)

/-- `rebuild_projector_from_fills`: the pipeline, whose projector it returns, and the refused records. -/
def rebuildProjectorFromFills (fills : List LedgerFillRecord) :
    Except OmsError (SimulationFillPipeline × List LedgerFillRecord) :=
  SimulationFillPipeline.replay {} (sortedBy LedgerFillRecord.rank fills)

/-- The whole shares that the records add to the order. -/
def sharesOf (orderId : String) (fills : List LedgerFillRecord) : ℤ :=
  ((fills.filter fun record => record.orderId = orderId).map LedgerFillRecord.shares).sum

theorem sharesOf_append (orderId : String) (fills others : List LedgerFillRecord) :
    sharesOf orderId (fills ++ others) = sharesOf orderId fills + sharesOf orderId others := by
  unfold sharesOf
  rw [List.filter_append, List.map_append, List.sum_append]

theorem sharesOf_singleton (orderId : String) (record : LedgerFillRecord) :
    sharesOf orderId [record] = if record.orderId = orderId then record.shares else 0 := by
  unfold sharesOf
  split
  · next same => rw [List.filter_cons_of_pos (by simpa using same)]; simp
  · next other => rw [List.filter_cons_of_neg (by simpa using other)]; simp

theorem sharesOf_perm {fills others : List LedgerFillRecord} (orderId : String) (perm : fills.Perm others) :
    sharesOf orderId fills = sharesOf orderId others :=
  ((perm.filter _).map _).sum_eq

/-- A record that the live side made of a fill it accepted. -/
structure LedgerFillRecord.Sound (record : LedgerFillRecord) : Prop where
  fillId : blank record.fillId = false
  orderId : blank record.orderId = false
  positive : 0 < record.quantity

theorem LedgerFillRecord.Sound.shares_nonneg {record : LedgerFillRecord} (sound : record.Sound) :
    0 ≤ record.shares := by
  unfold LedgerFillRecord.shares Decimal.toInt
  rw [if_pos sound.positive.le]
  exact Int.floor_nonneg.mpr sound.positive.le

namespace SimulationFillPipeline

/-- The pipeline has accepted these records, in this order. -/
structure Replayed (pipeline : SimulationFillPipeline) (done : List LedgerFillRecord) : Prop where
  seen : ∀ id ∈ pipeline.reducer.seenFillIds, id ∈ done.map LedgerFillRecord.fillId
  filled : ∀ id, (pipeline.filledByOrder.get id).getD 0 = sharesOf id done
  cumulative : ∀ id, (pipeline.reducer.cumulativeByOrder.get id).getD 0 = (sharesOf id done : ℚ)
  positions : pipeline.projector = .fold (done.map LedgerFillRecord.toTrade)
  nonneg : ∀ id, 0 ≤ sharesOf id done

variable {pipeline : SimulationFillPipeline} {record : LedgerFillRecord} {done fills : List LedgerFillRecord}

theorem replayed_nil : Replayed {} [] where
  seen := by rintro id ⟨⟩
  filled id := rfl
  cumulative id := Int.cast_zero.symm
  positions := rfl
  nonneg id := le_refl _

/-- The fill of a sound record is built, and its validation is the check against the recorded quantity. -/
theorem Replayed.validates (replayed : pipeline.Replayed done) (sound : record.Sound)
    (fresh : record.fillId ∉ done.map LedgerFillRecord.fillId) :
    ∃ fill, FillReducer.fillFromTrade record.fillId record.orderId record.shares (sharesOf record.orderId done)
        record.price = .ok fill ∧
      (pipeline.reducer.validate fill record.orderQuantity (sharesOf record.orderId done) = none ↔
        (sharesOf record.orderId (done ++ [record]) : ℚ) ≤ record.orderQuantity) := by
  have shares : (0 : ℚ) ≤ record.shares := by exact_mod_cast sound.shares_nonneg
  have prior : (0 : ℚ) ≤ sharesOf record.orderId done := by exact_mod_cast replayed.nonneg record.orderId
  have total : (sharesOf record.orderId (done ++ [record]) : ℚ) = sharesOf record.orderId done + record.shares := by
    rw [sharesOf_append, sharesOf_singleton, if_pos rfl, Int.cast_add]
  obtain ⟨fill, built⟩ : ∃ fill, FillReducer.fillFromTrade record.fillId record.orderId record.shares
      (sharesOf record.orderId done) record.price = .ok fill := by
    unfold FillReducer.fillFromTrade
    rw [dif_pos sound.fillId, dif_pos sound.orderId, dif_pos shares, dif_pos (add_nonneg prior shares)]
    exact ⟨_, rfl⟩
  obtain ⟨fillId, orderId, -, cumulative, -⟩ := FillReducer.fillFromTrade_ok built
  have unseen : fill.fillId ∉ pipeline.reducer.seenFillIds := by
    rw [fillId]
    exact fun member => fresh (replayed.seen _ member)
  have grown : ¬ fill.cumulativeQuantity < pipeline.reducer.baseline fill.orderId (sharesOf record.orderId done) := by
    unfold FillReducer.baseline
    rw [cumulative, orderId, replayed.cumulative, max_self, not_lt]
    exact le_add_of_nonneg_right shares
  refine ⟨fill, built, ?_⟩
  unfold FillReducer.validate
  rw [if_neg unseen, if_neg grown, cumulative, total]
  split
  · next exceeds => exact ⟨by rintro ⟨⟩, fun fits => absurd fits (not_le.mpr exceeds)⟩
  · next fits => exact ⟨fun _ => not_lt.mp fits, fun _ => rfl⟩

theorem applyTrade_record (sound : record.Sound) {fill : FillEvent} {prior : ℤ}
    (filled : (pipeline.filledByOrder.get record.orderId).getD 0 = prior)
    (built : FillReducer.fillFromTrade record.fillId record.orderId record.shares prior record.price = .ok fill) :
    pipeline.applyTrade record.toTrade (some record.orderQuantity) =
      match pipeline.reducer.validate fill record.orderQuantity prior with
      | some _ => .ok (pipeline, false)
      | none => .ok ({
          reducer := pipeline.reducer.commit fill
          projector := pipeline.projector.applyTrade record.toTrade
          filledByOrder := pipeline.filledByOrder.set record.orderId (prior + record.shares) }, true) := by
  have positive : ¬ record.toTrade.quantity ≤ 0 := not_le.mpr sound.positive
  have ordered : record.toTrade.orderId ≠ "" := by
    intro empty
    have named := sound.orderId
    rw [show record.orderId = "" from empty] at named
    exact absurd named (by decide)
  have prior' : (pipeline.filledByOrder.get record.toTrade.orderId).getD 0 = prior := filled
  have built' : FillReducer.fillFromTrade record.toTrade.tradeId record.toTrade.orderId
      (Decimal.toInt record.toTrade.quantity) prior record.toTrade.price = .ok fill := built
  unfold SimulationFillPipeline.applyTrade
  dsimp only
  rw [if_neg positive, if_neg ordered, prior', built']
  rfl

/-- A new record is accepted where its order has room for it, by the quantity recorded with it. -/
theorem Replayed.applyTrade (replayed : pipeline.Replayed done) (sound : record.Sound)
    (fresh : record.fillId ∉ done.map LedgerFillRecord.fillId) :
    if (sharesOf record.orderId (done ++ [record]) : ℚ) ≤ record.orderQuantity then
      ∃ next, pipeline.applyTrade record.toTrade (some record.orderQuantity) = .ok (next, true) ∧
        next.Replayed (done ++ [record])
    else pipeline.applyTrade record.toTrade (some record.orderQuantity) = .ok (pipeline, false) := by
  obtain ⟨fill, built, validates⟩ := replayed.validates sound fresh
  rw [applyTrade_record sound (replayed.filled _) built]
  obtain ⟨fillId, orderId, -, cumulative, -⟩ := FillReducer.fillFromTrade_ok built
  have total : ∀ id, sharesOf id (done ++ [record]) =
      if id = record.orderId then sharesOf record.orderId done + record.shares else sharesOf id done := by
    intro id
    rw [sharesOf_append, sharesOf_singleton]
    by_cases same : id = record.orderId
    · rw [same, if_pos rfl, if_pos rfl]
    · rw [if_neg same, if_neg fun equal => same equal.symm, add_zero]
  split
  · next fits =>
    rw [validates.mpr fits]
    refine ⟨_, rfl, ⟨?_, ?_, ?_, ?_, ?_⟩⟩
    · intro id member
      rw [List.map_append, List.mem_append]
      rcases List.mem_cons.mp member with rfl | earlier
      · exact .inr (by simp [fillId])
      · exact .inl (replayed.seen id earlier)
    · intro id
      rw [total, Dict.get_set]
      split
      · rfl
      · exact replayed.filled id
    · intro id
      change ((pipeline.reducer.cumulativeByOrder.set fill.orderId fill.cumulativeQuantity).get id).getD 0 = _
      rw [total, Dict.get_set, orderId, cumulative]
      split
      · exact (Int.cast_add _ _).symm
      · exact replayed.cumulative id
    · change pipeline.projector.applyTrade record.toTrade = _
      rw [List.map_append, PortfolioProjector.fold, List.foldl_append, replayed.positions]
      rfl
    · intro id
      rw [total]
      split
      · exact add_nonneg (replayed.nonneg _) sound.shares_nonneg
      · exact replayed.nonneg id
  · next exceeds =>
    cases validated : pipeline.reducer.validate fill record.orderQuantity (sharesOf record.orderId done) with
    | none => exact absurd (validates.mp validated) exceeds
    | some reason => rfl

/-- Every record, behind those in front of it, is within the order quantity recorded with it. -/
def Fits (done : List LedgerFillRecord) : List LedgerFillRecord → Prop
  | [] => True
  | record :: rest =>
    (sharesOf record.orderId (done ++ [record]) : ℚ) ≤ record.orderQuantity ∧ Fits (done ++ [record]) rest

/-- The loop accepts every record exactly when every record fits in its turn. -/
theorem Replayed.replay (replayed : pipeline.Replayed done) (sound : ∀ record ∈ fills, record.Sound)
    (distinct : ((done ++ fills).map LedgerFillRecord.fillId).Nodup) :
    (Fits done fills → ∃ after, pipeline.replay fills = .ok (after, []) ∧ after.Replayed (done ++ fills)) ∧
      ∀ after, pipeline.replay fills = .ok (after, []) → Fits done fills := by
  induction fills generalizing pipeline done with
  | nil =>
    refine ⟨fun _ => ⟨pipeline, rfl, ?_⟩, fun _ _ => trivial⟩
    rw [List.append_nil]
    exact replayed
  | cons record rest ih =>
    have regrouped : done ++ record :: rest = done ++ [record] ++ rest := by simp
    have fresh : record.fillId ∉ done.map LedgerFillRecord.fillId := by
      rw [List.map_append, List.nodup_append] at distinct
      intro member
      exact distinct.2.2 _ member _ (by simp) rfl
    have applied := replayed.applyTrade (sound record List.mem_cons_self) fresh
    unfold SimulationFillPipeline.replay Fits
    split at applied
    · next fits =>
      obtain ⟨next, accepted, replayedNext⟩ := applied
      rw [regrouped] at distinct ⊢
      obtain ⟨accepts, only⟩ := ih replayedNext (fun other member => sound other (List.mem_cons_of_mem _ member)) distinct
      rw [accepted]
      exact ⟨fun both => accepts both.2, fun after ends => ⟨fits, only after ends⟩⟩
    · next exceeds =>
      rw [applied]
      refine ⟨fun both => absurd both.1 exceeds, fun after ends => ?_⟩
      dsimp only at ends
      cases others : pipeline.replay rest with
      | error error =>
        rw [others] at ends
        cases ends
      | ok ends' =>
        rw [others] at ends
        cases ends

end SimulationFillPipeline

/-- The shares of an order's fills up to each of them, in the order of the recovery, are within the
order quantity recorded with it. -/
def Within (fills : List LedgerFillRecord) : Prop :=
  ∀ record ∈ fills, (sharesOf record.orderId (fills.filter fun other => other.rank ≤ record.rank) : ℚ) ≤
    record.orderQuantity

instance decidableWithin (fills : List LedgerFillRecord) : Decidable (Within fills) :=
  inferInstanceAs (Decidable (∀ record ∈ fills, _))

section

variable {fills others done : List LedgerFillRecord}

theorem Within.perm (perm : fills.Perm others) : Within fills ↔ Within others := by
  have same : ∀ record : LedgerFillRecord,
      sharesOf record.orderId (fills.filter fun other => other.rank ≤ record.rank) =
        sharesOf record.orderId (others.filter fun other => other.rank ≤ record.rank) :=
    fun record => sharesOf_perm _ (perm.filter _)
  unfold Within
  simp only [same, perm.mem_iff]

/-- In the order of the recovery a record fits in its turn exactly when it is within. -/
theorem fits_iff (strict : (done ++ fills).Pairwise fun a b => a.rank < b.rank) :
    SimulationFillPipeline.Fits done fills ↔ ∀ record ∈ fills,
      (sharesOf record.orderId ((done ++ fills).filter fun other => other.rank ≤ record.rank) : ℚ) ≤
        record.orderQuantity := by
  induction fills generalizing done with
  | nil => exact ⟨by rintro _ _ ⟨⟩, fun _ => trivial⟩
  | cons record rest ih =>
    have regrouped : done ++ record :: rest = done ++ [record] ++ rest := by simp
    have here : (done ++ record :: rest).filter (fun other => other.rank ≤ record.rank) = done ++ [record] :=
      filter_upto strict
    have later : (done ++ [record] ++ rest).Pairwise fun a b => a.rank < b.rank := by
      rw [← regrouped]
      exact strict
    unfold SimulationFillPipeline.Fits
    rw [ih later, List.forall_mem_cons, here, regrouped]

theorem PortfolioProjector.fold_get (trades : List Trade) (key : String) :
    (fold trades).positions.get key = (trades.filter fun trade => trade.positionKey = key).head?.map fun first =>
      (trades.filter fun trade => trade.positionKey = key).foldl projectTrade first.opening := by
  have positions : ∀ (trades : List Trade) (projector : PortfolioProjector),
      (trades.foldl applyTrade projector).positions =
        trades.foldl (Dict.advance Trade.positionKey Trade.opening projectTrade) projector.positions := by
    intro trades
    induction trades with
    | nil => exact fun _ => rfl
    | cons trade rest ih => exact fun projector => ih (projector.applyTrade trade)
  unfold fold
  rw [positions]
  exact Dict.get_foldl_advance_none trades rfl

/-- Fills of one position that are in the order of the recovery, or of at least one share each and
all on one side. -/
def Foldable (fills : List LedgerFillRecord) : Prop :=
  fills.Pairwise (fun a b => a.rank ≤ b.rank) ∨
    (∀ record ∈ fills, ∀ other ∈ fills, record.side = other.side) ∧ ∀ record ∈ fills, 1 ≤ record.quantity

instance (fills : List LedgerFillRecord) : Decidable (Foldable fills) := inferInstanceAs (Decidable (_ ∨ _))

/-- The fills of every position are foldable. -/
def AllFoldable (fills : List LedgerFillRecord) : Prop :=
  ∀ record ∈ fills, Foldable (fills.filter fun other => other.toTrade.positionKey = record.toTrade.positionKey)

instance (fills : List LedgerFillRecord) : Decidable (AllFoldable fills) :=
  inferInstanceAs (Decidable (∀ record ∈ fills, _))

theorem LedgerFillRecord.delta_side {record : LedgerFillRecord} (whole : 1 ≤ record.quantity) :
    (record.side = .BUY → 0 < record.toTrade.delta) ∧ (record.side = .SELL → record.toTrade.delta < 0) := by
  have shares : 0 < record.shares := by
    unfold LedgerFillRecord.shares Decimal.toInt
    rw [if_pos (zero_le_one.trans whole)]
    exact Int.lt_of_lt_of_le one_pos (Int.le_floor.mpr (by exact_mod_cast whole))
  unfold Trade.delta
  constructor
  · intro buys
    rw [show record.toTrade.side = .BUY from buys]
    exact shares
  · intro sells
    rw [show record.toTrade.side = .SELL from sells]
    exact neg_neg_of_pos shares

/-- Foldable fills give a flat position the same figures in the order of the recovery. -/
theorem Foldable.figures {position : Position} {sorted : List LedgerFillRecord} (foldable : Foldable fills)
    (flat : position.quantity = 0) (distinct : (fills.map LedgerFillRecord.rank).Nodup)
    (perm : sorted.Perm fills) (ordered : sorted.Pairwise fun a b => a.rank ≤ b.rank) :
    ((sorted.map LedgerFillRecord.toTrade).foldl projectTrade position).figures =
      ((fills.map LedgerFillRecord.toTrade).foldl projectTrade position).figures := by
  rcases foldable with inOrder | ⟨sided, whole⟩
  · rw [eq_of_perm_of_ranked LedgerFillRecord.rank perm.symm distinct inOrder ordered]
  · symm
    apply Position.Adds.foldl_perm _ flat (perm.symm.map _)
    cases fills with
    | nil => exact .inl ⟨flat.ge, by rintro _ ⟨⟩⟩
    | cons first rest =>
      cases side : first.side with
      | BUY =>
        refine .inl ⟨flat.ge, fun trade member => ?_⟩
        obtain ⟨record, listed, rfl⟩ := List.mem_map.mp member
        exact (LedgerFillRecord.delta_side (whole record listed)).1
          ((sided record listed first List.mem_cons_self).trans side)
      | SELL =>
        refine .inr ⟨flat.le, fun trade member => ?_⟩
        obtain ⟨record, listed, rfl⟩ := List.mem_map.mp member
        exact (LedgerFillRecord.delta_side (whole record listed)).2
          ((sided record listed first List.mem_cons_self).trans side)

/-- Where the fills of every position are foldable, the order of the recovery changes no figure. -/
theorem AllFoldable.figures (foldable : AllFoldable fills) (distinct : (fills.map LedgerFillRecord.rank).Nodup)
    (key : String) :
    ((PortfolioProjector.fold ((sortedBy LedgerFillRecord.rank fills).map LedgerFillRecord.toTrade)).positions.get
        key).map Position.figures =
      ((PortfolioProjector.fold (fills.map LedgerFillRecord.toTrade)).positions.get key).map Position.figures := by
  have keyed : ∀ records : List LedgerFillRecord,
      (records.map LedgerFillRecord.toTrade).filter (fun trade => trade.positionKey = key) =
        (records.filter fun record => record.toTrade.positionKey = key).map LedgerFillRecord.toTrade := by
    intro records
    rw [List.filter_map]
    simp only [Function.comp_def]
  rw [PortfolioProjector.fold_get, PortfolioProjector.fold_get, keyed, keyed]
  have perm : ((sortedBy LedgerFillRecord.rank fills).filter fun record => record.toTrade.positionKey = key).Perm
      (fills.filter fun record => record.toTrade.positionKey = key) := (sortedBy_perm _ _).filter _
  have ordered : ((sortedBy LedgerFillRecord.rank fills).filter fun record => record.toTrade.positionKey = key).Pairwise
      fun a b => a.rank ≤ b.rank := (sortedBy_pairwise _ _).sublist List.filter_sublist
  cases listed : fills.filter fun record => record.toTrade.positionKey = key with
  | nil =>
    rw [listed] at perm
    rw [perm.eq_nil]
  | cons first rest =>
    have member : first ∈ fills.filter fun record => record.toTrade.positionKey = key := listed ▸ List.mem_cons_self
    obtain ⟨present, here⟩ := List.mem_filter.mp member
    have foldableHere := foldable first present
    rw [of_decide_eq_true here] at foldableHere
    have apart : ((fills.filter fun record => record.toTrade.positionKey = key).map LedgerFillRecord.rank).Nodup :=
      distinct.sublist (List.filter_sublist.map _)
    cases sorted : (sortedBy LedgerFillRecord.rank fills).filter fun record => record.toTrade.positionKey = key with
    | nil =>
      rw [sorted, listed] at perm
      exact absurd perm.symm.eq_nil (List.cons_ne_nil _ _)
    | cons start others =>
      rw [sorted, listed] at perm
      rw [sorted] at ordered
      rw [listed] at foldableHere apart
      have flat : first.toTrade.opening.quantity = 0 := rfl
      have same := foldableHere.figures flat apart perm ordered
      have opened : start.toTrade.opening.Alike first.toTrade.opening := ⟨rfl, rfl⟩
      simp only [List.map_cons, List.head?_cons, Option.map_some] at same ⊢
      rw [(opened.foldl _).figures, same]

end

/-- What one trade does to the ledger and to the ids that the reducer has seen. -/
structure Ledgers (recorder after : TradeRecorder) (trade : Trade) (outcome : TradeOutcome) : Prop where
  seen : ∀ id ∈ recorder.fillReducer.seenFillIds, id ∈ after.fillReducer.seenFillIds
  ledger : after.executionLedger = recorder.executionLedger ∨ ∃ ledger record stored,
    recorder.executionLedger = some ledger ∧ ledger.recordFill record = .ok stored ∧
      after.executionLedger = some stored
  named : outcome.accepted = true → blank trade.tradeId = false ∧ blank trade.orderId = false
  fresh : outcome.accepted = true →
    trade.tradeId ∉ recorder.fillReducer.seenFillIds ∧ trade.tradeId ∈ after.fillReducer.seenFillIds
  positive : outcome.accepted = true → recorder.executionLedger ≠ none → 0 < trade.quantity

section

variable {recorder persisted after : TradeRecorder} {book : OrderBook} {trade : Trade} {order : Order}
  {fill : FillEvent} {outcome : TradeOutcome} {now : ℚ}

theorem ExecutionLedger.recordFill_positive {ledger stored : ExecutionLedger} {record : LedgerFillRecord}
    (records : ledger.recordFill record = .ok stored) : 0 < record.quantity := by
  unfold recordFill at records
  split at records
  · cases records
  · split at records
    · cases records
    · next positive => exact not_le.mp positive

theorem Ledgers.unchanged (unaccepted : outcome.accepted = false) : Ledgers recorder recorder trade outcome where
  seen _ member := member
  ledger := .inl rfl
  named accepted := absurd accepted (by rw [unaccepted]; exact Bool.false_ne_true)
  fresh accepted := absurd accepted (by rw [unaccepted]; exact Bool.false_ne_true)
  positive accepted := absurd accepted (by rw [unaccepted]; exact Bool.false_ne_true)

/-- What the record in the ledger does, whether the fill is applied behind it or not. -/
theorem persistFillToLedger_stores (persists : recorder.persistFillToLedger fill order trade now = .ok persisted) :
    (persisted.executionLedger = recorder.executionLedger ∨ ∃ ledger record stored,
      recorder.executionLedger = some ledger ∧ ledger.recordFill record = .ok stored ∧
        persisted.executionLedger = some stored) ∧
      (recorder.executionLedger ≠ none → 0 < trade.quantity) := by
  unfold TradeRecorder.persistFillToLedger at persists
  cases attached : recorder.executionLedger with
  | none =>
    rw [attached] at persists
    cases persists
    exact ⟨.inl attached, fun present => absurd rfl present⟩
  | some ledger =>
    rw [attached] at persists
    dsimp only at persists
    split at persists
    · cases persists
    · next stored records =>
      cases persists
      have positive : 0 < trade.quantity := ExecutionLedger.recordFill_positive records
      exact ⟨.inr ⟨ledger, _, stored, rfl, records, rfl⟩, fun _ => positive⟩

theorem recordTrade_ledgers (recorder : TradeRecorder) (book : OrderBook) (trade : Trade) (now : ℚ) :
    Ledgers recorder (recorder.recordTrade book trade now).1 trade (recorder.recordTrade book trade now).2.2 := by
  unfold TradeRecorder.recordTrade
  split
  · exact .unchanged rfl
  · next named =>
    dsimp only
    split
    · exact .unchanged rfl
    · split
      · exact ⟨fun _ member => member, .inl rfl, by rintro ⟨⟩, by rintro ⟨⟩, by rintro ⟨⟩⟩
      · next order known =>
        split
        · exact .unchanged rfl
        · next fill built =>
          obtain ⟨fillId, orderId, -⟩ := FillReducer.fillFromTrade_ok built
          split
          · exact .unchanged rfl
          · next accepted =>
            split
            · exact .unchanged rfl
            · next persisted persists =>
              obtain ⟨ledger, positive⟩ := persistFillToLedger_stores persists
              obtain ⟨-, -, reducer⟩ := TradeRecorder.persistFillToLedger_ok persists
              split
              · refine ⟨fun _ member => ?_, ledger, by rintro ⟨⟩, by rintro ⟨⟩, by rintro ⟨⟩⟩
                rw [reducer]
                exact member
              · have unseen := (FillReducer.validate_accepted accepted).1
                rw [fillId] at unseen
                refine ⟨fun id member => ?_, ledger, fun _ => ?_, fun _ => ⟨unseen, ?_⟩, fun _ => positive⟩
                · exact List.mem_cons_of_mem _ (reducer ▸ member)
                · rw [← fillId, ← orderId]
                  exact ⟨fill.fillId_present, fill.orderId_present⟩
                · rw [← fillId]
                  exact List.mem_cons_self

theorem flushTrade_ledgers (recorder : TradeRecorder) (book : OrderBook) (trade : Trade) (now : ℚ) :
    Ledgers recorder (recorder.flushTrade book trade now).1 trade (recorder.flushTrade book trade now).2.2 := by
  unfold TradeRecorder.flushTrade
  dsimp only
  split
  · exact .unchanged rfl
  · split
    · exact .unchanged rfl
    · next order known =>
      split
      · exact .unchanged rfl
      · next fill built =>
        obtain ⟨fillId, orderId, -⟩ := FillReducer.fillFromTrade_ok built
        split
        · exact .unchanged rfl
        · next accepted =>
          have unseen := (FillReducer.validate_accepted accepted).1
          rw [fillId] at unseen
          split
          · exact ⟨fun _ member => List.mem_cons_of_mem _ member, .inl rfl, by rintro ⟨⟩, by rintro ⟨⟩, by rintro ⟨⟩⟩
          · next persisted persists =>
            obtain ⟨ledger, positive⟩ := persistFillToLedger_stores persists
            obtain ⟨-, -, reducer⟩ := TradeRecorder.persistFillToLedger_ok persists
            split
            · refine ⟨fun _ member => ?_, ledger, by rintro ⟨⟩, by rintro ⟨⟩, by rintro ⟨⟩⟩
              rw [reducer]
              exact List.mem_cons_of_mem _ member
            · refine ⟨fun id member => ?_, ledger, fun _ => ?_, fun _ => ⟨unseen, ?_⟩, fun _ => positive⟩
              · change id ∈ persisted.fillReducer.seenFillIds
                rw [reducer]
                exact List.mem_cons_of_mem _ member
              · rw [← fillId, ← orderId]
                exact ⟨fill.fillId_present, fill.orderId_present⟩
              · change trade.tradeId ∈ persisted.fillReducer.seenFillIds
                rw [reducer, ← fillId]
                exact List.mem_cons_self

end

/-- What holds of the recorder and the trades that were accepted since the ledger was empty. -/
structure Ledgered (recorder : TradeRecorder) (accepted : List Trade) : Prop where
  distinct : (accepted.map Trade.tradeId).Nodup
  seen : ∀ trade ∈ accepted, trade.tradeId ∈ recorder.fillReducer.seenFillIds
  named : ∀ trade ∈ accepted, blank trade.tradeId = false ∧ blank trade.orderId = false
  positive : ∀ trade ∈ accepted, 0 < trade.quantity
  ledger : ∃ ledger, recorder.executionLedger = some ledger ∧ (ledger.fills.map LedgerFillRecord.fillId).Nodup

section

variable {recorder after : TradeRecorder} {accepted : List Trade} {trade : Trade} {outcome : TradeOutcome}

theorem ExecutionLedger.recordFill_distinct {ledger stored : ExecutionLedger} {record : LedgerFillRecord}
    (distinct : (ledger.fills.map LedgerFillRecord.fillId).Nodup) (records : ledger.recordFill record = .ok stored) :
    (stored.fills.map LedgerFillRecord.fillId).Nodup := by
  rw [ExecutionLedger.recordFill_ok records]
  split
  · exact distinct
  · next new =>
    rw [List.map_append, List.nodup_append]
    refine ⟨distinct, List.nodup_singleton _, fun id member other same equal => ?_⟩
    obtain ⟨stored, listed, rfl⟩ := List.mem_map.mp member
    rw [List.map_singleton, List.mem_singleton] at same
    exact new (List.any_eq_true.mpr ⟨stored, listed, decide_eq_true (equal.trans same)⟩)

theorem Ledgered.next (held : Ledgered recorder accepted) (ledgers : Ledgers recorder after trade outcome) :
    Ledgered after (if outcome.accepted = true then accepted ++ [trade] else accepted) := by
  obtain ⟨ledger, attached, ids⟩ := held.ledger
  have stored : ∃ ledger, after.executionLedger = some ledger ∧ (ledger.fills.map LedgerFillRecord.fillId).Nodup := by
    rcases ledgers.ledger with same | ⟨before, record, stored, present, records, kept⟩
    · exact ⟨ledger, same.trans attached, ids⟩
    · rw [attached] at present
      cases present
      exact ⟨stored, kept, ExecutionLedger.recordFill_distinct ids records⟩
  split
  · next taken =>
    obtain ⟨new, kept⟩ := ledgers.fresh taken
    refine ⟨?_, ?_, ?_, ?_, stored⟩
    · rw [List.map_append, List.nodup_append]
      refine ⟨held.distinct, List.nodup_singleton _, fun id member other same equal => ?_⟩
      obtain ⟨earlier, listed, rfl⟩ := List.mem_map.mp member
      rw [List.map_singleton, List.mem_singleton] at same
      rw [same] at equal
      exact new (equal ▸ held.seen earlier listed)
    · intro other member
      rcases List.mem_append.mp member with earlier | added
      · exact ledgers.seen _ (held.seen other earlier)
      · rw [List.mem_singleton.mp added]
        exact kept
    · intro other member
      rcases List.mem_append.mp member with earlier | added
      · exact held.named other earlier
      · rw [List.mem_singleton.mp added]
        exact ledgers.named taken
    · intro other member
      rcases List.mem_append.mp member with earlier | added
      · exact held.positive other earlier
      · rw [List.mem_singleton.mp added]
        exact ledgers.positive taken (by rw [attached]; rintro ⟨⟩)
  · exact ⟨held.distinct, fun other member => ledgers.seen _ (held.seen other member), held.named, held.positive, stored⟩

theorem Ledgered.flush {book : OrderBook} {now : ℚ} (held : Ledgered recorder accepted) (trades : List Trade) :
    Ledgered (recorder.flushTrades book now trades).1 (accepted ++ (recorder.flushTrades book now trades).2.2.1) := by
  induction trades generalizing recorder book accepted with
  | nil =>
    rw [TradeRecorder.flushTrades, List.append_nil]
    exact held
  | cons trade rest ih =>
    have flushed := held.next (flushTrade_ledgers recorder book trade now)
    unfold TradeRecorder.flushTrades
    dsimp only
    split
    · next error raised =>
      rw [raised] at flushed
      rw [List.append_nil]
      exact flushed
    · next updated applied =>
      have taken : (recorder.flushTrade book trade now).2.2.accepted = true := by rw [applied]; rfl
      rw [if_pos taken] at flushed
      dsimp only
      rw [List.append_cons]
      exact ih flushed
    · next unraised unapplied =>
      have unaccepted : (recorder.flushTrade book trade now).2.2.accepted = false := by
        cases ends : (recorder.flushTrade book trade now).2.2 with
        | applied updated => exact absurd ends (unapplied updated)
        | _ => rfl
      rw [unaccepted, if_neg Bool.false_ne_true] at flushed
      exact ih flushed

end

/-- The manager with the trades that it accepted, the first one first. -/
structure RecordedManager (cache : TTLCache.{0, v} Nat) where
  manager : OrderManager cache
  accepted : List Trade := []

namespace RecordedManager

variable {cache : TTLCache.{0, v} Nat} (recorded : RecordedManager cache)

/-- The trades that an operation accepts. -/
def accepts : BookOperation → List Trade
  | .recordTrade trade now => if (recorded.manager.recordTrade trade now).2.accepted = true then [trade] else []
  | .upsertOrder order now => (recorded.manager.upsertOrder order now).2.1
  | _ => []

def step (operation : BookOperation) : Option (RecordedManager cache) :=
  (recorded.manager.operate operation).map fun next =>
    { manager := next, accepted := recorded.accepted ++ recorded.accepts operation }

/-- What the ledger stores. -/
def ledgerFills : List LedgerFillRecord := (recorded.manager.recorder.executionLedger.map ExecutionLedger.fills).getD []

/-- The record is one of the trade's fill. -/
def Of (record : LedgerFillRecord) (trade : Trade) : Prop :=
  record.fillId = trade.tradeId ∧ record.orderId = trade.orderId ∧ record.symbol = trade.symbol ∧
    record.exchange = trade.exchange ∧ record.side = trade.side ∧ record.quantity = trade.quantity ∧
    record.price = trade.price

instance (record : LedgerFillRecord) (trade : Trade) : Decidable (Of record trade) :=
  inferInstanceAs (Decidable (_ ∧ _))

/-- The fill of every accepted trade is recorded in the ledger. -/
def AllRecorded : Prop := ∀ trade ∈ recorded.accepted, ∃ record ∈ recorded.ledgerFills, Of record trade

instance : Decidable recorded.AllRecorded := inferInstanceAs (Decidable (∀ trade ∈ recorded.accepted, _))

/-- The recorded fills of the accepted trades, as the ledger lists them. -/
def recordedFills : List LedgerFillRecord :=
  recorded.ledgerFills.filter fun record => record.fillId ∈ recorded.accepted.map Trade.tradeId

/-- The same records in the order in which the trades were accepted. -/
def acceptedFills : List LedgerFillRecord :=
  recorded.accepted.filterMap fun trade => recorded.ledgerFills.find? fun record => record.fillId = trade.tradeId

variable {recorded} {after : RecordedManager cache} {operation : BookOperation}

theorem step_ledgered (held : Ledgered recorded.manager.recorder recorded.accepted)
    (taken : recorded.step operation = some after) : Ledgered after.manager.recorder after.accepted := by
  obtain ⟨next, operated, rfl⟩ := Option.map_eq_some_iff.mp taken
  have keeps : next.recorder = recorded.manager.recorder → recorded.accepts operation = [] →
      Ledgered next.recorder (recorded.accepted ++ recorded.accepts operation) := by
    intro same nothing
    rw [same, nothing, List.append_nil]
    exact held
  cases operation with
  | placeOrder request answers =>
    simp only [OrderManager.operate] at operated
    split at operated
    · cases operated
    · cases operated
      exact keeps OrderManager.placeOrder_kept.2 rfl
  | cancelOrder orderId blocked answer =>
    cases operated
    exact keeps (by rw [OrderManager.cancelOrder_kept]) rfl
  | modifyOrder request blocked answer =>
    cases operated
    exact keeps (by rw [OrderManager.modifyOrder_kept]) rfl
  | recordTrade trade now =>
    obtain rfl := Option.some.inj operated
    have ledgered := held.next (recordTrade_ledgers recorded.manager.recorder recorded.manager.book trade now)
    unfold accepts OrderManager.recordTrade
    dsimp only
    split at ledgered
    · next accepted =>
      rw [if_pos accepted]
      exact ledgered
    · next refused =>
      rw [if_neg refused, List.append_nil]
      exact ledgered
  | upsertOrder order now =>
    obtain rfl := Option.some.inj operated
    have upserts := recorded.manager.upsertOrder_upserts order now
    unfold accepts
    dsimp only
    generalize recorded.manager.upsertOrder order now = upserted at upserts ⊢
    cases upserts with
    | refused =>
      rw [List.append_nil]
      exact held
    | changed =>
      rw [List.append_nil]
      exact held
    | flushed validator recorder book ends _ _ flushes =>
      have popped : Ledgered { recorded.manager.recorder with
          pendingTradesByOrder := recorded.manager.recorder.pendingTradesByOrder.pop order.orderId }
          recorded.accepted := ⟨held.distinct, held.seen, held.named, held.positive, held.ledger⟩
      have ledgered := @Ledgered.flush _ _ (recorded.manager.book.store order) now popped
        ((recorded.manager.recorder.pendingTradesByOrder.get order.orderId).getD [])
      unfold TradeRecorder.flushPendingTradesLocked at flushes
      dsimp only at flushes
      rw [flushes] at ledgered
      exact ledgered

/-- The live fold of a trade is the fold of its record. -/
theorem applyTrade_of {record : LedgerFillRecord} {trade : Trade} (of : Of record trade)
    (projector : PortfolioProjector) : projector.applyTrade record.toTrade = projector.applyTrade trade := by
  obtain ⟨-, -, symbol, exchange, side, quantity, price⟩ := of
  unfold PortfolioProjector.applyTrade Trade.positionKey Trade.opening projectTrade Trade.delta
  simp only [LedgerFillRecord.toTrade, symbol, exchange, side, quantity, price]

theorem fold_of {records : List LedgerFillRecord} {trades : List Trade} (of : List.Forall₂ Of records trades) :
    PortfolioProjector.fold (records.map LedgerFillRecord.toTrade) = .fold trades := by
  have folds : ∀ projector : PortfolioProjector,
      (records.map LedgerFillRecord.toTrade).foldl PortfolioProjector.applyTrade projector =
        trades.foldl PortfolioProjector.applyTrade projector := by
    induction of with
    | nil => exact fun _ => rfl
    | cons first _ ih =>
      intro projector
      rw [List.map_cons, List.foldl_cons, List.foldl_cons, applyTrade_of first, ih]
  exact folds {}

/-- Every accepted trade is looked up with its own record. -/
theorem acceptedFills_of (allRecorded : recorded.AllRecorded)
    (distinct : (recorded.ledgerFills.map LedgerFillRecord.fillId).Nodup) :
    List.Forall₂ Of recorded.acceptedFills recorded.accepted := by
  have looked : ∀ trades : List Trade, (∀ trade ∈ trades, ∃ record ∈ recorded.ledgerFills, Of record trade) →
      List.Forall₂ Of (trades.filterMap fun trade =>
        recorded.ledgerFills.find? fun record => record.fillId = trade.tradeId) trades := by
    intro trades present
    induction trades with
    | nil => exact .nil
    | cons trade rest ih =>
      obtain ⟨record, listed, of⟩ := present trade List.mem_cons_self
      have found := find_named distinct listed
      rw [of.1] at found
      simp only [List.filterMap_cons, found]
      exact .cons of (ih fun other member => present other (List.mem_cons_of_mem _ member))
  exact looked recorded.accepted allRecorded

/-- What recovery is meant to give: every fill is accepted again, and every position has the live
figures. -/
def Recovers (fills : List LedgerFillRecord) (live : PortfolioProjector) : Prop :=
  ∃ pipeline, rebuildProjectorFromFills fills = .ok (pipeline, []) ∧ ∀ key,
    (pipeline.projector.positions.get key).map Position.figures = (live.positions.get key).map Position.figures

/-- The records of the accepted fills are sound, have distinct ids, and are those that the ledger lists. -/
structure Listed (recorded : RecordedManager cache) : Prop where
  of : List.Forall₂ Of recorded.acceptedFills recorded.accepted
  perm : recorded.acceptedFills.Perm recorded.recordedFills
  ids : (recorded.acceptedFills.map LedgerFillRecord.fillId).Nodup
  sound : ∀ record ∈ recorded.acceptedFills, record.Sound

theorem forall₂_ids {records : List LedgerFillRecord} {trades : List Trade} (of : List.Forall₂ Of records trades) :
    records.map LedgerFillRecord.fillId = trades.map Trade.tradeId := by
  induction of with
  | nil => rfl
  | cons first _ ih => rw [List.map_cons, List.map_cons, first.1, ih]

theorem listed (held : Ledgered recorded.manager.recorder recorded.accepted) (allRecorded : recorded.AllRecorded) :
    Listed recorded := by
  obtain ⟨ledger, attached, stored⟩ := held.ledger
  have distinct : (recorded.ledgerFills.map LedgerFillRecord.fillId).Nodup := by
    unfold ledgerFills
    rw [attached]
    exact stored
  have of := acceptedFills_of allRecorded distinct
  have ids : (recorded.acceptedFills.map LedgerFillRecord.fillId).Nodup := by
    rw [forall₂_ids of]
    exact held.distinct
  refine ⟨of, ?_, ids, fun record member => ?_⟩
  · apply (List.perm_ext_iff_of_nodup ids.of_map (distinct.of_map.filter _)).mpr
    intro record
    rw [acceptedFills, List.mem_filterMap, List.mem_filter]
    constructor
    · rintro ⟨trade, member, found⟩
      have same : record.fillId = trade.tradeId := by simpa using List.find?_some found
      exact ⟨List.mem_of_find?_eq_some found, decide_eq_true (List.mem_map.mpr ⟨trade, member, same.symm⟩)⟩
    · rintro ⟨present, named⟩
      obtain ⟨trade, member, same⟩ := List.mem_map.mp (of_decide_eq_true named)
      exact ⟨trade, member, by rw [same]; exact find_named distinct present⟩
  · obtain ⟨trade, accepted, found⟩ := List.mem_filterMap.mp member
    obtain ⟨own, present, ofOwn⟩ := allRecorded trade accepted
    have looked := find_named distinct present
    rw [ofOwn.1, found] at looked
    cases looked
    obtain ⟨fillId, orderId, -, -, -, quantity, -⟩ := ofOwn
    refine ⟨?_, ?_, ?_⟩
    · rw [fillId]
      exact (held.named trade accepted).1
    · rw [orderId]
      exact (held.named trade accepted).2
    · rw [quantity]
      exact held.positive trade accepted

theorem rank_nodup {fills : List LedgerFillRecord} (ids : (fills.map LedgerFillRecord.fillId).Nodup) :
    (fills.map LedgerFillRecord.rank).Nodup := by
  have named : (fills.map LedgerFillRecord.rank).map (fun rank => (ofLex rank).2) =
      fills.map LedgerFillRecord.fillId := by
    rw [List.map_map]
    rfl
  exact List.Nodup.of_map _ (named ▸ ids)

/-- Sound fills with distinct ids are all accepted exactly when each is within its order, and then
they are folded in the order of the recovery. -/
theorem rebuild_accepts {fills : List LedgerFillRecord} (sound : ∀ record ∈ fills, record.Sound)
    (ids : (fills.map LedgerFillRecord.fillId).Nodup) :
    (Within fills → ∃ pipeline, rebuildProjectorFromFills fills = .ok (pipeline, []) ∧
        pipeline.projector = .fold ((sortedBy LedgerFillRecord.rank fills).map LedgerFillRecord.toTrade)) ∧
      ∀ pipeline, rebuildProjectorFromFills fills = .ok (pipeline, []) → Within fills := by
  have perm := sortedBy_perm LedgerFillRecord.rank fills
  have fits : SimulationFillPipeline.Fits [] (sortedBy LedgerFillRecord.rank fills) ↔ Within fills := by
    rw [← Within.perm perm]
    exact fits_iff (sortedBy_strict (rank_nodup ids))
  obtain ⟨accepts, only⟩ := SimulationFillPipeline.replayed_nil.replay
    (fun record member => sound record (perm.mem_iff.mp member))
    ((perm.map LedgerFillRecord.fillId).nodup_iff.mpr ids)
  refine ⟨fun within => ?_, fun pipeline rebuilt => fits.mp (only pipeline rebuilt)⟩
  obtain ⟨pipeline, rebuilt, replayed⟩ := accepts (fits.mpr within)
  exact ⟨pipeline, rebuilt, replayed.positions⟩

/-- Over every run from an empty ledger, where the fill of every accepted trade was recorded and the
fills of every position are foldable, the recovery gives the live figures exactly when every fill is
within the order quantity recorded with it. -/
theorem ledger_recovery_agrees (manager : OrderManager cache) (refuses : LedgerFillRecord → Bool)
    (operations : List BookOperation) (after : RecordedManager cache)
    (run : exec step { manager := { manager with recorder := { manager.recorder with
      executionLedger := some { refuses := refuses } } } } operations = some after)
    (allRecorded : after.AllRecorded) (foldable : AllFoldable after.acceptedFills) :
    Recovers after.recordedFills (.fold after.accepted) ↔ Within after.recordedFills := by
  have initial : Ledgered { manager.recorder with executionLedger := some { refuses := refuses } } [] := by
    refine ⟨List.nodup_nil, ?_, ?_, ?_, ⟨_, rfl, List.nodup_nil⟩⟩
    · rintro trade ⟨⟩
    · rintro trade ⟨⟩
    · rintro trade ⟨⟩
  have held : Ledgered after.manager.recorder after.accepted := by
    exact @exec_invariant _ _ step (fun _ _ => True) _ _ _ (fun held => Ledgered held.manager.recorder held.accepted)
      (fun _ _ _ held _ taken => step_ledgered held taken) initial (meets_of_forall fun _ _ => trivial) run
  have listing := listed held allRecorded
  have sameRebuild : rebuildProjectorFromFills after.recordedFills = rebuildProjectorFromFills after.acceptedFills := by
    unfold rebuildProjectorFromFills
    rw [sortedBy_congr listing.perm (rank_nodup listing.ids)]
  obtain ⟨accepts, only⟩ := rebuild_accepts listing.sound listing.ids
  rw [← Within.perm listing.perm]
  constructor
  · rintro ⟨pipeline, rebuilt, -⟩
    rw [sameRebuild] at rebuilt
    exact only pipeline rebuilt
  · intro within
    obtain ⟨pipeline, rebuilt, folded⟩ := accepts within
    refine ⟨pipeline, by rw [sameRebuild, rebuilt], fun key => ?_⟩
    rw [folded, foldable.figures (rank_nodup listing.ids), fold_of listing.of]

/-- An order that a broker reports. -/
def reported (orderId : String) (side : OrderSide) (quantity filled : ℚ) : Order where
  orderId := orderId
  symbol := "RELIANCE"
  exchange := "NSE"
  side := side
  orderType := .LIMIT
  quantity := quantity
  filledQuantity := filled
  status := if filled = 0 then .OPEN else .PARTIALLY_FILLED

def fillAt (tradeId orderId symbol : String) (side : OrderSide) (price time : ℚ) : Trade where
  tradeId := tradeId
  orderId := orderId
  symbol := symbol
  exchange := "NSE"
  side := side
  quantity := 10
  price := price
  timestamp := some time

/-- A manager whose ledger is empty and takes every record. -/
def emptyLedger : RecordedManager (leastRecentlyUsed Nat 10000 86400) where
  manager := { ({} : OrderManager (leastRecentlyUsed Nat 10000 86400)) with
    recorder := { ({} : TradeRecorder) with executionLedger := some { refuses := fun _ => false } } }

/-- A round trip in event order, and two purchases of another share against it. -/
def foldableOperations : List BookOperation := [
  .upsertOrder (reported "220901" .BUY 40 0) 0, .upsertOrder (reported "220902" .SELL 10 0) 0,
  .recordTrade (fillAt "T1" "220901" "RELIANCE" .BUY 100 1) 1,
  .recordTrade (fillAt "T2" "220902" "RELIANCE" .SELL 110 2) 2,
  .recordTrade (fillAt "T3" "220901" "INFY" .BUY 1500 5) 5,
  .recordTrade (fillAt "T4" "220901" "INFY" .BUY 1400 4) 6]

theorem ledger_recovery_agrees_foldable : ∃ after, exec step emptyLedger foldableOperations = some after ∧
    after.accepted.length = 4 ∧ Recovers after.recordedFills (.fold after.accepted) := by
  have runs : (exec step emptyLedger foldableOperations).map (fun after => decide (after.accepted.length = 4 ∧
      after.AllRecorded ∧ AllFoldable after.acceptedFills ∧ Within after.recordedFills)) = some true := by
    decide +kernel
  obtain ⟨after, run, met⟩ := Option.map_eq_some_iff.mp runs
  obtain ⟨four, allRecorded, foldable, within⟩ := of_decide_eq_true met
  exact ⟨after, run, four, (ledger_recovery_agrees {} (fun _ => false) foldableOperations after run allRecorded
    foldable).mpr within⟩

/-- Two purchases, and the sale of the first that the broker dates in front of both. -/
def soldEarlier : List BookOperation := [
  .upsertOrder (reported "220901" .BUY 20 0) 0, .upsertOrder (reported "220902" .SELL 10 0) 0,
  .recordTrade (fillAt "T1" "220901" "RELIANCE" .BUY 100 2) 2,
  .recordTrade (fillAt "T2" "220901" "RELIANCE" .BUY 200 3) 3,
  .recordTrade (fillAt "T3" "220902" "RELIANCE" .SELL 150 1) 4]

/-- The order grows between its fills, and the second fill is dated in front of the first. -/
def grownBetween : List BookOperation := [
  .upsertOrder (reported "220901" .BUY 15 0) 0, .recordTrade (fillAt "T1" "220901" "RELIANCE" .BUY 100 2) 2,
  .upsertOrder (reported "220901" .BUY 20 10) 3, .recordTrade (fillAt "T2" "220901" "RELIANCE" .BUY 100 1) 4]

/-- The figures of a position after a recovery that accepts every fill. -/
def recoveredFigures (fills : List LedgerFillRecord) (key : String) : Option Figures :=
  match rebuildProjectorFromFills fills with
  | .ok (pipeline, []) => (pipeline.projector.positions.get key).map Position.figures
  | _ => none

theorem Recovers.figures {fills : List LedgerFillRecord} {live : PortfolioProjector} (recovers : Recovers fills live)
    (key : String) : recoveredFigures fills key = (live.positions.get key).map Position.figures := by
  obtain ⟨pipeline, rebuilt, same⟩ := recovers
  unfold recoveredFigures
  rw [rebuilt]
  exact same key

theorem ledger_recovery_disagrees :
    ((exec step emptyLedger soldEarlier).map fun after => (recoveredFigures after.recordedFills "RELIANCE:NSE",
      ((PortfolioProjector.fold after.accepted).positions.get "RELIANCE:NSE").map Position.figures)) =
        some (some ⟨10, 200, 500⟩, some ⟨10, 150, 0⟩) ∧
    ((exec step emptyLedger grownBetween).map fun after => (after.accepted.length,
      recoveredFigures after.recordedFills "RELIANCE:NSE")) = some (2, none) ∧
    ¬ ∀ (operations : List BookOperation) (after : RecordedManager (leastRecentlyUsed Nat 10000 86400)),
      exec step emptyLedger operations = some after → after.AllRecorded →
        Recovers after.recordedFills (.fold after.accepted) := by
  have recorded : (exec step emptyLedger soldEarlier).map (fun after => decide (after.AllRecorded ∧
      recoveredFigures after.recordedFills "RELIANCE:NSE" ≠
        ((PortfolioProjector.fold after.accepted).positions.get "RELIANCE:NSE").map Position.figures)) = some true := by
    decide +kernel
  refine ⟨by decide +kernel, by decide +kernel, fun claim => ?_⟩
  obtain ⟨after, run, met⟩ := Option.map_eq_some_iff.mp recorded
  obtain ⟨allRecorded, differ⟩ := of_decide_eq_true met
  exact differ ((claim soldEarlier after run allRecorded).figures "RELIANCE:NSE")

end RecordedManager

end TradeX.V1
