import TradeX.V1.LedgerRecovery

/-! Trades through the simulation fill pipeline, from any caller: what the reducer accepts, and the
projector beside it. The pipeline counts in whole shares, as the projector does. -/

namespace TradeX.V1

open Lib

/-- A trade and the order quantity that its caller passes with it, if it passes one. -/
structure SimulatedFill where
  trade : Trade
  orderQuantity : Option ℚ := none
  deriving DecidableEq, Repr

namespace SimulatedFill

variable (fill : SimulatedFill)

/-- The order that the pipeline counts the trade for. -/
def orderId : String := if fill.trade.orderId = "" then "sim-" ++ fill.trade.tradeId else fill.trade.orderId

/-- The whole shares of the trade. -/
def shares : ℤ := Decimal.toInt fill.trade.quantity

/-- The quantity that the trade is checked against: its own where the caller passes none. -/
def limit : ℚ := fill.orderQuantity.getD fill.shares

/-- The whole shares that the fills add to the order. -/
def sharesFor (orderId : String) (fills : List SimulatedFill) : ℤ :=
  ((fills.filter fun fill => fill.orderId = orderId).map shares).sum

variable {fill} {orderId : String} {fills others : List SimulatedFill}

theorem sharesFor_append : sharesFor orderId (fills ++ others) = sharesFor orderId fills + sharesFor orderId others := by
  unfold sharesFor
  rw [List.filter_append, List.map_append, List.sum_append]

theorem sharesFor_singleton : sharesFor orderId [fill] = if fill.orderId = orderId then fill.shares else 0 := by
  unfold sharesFor
  by_cases same : fill.orderId = orderId
  · simp only [List.filter_cons, List.filter_nil, same, decide_true, if_true, List.map_cons, List.map_nil,
      List.sum_cons, List.sum_nil, add_zero]
  · simp only [List.filter_cons, List.filter_nil, same, decide_false, Bool.false_eq_true, if_false, List.map_nil,
      List.sum_nil]

theorem sharesFor_concat : sharesFor orderId (fills ++ [fill]) =
    sharesFor orderId fills + if fill.orderId = orderId then fill.shares else 0 := by
  rw [sharesFor_append, sharesFor_singleton]

end SimulatedFill

namespace SimulationFillPipeline

variable (pipeline : SimulationFillPipeline) (fill : SimulatedFill)

/-- A trade that a caller feeds to the pipeline, and whether it is accepted. A trade without an id
raises before anything is changed. -/
def feed : SimulationFillPipeline × Bool :=
  match pipeline.applyTrade fill.trade fill.orderQuantity with
  | .ok answer => answer
  | .error _ => (pipeline, false)

/-- The pipeline behind the trades, and those of them that it accepted. -/
def run (pipeline : SimulationFillPipeline) : List SimulatedFill → SimulationFillPipeline × List SimulatedFill
  | [] => (pipeline, [])
  | fill :: rest =>
    let fed := pipeline.feed fill
    let later := run fed.1 rest
    (later.1, if fed.2 = true then fill :: later.2 else later.2)

/-- What an accepted trade makes of the pipeline. -/
structure Accepts (next : SimulationFillPipeline) : Prop where
  fresh : fill.trade.tradeId ∉ pipeline.reducer.seenFillIds
  fits : (((pipeline.filledByOrder.get fill.orderId).getD 0 + fill.shares : ℤ) : ℚ) ≤ fill.limit
  seen : next.reducer.seenFillIds = fill.trade.tradeId :: pipeline.reducer.seenFillIds
  projector : next.projector = pipeline.projector.applyTrade fill.trade
  filled : next.filledByOrder = pipeline.filledByOrder.set fill.orderId
    ((pipeline.filledByOrder.get fill.orderId).getD 0 + fill.shares)

variable {pipeline fill} {next : SimulationFillPipeline}

theorem applyTrade_cases {accepted : Bool}
    (answered : pipeline.applyTrade fill.trade fill.orderQuantity = .ok (next, accepted)) :
    if accepted = true then pipeline.Accepts fill next else next = pipeline := by
  unfold SimulationFillPipeline.applyTrade at answered
  by_cases nothing : fill.trade.quantity ≤ 0
  · rw [if_pos nothing] at answered
    cases answered
    rfl
  · rw [if_neg nothing] at answered
    dsimp only at answered
    split at answered
    · cases answered
    · next event built =>
      split at answered
      · cases answered
        rfl
      · next validated =>
        cases answered
        obtain ⟨fillId, -, -, cumulative, -⟩ := FillReducer.fillFromTrade_ok built
        obtain ⟨fresh, -, fits⟩ := FillReducer.validate_accepted validated
        rw [fillId] at fresh
        rw [cumulative] at fits
        refine ⟨fresh, ?_, ?_, rfl, rfl⟩
        · push_cast
          exact fits
        · change event.fillId :: pipeline.reducer.seenFillIds = _
          rw [fillId]

theorem feed_cases (pipeline : SimulationFillPipeline) (fill : SimulatedFill) :
    if (pipeline.feed fill).2 = true then pipeline.Accepts fill (pipeline.feed fill).1
    else (pipeline.feed fill).1 = pipeline := by
  unfold feed
  split
  · next answer answered => exact applyTrade_cases answered
  · rfl

/-- The pipeline has accepted these trades, in this order. -/
structure Folded (pipeline : SimulationFillPipeline) (done : List SimulatedFill) : Prop where
  seen : ∀ id, id ∈ done.map (fun fill => fill.trade.tradeId) → id ∈ pipeline.reducer.seenFillIds
  distinct : (done.map fun fill => fill.trade.tradeId).Nodup
  filled : ∀ id, (pipeline.filledByOrder.get id).getD 0 = SimulatedFill.sharesFor id done
  projector : pipeline.projector = .fold (done.map SimulatedFill.trade)
  fits : ∀ earlier fill later, done = earlier ++ fill :: later →
    (SimulatedFill.sharesFor fill.orderId (earlier ++ [fill]) : ℚ) ≤ fill.limit

theorem folded_nil : Folded {} [] where
  seen := by
    intro id member
    cases member
  distinct := List.nodup_nil
  filled id := rfl
  projector := rfl
  fits := by
    intro earlier fill later split
    cases earlier <;> cases split

theorem Folded.accepts {done : List SimulatedFill} (folded : pipeline.Folded done)
    (accepts : pipeline.Accepts fill next) : next.Folded (done ++ [fill]) where
  seen := by
    intro id member
    rw [accepts.seen]
    rw [List.map_append, List.mem_append] at member
    rcases member with earlier | last
    · exact List.mem_cons_of_mem _ (folded.seen id earlier)
    · obtain rfl := List.mem_singleton.mp last
      exact List.mem_cons_self
  distinct := by
    rw [List.map_append, List.nodup_append]
    refine ⟨folded.distinct, List.nodup_singleton _, ?_⟩
    rintro id earlier other last rfl
    obtain rfl := List.mem_singleton.mp last
    exact accepts.fresh (folded.seen _ earlier)
  filled := by
    intro id
    rw [accepts.filled, Dict.get_set, SimulatedFill.sharesFor_concat]
    split
    · next same =>
      subst same
      rw [Option.getD_some, folded.filled, if_pos rfl]
    · next other => rw [folded.filled, if_neg fun same => other same.symm, add_zero]
  projector := by
    rw [accepts.projector, folded.projector, List.map_append]
    unfold PortfolioProjector.fold
    rw [List.foldl_append]
    rfl
  fits := by
    intro earlier last later split
    rcases List.eq_nil_or_concat later with rfl | ⟨start, final, rfl⟩
    · obtain ⟨rfl, same⟩ := List.append_inj' split rfl
      cases same
      rw [SimulatedFill.sharesFor_concat, if_pos rfl, ← folded.filled]
      exact accepts.fits
    · rw [List.concat_eq_append, ← List.cons_append, ← List.append_assoc] at split
      exact folded.fits earlier last start (List.append_inj' split rfl).1

theorem Folded.run {done : List SimulatedFill} (folded : pipeline.Folded done) (fills : List SimulatedFill) :
    (pipeline.run fills).1.Folded (done ++ (pipeline.run fills).2) := by
  induction fills generalizing pipeline done with
  | nil =>
    rw [SimulationFillPipeline.run, List.append_nil]
    exact folded
  | cons fill rest ih =>
    have fed := feed_cases pipeline fill
    unfold SimulationFillPipeline.run
    dsimp only
    split at fed
    · next accepted =>
      rw [if_pos accepted]
      have later := ih (folded.accepts fed)
      rwa [List.append_assoc] at later
    · next refused =>
      rw [if_neg refused, fed]
      exact ih folded

theorem run_sublist (pipeline : SimulationFillPipeline) (fills : List SimulatedFill) :
    (pipeline.run fills).2.Sublist fills := by
  induction fills generalizing pipeline with
  | nil => exact List.Sublist.refl _
  | cons fill rest ih =>
    unfold SimulationFillPipeline.run
    dsimp only
    split
    · exact (ih _).cons_cons fill
    · exact (ih _).cons fill

/-- The fills of an order that always comes with the same quantity add up to no more than it. -/
theorem Folded.within {done : List SimulatedFill} (folded : pipeline.Folded done) {orderId : String} {quantity : ℚ}
    (nonneg : 0 ≤ quantity)
    (given : ∀ fill ∈ done, fill.orderId = orderId → fill.orderQuantity = some quantity) :
    (SimulatedFill.sharesFor orderId done : ℚ) ≤ quantity := by
  have fits := folded.fits
  clear folded
  induction done using List.reverseRecOn with
  | nil => exact_mod_cast nonneg
  | append_singleton done fill ih =>
    by_cases same : fill.orderId = orderId
    · subst same
      have limited := given fill (List.mem_append_right _ List.mem_cons_self) rfl
      have last := fits done fill [] rfl
      rwa [SimulatedFill.limit, limited, Option.getD_some] at last
    · rw [SimulatedFill.sharesFor_concat, if_neg same, add_zero]
      refine ih (fun other member => given other (List.mem_append_left _ member)) ?_
      rintro earlier other later rfl
      exact fits earlier other (later ++ [fill]) (by rw [List.append_assoc, List.cons_append])

/-- Whatever is fed to a fresh pipeline: no trade id is accepted twice; at each acceptance the whole shares
accepted for the order are at most the order quantity that comes with the trade, so that an order which
always comes with its quantity is never filled beyond it; the projector is the fold of the accepted
trades in the order of their acceptance; and a trade that is not accepted changes nothing. -/
theorem simulation_fills_sound (fills : List SimulatedFill) :
    (({} : SimulationFillPipeline).run fills).2.Sublist fills ∧
    ((({} : SimulationFillPipeline).run fills).2.map fun fill => fill.trade.tradeId).Nodup ∧
    (∀ earlier fill later, (({} : SimulationFillPipeline).run fills).2 = earlier ++ fill :: later →
      (SimulatedFill.sharesFor fill.orderId (earlier ++ [fill]) : ℚ) ≤ fill.limit) ∧
    (∀ orderId quantity, 0 ≤ quantity →
      (∀ fill ∈ fills, fill.orderId = orderId → fill.orderQuantity = some quantity) →
      (SimulatedFill.sharesFor orderId (({} : SimulationFillPipeline).run fills).2 : ℚ) ≤ quantity) ∧
    (({} : SimulationFillPipeline).run fills).1.projector =
      .fold ((({} : SimulationFillPipeline).run fills).2.map SimulatedFill.trade) ∧
    ∀ fill, ((({} : SimulationFillPipeline).run fills).1.feed fill).2 = false →
      ((({} : SimulationFillPipeline).run fills).1.feed fill).1 = (({} : SimulationFillPipeline).run fills).1 := by
  have folded := folded_nil.run fills
  rw [List.nil_append] at folded
  refine ⟨run_sublist _ fills, folded.distinct, folded.fits, fun orderId quantity nonneg given => ?_,
    folded.projector, fun fill refused => ?_⟩
  · exact folded.within nonneg fun fill member => given fill ((run_sublist _ fills).subset member)
  · have fed := feed_cases (({} : SimulationFillPipeline).run fills).1 fill
    rwa [if_neg (by rw [refused]; decide)] at fed

/-- Two trades of nine tenths of a share for an order of one share. -/
def nineTenths : List SimulatedFill :=
  [⟨⟨"T1", "220901", "RELIANCE", "NSE", .BUY, 9 / 10, 2500, none⟩, some 1⟩,
    ⟨⟨"T2", "220901", "RELIANCE", "NSE", .BUY, 9 / 10, 2500, none⟩, some 1⟩]

/-- Both trades are accepted, for each counts as no share. -/
theorem fractions_not_counted : (({} : SimulationFillPipeline).run nineTenths).2 = nineTenths ∧
    1 < ((nineTenths.filter fun fill => fill.orderId = "220901").map fun fill => fill.trade.quantity).sum := by
  decide +kernel

end SimulationFillPipeline

end TradeX.V1
