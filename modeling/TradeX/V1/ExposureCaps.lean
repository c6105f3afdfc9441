import TradeX.V1.RiskManager

/-! The exposure limits over runs of checks and releases: where an order is approved, the exposures
with its own reservation are within the limits; a check that rejects sheds expired reservations and
nothing else. -/

namespace TradeX.V1

open Lib

namespace MarginChecker

variable (margin : MarginChecker)

/-- The three entries of a correlation id. -/
def entry (correlationId : String) : Option ℚ × Option (String × String) × Option ℚ :=
  (margin.pendingByCorrelation.get correlationId, margin.pendingMeta.get correlationId,
    margin.pendingAt.get correlationId)

/-- The second checker lacks some reservations of the first that have reached the TTL at one of the
readings, and has the others as they were. -/
def Sheds (readings : List ℚ) (margin after : MarginChecker) : Prop :=
  ∀ correlationId, after.entry correlationId = margin.entry correlationId ∨
    after.entry correlationId = (none, none, none) ∧
      ∃ started, margin.pendingAt.get correlationId = some started ∧
        ∃ reading ∈ readings, pendingTtlSeconds ≤ reading - started

/-- No reservation is negative, and the entries of a correlation id are there together. -/
structure Coherent : Prop where
  nonneg : ∀ pending ∈ margin.pendingByCorrelation.entries, 0 ≤ pending.2
  filed : ∀ correlationId, (margin.pendingMeta.get correlationId).isSome =
    (margin.pendingByCorrelation.get correlationId).isSome
  timed : ∀ correlationId, (margin.pendingAt.get correlationId).isSome =
    (margin.pendingByCorrelation.get correlationId).isSome

/-- The second checker holds no more than the first, of any symbol and in all. -/
structure Within (margin after : MarginChecker) : Prop where
  gross : after.pendingGross ≤ margin.pendingGross
  symbol : ∀ symbol exchange, after.pendingSymbolNotional symbol exchange ≤ margin.pendingSymbolNotional symbol exchange

variable {margin} {after last : MarginChecker} {readings more : List ℚ} {correlationId other symbol exchange : String}
  {notional now reserved : ℚ} {order : Order}

theorem Sheds.refl : Sheds readings margin margin := by
  intro correlationId
  exact .inl rfl

theorem Sheds.trans (first : Sheds readings margin after) (second : Sheds more after last) :
    Sheds (readings ++ more) margin last := by
  intro correlationId
  rcases second correlationId with same | ⟨gone, started, found, reading, listed, old⟩
  · rcases first correlationId with kept | ⟨gone, started, found, reading, listed, old⟩
    · exact .inl (same.trans kept)
    · exact .inr ⟨same.trans gone, started, found, reading, List.mem_append_left _ listed, old⟩
  · rcases first correlationId with kept | ⟨dropped, -⟩
    · have timed : after.pendingAt.get correlationId = margin.pendingAt.get correlationId :=
        congrArg (·.2.2) kept
      exact .inr ⟨gone, started, timed.symm.trans found, reading, List.mem_append_right _ listed, old⟩
    · have timed : after.pendingAt.get correlationId = none := congrArg (·.2.2) dropped
      rw [timed] at found
      cases found

theorem Within.refl : Within margin margin := ⟨le_rfl, fun _ _ => le_rfl⟩

theorem Within.trans (first : Within margin after) (second : Within after last) : Within margin last := by
  constructor
  · exact second.gross.trans first.gross
  · intro symbol exchange
    exact (second.symbol symbol exchange).trans (first.symbol symbol exchange)

theorem Coherent.held_nonneg (coherent : margin.Coherent) (correlationId : String) : 0 ≤ margin.held correlationId := by
  simp only [held]
  cases found : margin.pendingByCorrelation.get correlationId with
  | none => exact le_rfl
  | some pending => exact coherent.nonneg _ (Dict.get_eq_some.mp found)

theorem Coherent.empty : ({} : MarginChecker).Coherent := by
  constructor
  · rintro _ ⟨⟩
  · intro correlationId
    rfl
  · intro correlationId
    rfl

theorem drop_entry : (margin.drop correlationId).entry other =
    if other = correlationId then (none, none, none) else margin.entry other := by
  simp only [entry, drop, Dict.get_pop]
  split <;> rfl

theorem Coherent.drop (coherent : margin.Coherent) (correlationId : String) :
    (margin.drop correlationId).Coherent := by
  constructor
  · intro pending member
    exact coherent.nonneg pending (Dict.mem_entries_pop.mp member).1
  · intro other
    simp only [MarginChecker.drop, Dict.get_pop]
    split
    · rfl
    · exact coherent.filed other
  · intro other
    simp only [MarginChecker.drop, Dict.get_pop]
    split
    · rfl
    · exact coherent.timed other

/-- What is held for the reservations filed under the symbol, among some entries. -/
private theorem symbol_entries {entries : List (String × String × String)}
    (apart : ∀ filed ∈ entries, after.held filed.1 = margin.held filed.1) :
    ((entries.filter fun filed => filed.2 = (symbol, exchange)).map fun filed => after.held filed.1) =
      (entries.filter fun filed => filed.2 = (symbol, exchange)).map fun filed => margin.held filed.1 := by
  apply List.map_congr_left
  intro filed member
  exact apart filed (List.mem_of_mem_filter member)

/-- Without the entry of one correlation id there is no more of a symbol than before. -/
private theorem symbol_rest_le (coherent : margin.Coherent)
    (apart : ∀ filed ∈ (margin.pendingMeta.pop correlationId).entries, after.held filed.1 = margin.held filed.1) :
    (((margin.pendingMeta.pop correlationId).entries.filter fun filed => filed.2 = (symbol, exchange)).map
      fun filed => after.held filed.1).sum ≤ margin.pendingSymbolNotional symbol exchange := by
  rw [symbol_entries apart]
  apply ((Dict.entries_pop_sublist.filter _).map _).sum_le_sum
  intro pending member
  obtain ⟨filed, -, rfl⟩ := List.mem_map.mp member
  exact coherent.held_nonneg filed.1

/-- Without one correlation id there is no more in all than before. -/
private theorem gross_rest_le (coherent : margin.Coherent) :
    (margin.pendingByCorrelation.pop correlationId).values.sum ≤ margin.pendingGross := by
  apply (Dict.entries_pop_sublist.map _).sum_le_sum
  intro pending member
  obtain ⟨filed, listed, rfl⟩ := List.mem_map.mp member
  exact coherent.nonneg filed listed

theorem Coherent.drop_within (coherent : margin.Coherent) (correlationId : String) :
    Within margin (margin.drop correlationId) := by
  constructor
  · exact gross_rest_le coherent
  · intro symbol exchange
    apply symbol_rest_le coherent
    intro filed member
    rw [drop_held, if_neg (Dict.mem_entries_pop.mp member).2]

/-- What each of the drops preserves, a sweep preserves. -/
theorem sweepExpired_induction {holds : MarginChecker → Prop} (initial : holds margin)
    (dropped : ∀ reached correlationId, correlationId ∈ margin.expired now → holds reached →
      holds (reached.drop correlationId)) : holds (margin.sweepExpired now) := by
  have folded : ∀ (ids : List String) (reached : MarginChecker), (∀ id ∈ ids, id ∈ margin.expired now) →
      holds reached → holds (ids.foldl drop reached) := by
    intro ids
    induction ids with
    | nil =>
      intro reached _ here
      exact here
    | cons id rest ih =>
      intro reached listed here
      apply ih
      · intro later member
        exact listed later (List.mem_cons_of_mem _ member)
      · exact dropped reached id (listed id List.mem_cons_self) here
  exact folded _ margin (fun _ member => member) initial

theorem Coherent.sweepExpired (coherent : margin.Coherent) (now : ℚ) : (margin.sweepExpired now).Coherent := by
  apply sweepExpired_induction coherent
  intro reached correlationId _ here
  exact here.drop correlationId

theorem Coherent.sweepExpired_within (coherent : margin.Coherent) (now : ℚ) :
    Within margin (margin.sweepExpired now) := by
  have both := @sweepExpired_induction margin now (fun reached => reached.Coherent ∧ Within margin reached)
    ⟨coherent, .refl⟩ fun reached correlationId _ here =>
      ⟨here.1.drop correlationId, here.2.trans (here.1.drop_within correlationId)⟩
  exact both.2

theorem sweepExpired_sheds (margin : MarginChecker) (now : ℚ) : Sheds [now] margin (margin.sweepExpired now) := by
  apply sweepExpired_induction .refl
  intro reached expired old sheds other
  rw [drop_entry]
  split
  · next same =>
    subst same
    obtain ⟨timed, listed, rfl⟩ := List.mem_map.mp old
    obtain ⟨present, reaches⟩ := List.mem_filter.mp listed
    exact .inr ⟨rfl, timed.2, Dict.get_eq_some.mpr present, now, List.mem_singleton_self now,
      of_decide_eq_true reaches⟩
  · exact sheds other

theorem Coherent.reserve (coherent : margin.Coherent) (nonneg : 0 ≤ notional) :
    (margin.reserve correlationId symbol exchange notional reserved).Coherent := by
  constructor
  · intro pending member
    rcases List.mem_cons.mp (Dict.entries_set_perm.mem_iff.mp member) with rfl | rest
    · exact nonneg
    · exact coherent.nonneg pending (Dict.mem_entries_pop.mp rest).1
  · intro other
    simp only [MarginChecker.reserve, Dict.get_set]
    split
    · rfl
    · exact coherent.filed other
  · intro other
    simp only [MarginChecker.reserve, Dict.get_set]
    split
    · rfl
    · exact coherent.timed other

theorem Coherent.reserve_gross (coherent : margin.Coherent) :
    (margin.reserve correlationId symbol exchange notional reserved).pendingGross ≤
      margin.pendingGross + notional := by
  have values : (margin.reserve correlationId symbol exchange notional reserved).pendingGross =
      notional + (margin.pendingByCorrelation.pop correlationId).values.sum :=
    (Dict.entries_set_perm.map Prod.snd).sum_eq
  rw [values, add_comm]
  exact add_le_add_left (gross_rest_le coherent) notional

theorem Coherent.reserve_symbol (coherent : margin.Coherent) :
    (margin.reserve correlationId symbol exchange notional reserved).pendingSymbolNotional symbol exchange ≤
      margin.pendingSymbolNotional symbol exchange + notional := by
  have held : ∀ other, (margin.reserve correlationId symbol exchange notional reserved).held other =
      if other = correlationId then notional else margin.held other := by
    intro other
    simp only [MarginChecker.held, MarginChecker.reserve, Dict.get_set]
    split <;> rfl
  have entries := ((Dict.entries_set_perm (d := margin.pendingMeta) (k := correlationId)
    (v := (symbol, exchange))).filter fun filed => filed.2 = (symbol, exchange)).map
      fun filed => (margin.reserve correlationId symbol exchange notional reserved).held filed.1
  simp only [List.filter_cons, decide_true, if_true, List.map_cons] at entries
  have sum : (margin.reserve correlationId symbol exchange notional reserved).pendingSymbolNotional symbol exchange = _ :=
    entries.sum_eq
  rw [sum, List.sum_cons, held, if_pos rfl, add_comm]
  apply add_le_add_left
  apply symbol_rest_le coherent
  intro filed member
  rw [held, if_neg (Dict.mem_entries_pop.mp member).2]

end MarginChecker

namespace RiskManager

variable {manager after : RiskManager} {order : Order} {context : RiskContext} {notional : ℚ}

/-- What a policy and a check leave of the manager: the limits and their mode. -/
structure Keeps (manager after : RiskManager) : Prop where
  config : after.config = manager.config
  legacy : after.useLegacyRisk = manager.useLegacyRisk

theorem runPolicyChain_keeps {policies : List PolicyFn}
    (each : ∀ policy ∈ policies, ∀ manager, Keeps manager (policy manager).1 ∧
      (policy manager).1.marginChecker = manager.marginChecker) (manager : RiskManager) :
    Keeps manager (runPolicyChain policies manager).1 ∧
      (runPolicyChain policies manager).1.marginChecker = manager.marginChecker := by
  induction policies generalizing manager with
  | nil => exact ⟨⟨rfl, rfl⟩, rfl⟩
  | cons policy rest ih =>
    have first := each policy List.mem_cons_self manager
    simp only [runPolicyChain]
    split
    · next passed reason answered =>
      rw [answered] at first
      exact first
    · next passed answered =>
      rw [answered] at first
      have later := ih (fun policy member => each policy (List.mem_cons_of_mem _ member)) passed
      constructor
      · exact ⟨later.1.config.trans first.1.config, later.1.legacy.trans first.1.legacy⟩
      · exact later.2.trans first.2

theorem preTradePolicies_keeps (order : Order) (context : RiskContext) :
    ∀ policy ∈ preTradePolicies order context, ∀ manager, Keeps manager (policy manager).1 ∧
      (policy manager).1.marginChecker = manager.marginChecker := by
  intro policy member manager
  simp only [preTradePolicies, List.mem_cons, List.not_mem_nil, or_false] at member
  rcases member with rfl | rfl | rfl | rfl | rfl | rfl
  all_goals exact ⟨⟨rfl, rfl⟩, rfl⟩

/-- What a check does to the reservations: nothing, the two sweeps of the limits, or, within the limits,
the reservation behind them. -/
inductive Checks (manager : RiskManager) (order : Order) (context : RiskContext) :
    MarginChecker → Option RiskReason → Prop where
  | refused (reason : RiskReason) : Checks manager order context manager.marginChecker (some reason)
  | swept (reason : RiskReason) (notional : ℚ) :
      Checks manager order context (manager.checkExposureLimits order context notional).1 (some reason)
  | allowed (notional : ℚ) : 0 < context.capital → context.notional order = some notional →
      (manager.checkExposureLimits order context notional).2 = none →
      Checks manager order context
        (({ manager with
          marginChecker := (manager.checkExposureLimits order context notional).1 } : RiskManager).reservePending
            order context notional) none

theorem checkOrder_checks (manager : RiskManager) (order : Order) (context : RiskContext) :
    Keeps manager (manager.checkOrder order context).1 ∧
      Checks manager order context (manager.checkOrder order context).1.marginChecker
        (manager.checkOrder order context).2 := by
  obtain ⟨keeps, margin⟩ := runPolicyChain_keeps (preTradePolicies_keeps order context) manager
  simp only [checkOrder]
  split
  · next passed reason answered =>
    rw [answered] at keeps margin
    exact ⟨keeps, margin ▸ .refused reason⟩
  · next passed answered =>
    rw [answered] at keeps margin
    have limits : ∀ notional, passed.checkExposureLimits order context notional =
        manager.checkExposureLimits order context notional := by
      intro notional
      have config : passed.config = manager.config := keeps.config
      have legacy : passed.useLegacyRisk = manager.useLegacyRisk := keeps.legacy
      have checker : passed.marginChecker = manager.marginChecker := margin
      simp only [checkExposureLimits, exposureReason, config, legacy, checker]
    dsimp only at keeps margin
    split
    · exact ⟨keeps, margin ▸ .refused _⟩
    · next funded =>
      split
      · exact ⟨keeps, margin ▸ .refused _⟩
      · split
        · exact ⟨keeps, margin ▸ .refused _⟩
        · next notional sized =>
          rw [limits]
          split
          · exact ⟨⟨keeps.config, keeps.legacy⟩, .swept _ notional⟩
          · next within =>
            split
            · exact ⟨⟨keeps.config, keeps.legacy⟩, .swept _ notional⟩
            · exact ⟨⟨keeps.config, keeps.legacy⟩, .allowed notional (not_le.mp funded) sized within⟩

theorem exposureReason_none {symbolExposure totalExposure : ℚ} (funded : 0 < context.capital)
    (within : manager.exposureReason order context symbolExposure totalExposure = none) :
    symbolExposure ≤ manager.config.maxPositionPct / 100 * context.capital ∧
      totalExposure ≤ manager.config.maxGrossExposurePct / 100 * context.capital := by
  simp only [exposureReason] at within
  split at within
  · split at within
    · cases within
    · next symbolWithin =>
      split at within
      · cases within
      · next totalWithin =>
        rw [not_lt, ← le_div_iff₀ (by norm_num), div_le_iff₀ funded] at symbolWithin totalWithin
        exact ⟨symbolWithin, totalWithin⟩
  · have passed := RiskGate.checkOrder_none funded within
    rwa [buildRiskGateFromConfig] at passed

/-- The exposure of the order's symbol: its position and the pending reservations. -/
def symbolExposure (manager : RiskManager) (order : Order) (context : RiskContext) : ℚ :=
  context.currentNotional order + manager.marginChecker.pendingSymbolNotional order.symbol order.exchange

/-- The exposure of the book: all positions and all pending reservations. -/
def totalExposure (manager : RiskManager) (context : RiskContext) : ℚ :=
  context.gross + manager.marginChecker.pendingGross

/-- What may be done to the reservations between two checks, and the checks. -/
inductive ExposureOperation where
  | checkOrder (order : Order) (context : RiskContext)
  | releasePending (correlationId : Option String)

def step (manager : RiskManager) : ExposureOperation → RiskManager
  | .checkOrder order context => (manager.checkOrder order context).1
  | .releasePending correlationId => manager.releasePending correlationId

def run (manager : RiskManager) (operations : List ExposureOperation) : RiskManager := operations.foldl step manager

theorem notional_nonneg (sized : context.notional order = some notional) : 0 ≤ notional := effectiveNotional_nonneg sized

theorem Coherent.limited (coherent : manager.marginChecker.Coherent) :
    (manager.checkExposureLimits order context notional).1.Coherent :=
  (coherent.sweepExpired _).sweepExpired _

theorem Coherent.reservePending (coherent : manager.marginChecker.Coherent) (nonneg : 0 ≤ notional) :
    (manager.reservePending order context notional).Coherent := by
  simp only [RiskManager.reservePending]
  split
  · exact coherent.sweepExpired _
  · exact (coherent.sweepExpired _).reserve nonneg

theorem Coherent.checkOrder (coherent : manager.marginChecker.Coherent) :
    (manager.checkOrder order context).1.marginChecker.Coherent := by
  obtain ⟨-, checks⟩ := checkOrder_checks manager order context
  generalize (manager.checkOrder order context).1.marginChecker = margin at checks ⊢
  generalize (manager.checkOrder order context).2 = answer at checks
  cases checks with
  | refused reason => exact coherent
  | swept reason notional => exact Coherent.limited coherent
  | allowed notional _ sized _ =>
    have limited : (manager.checkExposureLimits order context notional).1.Coherent := Coherent.limited coherent
    exact @Coherent.reservePending { manager with marginChecker := _ } order context notional limited
      (notional_nonneg sized)

theorem Coherent.releasePending (coherent : manager.marginChecker.Coherent) (correlationId : Option String) :
    (manager.releasePending correlationId).marginChecker.Coherent := by
  cases correlationId with
  | none => exact coherent
  | some correlationId =>
    simp only [RiskManager.releasePending, MarginChecker.releasePending]
    split
    · exact coherent
    · exact coherent.drop correlationId

/-- A run keeps the limits, and its reservations stay coherent. -/
theorem run_keeps (coherent : manager.marginChecker.Coherent) (operations : List ExposureOperation) :
    Keeps manager (manager.run operations) ∧ (manager.run operations).marginChecker.Coherent := by
  induction operations generalizing manager with
  | nil => exact ⟨⟨rfl, rfl⟩, coherent⟩
  | cons operation rest ih =>
    cases operation with
    | checkOrder order context =>
      have keeps := (checkOrder_checks manager order context).1
      obtain ⟨later, reached⟩ := ih (@Coherent.checkOrder manager order context coherent)
      exact ⟨⟨later.config.trans keeps.config, later.legacy.trans keeps.legacy⟩, reached⟩
    | releasePending correlationId =>
      obtain ⟨later, reached⟩ := ih (Coherent.releasePending coherent correlationId)
      exact ⟨⟨later.config, later.legacy⟩, reached⟩

/-- A reservation adds its notional to its symbol and to the book, and no more. -/
theorem reservePending_within (manager : RiskManager) (order : Order) (context : RiskContext)
    (coherent : manager.marginChecker.Coherent) (nonneg : 0 ≤ notional) :
    (manager.reservePending order context notional).pendingSymbolNotional order.symbol order.exchange ≤
        manager.marginChecker.pendingSymbolNotional order.symbol order.exchange + notional ∧
      (manager.reservePending order context notional).pendingGross ≤ manager.marginChecker.pendingGross + notional := by
  have swept := coherent.sweepExpired context.reserveSwept
  have within := coherent.sweepExpired_within context.reserveSwept
  have symbol := within.symbol order.symbol order.exchange
  simp only [RiskManager.reservePending]
  split
  · constructor
    · exact symbol.trans (le_add_of_nonneg_right nonneg)
    · exact within.gross.trans (le_add_of_nonneg_right nonneg)
  · constructor
    · exact swept.reserve_symbol.trans (add_le_add_left symbol notional)
    · exact swept.reserve_gross.trans (add_le_add_left within.gross notional)

/-- An approved order leaves both exposures, with its reservation among the pending ones, within the limits. -/
theorem checkOrder_within (coherent : manager.marginChecker.Coherent)
    (approved : (manager.checkOrder order context).2 = none) :
    (manager.checkOrder order context).1.symbolExposure order context ≤
        manager.config.maxPositionPct / 100 * context.capital ∧
      (manager.checkOrder order context).1.totalExposure context ≤
        manager.config.maxGrossExposurePct / 100 * context.capital := by
  obtain ⟨-, checks⟩ := checkOrder_checks manager order context
  simp only [symbolExposure, totalExposure]
  generalize (manager.checkOrder order context).1.marginChecker = margin at checks ⊢
  rw [approved] at checks
  cases checks with
  | allowed notional funded sized within =>
    have first := coherent.sweepExpired context.symbolSwept
    have limited := first.sweepExpired context.grossSwept
    have second := first.sweepExpired_within context.grossSwept
    obtain ⟨symbol, gross⟩ := reservePending_within
      { manager with marginChecker := (manager.checkExposureLimits order context notional).1 } order context limited
      (notional_nonneg sized)
    obtain ⟨symbolWithin, totalWithin⟩ := exposureReason_none funded within
    constructor
    · apply le_trans _ symbolWithin
      rw [add_assoc]
      apply add_le_add_right
      exact symbol.trans (add_le_add_left (second.symbol order.symbol order.exchange) notional)
    · apply le_trans _ totalWithin
      rw [add_assoc]
      exact add_le_add_right gross context.gross

/-- A rejected order costs no reservation, save those that the check finds expired. -/
theorem checkOrder_sheds (rejected : (manager.checkOrder order context).2 ≠ none) :
    MarginChecker.Sheds [context.symbolSwept, context.grossSwept] manager.marginChecker
      (manager.checkOrder order context).1.marginChecker := by
  obtain ⟨-, checks⟩ := checkOrder_checks manager order context
  generalize (manager.checkOrder order context).1.marginChecker = margin at checks ⊢
  generalize (manager.checkOrder order context).2 = answer at checks rejected
  cases checks with
  | refused reason => exact .refl
  | swept reason notional =>
    exact (MarginChecker.sweepExpired_sheds _ _).trans (MarginChecker.sweepExpired_sheds _ _)
  | allowed notional _ _ _ => exact absurd rfl rejected

/-- After any checks and releases since the manager held no reservation: an approved order leaves the
exposure of its symbol and of the book, counted with all pending reservations and its own, within the
configured fractions of the capital, and a rejected one leaves every reservation as it was, save those
past the TTL. -/
theorem exposure_caps (manager : RiskManager) (operations : List ExposureOperation) (order : Order)
    (context : RiskContext) :
    let reached := ({ manager with marginChecker := {} } : RiskManager).run operations
    let checked := reached.checkOrder order context
    (checked.2 = none →
      checked.1.symbolExposure order context ≤ manager.config.maxPositionPct / 100 * context.capital ∧
      checked.1.totalExposure context ≤ manager.config.maxGrossExposurePct / 100 * context.capital) ∧
    (checked.2 ≠ none →
      MarginChecker.Sheds [context.symbolSwept, context.grossSwept] reached.marginChecker checked.1.marginChecker) := by
  intro reached checked
  obtain ⟨keeps, coherent⟩ :=
    @run_keeps { manager with marginChecker := {} } MarginChecker.Coherent.empty operations
  constructor
  · intro approved
    have within := checkOrder_within coherent approved
    rw [keeps.config] at within
    exact within
  · intro rejected
    exact checkOrder_sheds rejected

/-- A limit order for shares at 100. -/
def sharesFor (orderId correlationId : String) (quantity : ℚ) : Order where
  orderId := orderId
  symbol := "RELIANCE"
  exchange := "NSE"
  side := .BUY
  orderType := .LIMIT
  quantity := quantity
  price := 100
  correlationId := some correlationId

/-- A check ten minutes after the first. -/
def tenMinutesLater : RiskContext where
  capital := 100000
  throttled := 600
  symbolSwept := 600
  grossSwept := 600

/-- The reservation of an order that was never filled or ended is ten minutes old when another order is
rejected for its size, and is gone behind the rejection. -/
theorem rejection_sweeps :
    let reached := ({} : RiskManager).run [.checkOrder (sharesFor "OM-1" "a1" 10) { capital := 100000 }]
    let checked := reached.checkOrder (sharesFor "OM-2" "b2" 500) tenMinutesLater
    reached.marginChecker.held "a1" = 1000 ∧ checked.2 = some (.concentration (1 / 2) (1 / 5)) ∧
      checked.1.marginChecker.held "a1" = 0 ∧
    ¬ ∀ (operations : List ExposureOperation) (order : Order) (context : RiskContext),
      ((({} : RiskManager).run operations).checkOrder order context).2 ≠ none →
      ((({} : RiskManager).run operations).checkOrder order context).1.marginChecker =
        (({} : RiskManager).run operations).marginChecker := by
  have reserved : (({} : RiskManager).run [.checkOrder (sharesFor "OM-1" "a1" 10)
      { capital := 100000 }]).marginChecker.held "a1" = 1000 := by decide +kernel
  have rejected : ((({} : RiskManager).run [.checkOrder (sharesFor "OM-1" "a1" 10) { capital := 100000 }]).checkOrder
      (sharesFor "OM-2" "b2" 500) tenMinutesLater).2 =
        some (.concentration (1 / 2) (1 / 5)) := by decide +kernel
  have swept : ((({} : RiskManager).run [.checkOrder (sharesFor "OM-1" "a1" 10) { capital := 100000 }]).checkOrder
      (sharesFor "OM-2" "b2" 500) tenMinutesLater).1.marginChecker.held "a1" = 0 := by decide +kernel
  refine ⟨reserved, rejected, swept, fun claim => ?_⟩
  have kept := claim _ (sharesFor "OM-2" "b2" 500) _ (by rw [rejected]; exact Option.some_ne_none _)
  rw [kept, reserved] at swept
  revert swept
  decide +kernel

end RiskManager

end TradeX.V1
