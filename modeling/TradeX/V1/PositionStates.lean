import TradeX.Lib.Runs
import TradeX.V1.PositionManager

/-! The state machine kept beside each position, over every run of the operations of the
position manager: it is active exactly when the position is not flat, no trade is refused,
and a trade's transition is classified by the quantities. -/

namespace TradeX.V1

open Lib

/-- The sign of the quantity flips. -/
def Flips (quantity newQuantity : ℤ) : Prop :=
  (0 < quantity ∧ newQuantity < 0) ∨ (quantity < 0 ∧ 0 < newQuantity)

/-- The sign of the quantity stays, and its size shrinks without reaching zero. -/
def Shrinks (quantity newQuantity : ℤ) : Prop :=
  ((0 < quantity ∧ 0 < newQuantity) ∨ (quantity < 0 ∧ newQuantity < 0)) ∧ |newQuantity| < |quantity|

instance (quantity newQuantity : ℤ) : Decidable (Flips quantity newQuantity) :=
  inferInstanceAs (Decidable (_ ∨ _))

instance (quantity newQuantity : ℤ) : Decidable (Shrinks quantity newQuantity) :=
  inferInstanceAs (Decidable (_ ∧ _))

/-- The state is the one that the quantities ask for. -/
def Classified (quantity newQuantity : ℤ) (state : PositionState) : Prop :=
  (state = .REVERSED ↔ Flips quantity newQuantity) ∧ (state = .REDUCING ↔ Shrinks quantity newQuantity)

namespace PositionState

variable {oldState : PositionState} {quantity newQuantity : ℤ}

/-- A flip to a smaller size is the one transition that is classified wrongly. -/
theorem next_classified (faithful : oldState.isActive = true ↔ quantity ≠ 0) :
    Classified quantity newQuantity (oldState.next quantity newQuantity) ↔
      ¬ (Flips quantity newQuantity ∧ |newQuantity| < |quantity|) := by
  unfold Classified Flips Shrinks next
  by_cases flat : quantity = 0
  · subst flat
    by_cases closed : newQuantity = 0
    · have inactive : oldState.isActive = false := by simpa using faithful
      cases oldState <;> simp_all [isActive]
    · simp [closed]
  · by_cases closed : newQuantity = 0
    · simp [flat, closed]
    · simp only [flat, closed, ne_eq, not_false_eq_true, and_true, if_true, if_false, and_false]
      by_cases smaller : |newQuantity| < |quantity|
      · simp only [smaller, if_true, reduceCtorEq, false_iff, true_iff, and_true]
        omega
      · simp only [smaller, if_false, and_false, not_false_eq_true, iff_true, iff_false, gt_iff_lt]
        split
        · next flips => exact ⟨by simpa using flips, by simp⟩
        · next stays => exact ⟨by simpa using stays, by simp⟩

end PositionState

inductive PositionOperation where
  | applyTrade (trade : Trade)
  | onTradeApplied (trade : Trade)
  | upsertPosition (data : List (String × BrokerValue))
  | updateLtp (symbol exchange : String) (ltp : ℚ)
  | reset

namespace PositionManager

/-- The quantity that the trade leaves. -/
def filledBy (manager : PositionManager) (trade : Trade) : ℤ :=
  manager.quantity (makePositionKey trade.symbol trade.exchange) + trade.delta

def after (manager : PositionManager) : PositionOperation → PositionManager
  | .applyTrade trade => (manager.applyTrade trade).1
  | .onTradeApplied trade => (manager.onTradeApplied trade).1
  | .upsertPosition data => (manager.upsertPosition data).1
  | .updateLtp symbol exchange ltp => (manager.updateLtp symbol exchange ltp).1
  | .reset => manager.reset

/-- One operation, whether it returns or raises. -/
def operate (manager : PositionManager) (operation : PositionOperation) : Option PositionManager :=
  some (manager.after operation)

/-- The trade is applied, and the recorded state of its position is the classified one. -/
def Transits (manager next : PositionManager) (trade : Trade) : Prop :=
  let key := makePositionKey trade.symbol trade.exchange
  Classified (manager.quantity key) (next.quantity key) (next.state key)

/-- The operation raises no illegal transition and classifies its trade. -/
def Legal (manager : PositionManager) : PositionOperation → Prop
  | .applyTrade trade =>
    (∃ position, (manager.applyTrade trade).2 = .ok position) ∧
      manager.Transits (manager.applyTrade trade).1 trade
  | .onTradeApplied trade =>
    (manager.onTradeApplied trade).2 = .duplicate ∨
      (∃ position, (manager.onTradeApplied trade).2 = .applied position) ∧
        manager.Transits (manager.onTradeApplied trade).1 trade
  | _ => True

/-- The operation is legal and leaves machines that agree with the quantities. -/
def Sound (manager : PositionManager) (operation : PositionOperation) : Prop :=
  (manager.after operation).Faithful ∧ manager.Legal operation

/-- The trade does not flip the position to a smaller one. -/
def settlesTrade (manager : PositionManager) (trade : Trade) : Prop :=
  let quantity := manager.quantity (makePositionKey trade.symbol trade.exchange)
  ¬ (Flips quantity (manager.filledBy trade) ∧ |manager.filledBy trade| < |quantity|)

/-- No trade with a new id flips a position to a smaller one, a broker's snapshot neither opens
nor closes a position, and a reset finds only closed ones. -/
def settles (manager : PositionManager) : PositionOperation → Prop
  | .applyTrade trade => manager.settlesTrade trade
  | .onTradeApplied trade => trade.tradeId ∉ manager.processedTradeIdSet → manager.settlesTrade trade
  | .upsertPosition data => ∀ fields ∈ (BrokerPosition.read data).toOption,
      (fields.quantity = 0 ↔ manager.quantity (makePositionKey fields.symbol fields.exchange) = 0)
  | .updateLtp .. => True
  | .reset => ∀ position ∈ manager.positions.values, position.quantity = 0

variable {manager : PositionManager} {trade : Trade} {key : String} {operation : PositionOperation}

theorem applyTrade_state (faithful : manager.Faithful) :
    (manager.applyTrade trade).1.state (makePositionKey trade.symbol trade.exchange) =
      (manager.state (makePositionKey trade.symbol trade.exchange)).next
        (manager.quantity (makePositionKey trade.symbol trade.exchange)) (manager.filledBy trade) := by
  have projected : (projectTrade (manager.current trade) trade).quantity = manager.filledBy trade := by
    rw [projectTrade_quantity, current_quantity, filledBy]
  rw [applyTrade_projects trade faithful, projected, current_quantity]
  unfold state
  rw [Dict.get_set_self]
  rfl

/-- A trade on faithful machines is legal exactly when it settles. -/
theorem applyTrade_legal (trade : Trade) (faithful : manager.Faithful) :
    manager.Transits (manager.applyTrade trade).1 trade ↔ manager.settlesTrade trade := by
  obtain ⟨-, -, -, quantities⟩ := applyTrade_ok trade faithful
  have filled := quantities (makePositionKey trade.symbol trade.exchange)
  rw [if_pos rfl] at filled
  unfold Transits settlesTrade
  dsimp only
  rw [applyTrade_state faithful, filled]
  exact PositionState.next_classified (faithful _)

theorem reported_quantity (fields : BrokerPosition) : (manager.reported fields).quantity = fields.quantity := by
  have unmarked : ∀ position : Position,
      (if fields.ltp ≠ 0 then position.withLtp fields.ltp else position).quantity = position.quantity := by
    intro position
    split <;> rfl
  unfold reported
  rw [unmarked]
  split
  · split
    · exact zero_add _
    · next closed => exact (not_not.mp closed).symm
  · next current held =>
    dsimp only
    split
    · exact add_sub_cancel current.quantity fields.quantity
    · next same => exact (sub_eq_zero.mp (not_not.mp same)).symm

/-- A snapshot keeps the machines faithful exactly when it neither opens nor closes its position. -/
theorem upsertPosition_faithful (faithful : manager.Faithful) (data : List (String × BrokerValue)) :
    (manager.upsertPosition data).1.Faithful ↔ manager.settles (.upsertPosition data) := by
  unfold upsertPosition settles
  dsimp only
  cases BrokerPosition.read data with
  | error error => exact ⟨fun _ _ absent => (by cases absent), fun _ => faithful⟩
  | ok fields =>
    have quantities : ∀ key, (((manager.positions.set (makePositionKey fields.symbol fields.exchange)
        (manager.reported fields)).get key).map Position.quantity).getD 0 =
        if key = makePositionKey fields.symbol fields.exchange then fields.quantity else manager.quantity key := by
      intro key
      rw [Dict.get_set]
      split
      · exact reported_quantity fields
      · rfl
    constructor
    · intro kept _ same
      cases same
      have here := (faithful _).symm.trans (kept (makePositionKey fields.symbol fields.exchange))
      have there := quantities (makePositionKey fields.symbol fields.exchange)
      rw [if_pos rfl] at there
      rw [← not_iff_not]
      exact (here.trans (iff_of_eq (congrArg (· ≠ 0) there))).symm
    · intro same key
      refine (faithful key).trans ((not_congr ?_).trans (iff_of_eq (congrArg (· ≠ 0) (quantities key))).symm)
      split
      · next here =>
        rw [here]
        exact (same fields rfl).symm
      · exact Iff.rfl

theorem updateLtp_faithful (faithful : manager.Faithful) (symbol exchange : String) (ltp : ℚ) :
    (manager.updateLtp symbol exchange ltp).1.Faithful := by
  unfold updateLtp
  dsimp only
  split
  · exact faithful
  · next current held =>
    intro key
    refine (faithful key).trans (iff_of_eq (congrArg (· ≠ 0) ?_))
    unfold quantity
    dsimp only
    rw [Dict.get_set]
    split
    · next same =>
      rw [same, held]
      rfl
    · rfl

theorem reset_faithful (faithful : manager.Faithful) :
    manager.reset.Faithful ↔ manager.settles .reset := by
  constructor
  · intro kept position held
    obtain ⟨⟨key, listed⟩, member, same⟩ := List.mem_map.mp held
    cases same
    have found : manager.positions.get key = some listed := Dict.get_eq_some.mpr member
    have closed := (not_congr ((faithful key).symm.trans (kept key))).mpr (fun opened => opened rfl)
    have flat := not_not.mp closed
    rwa [quantity, found] at flat
  · intro closed key
    have flat : manager.quantity key = 0 := by
      unfold quantity
      cases found : manager.positions.get key with
      | none => rfl
      | some position => exact closed position (List.mem_map.mpr ⟨_, Dict.get_eq_some.mp found, rfl⟩)
    refine (faithful key).trans ?_
    rw [flat]
    rfl

/-- On faithful machines an operation is sound exactly when it settles. -/
theorem sound_iff (faithful : manager.Faithful) (operation : PositionOperation) :
    manager.Sound operation ↔ manager.settles operation := by
  cases operation with
  | applyTrade trade =>
    obtain ⟨applied, stays, -, -⟩ := applyTrade_ok trade faithful
    constructor
    · rintro ⟨-, -, transits⟩
      exact (applyTrade_legal trade faithful).mp transits
    · intro settles
      exact ⟨stays, ⟨_, applied⟩, (applyTrade_legal trade faithful).mpr settles⟩
  | onTradeApplied trade =>
    by_cases processed : trade.tradeId ∈ manager.processedTradeIdSet
    · have unchanged : manager.onTradeApplied trade = (manager, .duplicate) := if_pos processed
      have kept : manager.after (.onTradeApplied trade) = manager := congrArg Prod.fst unchanged
      refine ⟨fun _ new => absurd processed new, fun _ => ⟨?_, .inl (congrArg Prod.snd unchanged)⟩⟩
      rw [kept]
      exact faithful
    · have remembered : (manager.remember trade.tradeId).Faithful := faithful
      obtain ⟨applied, stays, -, -⟩ := applyTrade_ok trade remembered
      have reached : manager.onTradeApplied trade =
          (((manager.remember trade.tradeId).applyTrade trade).1,
            .applied (projectTrade ((manager.remember trade.tradeId).current trade) trade)) := by
        unfold onTradeApplied
        rw [if_neg processed]
        dsimp only
        rw [applied]
      have legal : manager.Transits ((manager.remember trade.tradeId).applyTrade trade).1 trade ↔
          manager.settlesTrade trade := applyTrade_legal trade remembered
      unfold Sound Legal after
      dsimp only
      rw [reached]
      constructor
      · rintro ⟨-, duplicate | ⟨-, transits⟩⟩ -
        · cases duplicate
        · exact legal.mp transits
      · intro settles
        exact ⟨stays, .inr ⟨⟨_, rfl⟩, legal.mpr (settles processed)⟩⟩
  | upsertPosition data =>
    exact (and_iff_left trivial).trans (upsertPosition_faithful faithful data)
  | updateLtp symbol exchange ltp =>
    exact ⟨fun _ => trivial, fun _ => ⟨updateLtp_faithful faithful symbol exchange ltp, trivial⟩⟩
  | reset => exact (and_iff_left trivial).trans (reset_faithful faithful)

/-- A new manager, with or without enforced transitions. -/
def opened (enforce : Bool) : PositionManager := { enforceStateTransitions := enforce }

theorem opened_faithful (enforce : Bool) : (opened enforce).Faithful := by
  intro key
  constructor
  · rintro ⟨⟩
  · intro moved
    exact absurd rfl moved

/-- A run of the operations raises no illegal transition, keeps every machine in agreement with
its quantity and classifies every trade, exactly when each of its operations settles. -/
theorem position_states_sound (enforce : Bool) (operations : List PositionOperation) :
    Meets operate Sound (opened enforce) operations ↔ Meets operate settles (opened enforce) operations := by
  refine meets_iff (fun manager operation faithful => sound_iff faithful operation) ?_ (opened_faithful enforce)
  intro manager operation next _ sound taken
  cases taken
  exact sound.1

instance (manager : PositionManager) (trade : Trade) : Decidable (manager.settlesTrade trade) :=
  inferInstanceAs (Decidable (¬ _))

def shares (tradeId : String) (side : OrderSide) (quantity : ℚ) : Trade where
  tradeId := tradeId
  orderId := "220901"
  symbol := "RELIANCE"
  exchange := "NSE"
  side := side
  quantity := quantity
  price := 2500

/-- Ten bought, fifteen sold: the position flips to five short and is called reducing. -/
def flipped : List PositionOperation := [.applyTrade (shares "T1" .BUY 10), .applyTrade (shares "T2" .SELL 15)]

def textValue (text : String) : BrokerValue := ⟨text, true, none, none⟩

def tenValue : BrokerValue := ⟨"10", true, some 10, some 10⟩

/-- The broker reports ten shares that the machine does not know of, and five are sold. -/
def reportedThenSold : List PositionOperation := [
  .upsertPosition [("trading_symbol", textValue "RELIANCE"), ("net_quantity", tenValue)],
  .applyTrade (shares "T1" .SELL 5)]

theorem position_states_unsound :
    (exec operate (opened true) flipped).map (fun manager =>
      (manager.quantity "RELIANCE:NSE", manager.state "RELIANCE:NSE")) = some (-5, .REDUCING) ∧
    (exec operate (opened true) (reportedThenSold.take 1)).map (fun manager =>
      (manager.quantity "RELIANCE:NSE", manager.state "RELIANCE:NSE",
        (manager.applyTrade (shares "T1" .SELL 5)).2)) =
      some (10, .FLAT, .error (.illegalTransition .FLAT .REDUCING)) ∧
    ¬ ∀ operations, Meets operate Sound (opened true) operations := by
  have short : (exec operate (opened true) flipped).map (fun manager =>
      (manager.quantity "RELIANCE:NSE", manager.state "RELIANCE:NSE")) = some (-5, .REDUCING) := by
    decide +kernel
  have unknown : (exec operate (opened true) (reportedThenSold.take 1)).map (fun manager =>
      (manager.quantity "RELIANCE:NSE", manager.state "RELIANCE:NSE",
        (manager.applyTrade (shares "T1" .SELL 5)).2)) =
      some (10, .FLAT, .error (.illegalTransition .FLAT .REDUCING)) := by
    decide +kernel
  refine ⟨short, unknown, fun claim => ?_⟩
  obtain ⟨-, -, transits⟩ := ((meets_cons rfl).mp ((meets_cons rfl).mp (claim flipped)).2).1
  have reducing := transits.2.mp (by decide +kernel)
  exact absurd reducing (by decide +kernel)

end PositionManager

end TradeX.V1
