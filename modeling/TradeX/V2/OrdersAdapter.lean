import TradeX.Lib.Interleaving
import TradeX.V2.IdempotencyCache

/-! `place_order` of the Dhan and the Upstox order adapter, step by step, for any
number of concurrent callers. The two bodies differ in the endpoint only. A step
is one access to the idempotency cache, the build of the body, or the POST. -/

namespace TradeX.V2

open Lib TwoThreads

structure OrdersAdapter where
  endpoint : String
  deriving DecidableEq, Repr

def dhanOrdersAdapter : OrdersAdapter := ⟨"/orders"⟩

def upstoxOrdersAdapter : OrdersAdapter := ⟨"/order/place"⟩

/-- Where a call of `place_order` stands. -/
inductive PlaceStage where
  | start
  | reserving
  /-- Waiting for another caller, with this many polls left. -/
  | polling (left : Nat)
  | building
  | posting
  | committing (orderId : String)
  | clearing
  | returned (orderId : String)
  | raised
  deriving DecidableEq, Repr

structure Caller where
  cid : String
  stage : PlaceStage := .start
  deriving DecidableEq, Repr

/-- How the POST ends for the caller: an order id, an answer without one, or an
exception, which leaves open whether the broker received the request. -/
inductive PostOutcome where
  | answered (orderId : String)
  | unreadable
  | raised (received : Bool)
  deriving DecidableEq, Repr

inductive PlaceStep where
  | get (now : ℚ)
  | reserve (now : ℚ)
  | poll (now : ℚ)
  | build (succeeds : Bool)
  | post (outcome : PostOutcome)
  | commit (now : ℚ)
  | clear
  deriving DecidableEq, Repr

/-- A POST the broker received. -/
structure Received where
  endpoint : String
  cid : String
  deriving DecidableEq, Repr

/-- What the callers share: the cache, and the requests the broker received. -/
structure Desk where
  cache : IdempotencyCache String := {}
  received : List Received := []

namespace OrdersAdapter

/-- The polls of a waiter, a tenth of a second apart. -/
def polls : Nat := 50

def act (adapter : OrdersAdapter) (desk : Desk) (caller : Caller) : PlaceStep → Option (Desk × Caller)
  | .get now =>
    match caller.stage with
    | .start =>
      let found := desk.cache.get caller.cid now
      match found.2 with
      | some orderId => some ({ desk with cache := found.1 }, { caller with stage := .returned orderId })
      | none => some ({ desk with cache := found.1 }, { caller with stage := .reserving })
    | _ => none
  | .reserve now =>
    match caller.stage with
    | .reserving =>
      let reserved := desk.cache.reserve caller.cid now
      some ({ desk with cache := reserved.1 },
        { caller with stage := if reserved.2 then .building else .polling polls })
    | _ => none
  | .poll now =>
    match caller.stage with
    | .polling (left + 1) =>
      let found := desk.cache.get caller.cid now
      match found.2 with
      | some orderId => some ({ desk with cache := found.1 }, { caller with stage := .returned orderId })
      | none =>
        -- the loop that runs out falls through to the POST
        some ({ desk with cache := found.1 },
          { caller with stage := if left = 0 then .building else .polling left })
    | _ => none
  | .build succeeds =>
    match caller.stage with
    | .building => some (desk, { caller with stage := if succeeds then .posting else .clearing })
    | _ => none
  | .post outcome =>
    match caller.stage with
    | .posting =>
      let received := { desk with received := ⟨adapter.endpoint, caller.cid⟩ :: desk.received }
      match outcome with
      | .answered orderId => some (received, { caller with stage := .committing orderId })
      | .unreadable => some (received, { caller with stage := .raised })
      | .raised true => some (received, { caller with stage := .clearing })
      | .raised false => some (desk, { caller with stage := .clearing })
    | _ => none
  | .commit now =>
    match caller.stage with
    | .committing orderId =>
      some ({ desk with cache := desk.cache.commit caller.cid now orderId },
        { caller with stage := .returned orderId })
    | _ => none
  | .clear =>
    match caller.stage with
    | .clearing =>
      some ({ desk with cache := desk.cache.clearReservation caller.cid }, { caller with stage := .raised })
    | _ => none

end OrdersAdapter

/-- The clock reading of a step that takes one lies in the window. -/
def PlaceStep.within (start ttl : ℚ) : PlaceStep → Prop
  | .get now | .reserve now | .poll now | .commit now => start ≤ now ∧ now < start + ttl
  | _ => True

instance (start ttl : ℚ) : (step : PlaceStep) → Decidable (step.within start ttl)
  | .get _ | .reserve _ | .poll _ | .commit _ => inferInstanceAs (Decidable (_ ∧ _))
  | .build _ | .post _ | .clear => isTrue trivial

/-- A poll loop does not run out, a POST that raises never reached the broker, and
a commit pushes no other result out of the full store. -/
def Desk.orderly (desk : Desk) (caller : Caller) : PlaceStep → Prop
  | .poll now => caller.stage = .polling 1 → (desk.cache.get caller.cid now).2 ≠ none
  | .post outcome => outcome ≠ .raised true
  | .commit _ => ¬ desk.cache.evicts caller.cid
  | _ => True

instance (desk : Desk) (caller : Caller) : (step : PlaceStep) → Decidable (desk.orderly caller step)
  | .poll _ => inferInstanceAs (Decidable (_ → _))
  | .post _ => inferInstanceAs (Decidable (_ ≠ _))
  | .commit _ => inferInstanceAs (Decidable (¬ _))
  | .get _ | .reserve _ | .build _ | .clear => isTrue trivial

/-- The correlation ids of the requests the broker received. -/
def Desk.receivedIds (desk : Desk) : List String := desk.received.map Received.cid

/-- The stages in which the caller's reservation is its own. -/
def PlaceStage.holding : PlaceStage → Bool
  | .building | .posting | .committing _ | .clearing => true
  | _ => false

/-- The stages with a reservation and no POST received. -/
def PlaceStage.unsent : PlaceStage → Bool
  | .building | .posting | .clearing => true
  | _ => false

namespace OrdersAdapter

/-- Each id was received once at most, and a received id stays owned. -/
structure Common (horizon : ℚ) (ttl : ℚ) (desk : Desk) : Prop where
  ttl : desk.cache.ttl = ttl
  once : desk.receivedIds.Nodup
  owned : ∀ cid ∈ desk.receivedIds, desk.cache.Owned cid horizon

/-- A caller that holds its id has it reserved, and before its POST the broker has
received nothing under that id. -/
structure Each (horizon : ℚ) (desk : Desk) (caller : Caller) : Prop where
  reserved : caller.stage.holding = true → desk.cache.Reserved caller.cid horizon
  unsent : caller.stage.unsent = true → caller.cid ∉ desk.receivedIds

/-- No two callers hold the same id. -/
def Pair (first second : Caller) : Prop :=
  first.cid = second.cid → first.stage.holding = true → second.stage.holding = false

theorem Pair.idle {first second : Caller} (idle : first.stage.holding = false) : Pair first second := by
  intro _ holding
  rw [idle] at holding
  cases holding

theorem Pair.idle_right {first second : Caller} (idle : second.stage.holding = false) :
    Pair first second := fun _ _ => idle

theorem unsent_holding {stage : PlaceStage} (unsent : stage.unsent = true) : stage.holding = true := by
  cases stage <;> first | rfl | cases unsent

/-- What an orderly step does, with the reservation it touches. -/
inductive Moves (adapter : OrdersAdapter) (desk : Desk) (caller : Caller) : PlaceStep → Desk → Caller → Prop where
  | read (now) (stage : PlaceStage) (action : PlaceStep) : caller.stage.holding = false →
      stage.holding = false → (action = .get now ∨ action = .poll now) →
      Moves adapter desk caller action { desk with cache := (desk.cache.get caller.cid now).1 }
        { caller with stage := stage }
  | refused (now) : (desk.cache.reserve caller.cid now).2 = false →
      Moves adapter desk caller (.reserve now) desk { caller with stage := .polling polls }
  | granted (now) : (desk.cache.reserve caller.cid now).2 = true →
      Moves adapter desk caller (.reserve now) { desk with cache := (desk.cache.reserve caller.cid now).1 }
        { caller with stage := .building }
  | inside (stage : PlaceStage) (action) : caller.stage.unsent = true → stage.unsent = true →
      Moves adapter desk caller action desk { caller with stage := stage }
  | sent (stage : PlaceStage) (outcome) : caller.stage = .posting → stage.unsent = false →
      Moves adapter desk caller (.post outcome)
        { desk with received := ⟨adapter.endpoint, caller.cid⟩ :: desk.received }
        { caller with stage := stage }
  | committed (now) (orderId : String) : caller.stage = .committing orderId →
      ¬ desk.cache.evicts caller.cid →
      Moves adapter desk caller (.commit now)
        { desk with cache := desk.cache.commit caller.cid now orderId }
        { caller with stage := .returned orderId }
  | cleared : caller.stage = .clearing →
      Moves adapter desk caller .clear { desk with cache := desk.cache.clearReservation caller.cid }
        { caller with stage := .raised }

variable {adapter : OrdersAdapter} {desk desk' : Desk} {caller caller' other : Caller}
  {action : PlaceStep} {horizon ttl : ℚ}

theorem act_moves (orderly : desk.orderly caller action)
    (acted : adapter.act desk caller action = some (desk', caller')) :
    Moves adapter desk caller action desk' caller' := by
  cases action with
  | get now =>
    simp only [act] at acted
    split at acted
    · next started =>
      have idle : caller.stage.holding = false := by rw [started]; rfl
      split at acted <;> cases acted
      · exact .read now _ _ idle rfl (.inl rfl)
      · exact .read now _ _ idle rfl (.inl rfl)
    · cases acted
  | reserve now =>
    simp only [act] at acted
    split at acted
    · cases reserved : (desk.cache.reserve caller.cid now).2 with
      | true =>
        simp only [reserved, if_true] at acted
        cases acted
        exact .granted now reserved
      | false =>
        simp only [reserved, Bool.false_eq_true, if_false] at acted
        cases acted
        rw [IdempotencyCache.reserve_false reserved]
        exact .refused now reserved
    · cases acted
  | poll now =>
    simp only [act] at acted
    split at acted
    · next left waiting =>
      have idle : caller.stage.holding = false := by rw [waiting]; rfl
      split at acted
      · cases acted
        exact .read now _ _ idle rfl (.inr rfl)
      · next missed =>
        cases left with
        | zero => exact absurd missed (orderly waiting)
        | succ left =>
          cases acted
          exact .read now _ _ idle rfl (.inr rfl)
    · cases acted
  | build succeeds =>
    simp only [act] at acted
    split at acted
    · next building =>
      have unsent : caller.stage.unsent = true := by rw [building]; rfl
      cases acted
      cases succeeds with
      | true => exact .inside _ _ unsent rfl
      | false => exact .inside _ _ unsent rfl
    · cases acted
  | post outcome =>
    simp only [act] at acted
    split at acted
    · next posting =>
      have unsent : caller.stage.unsent = true := by rw [posting]; rfl
      cases outcome with
      | answered orderId =>
        cases acted
        exact .sent _ _ posting rfl
      | unreadable =>
        cases acted
        exact .sent _ _ posting rfl
      | raised received =>
        cases received with
        | true => exact absurd rfl orderly
        | false =>
          cases acted
          exact .inside _ _ unsent rfl
    · cases acted
  | commit now =>
    simp only [act] at acted
    split at acted
    · next orderId committing =>
      cases acted
      exact .committed now orderId committing orderly
    · cases acted
  | clear =>
    simp only [act] at acted
    split at acted
    · next clearing =>
      cases acted
      exact .cleared clearing
    · cases acted

theorem Moves.acting (moves : Moves adapter desk caller action desk' caller')
    (common : Common horizon ttl desk) (each : Each horizon desk caller)
    (within : action.within (horizon - ttl) ttl) :
    Common horizon ttl desk' ∧ Each horizon desk' caller' := by
  have horizonEq : horizon - ttl + ttl = horizon := sub_add_cancel horizon ttl
  cases moves with
  | read now stage action idle idle' reading =>
    have early : now < horizon := by
      rcases reading with rfl | rfl <;> exact within.2.trans_eq horizonEq
    have unsent : stage.unsent ≠ true := fun unsent => by
      rw [unsent_holding unsent] at idle'
      cases idle'
    refine ⟨⟨?_, common.once, fun cid member => ?_⟩, ⟨fun holding => ?_, fun sent => absurd sent unsent⟩⟩
    · rw [IdempotencyCache.get_ttl]
      exact common.ttl
    · exact IdempotencyCache.get_owned early (common.owned cid member)
    · exact absurd (idle'.symm.trans holding) Bool.false_ne_true
  | refused now refused =>
    exact ⟨common, ⟨by rintro ⟨⟩, by rintro ⟨⟩⟩⟩
  | granted now granted =>
    have early : now < horizon := within.2.trans_eq horizonEq
    obtain ⟨after, free⟩ := IdempotencyCache.reserve_true early granted
    have late : horizon ≤ now + desk.cache.ttl := by
      rw [common.ttl]
      linarith [within.1]
    have fresh : caller.cid ∉ desk.receivedIds := fun member => free (common.owned _ member)
    rw [after]
    refine ⟨⟨common.ttl, common.once, fun cid member => ?_⟩, ⟨fun _ => ?_, fun _ => fresh⟩⟩
    · exact (common.owned cid member).imp (IdempotencyCache.set_pending_keeps _ late) id
    · exact IdempotencyCache.set_pending_reserved _ late
  | inside stage action unsent unsent' =>
    exact ⟨common, ⟨fun _ => each.reserved (unsent_holding unsent), fun _ => each.unsent unsent⟩⟩
  | sent stage outcome posting done =>
    have fresh : caller.cid ∉ desk.receivedIds := each.unsent (by rw [posting]; rfl)
    have reserved := each.reserved (by rw [posting]; rfl)
    refine ⟨⟨common.ttl, List.nodup_cons.mpr ⟨fresh, common.once⟩, fun cid member => ?_⟩, ⟨?_, ?_⟩⟩
    · rcases List.mem_cons.mp member with rfl | member
      · exact .inl reserved
      · exact common.owned cid member
    · exact fun _ => reserved
    · exact fun unsent => absurd (done.symm.trans unsent) Bool.false_ne_true
  | committed now orderId committing roomy =>
    have late : horizon ≤ now + desk.cache.ttl := by
      rw [common.ttl]
      linarith [within.1]
    refine ⟨⟨common.ttl, common.once, fun cid member => ?_⟩, ⟨by rintro ⟨⟩, by rintro ⟨⟩⟩⟩
    exact IdempotencyCache.commit_owned roomy late (common.owned cid member)
  | cleared clearing =>
    have fresh : caller.cid ∉ desk.receivedIds := each.unsent (by rw [clearing]; rfl)
    refine ⟨⟨common.ttl, common.once, fun cid member => ?_⟩, ⟨by rintro ⟨⟩, by rintro ⟨⟩⟩⟩
    have differs : cid ≠ caller.cid := by
      rintro rfl
      exact fresh member
    exact IdempotencyCache.clearReservation_owned differs (common.owned cid member)

theorem Moves.bystander (moves : Moves adapter desk caller action desk' caller')
    (common : Common horizon ttl desk) (their : Each horizon desk other)
    (mine : Pair caller other) (theirs : Pair other caller)
    (within : action.within (horizon - ttl) ttl) :
    Each horizon desk' other ∧ Pair caller' other ∧ Pair other caller' := by
  have horizonEq : horizon - ttl + ttl = horizon := sub_add_cancel horizon ttl
  cases moves with
  | read now stage action idle idle' reading =>
    refine ⟨⟨fun holding => ?_, their.unsent⟩, Pair.idle idle', Pair.idle_right idle'⟩
    exact IdempotencyCache.get_reserved (their.reserved holding)
  | refused now refused => exact ⟨their, Pair.idle rfl, Pair.idle_right rfl⟩
  | granted now granted =>
    have early : now < horizon := within.2.trans_eq horizonEq
    obtain ⟨after, free⟩ := IdempotencyCache.reserve_true early granted
    have late : horizon ≤ now + desk.cache.ttl := by
      rw [common.ttl]
      linarith [within.1]
    have alone : other.cid = caller.cid → other.stage.holding = false := by
      intro same
      cases holding : other.stage.holding with
      | false => rfl
      | true => exact absurd (.inl (same ▸ their.reserved holding)) free
    rw [after]
    refine ⟨⟨fun holding => ?_, their.unsent⟩, fun same _ => alone same.symm, fun same holding => ?_⟩
    · exact IdempotencyCache.set_pending_keeps _ late (their.reserved holding)
    · exact absurd ((alone same).symm.trans holding) Bool.false_ne_true
  | inside stage action unsent unsent' =>
    have holding := unsent_holding unsent
    refine ⟨their, fun same _ => mine same holding, fun same held => ?_⟩
    exact absurd ((theirs same held).symm.trans holding) Bool.false_ne_true
  | sent stage outcome posting done =>
    have holding : caller.stage.holding = true := by rw [posting]; rfl
    refine ⟨⟨their.reserved, fun unsent => ?_⟩, fun same _ => mine same holding, fun same held => ?_⟩
    · intro member
      rcases List.mem_cons.mp member with same | member
      · exact absurd ((mine same.symm holding).symm.trans (unsent_holding unsent)) Bool.false_ne_true
      · exact their.unsent unsent member
    · exact absurd ((theirs same held).symm.trans holding) Bool.false_ne_true
  | committed now orderId committing roomy =>
    have holding : caller.stage.holding = true := by rw [committing]; rfl
    refine ⟨⟨fun held => ?_, their.unsent⟩, Pair.idle rfl, Pair.idle_right rfl⟩
    have differs : other.cid ≠ caller.cid := fun same =>
      absurd ((theirs same held).symm.trans holding) Bool.false_ne_true
    exact IdempotencyCache.commit_reserved roomy differs (their.reserved held)
  | cleared clearing =>
    have holding : caller.stage.holding = true := by rw [clearing]; rfl
    refine ⟨⟨fun held => ?_, their.unsent⟩, Pair.idle rfl, Pair.idle_right rfl⟩
    have differs : other.cid ≠ caller.cid := fun same =>
      absurd ((theirs same held).symm.trans holding) Bool.false_ne_true
    exact IdempotencyCache.clearReservation_reserved differs (their.reserved held)

theorem preserves (adapter : OrdersAdapter) (horizon ttl : ℚ) :
    Pool.Preserves adapter.act
      (fun desk caller action => action.within (horizon - ttl) ttl ∧ desk.orderly caller action)
      (Common horizon ttl) (Each horizon) Pair where
  own common each allowed acted := (act_moves allowed.2 acted).acting common each allowed.1
  other common _ their mine theirs allowed acted :=
    (act_moves allowed.2 acted).bystander common their mine theirs allowed.1

/-- Any number of callers, none of which has started. -/
def waiting {ι : Type} (ids : ι → String) : Pool ι Desk Caller where
  shared := {}
  thread i := { cid := ids i }

/-- Over every interleaving of any number of callers within the time to live, the
broker receives at most one POST for each correlation id, as long as every step
is orderly. -/
theorem one_post_within_ttl {ι : Type} [DecidableEq ι] (adapter : OrdersAdapter) (ids : ι → String)
    (start : ℚ) (es : List (ι × PlaceStep)) (t : Pool ι Desk Caller)
    (run : exec (Pool.step adapter.act) (waiting ids) es = some t)
    (within : ∀ e ∈ es, e.2.within start 300)
    (orderly : Meets (Pool.step adapter.act)
      (fun p (e : ι × PlaceStep) => p.shared.orderly (p.thread e.1) e.2) (waiting ids) es) :
    t.shared.receivedIds.Nodup := by
  have initial : Pool.Holds (Common (start + 300) 300) (Each (start + 300)) Pair (waiting ids) :=
    ⟨⟨rfl, List.nodup_nil, by rintro _ ⟨⟩⟩, fun _ => ⟨by rintro ⟨⟩, by rintro ⟨⟩⟩,
      fun _ _ _ => Pair.idle rfl⟩
  have allowed : Meets (Pool.step adapter.act)
      (fun p (e : ι × PlaceStep) => e.2.within (start + 300 - 300) 300 ∧
        p.shared.orderly (p.thread e.1) e.2) (waiting ids) es := by
    rw [add_sub_cancel_right]
    exact (meets_of_forall within).and orderly
  exact ((preserves adapter (start + 300) 300).exec initial allowed run).common.once

/-- The first caller's POST raises after the broker received it, then the second
caller places. -/
def raisedThenPlaced : List (Fin 2 × PlaceStep) := [
  (0, .get 0), (0, .reserve 0), (0, .build true), (0, .post (.raised true)), (0, .clear),
  (1, .get 1), (1, .reserve 1), (1, .build true), (1, .post (.answered "112233"))]

/-- The second caller's poll loop runs out while the first one is at its POST. -/
def polledOut : List (Fin 2 × PlaceStep) :=
  [(0, .get 0), (0, .reserve 0), (0, .build true), (1, .get 0), (1, .reserve 0)] ++
  (List.range polls).map (fun n => (1, .poll (n / 10))) ++
  [(1, .build true), (1, .post (.answered "112233")), (0, .post (.answered "112234"))]

/-- The second caller waits until the first one has committed. -/
def waited : List (Fin 2 × PlaceStep) := [
  (0, .get 0), (1, .get 0), (0, .reserve 0), (1, .reserve 0), (1, .poll 0), (0, .build true),
  (0, .post (.answered "112233")), (0, .commit 1), (1, .poll 1)]

theorem one_post_waited :
    ∃ t, exec (Pool.step dhanOrdersAdapter.act) (waiting fun _ => "6f1c") waited = some t ∧
      t.shared.receivedIds.Nodup := by
  have runs : (exec (Pool.step dhanOrdersAdapter.act) (waiting fun _ => "6f1c") waited).isSome = true := by
    decide +kernel
  obtain ⟨t, run⟩ := Option.isSome_iff_exists.mp runs
  exact ⟨t, run, one_post_within_ttl dhanOrdersAdapter _ 0 _ t run (by decide +kernel) (by decide +kernel)⟩

theorem two_posts_received :
    (∀ adapter ∈ [dhanOrdersAdapter, upstoxOrdersAdapter], ∀ es ∈ [raisedThenPlaced, polledOut],
      (∀ e ∈ es, e.2.within 0 300) ∧
      (exec (Pool.step adapter.act) (waiting fun _ => "6f1c") es).map (·.shared.received) =
        some [⟨adapter.endpoint, "6f1c"⟩, ⟨adapter.endpoint, "6f1c"⟩]) ∧
    ¬ ∀ (adapter : OrdersAdapter) (ids : Fin 2 → String) (start : ℚ) (es : List (Fin 2 × PlaceStep))
      (t : Pool (Fin 2) Desk Caller), exec (Pool.step adapter.act) (waiting ids) es = some t →
        (∀ e ∈ es, e.2.within start 300) → t.shared.receivedIds.Nodup := by
  have twice : ∀ adapter ∈ [dhanOrdersAdapter, upstoxOrdersAdapter],
      ∀ es ∈ [raisedThenPlaced, polledOut], (∀ e ∈ es, e.2.within 0 300) ∧
        (exec (Pool.step adapter.act) (waiting fun _ => "6f1c") es).map (·.shared.received) =
          some [⟨adapter.endpoint, "6f1c"⟩, ⟨adapter.endpoint, "6f1c"⟩] := by decide +kernel
  refine ⟨twice, fun claim => ?_⟩
  obtain ⟨within, ends⟩ := twice dhanOrdersAdapter List.mem_cons_self raisedThenPlaced List.mem_cons_self
  obtain ⟨t, run, received⟩ := Option.map_eq_some_iff.mp ends
  have distinct := claim _ _ 0 _ t run within
  rw [Desk.receivedIds, received] at distinct
  exact absurd distinct (by decide)

end OrdersAdapter

end TradeX.V2
