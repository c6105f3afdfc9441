import TradeX.Lib.Interleaving
import TradeX.V1.IdempotencyCache

/-! `place_order` of Dhan's `OrderPlacer` and of `UpstoxOrderCommandAdapter`, step by
step, for any number of concurrent callers. The two differ in what a failure
releases. A step is one access to the idempotency cache, the checks before the
POST, or the POST. -/

namespace TradeX.V1

open Lib TwoThreads

/-- The `correlation_id` of a request that carries one. -/
@[ext]
structure CorrelationId where
  text : String
  nonempty : text ≠ ""

instance : DecidableEq CorrelationId := fun _ _ => decidable_of_iff _ CorrelationId.ext_iff.symm

inductive OrderAdapter where
  | dhan
  | upstox
  deriving DecidableEq, Repr

/-- Where a call of `place_order` stands. -/
inductive PlacementStage where
  | start
  | reserving
  /-- Waiting for another caller, with this many polls left. -/
  | waiting (left : Nat)
  /-- The checks before the POST, under the reservation. -/
  | checking
  | posting
  | committing (orderId : String)
  | clearing
  | returned (orderId : String)
  /-- `OrderResponse.fail`, or an exception. -/
  | failed
  deriving DecidableEq, Repr

structure PlacementCall where
  cid : CorrelationId
  stage : PlacementStage := .start
  deriving DecidableEq

/-- What the adapter makes of the body of an answer. -/
inductive PlacementReading where
  | success (orderId : String)
  | failure
  | raises
  deriving DecidableEq, Repr

/-- How a POST ends: an answer, of an accepted order or not, or an exception, which
leaves open what the broker did. -/
inductive PostEnd where
  | answered (accepted : Bool) (reading : PlacementReading)
  | raised
  deriving DecidableEq, Repr

inductive PlacementStep where
  | get (now : ℚ)
  | reserve (now : ℚ)
  | poll (now : ℚ)
  /-- Live orders, instrument, validation, risk and payload. -/
  | check (passes : Bool)
  | post (ending : PostEnd)
  | commit (now : ℚ)
  | clear
  deriving DecidableEq, Repr

/-- A POST that was sent; it is settled once the broker accepted it or its outcome is unknown. -/
structure SentPost where
  cid : CorrelationId
  settled : Bool
  deriving DecidableEq

/-- What the callers share: the cache, and the POSTs sent, the latest first. -/
structure PlacementDesk (cache : TTLCache.{0, v} String) where
  ledger : IdempotencyCache cache := {}
  posts : List SentPost := []

def PostEnd.settled : PostEnd → Bool
  | .answered accepted _ => accepted
  | .raised => true

namespace OrderAdapter

/-- The polls of a waiter, a tenth of a second apart. -/
def polls : Nat := 50

/-- The stage after an answer that does not read as a placed order. Dhan releases the
reservation when the POST was not answered, Upstox on every response without success. -/
def afterFailure : OrderAdapter → PlacementStage
  | .dhan => .failed
  | .upstox => .clearing

def afterPost (adapter : OrderAdapter) : PostEnd → PlacementStage
  | .answered _ (.success orderId) => .committing orderId
  | .answered _ .failure => adapter.afterFailure
  | .answered _ .raises => .failed
  -- the exception becomes a failed response with the POST not marked as sent
  | .raised => .clearing

variable {cache : TTLCache.{0, v} String}

def act (adapter : OrderAdapter) (desk : PlacementDesk cache) (call : PlacementCall) :
    PlacementStep → Option (PlacementDesk cache × PlacementCall)
  | .get now =>
    match call.stage with
    | .start =>
      let found := desk.ledger.get call.cid.text now
      let stage := match found.2 with
        | some orderId => .returned orderId
        | none => .reserving
      some ({ desk with ledger := found.1 }, { call with stage := stage })
    | _ => none
  | .reserve now =>
    match call.stage with
    | .reserving =>
      let reserved := desk.ledger.reserve call.cid.text now
      some ({ desk with ledger := reserved.1 },
        { call with stage := if reserved.2 then .checking else .waiting polls })
    | _ => none
  | .poll now =>
    match call.stage with
    | .waiting (left + 1) =>
      let found := desk.ledger.get call.cid.text now
      let stage := match found.2 with
        | some orderId => .returned orderId
        -- timed out: a failed response on Dhan, an `OrderError` on Upstox
        | none => if left = 0 then .failed else .waiting left
      some ({ desk with ledger := found.1 }, { call with stage := stage })
    | _ => none
  | .check passes =>
    match call.stage with
    | .checking => some (desk, { call with stage := if passes then .posting else .clearing })
    | _ => none
  | .post ending =>
    match call.stage with
    | .posting =>
      some ({ desk with posts := ⟨call.cid, ending.settled⟩ :: desk.posts },
        { call with stage := adapter.afterPost ending })
    | _ => none
  | .commit now =>
    match call.stage with
    | .committing orderId =>
      some ({ desk with ledger := desk.ledger.commit call.cid.text now orderId },
        { call with stage := .returned orderId })
    | _ => none
  | .clear =>
    match call.stage with
    | .clearing =>
      some ({ desk with ledger := desk.ledger.clearReservation call.cid.text },
        { call with stage := .failed })
    | _ => none

end OrderAdapter

/-- No POST follows a settled one of the same correlation id. -/
def PlacementDesk.SettledLast {cache : TTLCache.{0, v} String} (desk : PlacementDesk cache) : Prop :=
  desk.posts.Pairwise fun later earlier => later.cid = earlier.cid → earlier.settled = false

/-- The clock reading of a step that takes one lies in the window. -/
def PlacementStep.within (start width : ℚ) : PlacementStep → Prop
  | .get now | .reserve now | .poll now | .commit now => start ≤ now ∧ now < start + width
  | _ => True

instance (start width : ℚ) : (step : PlacementStep) → Decidable (step.within start width)
  | .get _ | .reserve _ | .poll _ | .commit _ => inferInstanceAs (Decidable (_ ∧ _))
  | .check _ | .post _ | .clear => isTrue trivial

/-- The size of the cache suffices for the commit. -/
def PlacementDesk.roomy {cache : TTLCache.{0, v} String} (maxsize : Nat) (desk : PlacementDesk cache)
    (call : PlacementCall) : PlacementStep → Prop
  | .commit now => desk.ledger.roomy call.cid.text now maxsize
  | _ => True

/-- No reservation is taken for an id that has a result, no POST raises, and on Upstox
no accepted POST reads as a failure. -/
def OrderAdapter.orderly (adapter : OrderAdapter) {cache : TTLCache.{0, v} String}
    (desk : PlacementDesk cache) (call : PlacementCall) : PlacementStep → Prop
  | .reserve now => ¬ desk.ledger.finished call.cid.text now
  | .post ending => ending ≠ .raised ∧ (adapter = .upstox → ending ≠ .answered true .failure)
  | _ => True

section

variable {cache : TTLCache.{0, v} String} (desk : PlacementDesk cache) (call : PlacementCall)

instance : Decidable desk.SettledLast :=
  inferInstanceAs (Decidable (List.Pairwise _ _))

instance (maxsize : Nat) : (step : PlacementStep) → Decidable (desk.roomy maxsize call step)
  | .commit _ => inferInstanceAs (Decidable (IdempotencyCache.roomy ..))
  | .get _ | .reserve _ | .poll _ | .check _ | .post _ | .clear => isTrue trivial

instance (adapter : OrderAdapter) : (step : PlacementStep) → Decidable (adapter.orderly desk call step)
  | .reserve _ => inferInstanceAs (Decidable (¬ IdempotencyCache.finished ..))
  | .post _ => inferInstanceAs (Decidable (_ ∧ _))
  | .get _ | .poll _ | .check _ | .commit _ | .clear => isTrue trivial

end

/-- The stages in which the call's reservation is its own. -/
def PlacementStage.holding : PlacementStage → Bool
  | .checking | .posting | .committing _ | .clearing => true
  | _ => false

/-- The stages with a reservation and no settled POST. -/
def PlacementStage.unsettled : PlacementStage → Bool
  | .checking | .posting | .clearing => true
  | _ => false

theorem PlacementStage.holding_of_unsettled {stage : PlacementStage} (unsettled : stage.unsettled = true) :
    stage.holding = true := by
  cases stage <;> first | rfl | cases unsettled

namespace OrderAdapter

/-- The correlation ids with a settled POST. -/
def settledIds {cache : TTLCache.{0, v} String} (desk : PlacementDesk cache) : List CorrelationId :=
  (desk.posts.filter SentPost.settled).map SentPost.cid

/-- The window of the results starts at `start` and ends at the horizon. -/
structure Window (cache : TTLCache.{0, v} String) where
  start : ℚ
  ttl : ℚ
  maxsize : Nat
  positive : 0 < maxsize
  documented : cache.Documented maxsize (storeTtl ttl)

def Window.horizon {cache : TTLCache.{0, v} String} (window : Window cache) : ℚ :=
  window.start + storeTtl window.ttl

section

variable {cache : TTLCache.{0, v} String} {window : Window cache}

/-- A settled POST is the last one of its id, and its id stays owned. -/
structure Common (window : Window cache) (desk : PlacementDesk cache) : Prop where
  ttl : desk.ledger.ttl = window.ttl
  last : desk.SettledLast
  owned : ∀ cid ∈ settledIds desk, desk.ledger.Owned cid.text window.horizon

/-- A call that holds its id has it reserved, and has no settled POST before its own. -/
structure Each (window : Window cache) (desk : PlacementDesk cache) (call : PlacementCall) : Prop where
  reserved : call.stage.holding = true → desk.ledger.Reserved call.cid.text window.horizon
  unsettled : call.stage.unsettled = true → call.cid ∉ settledIds desk

/-- No two calls hold the same id. -/
def Pair (first second : PlacementCall) : Prop :=
  first.cid = second.cid → first.stage.holding = true → second.stage.holding = false

end

theorem Pair.idle {first second : PlacementCall} (idle : first.stage.holding = false) : Pair first second := by
  intro _ holding
  rw [idle] at holding
  cases holding

theorem Pair.idle_right {first second : PlacementCall} (idle : second.stage.holding = false) :
    Pair first second := fun _ _ => idle

/-- A caller that holds an id excludes the others. -/
theorem Pair.differs {first second : PlacementCall} (pair : Pair first second)
    (mine : first.stage.holding = true) (theirs : second.stage.holding = true) :
    first.cid ≠ second.cid := by
  intro same
  have idle := pair same mine
  rw [theirs] at idle
  cases idle

theorem CorrelationId.text_ne {first second : CorrelationId} (differs : first ≠ second) :
    first.text ≠ second.text := by
  intro same
  obtain ⟨text, nonempty⟩ := first
  cases same
  exact differs rfl

variable {cache : TTLCache.{0, v} String} {window : Window cache} {adapter : OrderAdapter}
  {desk desk' : PlacementDesk cache} {call call' other : PlacementCall} {action : PlacementStep}

/-- What an orderly step does, with the reservation it touches. -/
inductive Moves (adapter : OrderAdapter) (desk : PlacementDesk cache) (call : PlacementCall) :
    PlacementStep → PlacementDesk cache → PlacementCall → Prop where
  | read (now) (stage : PlacementStage) (action : PlacementStep) : call.stage.holding = false →
      stage.holding = false →
      Moves adapter desk call action { desk with ledger := (desk.ledger.get call.cid.text now).1 }
        { call with stage := stage }
  | refused (now) : Moves adapter desk call (.reserve now) desk { call with stage := .waiting polls }
  | granted (now) : (desk.ledger.reserve call.cid.text now).2 = true →
      ¬ desk.ledger.finished call.cid.text now →
      Moves adapter desk call (.reserve now)
        { desk with ledger := (desk.ledger.reserve call.cid.text now).1 }
        { call with stage := .checking }
  | checked (stage : PlacementStage) (passes) : call.stage = .checking → stage.unsettled = true →
      Moves adapter desk call (.check passes) desk { call with stage := stage }
  | sent (stage : PlacementStage) (ending) : call.stage = .posting →
      (ending.settled = true → stage.unsettled = false) →
      Moves adapter desk call (.post ending)
        { desk with posts := ⟨call.cid, ending.settled⟩ :: desk.posts }
        { call with stage := stage }
  | committed (now) (orderId : String) : call.stage = .committing orderId →
      Moves adapter desk call (.commit now)
        { desk with ledger := desk.ledger.commit call.cid.text now orderId }
        { call with stage := .returned orderId }
  | cleared : call.stage = .clearing →
      Moves adapter desk call .clear
        { desk with ledger := desk.ledger.clearReservation call.cid.text }
        { call with stage := .failed }

/-- After an orderly POST that settles, the call never releases its reservation unused. -/
theorem afterPost_unsettled {ending : PostEnd}
    (orderly : ending ≠ .raised ∧ (adapter = .upstox → ending ≠ .answered true .failure))
    (settled : ending.settled = true) : (adapter.afterPost ending).unsettled = false := by
  cases ending with
  | raised => exact absurd rfl orderly.1
  | answered accepted reading =>
    cases accepted with
    | false => cases settled
    | true =>
      cases reading with
      | success orderId => rfl
      | raises => rfl
      | failure =>
        cases adapter with
        | dhan => rfl
        | upstox => exact absurd rfl (orderly.2 rfl)

theorem act_moves (orderly : adapter.orderly desk call action)
    (acted : adapter.act desk call action = some (desk', call')) :
    Moves adapter desk call action desk' call' := by
  cases action with
  | get now =>
    simp only [act] at acted
    split at acted
    · next started =>
      have idle : call.stage.holding = false := by rw [started]; rfl
      cases acted
      refine .read now _ _ idle ?_
      split <;> rfl
    · cases acted
  | reserve now =>
    simp only [act] at acted
    split at acted
    · cases reserved : (desk.ledger.reserve call.cid.text now).2 with
      | true =>
        simp only [reserved, if_true] at acted
        cases acted
        exact .granted now reserved orderly
      | false =>
        simp only [reserved, Bool.false_eq_true, if_false] at acted
        cases acted
        rw [IdempotencyCache.reserve_false reserved]
        exact .refused now
    · cases acted
  | poll now =>
    simp only [act] at acted
    split at acted
    · next left waits =>
      have idle : call.stage.holding = false := by rw [waits]; rfl
      cases acted
      refine .read now _ _ idle ?_
      split
      · rfl
      · split <;> rfl
    · cases acted
  | check passes =>
    simp only [act] at acted
    split at acted
    · next checking =>
      cases acted
      cases passes with
      | true => exact .checked _ _ checking rfl
      | false => exact .checked _ _ checking rfl
    · cases acted
  | post ending =>
    simp only [act] at acted
    split at acted
    · next posting =>
      cases acted
      exact .sent _ ending posting (afterPost_unsettled orderly)
    · cases acted
  | commit now =>
    simp only [act] at acted
    split at acted
    · next orderId committing =>
      cases acted
      exact .committed now orderId committing
    · cases acted
  | clear =>
    simp only [act] at acted
    split at acted
    · next clearing =>
      cases acted
      exact .cleared clearing
    · cases acted

theorem mem_settledIds {post : SentPost} {cid : CorrelationId} :
    cid ∈ settledIds { desk with posts := post :: desk.posts } ↔
      post.settled = true ∧ cid = post.cid ∨ cid ∈ settledIds desk := by
  unfold settledIds
  by_cases settled : post.settled = true
  · rw [List.filter_cons_of_pos settled, List.map_cons, List.mem_cons]
    simp only [settled, true_and]
  · rw [List.filter_cons_of_neg settled]
    simp only [settled, Bool.false_eq_true, false_and, false_or]

theorem within_horizon {now : ℚ} (within : window.start ≤ now ∧ now < window.start + storeTtl window.ttl) :
    now < window.horizon ∧ window.horizon ≤ now + storeTtl window.ttl ∧ window.horizon ≤ now + window.ttl := by
  have positive : 0 < storeTtl window.ttl := by linarith [within.1, within.2]
  have bound := storeTtl_le positive
  unfold Window.horizon
  exact ⟨within.2, by linarith [within.1], by linarith [within.1]⟩

theorem Moves.acting (moves : Moves adapter desk call action desk' call')
    (common : Common window desk) (each : Each window desk call)
    (within : action.within window.start (storeTtl window.ttl))
    (roomy : desk.roomy window.maxsize call action) :
    Common window desk' ∧ Each window desk' call' := by
  cases moves with
  | read now stage action idle idle' =>
    have unsettled : stage.unsettled ≠ true := fun unsettled => by
      rw [PlacementStage.holding_of_unsettled unsettled] at idle'
      cases idle'
    refine ⟨⟨common.ttl, common.last, fun cid member => ?_⟩, ⟨fun holding => ?_, fun sent => absurd sent unsettled⟩⟩
    · exact IdempotencyCache.get_owned window.documented (common.owned cid member)
    · exact absurd (idle'.symm.trans holding) Bool.false_ne_true
  | refused now => exact ⟨common, ⟨by rintro ⟨⟩, by rintro ⟨⟩⟩⟩
  | granted now granted unfinished =>
    obtain ⟨early, -, late⟩ := within_horizon within
    rw [← common.ttl] at late
    obtain ⟨after, free⟩ := IdempotencyCache.reserve_true early granted
    have fresh : call.cid ∉ settledIds desk := by
      intro member
      rcases common.owned _ member with reserved | committed
      · exact free reserved
      · exact unfinished (committed now early)
    rw [after]
    refine ⟨⟨common.ttl, common.last, fun cid member => ?_⟩, ⟨fun _ => ?_, fun _ => fresh⟩⟩
    · exact (common.owned cid member).imp (IdempotencyCache.set_pending_keeps late) id
    · exact IdempotencyCache.set_pending_self late
  | checked stage passes checking unsettled =>
    refine ⟨common, ⟨fun _ => each.reserved ?_, fun _ => each.unsettled ?_⟩⟩ <;> rw [checking] <;> rfl
  | sent stage ending posting settles =>
    have fresh : call.cid ∉ settledIds desk := each.unsettled (by rw [posting]; rfl)
    have reserved := each.reserved (by rw [posting]; rfl)
    refine ⟨⟨common.ttl, List.pairwise_cons.mpr ⟨?_, common.last⟩, fun cid member => ?_⟩, ⟨fun _ => reserved, ?_⟩⟩
    · intro earlier sent same
      cases settled : earlier.settled with
      | false => rfl
      | true =>
        have member : earlier ∈ desk.posts.filter SentPost.settled := List.mem_filter.mpr ⟨sent, settled⟩
        exact absurd (List.mem_map.mpr ⟨earlier, member, same.symm⟩) fresh
    · rcases mem_settledIds.mp member with ⟨-, rfl⟩ | member
      · exact .inl reserved
      · exact common.owned cid member
    · intro unsettled member
      rcases mem_settledIds.mp member with ⟨settled, -⟩ | member
      · exact absurd ((settles settled).symm.trans unsettled) Bool.false_ne_true
      · exact fresh member
  | committed now orderId committing =>
    obtain ⟨early, late, -⟩ := within_horizon within
    refine ⟨⟨common.ttl, common.last, fun cid member => ?_⟩, ⟨by rintro ⟨⟩, by rintro ⟨⟩⟩⟩
    exact IdempotencyCache.commit_owned window.documented window.positive roomy early late
      (common.owned cid member)
  | cleared clearing =>
    have fresh : call.cid ∉ settledIds desk := each.unsettled (by rw [clearing]; rfl)
    refine ⟨⟨common.ttl, common.last, fun cid member => ?_⟩, ⟨by rintro ⟨⟩, by rintro ⟨⟩⟩⟩
    have differs : cid ≠ call.cid := by
      rintro rfl
      exact fresh member
    exact IdempotencyCache.clearReservation_owned (CorrelationId.text_ne differs) (common.owned cid member)

theorem Moves.bystander (moves : Moves adapter desk call action desk' call')
    (common : Common window desk) (their : Each window desk other)
    (mine : Pair call other) (theirs : Pair other call)
    (within : action.within window.start (storeTtl window.ttl)) :
    Each window desk' other ∧ Pair call' other ∧ Pair other call' := by
  cases moves with
  | read now stage action idle idle' =>
    exact ⟨⟨their.reserved, their.unsettled⟩, Pair.idle idle', Pair.idle_right idle'⟩
  | refused now => exact ⟨their, Pair.idle rfl, Pair.idle_right rfl⟩
  | granted now granted unfinished =>
    obtain ⟨early, -, late⟩ := within_horizon within
    rw [← common.ttl] at late
    obtain ⟨after, free⟩ := IdempotencyCache.reserve_true early granted
    have alone : other.cid = call.cid → other.stage.holding = false := by
      intro same
      cases holding : other.stage.holding with
      | false => rfl
      | true => exact absurd (same ▸ their.reserved holding) free
    rw [after]
    refine ⟨⟨fun holding => ?_, their.unsettled⟩, fun same _ => alone same.symm, fun same holding => ?_⟩
    · exact IdempotencyCache.set_pending_keeps late (their.reserved holding)
    · exact absurd ((alone same).symm.trans holding) Bool.false_ne_true
  | checked stage passes checking unsettled =>
    have holding : call.stage.holding = true := by rw [checking]; rfl
    refine ⟨their, fun same _ => mine same holding, fun same held => ?_⟩
    exact absurd same (theirs.differs held holding)
  | sent stage ending posting settles =>
    have holding : call.stage.holding = true := by rw [posting]; rfl
    refine ⟨⟨their.reserved, fun unsettled member => ?_⟩, fun same _ => mine same holding, fun same held => ?_⟩
    · rcases mem_settledIds.mp member with ⟨-, same⟩ | member
      · exact mine.differs holding (PlacementStage.holding_of_unsettled unsettled) same.symm
      · exact their.unsettled unsettled member
    · exact absurd same (theirs.differs held holding)
  | committed now orderId committing =>
    have holding : call.stage.holding = true := by rw [committing]; rfl
    refine ⟨⟨fun held => ?_, their.unsettled⟩, Pair.idle rfl, Pair.idle_right rfl⟩
    exact IdempotencyCache.commit_reserved (CorrelationId.text_ne (theirs.differs held holding))
      (their.reserved held)
  | cleared clearing =>
    have holding : call.stage.holding = true := by rw [clearing]; rfl
    refine ⟨⟨fun held => ?_, their.unsettled⟩, Pair.idle rfl, Pair.idle_right rfl⟩
    exact IdempotencyCache.clearReservation_reserved (CorrelationId.text_ne (theirs.differs held holding))
      (their.reserved held)

theorem preserves (adapter : OrderAdapter) (window : Window cache) :
    Pool.Preserves adapter.act
      (fun desk call action => (action.within window.start (storeTtl window.ttl) ∧
        desk.roomy window.maxsize call action) ∧ adapter.orderly desk call action)
      (Common window) (Each window) Pair where
  own common each allowed acted :=
    (act_moves allowed.2 acted).acting common each allowed.1.1 allowed.1.2
  other common _ their mine theirs allowed acted :=
    (act_moves allowed.2 acted).bystander common their mine theirs allowed.1.1

/-- Any number of calls, none of which has started, over a fresh cache. -/
def started {ι : Type} (cache : TTLCache.{0, v} String) (ttl : ℚ) (cids : ι → CorrelationId) :
    Pool ι (PlacementDesk cache) PlacementCall where
  shared := { ledger := { ttl := ttl } }
  thread i := { cid := cids i }

/-- Over every interleaving of any number of calls within the time to live and the
size of the cache, no POST follows one of the same correlation id that was accepted
or ended unknown, as long as every step is orderly. -/
theorem no_post_after_settled {ι : Type} [DecidableEq ι] (adapter : OrderAdapter)
    (cache : TTLCache.{0, v} String) (maxsize : Nat) (ttl : ℚ) (positive : 0 < maxsize)
    (documented : cache.Documented maxsize (storeTtl ttl)) (cids : ι → CorrelationId) (start : ℚ)
    (es : List (ι × PlacementStep)) (t : Pool ι (PlacementDesk cache) PlacementCall)
    (run : exec (Pool.step adapter.act) (started cache ttl cids) es = some t)
    (within : ∀ e ∈ es, e.2.within start (storeTtl ttl))
    (roomy : Meets (Pool.step adapter.act)
      (fun p (e : ι × PlacementStep) => p.shared.roomy maxsize (p.thread e.1) e.2)
      (started cache ttl cids) es)
    (orderly : Meets (Pool.step adapter.act)
      (fun p (e : ι × PlacementStep) => adapter.orderly p.shared (p.thread e.1) e.2)
      (started cache ttl cids) es) :
    t.shared.SettledLast := by
  have initial : Pool.Holds (Common ⟨start, ttl, maxsize, positive, documented⟩)
      (Each ⟨start, ttl, maxsize, positive, documented⟩) Pair (started cache ttl cids) :=
    ⟨⟨rfl, List.Pairwise.nil, by rintro _ ⟨⟩⟩, fun _ => ⟨by rintro ⟨⟩, by rintro ⟨⟩⟩,
      fun _ _ _ => Pair.idle rfl⟩
  have allowed := ((meets_of_forall within).and roomy).and orderly
  exact ((preserves adapter ⟨start, ttl, maxsize, positive, documented⟩).exec initial allowed run).common.last

/-- The first call pauses between its cache read and its reservation, and the second
one places and commits meanwhile. -/
def pausedBeforeReserve : List (Fin 2 × PlacementStep) := [
  (0, .get 0), (1, .get 1), (1, .reserve 1), (1, .check true),
  (1, .post (.answered true (.success "112233"))), (1, .commit 2),
  (0, .reserve 3), (0, .check true), (0, .post (.answered true (.success "112234")))]

/-- The first call's POST ends as given and its reservation is released; the second call places. -/
def releasedThenPlaced (first : PostEnd) : List (Fin 2 × PlacementStep) := [
  (0, .get 0), (0, .reserve 0), (0, .check true), (0, .post first), (0, .clear),
  (1, .get 1), (1, .reserve 1), (1, .check true), (1, .post (.answered true (.success "112234")))]

/-- The second call waits until the first one has committed. -/
def waitedForCommit : List (Fin 2 × PlacementStep) := [
  (0, .get 0), (1, .get 0), (0, .reserve 0), (1, .reserve 0), (1, .poll 0), (0, .check true),
  (0, .post (.answered true (.success "112233"))), (0, .commit 1), (1, .poll 1)]

def oneId : Fin 2 → CorrelationId := fun _ => ⟨"6f1c", by decide⟩

/-- The cache as the adapters build it. -/
def defaultCache : TTLCache String := leastRecentlyUsed String 10000 (storeTtl 300)

theorem no_post_after_settled_waited :
    ∃ t, exec (Pool.step OrderAdapter.dhan.act) (started defaultCache 300 oneId) waitedForCommit = some t ∧
      t.shared.SettledLast := by
  have runs : (exec (Pool.step OrderAdapter.dhan.act) (started defaultCache 300 oneId)
      waitedForCommit).isSome = true := by
    decide +kernel
  obtain ⟨t, run⟩ := Option.isSome_iff_exists.mp runs
  exact ⟨t, run, no_post_after_settled .dhan defaultCache 10000 300 (by decide)
    (documented_leastRecentlyUsed String 10000 (storeTtl 300)) oneId 0 _ t run (by decide +kernel)
    (by decide +kernel) (by decide +kernel)⟩

/-- Both adapters post again after a pause or after a POST that raised, and Upstox after
an accepted order whose answer it cannot read. -/
theorem post_after_settled :
    (∀ adapter ∈ [OrderAdapter.dhan, .upstox], ∀ es ∈ [pausedBeforeReserve, releasedThenPlaced .raised],
      (∀ e ∈ es, e.2.within 0 300) ∧
      (exec (Pool.step adapter.act) (started defaultCache 300 oneId) es).map
        (fun p => decide p.shared.SettledLast) = some false) ∧
    (exec (Pool.step OrderAdapter.upstox.act) (started defaultCache 300 oneId)
      (releasedThenPlaced (.answered true .failure))).map
        (fun p => decide p.shared.SettledLast) = some false ∧
    ¬ ∀ (adapter : OrderAdapter) (cache : TTLCache.{0, 0} String) (maxsize : Nat) (ttl : ℚ),
      0 < maxsize → cache.Documented maxsize (storeTtl ttl) →
      ∀ (cids : Fin 2 → CorrelationId) (start : ℚ) (es : List (Fin 2 × PlacementStep))
        (t : Pool (Fin 2) (PlacementDesk cache) PlacementCall),
        exec (Pool.step adapter.act) (started cache ttl cids) es = some t →
        (∀ e ∈ es, e.2.within start (storeTtl ttl)) →
        Meets (Pool.step adapter.act)
          (fun p (e : Fin 2 × PlacementStep) => p.shared.roomy maxsize (p.thread e.1) e.2)
          (started cache ttl cids) es →
        t.shared.SettledLast := by
  have again : ∀ adapter ∈ [OrderAdapter.dhan, .upstox],
      ∀ es ∈ [pausedBeforeReserve, releasedThenPlaced .raised], (∀ e ∈ es, e.2.within 0 300) ∧
        (exec (Pool.step adapter.act) (started defaultCache 300 oneId) es).map
          (fun p => decide p.shared.SettledLast) = some false := by decide +kernel
  refine ⟨again, by decide +kernel, fun claim => ?_⟩
  obtain ⟨-, ends⟩ := again .dhan List.mem_cons_self pausedBeforeReserve List.mem_cons_self
  obtain ⟨t, run, broken⟩ := Option.map_eq_some_iff.mp ends
  have last := claim .dhan defaultCache 10000 300 (by decide)
    (documented_leastRecentlyUsed String 10000 (storeTtl 300)) oneId 0 _ t run (by decide +kernel)
    (by decide +kernel)
  exact of_decide_eq_false broken last

end OrderAdapter

end TradeX.V1
