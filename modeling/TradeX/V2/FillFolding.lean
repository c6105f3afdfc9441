import TradeX.V2.Oms

/-! The fills of an order through `OrderManager.apply_fill`. A submitted order takes one fill that
leaves it open and one that completes it; the order's table has no step from `PARTIALLY_FILLED` to
itself, so a second fill that leaves the order open raises. -/

namespace TradeX.V2

open Lib

theorem TradingCache.getOrder_setOrder (cache : TradingCache) (order : Order) :
    (cache.setOrder order).getOrder order.orderId = some order := Dict.get_set_self ..

namespace OrderManager

/-- The fills in turn, up to the first that raises. -/
def applyFills (orderId : OrderId) : TradingCache → List ℚ → Except Failure TradingCache
  | cache, [] => .ok cache
  | cache, filledQty :: rest => do
    let applied ← applyFill cache orderId filledQty
    applyFills orderId applied.1 rest

/-- A call of `apply_fill` as its caller finds the cache afterwards. -/
def fillCall (cache : TradingCache) (orderId : OrderId) (filledQty : ℚ) : TradingCache × Except Failure Order :=
  match applyFill cache orderId filledQty with
  | .ok (after, order) => (after, .ok order)
  | .error failure => (cache, .error failure)

/-- The order after some fills: it holds their sum, it is filled exactly when they make up its
quantity, and it is partially filled exactly when they are some of it. -/
structure Folded (order : Order) (fills : List ℚ) (after : Order) : Prop where
  filled : after.filledQuantity = fills.sum
  complete : after.status = .FILLED ↔ fills.sum = order.quantity
  open_ : after.status = .PARTIALLY_FILLED ↔ 0 < fills.sum ∧ fills.sum < order.quantity

/-- A fill past the quantity of the order is refused and leaves the cache as it is. -/
def Refuses (cache : TradingCache) (order : Order) (filled : ℚ) : Prop :=
  ∀ filledQty, filled + filledQty > order.quantity →
    fillCall cache order.orderId filledQty = (cache, .error (.fillExceeds (filled + filledQty) order.quantity))

/-- Every fill of the list is accepted, the order then holds them, and it takes no more than its
quantity. -/
def Folds (cache : TradingCache) (order : Order) (fills : List ℚ) : Prop :=
  ∃ filled after, applyFills order.orderId cache fills = .ok filled ∧
    filled.getOrder order.orderId = some after ∧ Folded order fills after ∧ Refuses filled order fills.sum

section

variable {cache : TradingCache} {order : Order} {filledQty : ℚ}

/-- The order that a fill leaves behind. -/
def filledWith (order : Order) (filledQty : ℚ) (status : OrderStatus) : Order :=
  { order with status := status, filledQuantity := order.filledQuantity + filledQty }

/-- A fill within the quantity is a transition of the order to the status of the new sum. -/
theorem applyFill_within (stored : cache.getOrder order.orderId = some order)
    (within : order.filledQuantity + filledQty ≤ order.quantity) {target : OrderStatus}
    (aim : target = if order.filledQuantity + filledQty = order.quantity then .FILLED else .PARTIALLY_FILLED) :
    applyFill cache order.orderId filledQty =
      if target ∈ order.status.legal then
        .ok (cache.setOrder (filledWith order filledQty target), filledWith order filledQty target)
      else .error (.illegalTransition order.status target) := by
  unfold applyFill getOrder
  simp only [stored, bind, Except.bind, pure, Except.pure, gt_iff_lt, not_lt.mpr within, if_false, ← aim]
  unfold Order.transitionTo
  by_cases legal : target ∈ order.status.legal
  · simp only [if_pos legal]
    rfl
  · simp only [if_neg legal]

theorem applyFill_excess (stored : cache.getOrder order.orderId = some order)
    (excess : order.filledQuantity + filledQty > order.quantity) :
    applyFill cache order.orderId filledQty =
      .error (.fillExceeds (order.filledQuantity + filledQty) order.quantity) := by
  unfold applyFill getOrder
  simp only [stored, bind, Except.bind, if_pos excess]
  rfl

/-- A fill that leaves a submitted order open is accepted. -/
theorem applyFill_opens (stored : cache.getOrder order.orderId = some order) (submitted : order.status = .SUBMITTED)
    (part : order.filledQuantity + filledQty < order.quantity) :
    applyFill cache order.orderId filledQty =
      .ok (cache.setOrder (filledWith order filledQty .PARTIALLY_FILLED), filledWith order filledQty .PARTIALLY_FILLED) := by
  rw [applyFill_within stored part.le (if_neg part.ne).symm, submitted, if_pos (by decide)]

/-- A second one is not. -/
theorem applyFill_again (stored : cache.getOrder order.orderId = some order)
    (partially : order.status = .PARTIALLY_FILLED) (part : order.filledQuantity + filledQty < order.quantity) :
    applyFill cache order.orderId filledQty = .error (.illegalTransition .PARTIALLY_FILLED .PARTIALLY_FILLED) := by
  rw [applyFill_within stored part.le (if_neg part.ne).symm, partially, if_neg (by decide)]

/-- The fill that makes up the quantity is accepted from both open statuses. -/
theorem applyFill_completes (stored : cache.getOrder order.orderId = some order)
    (open_ : order.status = .SUBMITTED ∨ order.status = .PARTIALLY_FILLED)
    (whole : order.filledQuantity + filledQty = order.quantity) :
    applyFill cache order.orderId filledQty =
      .ok (cache.setOrder (filledWith order filledQty .FILLED), filledWith order filledQty .FILLED) := by
  have legal : OrderStatus.FILLED ∈ order.status.legal := by
    rcases open_ with submitted | partially
    · rw [submitted]
      decide
    · rw [partially]
      decide
  rw [applyFill_within stored whole.le (if_pos whole).symm, if_pos legal]

/-- Whatever the order holds, a fill past its quantity is refused. -/
theorem refuses (stored : cache.getOrder order.orderId = some order) :
    Refuses cache order order.filledQuantity := by
  intro filledQty excess
  unfold fillCall
  rw [applyFill_excess stored excess]

theorem applyFills_cons {orderId : OrderId} {rest : List ℚ} {applied : TradingCache × Order}
    (accepted : applyFill cache orderId filledQty = .ok applied) :
    applyFills orderId cache (filledQty :: rest) = applyFills orderId applied.1 rest := by
  rw [applyFills, accepted]
  rfl

theorem applyFills_raises {orderId : OrderId} {rest : List ℚ} {failure : Failure}
    (raised : applyFill cache orderId filledQty = .error failure) :
    applyFills orderId cache (filledQty :: rest) = .error failure := by
  rw [applyFills, raised]
  rfl

/-- Two fills that both leave a submitted order open: the second raises. -/
theorem applyFills_again {first second : ℚ} (rest : List ℚ) (stored : cache.getOrder order.orderId = some order)
    (submitted : order.status = .SUBMITTED) (some_ : 0 < second)
    (part : order.filledQuantity + first + second < order.quantity) :
    applyFills order.orderId cache (first :: second :: rest) =
      .error (.illegalTransition .PARTIALLY_FILLED .PARTIALLY_FILLED) := by
  have open_ := applyFill_opens stored submitted (by linarith : order.filledQuantity + first < order.quantity)
  have kept := TradingCache.getOrder_setOrder cache (filledWith order first .PARTIALLY_FILLED)
  have raised := applyFill_again kept rfl part
  rw [applyFills_cons open_]
  exact applyFills_raises raised

/-- The list was accepted, and its sum stands in the order under the status that belongs to it. -/
theorem folds_of_run {fills : List ℚ} {filled : TradingCache} {after : Order}
    (run : applyFills order.orderId cache fills = .ok filled) (found : filled.getOrder after.orderId = some after)
    (named : after.orderId = order.orderId) (sized : after.quantity = order.quantity)
    (folded : Folded order fills after) : Folds cache order fills := by
  refine ⟨filled, after, run, named ▸ found, folded, ?_⟩
  have refused := refuses found
  unfold Refuses at refused ⊢
  rw [named, sized, folded.filled] at refused
  exact refused

theorem folded_part {fills : List ℚ} {after : Order} (filled : after.filledQuantity = fills.sum)
    (partially : after.status = .PARTIALLY_FILLED) (some_ : 0 < fills.sum) (part : fills.sum < order.quantity) :
    Folded order fills after where
  filled := filled
  complete := by simp only [partially, reduceCtorEq, part.ne]
  open_ := by simp only [partially, some_, part, and_self]

theorem folded_whole {fills : List ℚ} {after : Order} (filled : after.filledQuantity = fills.sum)
    (complete : after.status = .FILLED) (whole : fills.sum = order.quantity) : Folded order fills after where
  filled := filled
  complete := by simp only [complete, whole]
  open_ := by simp only [complete, reduceCtorEq, whole, lt_irrefl, and_false]

end

/-- A submitted order takes a list of fills within its quantity exactly when there is none, for an
order of some quantity, or one, or two that make up its quantity. -/
theorem fills_folded_iff {cache : TradingCache} {order : Order} {fills : List ℚ}
    (stored : cache.getOrder order.orderId = some order) (submitted : order.status = .SUBMITTED)
    (unfilled : order.filledQuantity = 0) (positive : ∀ filledQty ∈ fills, 0 < filledQty)
    (within : fills.sum ≤ order.quantity) :
    Folds cache order fills ↔
      (fills = [] ∧ order.quantity ≠ 0) ∨ fills.length = 1 ∨ (fills.length = 2 ∧ fills.sum = order.quantity) := by
  match fills with
  | [] =>
    have kept : Folds cache order [] ↔ order.quantity ≠ 0 := by
      constructor
      · rintro ⟨filled, after, run, found, folded, -⟩ zero
        cases run
        rw [stored] at found
        cases found
        have completed := folded.complete.mpr zero.symm
        rw [submitted] at completed
        cases completed
      · intro some_
        refine ⟨cache, order, rfl, stored, ⟨unfilled, ?_, ?_⟩, ?_⟩
        · simp only [submitted, reduceCtorEq, List.sum_nil, false_iff]
          exact fun zero => some_ zero.symm
        · simp only [submitted, reduceCtorEq, List.sum_nil, lt_irrefl, false_and]
        · rw [List.sum_nil, ← unfilled]
          exact refuses stored
    simp [kept]
  | [first] =>
    rw [List.sum_singleton] at within
    have some_ : 0 < first := positive first List.mem_cons_self
    have sum (status : OrderStatus) : (filledWith order first status).filledQuantity = [first].sum := by
      simp only [filledWith, unfilled, zero_add, List.sum_singleton]
    have folds : Folds cache order [first] := by
      rcases within.lt_or_eq with part | whole
      · have accepted := applyFill_opens stored submitted (by linarith : order.filledQuantity + first < order.quantity)
        have run : applyFills order.orderId cache [first] =
            .ok (cache.setOrder (filledWith order first .PARTIALLY_FILLED)) := applyFills_cons accepted
        apply folds_of_run run (TradingCache.getOrder_setOrder ..) rfl rfl
        exact folded_part (sum _) rfl (by simpa using some_) (by simpa using part)
      · have accepted := applyFill_completes stored (.inl submitted) (by linarith : order.filledQuantity + first = order.quantity)
        have run : applyFills order.orderId cache [first] =
            .ok (cache.setOrder (filledWith order first .FILLED)) := applyFills_cons accepted
        apply folds_of_run run (TradingCache.getOrder_setOrder ..) rfl rfl
        exact folded_whole (sum _) rfl (by simpa using whole)
    simp [folds]
  | first :: second :: rest =>
    have someFirst : 0 < first := positive first List.mem_cons_self
    have someSecond : 0 < second := positive second (List.mem_cons_of_mem _ List.mem_cons_self)
    have rests : 0 ≤ rest.sum := List.sum_nonneg fun filledQty member =>
      (positive filledQty (List.mem_cons_of_mem _ (List.mem_cons_of_mem _ member))).le
    rw [List.sum_cons, List.sum_cons] at within
    by_cases whole : first + second = order.quantity
    · have none_ : rest = [] := by
        apply List.eq_nil_iff_forall_not_mem.mpr
        intro filledQty member
        have left := List.single_le_sum
          (fun other listed => (positive other (List.mem_cons_of_mem _ (List.mem_cons_of_mem _ listed))).le) filledQty member
        have more := positive filledQty (List.mem_cons_of_mem _ (List.mem_cons_of_mem _ member))
        linarith
      subst none_
      have opened := applyFill_opens stored submitted (by linarith : order.filledQuantity + first < order.quantity)
      have kept := TradingCache.getOrder_setOrder cache (filledWith order first .PARTIALLY_FILLED)
      have sum : order.filledQuantity + first + second = order.quantity := by linarith
      have completed := applyFill_completes kept (.inr rfl) sum
      have run : applyFills order.orderId cache [first, second] =
          .ok ((cache.setOrder (filledWith order first .PARTIALLY_FILLED)).setOrder
            (filledWith (filledWith order first .PARTIALLY_FILLED) second .FILLED)) :=
        (applyFills_cons opened).trans (applyFills_cons completed)
      have folds : Folds cache order [first, second] := by
        apply folds_of_run run (TradingCache.getOrder_setOrder ..) rfl rfl
        refine folded_whole ?_ rfl (by simpa using whole)
        simp [filledWith, unfilled]
      simp [folds, whole]
    · have part : order.filledQuantity + first + second < order.quantity := by
        rw [unfilled, zero_add]
        exact lt_of_le_of_ne (by linarith) whole
      have raised := applyFills_again rest stored submitted someSecond part
      have fails : ¬ Folds cache order (first :: second :: rest) := by
        rintro ⟨filled, after, run, -⟩
        rw [raised] at run
        cases run
      simp only [fails, false_iff, reduceCtorEq, false_and, List.length_cons, false_or, not_or, not_and]
      constructor
      · omega
      · intro two sum
        have none_ : rest = [] := List.eq_nil_of_length_eq_zero (by omega)
        subst none_
        exact whole (by simpa using sum)

/-- A submitted order of ten without fills. -/
def submittedTen : Order where
  orderId := ⟨"O-1"⟩
  instrumentId := ⟨"NSE:RELIANCE"⟩
  side := .BUY
  orderType := .LIMIT
  quantity := 10
  price := some 2500
  timeInForce := .DAY
  status := .SUBMITTED
  correlationId := ⟨"C-1"⟩

theorem two_halves_folded : Folds (TradingCache.setOrder {} submittedTen) submittedTen [5, 5] :=
  (fills_folded_iff (TradingCache.getOrder_setOrder {} submittedTen) rfl rfl (by decide +kernel) (by decide +kernel)).mpr
    (.inr (.inr ⟨rfl, by decide +kernel⟩))

/-- Three fills that make up an order of ten are not accepted in turn. -/
theorem three_fills_not_folded :
    ¬ ∀ (cache : TradingCache) (order : Order) (fills : List ℚ), cache.getOrder order.orderId = some order →
      order.status = .SUBMITTED → order.filledQuantity = 0 → (∀ filledQty ∈ fills, 0 < filledQty) →
      fills.sum ≤ order.quantity → Folds cache order fills := by
  intro all
  have folds := all (TradingCache.setOrder {} submittedTen) submittedTen [3, 3, 4] (TradingCache.getOrder_setOrder {} submittedTen)
    rfl rfl (by decide +kernel) (by decide +kernel)
  obtain ⟨filled, after, run, -⟩ := folds
  have raised := applyFills_again [4] (TradingCache.getOrder_setOrder {} submittedTen) rfl
    (by norm_num : (0 : ℚ) < 3) (by decide +kernel : submittedTen.filledQuantity + 3 + 3 < submittedTen.quantity)
  rw [raised] at run
  cases run

end OrderManager

end TradeX.V2
