import TradeX.Lib.Dict

/-! The idempotency cache of the v2 broker adapters: committed results and pending
reservations, each with an expiry on a monotonic clock. The committed store holds
at most `maxSize` entries and drops the oldest. -/

namespace TradeX.V2

open Lib

structure IdempotencyCache (T : Type u) where
  ttl : ℚ := 300
  maxSize : Nat := 10000
  committed : Dict String (T × ℚ) := ∅
  pending : Dict String ℚ := ∅

namespace IdempotencyCache

variable {T : Type u} (cache : IdempotencyCache T) (cid : String) (now : ℚ)

/-- `IdempotencyCache.get`: an expired entry is dropped under the lock. -/
def get : IdempotencyCache T × Option T :=
  match cache.committed.get cid with
  | none => (cache, none)
  | some (value, expiry) =>
    if now < expiry then (cache, some value)
    else ({ cache with committed := cache.committed.pop cid }, none)

/-- The section of `reserve` under the lock of the committed store. -/
def finished : Bool :=
  match cache.committed.get cid with
  | none => false
  | some (_, expiry) => decide (now < expiry)

/-- The section of `reserve` under the lock of the reservations. -/
def grab : IdempotencyCache T × Bool :=
  match cache.pending.get cid with
  | none => ({ cache with pending := cache.pending.set cid (now + cache.ttl) }, true)
  | some expiry =>
    if now < expiry then (cache, false)
    else ({ cache with pending := cache.pending.set cid (now + cache.ttl) }, true)

/-- `IdempotencyCache.reserve`. -/
def reserve : IdempotencyCache T × Bool :=
  if cache.finished cid now then (cache, false) else cache.grab cid now

/-- A new entry pushes the oldest one out. -/
def evicts : Prop :=
  cache.committed.contains cid = false ∧ cache.committed.size ≥ cache.maxSize ∧ cache.maxSize > 0

instance : Decidable (cache.evicts cid) := inferInstanceAs (Decidable (_ ∧ _ ∧ _))

/-- `_store_committed`. -/
def storeCommitted (value : T) : IdempotencyCache T :=
  let room :=
    if cache.committed.contains cid then cache.committed.pop cid
    else if cache.evicts cid then
      match cache.committed.oldest with
      | none => cache.committed
      | some oldest => cache.committed.pop oldest
    else cache.committed
  { cache with committed := room.set cid (value, now + cache.ttl) }

/-- `IdempotencyCache.put`. -/
def put (value : T) : IdempotencyCache T := cache.storeCommitted cid now value

/-- `IdempotencyCache.commit`. -/
def commit (value : T) : IdempotencyCache T :=
  let stored := cache.storeCommitted cid now value
  { stored with pending := stored.pending.pop cid }

/-- `IdempotencyCache.clear_reservation`. -/
def clearReservation : IdempotencyCache T := { cache with pending := cache.pending.pop cid }

/-- A reservation that does not expire before the horizon. -/
def Reserved (horizon : ℚ) : Prop := ∃ expiry, cache.pending.get cid = some expiry ∧ horizon ≤ expiry

/-- A committed result that does not expire before the horizon. -/
def Committed (horizon : ℚ) : Prop :=
  ∃ value expiry, cache.committed.get cid = some (value, expiry) ∧ horizon ≤ expiry

/-- Reserved or committed at least until the horizon. -/
def Owned (horizon : ℚ) : Prop := cache.Reserved cid horizon ∨ cache.Committed cid horizon

variable {cache cid now} {horizon : ℚ} {value : T} {other : String}

@[simp] theorem get_pending : (cache.get cid now).1.pending = cache.pending := by
  unfold get
  split
  · rfl
  · split <;> rfl

@[simp] theorem get_ttl : (cache.get cid now).1.ttl = cache.ttl := by
  unfold get
  split
  · rfl
  · split <;> rfl

theorem get_committed (early : now < horizon) (kept : cache.Committed other horizon) :
    (cache.get cid now).1.Committed other horizon := by
  obtain ⟨value, expiry, stored, late⟩ := kept
  refine ⟨value, expiry, ?_, late⟩
  unfold get
  cases found : cache.committed.get cid with
  | none => exact stored
  | some entry =>
    obtain ⟨current, due⟩ := entry
    by_cases live : now < due
    · simp only [if_pos live]
      exact stored
    · simp only [if_neg live]
      have differs : other ≠ cid := by
        rintro rfl
        rw [stored] at found
        cases found
        exact live (early.trans_le late)
      rw [Dict.get_pop_other _ _ _ differs]
      exact stored

theorem get_reserved (kept : cache.Reserved other horizon) :
    (cache.get cid now).1.Reserved other horizon := by
  unfold Reserved
  rw [get_pending]
  exact kept

theorem get_owned (early : now < horizon) (kept : cache.Owned other horizon) :
    (cache.get cid now).1.Owned other horizon :=
  kept.imp get_reserved (get_committed early)

theorem reserve_false (refused : (cache.reserve cid now).2 = false) :
    (cache.reserve cid now).1 = cache := by
  unfold reserve at refused ⊢
  split
  · rfl
  · next open_ =>
    rw [if_neg open_] at refused
    unfold grab at refused ⊢
    split
    · next absent => simp only [absent, Bool.true_eq_false] at refused
    · next expiry present =>
      split
      · rfl
      · next expired => simp only [present, if_neg expired, Bool.true_eq_false] at refused

/-- A granted reservation was neither reserved nor committed before. -/
theorem reserve_true (early : now < horizon) (granted : (cache.reserve cid now).2 = true) :
    (cache.reserve cid now).1 = { cache with pending := cache.pending.set cid (now + cache.ttl) } ∧
      ¬ cache.Owned cid horizon := by
  unfold reserve at granted ⊢
  cases done : cache.finished cid now with
  | true => simp only [done, if_true, Bool.false_eq_true] at granted
  | false =>
    simp only [done, Bool.false_eq_true, if_false] at granted ⊢
    have uncommitted : ¬ cache.Committed cid horizon := by
      rintro ⟨value, expiry, stored, late⟩
      simp only [finished, stored, decide_eq_false_iff_not] at done
      exact done (early.trans_le late)
    unfold grab at granted ⊢
    cases found : cache.pending.get cid with
    | none =>
      refine ⟨rfl, ?_⟩
      rintro (⟨expiry, stored, -⟩ | committed)
      · rw [found] at stored
        cases stored
      · exact uncommitted committed
    | some due =>
      by_cases live : now < due
      · simp only [found, if_pos live, Bool.false_eq_true] at granted
      · simp only [if_neg live]
        refine ⟨trivial, ?_⟩
        rintro (⟨expiry, stored, late⟩ | committed)
        · rw [found] at stored
          cases stored
          exact live (early.trans_le late)
        · exact uncommitted committed

@[simp] theorem commit_ttl : (cache.commit cid now value).ttl = cache.ttl := rfl

theorem commit_committed (late : horizon ≤ now + cache.ttl) :
    (cache.commit cid now value).Committed cid horizon :=
  ⟨value, now + cache.ttl, Dict.get_set_self .., late⟩

/-- Without an eviction a commit leaves every other correlation id as it was. -/
theorem commit_other (now : ℚ) (value : T) (roomy : ¬ cache.evicts cid) (differs : other ≠ cid) :
    (cache.commit cid now value).committed.get other = cache.committed.get other ∧
      (cache.commit cid now value).pending.get other = cache.pending.get other := by
  refine ⟨?_, Dict.get_pop_other _ _ _ differs⟩
  unfold commit storeCommitted
  simp only [Dict.get_set, if_neg differs, if_neg roomy]
  split
  · exact Dict.get_pop_other _ _ _ differs
  · rfl

theorem commit_owned (roomy : ¬ cache.evicts cid) (late : horizon ≤ now + cache.ttl)
    (kept : cache.Owned other horizon) : (cache.commit cid now value).Owned other horizon := by
  by_cases same : other = cid
  · subst same
    exact .inr (commit_committed late)
  · obtain ⟨committed, pending⟩ := commit_other now value roomy same
    unfold Owned Reserved Committed
    rw [committed, pending]
    exact kept

theorem commit_reserved (roomy : ¬ cache.evicts cid) (differs : other ≠ cid)
    (kept : cache.Reserved other horizon) : (cache.commit cid now value).Reserved other horizon := by
  unfold Reserved
  rw [(commit_other now value roomy differs).2]
  exact kept

theorem clearReservation_reserved (differs : other ≠ cid) (kept : cache.Reserved other horizon) :
    (cache.clearReservation cid).Reserved other horizon := by
  unfold Reserved clearReservation
  rw [Dict.get_pop_other _ _ _ differs]
  exact kept

theorem clearReservation_owned (differs : other ≠ cid) (kept : cache.Owned other horizon) :
    (cache.clearReservation cid).Owned other horizon :=
  kept.imp (clearReservation_reserved differs) id

theorem set_pending_reserved (expiry : ℚ) (late : horizon ≤ expiry) :
    ({ cache with pending := cache.pending.set cid expiry } : IdempotencyCache T).Reserved cid horizon :=
  ⟨expiry, Dict.get_set_self .., late⟩

theorem set_pending_keeps (expiry : ℚ) (late : horizon ≤ expiry) (kept : cache.Reserved other horizon) :
    ({ cache with pending := cache.pending.set cid expiry } : IdempotencyCache T).Reserved other
      horizon := by
  by_cases same : other = cid
  · subst same
    exact set_pending_reserved expiry late
  · obtain ⟨due, stored, later⟩ := kept
    exact ⟨due, (Dict.get_set_other _ _ _ _ same).trans stored, later⟩

end IdempotencyCache

end TradeX.V2
