import Mathlib

/-! Token buckets with lazy refills over an ordered field. A bucket is touched at instants that do not
decrease, and a touch may take a token. The tokens taken over an interval are bounded by the capacity and
what is refilled meanwhile. -/

namespace TradeX.Lib

structure TokenBucket (K : Type u) where
  rate : K
  capacity : K
  tokens : K
  lastRefill : K
  deriving DecidableEq, Repr

namespace TokenBucket

variable {K : Type u} [Field K] [LinearOrder K] [IsStrictOrderedRing K]

/-- The tokens at an instant from the last refill on. -/
def level (bucket : TokenBucket K) (now : K) : K :=
  min bucket.capacity (bucket.tokens + (now - bucket.lastRefill) * bucket.rate)

def refill (bucket : TokenBucket K) (now : K) : TokenBucket K :=
  { bucket with tokens := bucket.level now, lastRefill := now }

/-- A use of the bucket at an instant, with a token taken or none. -/
structure Touch (K : Type u) where
  now : K
  taken : Bool
  deriving DecidableEq, Repr

def touch (bucket : TokenBucket K) (use : Touch K) : TokenBucket K :=
  if use.taken then { bucket.refill use.now with tokens := bucket.level use.now - 1 } else bucket.refill use.now

structure Sound (bucket : TokenBucket K) : Prop where
  rate_nonneg : 0 ≤ bucket.rate
  tokens_nonneg : 0 ≤ bucket.tokens
  tokens_le : bucket.tokens ≤ bucket.capacity

/-- The instants do not decrease, and a token is taken where there is one. -/
def Legal : TokenBucket K → List (Touch K) → Prop
  | _, [] => True
  | bucket, use :: rest => bucket.lastRefill ≤ use.now ∧ (use.taken = true → 1 ≤ bucket.level use.now) ∧
      Legal (bucket.touch use) rest

/-- The instants in the interval at which tokens are taken. -/
def takenIn (s t : K) (uses : List (Touch K)) : List (Touch K) :=
  uses.filter fun use => use.taken = true ∧ s ≤ use.now ∧ use.now ≤ t

variable {bucket : TokenBucket K} {use : Touch K} {uses more : List (Touch K)} {s t now later : K}

omit [IsStrictOrderedRing K] in
theorem level_le : bucket.level now ≤ bucket.capacity := min_le_left _ _

theorem Sound.le_level (sound : bucket.Sound) (after : bucket.lastRefill ≤ now) : bucket.tokens ≤ bucket.level now := by
  refine le_min sound.tokens_le ?_
  have refilled := mul_nonneg (sub_nonneg.mpr after) sound.rate_nonneg
  linarith

/-- A bucket that is left alone is full once the missing tokens are refilled. -/
theorem level_full (refills : 0 < bucket.rate)
    (waited : bucket.lastRefill + (bucket.capacity - bucket.tokens) / bucket.rate ≤ now) :
    bucket.level now = bucket.capacity := by
  apply min_eq_left
  have enough : (bucket.capacity - bucket.tokens) / bucket.rate ≤ now - bucket.lastRefill := by linarith
  have refilled := (div_le_iff₀ refills).mp enough
  linarith

/-- Up to a later instant the level rises by what is refilled at most. -/
theorem Sound.level_later (sound : bucket.Sound) (after : now ≤ later) :
    bucket.level later ≤ bucket.level now + (later - now) * bucket.rate := by
  have refilled := mul_nonneg (sub_nonneg.mpr after) sound.rate_nonneg
  rcases min_cases bucket.capacity (bucket.tokens + (now - bucket.lastRefill) * bucket.rate) with ⟨full, -⟩ | ⟨filling, -⟩
  · calc bucket.level later ≤ bucket.capacity := level_le
      _ = bucket.level now := full.symm
      _ ≤ bucket.level now + (later - now) * bucket.rate := le_add_of_nonneg_right refilled
  · calc bucket.level later ≤ bucket.tokens + (later - bucket.lastRefill) * bucket.rate := min_le_right _ _
      _ = bucket.level now + (later - now) * bucket.rate := by rw [level, filling]; ring

/-- A refill between two instants is not seen at the second. -/
theorem Sound.level_refill (sound : bucket.Sound) (after : now ≤ later) :
    (bucket.refill now).level later = bucket.level later := by
  have refilled := mul_nonneg (sub_nonneg.mpr after) sound.rate_nonneg
  simp only [level, refill]
  rcases min_cases bucket.capacity (bucket.tokens + (now - bucket.lastRefill) * bucket.rate) with ⟨full, above⟩ | ⟨filling, -⟩
  · rw [full, min_eq_left (le_add_of_nonneg_right refilled), min_eq_left]
    linarith
  · rw [filling]
    congr 1
    ring

theorem Sound.refill_refill (sound : bucket.Sound) (after : now ≤ later) :
    (bucket.refill now).refill later = bucket.refill later := by
  have same := sound.level_refill after
  simp only [refill] at same ⊢
  rw [same]

theorem Sound.refill (sound : bucket.Sound) (after : bucket.lastRefill ≤ now) : (bucket.refill now).Sound where
  rate_nonneg := sound.rate_nonneg
  tokens_nonneg := sound.tokens_nonneg.trans (sound.le_level after)
  tokens_le := level_le

theorem Sound.touch (sound : bucket.Sound) (after : bucket.lastRefill ≤ use.now)
    (there : use.taken = true → 1 ≤ bucket.level use.now) : (bucket.touch use).Sound := by
  have refilled := sound.refill after
  cases taken : use.taken with
  | false =>
    rw [TokenBucket.touch, taken]
    exact refilled
  | true =>
    rw [TokenBucket.touch, taken]
    refine ⟨sound.rate_nonneg, sub_nonneg.mpr (there taken), ?_⟩
    exact (sub_le_self _ zero_le_one).trans refilled.tokens_le

omit [IsStrictOrderedRing K] in
@[simp] theorem touch_rate : (bucket.touch use).rate = bucket.rate := by
  cases taken : use.taken <;> simp [touch, refill, taken]

omit [IsStrictOrderedRing K] in
@[simp] theorem touch_capacity : (bucket.touch use).capacity = bucket.capacity := by
  cases taken : use.taken <;> simp [touch, refill, taken]

omit [IsStrictOrderedRing K] in
@[simp] theorem touch_lastRefill : (bucket.touch use).lastRefill = use.now := by
  cases taken : use.taken <;> simp [touch, refill, taken]

omit [IsStrictOrderedRing K] in
theorem touch_tokens : (bucket.touch use).tokens = bucket.level use.now - if use.taken then 1 else 0 := by
  cases taken : use.taken <;> simp [touch, refill, taken]

/-- A touch leaves no more at a later instant than there would be without it. -/
theorem Sound.level_touch (sound : bucket.Sound) (after : use.now ≤ later) :
    (bucket.touch use).level later ≤ bucket.level later := by
  rw [← sound.level_refill after]
  refine min_le_min (le_of_eq touch_capacity) ?_
  rw [touch_tokens, touch_lastRefill, touch_rate]
  refine add_le_add ?_ le_rfl
  refine sub_le_self _ ?_
  split
  · exact zero_le_one
  · exact le_refl _

omit [IsStrictOrderedRing K] in
theorem Legal.after (legal : bucket.Legal uses) : ∀ use ∈ uses, bucket.lastRefill ≤ use.now := by
  induction uses generalizing bucket with
  | nil =>
    intro use member
    cases member
  | cons first rest ih =>
    intro use member
    rcases List.mem_cons.mp member with rfl | inside
    · exact legal.1
    · have before := ih legal.2.2 use inside
      rw [touch_lastRefill] at before
      exact legal.1.trans before

omit [Field K] [IsStrictOrderedRing K] in
/-- Where nothing happens before an instant, an interval may start there. -/
theorem takenIn_later (after : ∀ use ∈ uses, later ≤ use.now) (before : s ≤ later) :
    takenIn s t uses = takenIn later t uses := by
  apply List.filter_congr
  intro use member
  have instant := after use member
  simp [instant, before.trans instant]

omit [Field K] [IsStrictOrderedRing K] in
theorem takenIn_behind (after : ∀ use ∈ uses, t < use.now) : takenIn s t uses = [] := by
  apply List.filter_eq_nil_iff.mpr
  intro use member
  simp [after use member]

/-- From an instant on no more is taken than there is then and what is refilled. -/
theorem Sound.takenIn_le_level (sound : bucket.Sound) (legal : bucket.Legal uses) (begins : bucket.lastRefill ≤ s)
    (ends : s ≤ t) : ((takenIn s t uses).length : K) ≤ bucket.level s + (t - s) * bucket.rate := by
  induction uses generalizing bucket s with
  | nil =>
    have refilled := mul_nonneg (sub_nonneg.mpr ends) sound.rate_nonneg
    have some_level := sound.tokens_nonneg.trans (sound.le_level begins)
    simpa [takenIn] using add_nonneg some_level refilled
  | cons use rest ih =>
    obtain ⟨after, there, onward⟩ := legal
    have next := sound.touch after there
    have behind := onward.after
    simp only [touch_lastRefill] at behind
    rcases lt_or_ge use.now s with early | inside
    · have skipped : takenIn s t (use :: rest) = takenIn s t rest :=
        List.filter_cons_of_neg (by simp [early])
      have bound := ih next onward (touch_lastRefill.trans_le early.le) ends
      rw [touch_rate] at bound
      rw [skipped]
      exact bound.trans (add_le_add (sound.level_touch early.le) le_rfl)
    · rcases le_or_gt use.now t with within | late
      · have bound := ih next onward touch_lastRefill.le within
        have counted : ((takenIn s t (use :: rest)).length : K) =
            (if use.taken then 1 else 0) + ((takenIn use.now t rest).length : K) := by
          rw [← takenIn_later behind inside]
          cases taken : use.taken with
          | false => simp [takenIn, taken]
          | true => simp [takenIn, taken, inside, within, add_comm]
        have left : (bucket.touch use).level use.now ≤ bucket.level use.now - if use.taken then 1 else 0 := by
          refine (min_le_right _ _).trans (le_of_eq ?_)
          rw [touch_tokens, touch_lastRefill, sub_self, zero_mul, add_zero]
        have risen := sound.level_later inside
        rw [touch_rate] at bound
        rw [counted]
        linarith
      · have none_left : takenIn s t (use :: rest) = [] := by
          apply takenIn_behind
          intro other member
          rcases List.mem_cons.mp member with rfl | inside'
          · exact late
          · exact late.trans_le (behind other inside')
        have refilled := mul_nonneg (sub_nonneg.mpr ends) sound.rate_nonneg
        have some_level := sound.tokens_nonneg.trans (sound.le_level begins)
        rw [none_left]
        simpa using add_nonneg some_level refilled

/-- Over any interval no more is taken than the capacity and what is refilled. -/
theorem Sound.takenIn_le (sound : bucket.Sound) (legal : bucket.Legal uses) (ends : s ≤ t) :
    ((takenIn s t uses).length : K) ≤ bucket.capacity + (t - s) * bucket.rate := by
  have after := legal.after
  rcases le_total bucket.lastRefill s with begins | earlier
  · exact (sound.takenIn_le_level legal begins ends).trans (add_le_add level_le le_rfl)
  · rcases le_or_gt bucket.lastRefill t with within | late
    · rw [takenIn_later after earlier]
      have shorter := mul_le_mul_of_nonneg_right (sub_le_sub_left earlier t) sound.rate_nonneg
      exact (sound.takenIn_le_level legal le_rfl within).trans (add_le_add level_le shorter)
    · have refilled := mul_nonneg (sub_nonneg.mpr ends) sound.rate_nonneg
      have some_capacity := sound.tokens_nonneg.trans sound.tokens_le
      rw [takenIn_behind fun use member => late.trans_le (after use member)]
      simpa using add_nonneg some_capacity refilled

omit [IsStrictOrderedRing K] in
theorem Legal.append (legal : bucket.Legal uses) (onward : (uses.foldl touch bucket).Legal more) :
    bucket.Legal (uses ++ more) := by
  induction uses generalizing bucket with
  | nil => exact onward
  | cons use rest ih => exact ⟨legal.1, legal.2.1, ih legal.2.2 onward⟩

theorem Sound.touches (sound : bucket.Sound) (legal : bucket.Legal uses) : (uses.foldl TokenBucket.touch bucket).Sound := by
  induction uses generalizing bucket with
  | nil => exact sound
  | cons use rest ih => exact ih (sound.touch legal.1 legal.2.1) legal.2.2

omit [IsStrictOrderedRing K] in
theorem touches_rate_capacity (bucket : TokenBucket K) (uses : List (Touch K)) :
    (uses.foldl touch bucket).rate = bucket.rate ∧ (uses.foldl touch bucket).capacity = bucket.capacity := by
  induction uses generalizing bucket with
  | nil => exact ⟨rfl, rfl⟩
  | cons use rest ih =>
    have onward := ih (bucket.touch use)
    rw [touch_rate, touch_capacity] at onward
    exact onward

end TokenBucket

end TradeX.Lib
