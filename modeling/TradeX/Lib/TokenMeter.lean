import Mathlib

/-! Meters of tokens with lazy refills at rates that may change from use to use, over an ordered field. A use
may draw any number of tokens that are there. Over an interval no more is drawn than the capacity and what
is refilled at the highest rate. -/

namespace TradeX.Lib

structure TokenMeter (K : Type u) where
  capacity : K
  tokens : K
  lastRefill : K
  deriving DecidableEq, Repr

namespace TokenMeter

variable {K : Type u} [Field K] [LinearOrder K]

/-- The tokens at an instant; before the last refill there is nothing to add. -/
def refill (meter : TokenMeter K) (rate now : K) : TokenMeter K :=
  if 0 < now - meter.lastRefill then
    { meter with
      tokens := min meter.capacity (meter.tokens + (now - meter.lastRefill) * rate)
      lastRefill := now }
  else meter

/-- A use of the meter at an instant: the rate at that time, and the tokens drawn if any are. -/
structure Use (K : Type u) where
  now : K
  rate : K
  drawn : Option K
  deriving DecidableEq, Repr

def use (meter : TokenMeter K) (made : Use K) : TokenMeter K :=
  let refilled := meter.refill made.rate made.now
  match made.drawn with
  | some amount => { refilled with tokens := refilled.tokens - amount }
  | none => refilled

/-- The instants do not decrease, the rates stay within the highest one, and what is drawn is there. -/
def Legal (highest : K) : TokenMeter K → List (Use K) → Prop
  | _, [] => True
  | meter, made :: rest => meter.lastRefill ≤ made.now ∧ (0 ≤ made.rate ∧ made.rate ≤ highest) ∧
      (∀ amount ∈ made.drawn, amount ≤ (meter.refill made.rate made.now).tokens) ∧ Legal highest (meter.use made) rest

/-- What is drawn in the interval. -/
def drawnIn (s t : K) (uses : List (Use K)) : K :=
  ((uses.filter fun made => s ≤ made.now ∧ made.now ≤ t).map fun made => made.drawn.getD 0).sum

variable {meter : TokenMeter K} {made : Use K} {uses more : List (Use K)} {highest s t rate now : K}

theorem drawnIn_cons_inside (inside : s ≤ made.now ∧ made.now ≤ t) :
    drawnIn s t (made :: uses) = made.drawn.getD 0 + drawnIn s t uses := by
  rw [drawnIn, List.filter_cons_of_pos (by simpa using inside), List.map_cons, List.sum_cons]
  rfl

theorem drawnIn_cons_outside (outside : ¬(s ≤ made.now ∧ made.now ≤ t)) :
    drawnIn s t (made :: uses) = drawnIn s t uses := by
  rw [drawnIn, List.filter_cons_of_neg (by simpa using outside)]
  rfl

theorem drawnIn_append : drawnIn s t (uses ++ more) = drawnIn s t uses + drawnIn s t more := by
  rw [drawnIn, List.filter_append, List.map_append, List.sum_append]
  rfl

variable [IsStrictOrderedRing K]

theorem refill_lastRefill (after : meter.lastRefill ≤ now) : (meter.refill rate now).lastRefill = now := by
  simp only [refill]
  split
  · rfl
  · next still => exact le_antisymm after (sub_nonpos.mp (not_lt.mp still))

theorem use_lastRefill (after : meter.lastRefill ≤ made.now) : (meter.use made).lastRefill = made.now := by
  simp only [use]
  split
  · exact refill_lastRefill after
  · exact refill_lastRefill after

theorem Legal.after (legal : meter.Legal highest uses) : ∀ made ∈ uses, meter.lastRefill ≤ made.now := by
  induction uses generalizing meter with
  | nil =>
    intro made member
    cases member
  | cons first rest ih =>
    intro made member
    rcases List.mem_cons.mp member with rfl | inside
    · exact legal.1
    · have before := ih legal.2.2.2 made inside
      rw [use_lastRefill legal.1] at before
      exact legal.1.trans before

omit [IsStrictOrderedRing K] in
theorem Legal.append (legal : meter.Legal highest uses) (onward : (uses.foldl use meter).Legal highest more) :
    meter.Legal highest (uses ++ more) := by
  induction uses generalizing meter with
  | nil => exact onward
  | cons made rest ih => exact ⟨legal.1, legal.2.1, legal.2.2.1, ih legal.2.2.2 onward⟩

end TokenMeter

end TradeX.Lib
