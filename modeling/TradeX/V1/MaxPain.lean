import TradeX.Lib.Dict
import TradeX.V1.OptionChains

/-! The strike of an option chain that `max_pain` returns, against the strike at which the writers of its
options pay least. The totals that `max_pain` compares are the payouts, tilted by the difference of the open
interests of calls and puts, less what the truncation of the distances cuts off. -/

namespace TradeX.V1

open Lib

/-- `s.call.oi or 0` -/
def OptionStrike.callOi (row : OptionStrike) : ℤ := row.call.oi.getD 0

/-- `s.put.oi or 0` -/
def OptionStrike.putOi (row : OptionStrike) : ℤ := row.put.oi.getD 0

namespace OptionChain

variable (chain : OptionChain) (k : ℚ)

def strikePrices : List ℚ := chain.strikes.map OptionStrike.strike

/-- The total of a strike, over the rows of the chain. -/
def painTotal : ℤ := (chain.strikes.map fun row =>
  row.callOi * max 0 (Decimal.toInt (row.strike - k)) + row.putOi * max 0 (Decimal.toInt (k - row.strike))).sum

/-- The totals by strike. -/
def pain : Dict ℚ ℤ := chain.strikePrices.foldl (fun pain k => pain.set k (chain.painTotal k)) ∅

/-- `max_pain` -/
def maxPain : Option ℚ :=
  if chain.strikePrices = [] then none
  -- The order of the integers by its name: the one that is found first does not compute.
  else @List.argmin ℚ ℤ Int.instLinearOrder.toPreorder _ (fun k => (chain.pain.get k).getD 0) chain.pain.keys

/-- What the writers of the options pay when they settle at `k`. -/
def payout : ℚ := (chain.strikes.map fun row =>
  (row.callOi : ℚ) * max 0 (k - row.strike) + row.putOi * max 0 (row.strike - k)).sum

/-- The open interest of the calls less that of the puts. -/
def imbalance : ℤ := (chain.strikes.map fun row => row.callOi - row.putOi).sum

/-- The fraction of a distance, none of a distance the other way. -/
def fraction (distance : ℚ) : ℚ := if 0 ≤ distance then Int.fract distance else 0

/-- The fractions of the distances from a strike, by the open interest beyond them. -/
def cutOff : ℚ := (chain.strikes.map fun row =>
  (row.callOi : ℚ) * fraction (row.strike - k) + row.putOi * fraction (k - row.strike)).sum

/-- The payout, tilted by the imbalance and less what is cut off. -/
def tilted : ℚ := chain.payout k - chain.imbalance * k - chain.cutOff k

variable {chain k} {j : ℚ}

theorem max_toInt (distance : ℚ) : ((max 0 (Decimal.toInt distance) : ℤ) : ℚ) = max 0 distance - fraction distance := by
  rw [Decimal.toInt, fraction]
  split
  · next forward =>
    rw [max_eq_right (Int.floor_nonneg.mpr forward), max_eq_right forward, Int.self_sub_fract]
  · next back =>
    have below : distance ≤ 0 := (not_le.mp back).le
    have none_ : ⌈distance⌉ ≤ 0 := Int.ceil_le.mpr (by exact_mod_cast below)
    rw [max_eq_left none_, max_eq_left below, Int.cast_zero, sub_zero]

/-- A distance forward is the distance, and what is the distance back the other way. -/
theorem max_sub (s k : ℚ) : max 0 (s - k) = s - k + max 0 (k - s) := by
  rcases le_total s k with below | above
  · rw [max_eq_left (sub_nonpos.mpr below), max_eq_right (sub_nonneg.mpr below)]
    ring
  · rw [max_eq_right (sub_nonneg.mpr above), max_eq_left (sub_nonpos.mpr above), add_zero]

/-- The totals are the tilted payouts, but for what is the same at every strike. -/
theorem painTotal_eq (chain : OptionChain) (k : ℚ) : (chain.painTotal k : ℚ) =
    chain.tilted k + (chain.strikes.map fun row => ((row.callOi - row.putOi : ℤ) : ℚ) * row.strike).sum := by
  simp only [painTotal, tilted, payout, imbalance, cutOff]
  induction chain.strikes with
  | nil => simp
  | cons row rows ih =>
    have forward := max_sub row.strike k
    simp only [List.map_cons, List.sum_cons, Int.cast_add, Int.cast_mul, max_toInt, ih]
    push_cast
    rw [forward]
    ring

theorem painTotal_le_iff : chain.painTotal k ≤ chain.painTotal j ↔ chain.tilted k ≤ chain.tilted j := by
  rw [← Int.cast_le (R := ℚ), painTotal_eq, painTotal_eq, add_le_add_iff_right]

section

variable (distinct : chain.strikePrices.Nodup)

include distinct

theorem pain_entries : chain.pain.entries = chain.strikePrices.map fun k => (k, chain.painTotal k) := by
  have nodup : ((chain.strikePrices.map fun k => (k, chain.painTotal k)).map Prod.fst).Nodup := by
    rw [List.map_map]
    exact (List.map_id chain.strikePrices).symm ▸ distinct
  have filed := Dict.entries_foldl_set (d := (∅ : Dict ℚ ℤ)) nodup
  rw [List.foldl_map] at filed
  exact filed

/-- The first strike of a least total. -/
theorem maxPain_eq_some : chain.maxPain = some k ↔ k ∈ chain.strikePrices ∧
    (∀ j ∈ chain.strikePrices, chain.painTotal k ≤ chain.painTotal j) ∧
    ∀ j ∈ chain.strikePrices, chain.painTotal j ≤ chain.painTotal k →
      chain.strikePrices.idxOf k ≤ chain.strikePrices.idxOf j := by
  have entries := pain_entries distinct
  have keys : chain.pain.keys = chain.strikePrices := by
    rw [Dict.keys, entries, List.map_map]
    exact List.map_id chain.strikePrices
  have total : ∀ j ∈ chain.strikePrices, (chain.pain.get j).getD 0 = chain.painTotal j := by
    intro j member
    have found : chain.pain.get j = some (chain.painTotal j) := by
      apply Dict.get_eq_some.mpr
      rw [entries]
      exact List.mem_map.mpr ⟨j, member, rfl⟩
    rw [found, Option.getD_some]
  rw [maxPain]
  split
  · next none_ =>
    rw [none_]
    exact iff_of_false nofun fun found => List.not_mem_nil found.1
  · rw [keys, List.argmin_eq_some_iff]
    refine and_congr_right fun member => and_congr ?_ ?_
    · refine forall₂_congr fun j listed => ?_
      rw [total k member, total j listed]
    · refine forall₂_congr fun j listed => ?_
      rw [total k member, total j listed]

end

/-- The strike that is returned is one of the chain, and no strike of the chain has a smaller payout. -/
def MinimisesPayout (chain : OptionChain) : Prop :=
  ∃ k ∈ chain.strikePrices, chain.maxPain = some k ∧ ∀ j ∈ chain.strikePrices, chain.payout k ≤ chain.payout j

/-- The first strike with the least tilted payout has the least payout too. -/
def TiltHarmless (chain : OptionChain) : Prop :=
  ∃ k ∈ chain.strikePrices, (∀ j ∈ chain.strikePrices, chain.payout k ≤ chain.payout j) ∧
    (∀ j ∈ chain.strikePrices, chain.tilted k ≤ chain.tilted j) ∧
    ∀ j ∈ chain.strikePrices, chain.tilted j ≤ chain.tilted k →
      chain.strikePrices.idxOf k ≤ chain.strikePrices.idxOf j

theorem maxPain_minimises_iff (distinct : chain.strikePrices.Nodup) :
    chain.MinimisesPayout ↔ chain.TiltHarmless := by
  simp only [MinimisesPayout, TiltHarmless, maxPain_eq_some distinct, painTotal_le_iff]
  constructor
  · rintro ⟨k, member, ⟨-, least, first⟩, minimal⟩
    exact ⟨k, member, minimal, least, first⟩
  · rintro ⟨k, member, minimal, least, first⟩
    exact ⟨k, member, ⟨member, least, first⟩, minimal⟩

/-- Where as many calls are open as puts, at strikes that are whole numbers, the payout is minimised. -/
theorem minimises_of_balanced (distinct : chain.strikePrices.Nodup) (some_ : chain.strikePrices ≠ [])
    (balanced : chain.imbalance = 0) (whole : ∀ row ∈ chain.strikes, ∃ n : ℤ, row.strike = n) :
    chain.MinimisesPayout := by
  have uncut : ∀ j ∈ chain.strikePrices, chain.tilted j = chain.payout j := by
    intro j member
    obtain ⟨at_, listed, rfl⟩ := List.mem_map.mp member
    obtain ⟨m, strike⟩ := whole at_ listed
    have none_ : chain.cutOff at_.strike = 0 := by
      apply List.sum_eq_zero
      intro term counted
      obtain ⟨row, beside, rfl⟩ := List.mem_map.mp counted
      obtain ⟨n, other⟩ := whole row beside
      have fraction_zero (d : ℤ) : fraction d = 0 := by
        rw [fraction, Int.fract_intCast, ite_self]
      rw [strike, other, ← Int.cast_sub, ← Int.cast_sub, fraction_zero, fraction_zero, mul_zero, mul_zero, add_zero]
    rw [tilted, balanced, none_, Int.cast_zero, zero_mul, sub_zero, sub_zero]
  rw [maxPain_minimises_iff distinct]
  obtain ⟨k, least⟩ : ∃ k, chain.strikePrices.argmin chain.payout = some k := by
    apply Option.ne_none_iff_exists'.mp
    exact fun none_ => some_ (List.argmin_eq_none.mp none_)
  obtain ⟨member, minimal, first⟩ := List.argmin_eq_some_iff.mp least
  refine ⟨k, member, minimal, ?_, ?_⟩
  · intro j listed
    rw [uncut k member, uncut j listed]
    exact minimal j listed
  · intro j listed
    rw [uncut k member, uncut j listed]
    exact first j listed

/-- A row with these open interests. -/
def openRow (strike : ℚ) (calls puts : ℤ) : OptionStrike where
  strike := strike
  call := { oi := some calls }
  put := { oi := some puts }

def openChain (rows : List OptionStrike) : OptionChain where
  underlying := "NIFTY"
  exchange := "NFO"
  expiry := "2026-07-30"
  strikes := rows

theorem balanced_minimises_iff :
    (openChain [openRow 100 20 10, openRow 110 10 20]).strikePrices.Nodup ∧
    ((openChain [openRow 100 20 10, openRow 110 10 20]).MinimisesPayout ↔
      (openChain [openRow 100 20 10, openRow 110 10 20]).TiltHarmless) :=
  ⟨by decide +kernel, maxPain_minimises_iff (by decide +kernel)⟩

/-- Calls at the lower strike and puts at the upper one are in the money, and `max_pain` has the strike at which
the calls are paid. -/
theorem higher_payout_returned : ¬ (openChain [openRow 100 20 0, openRow 110 1 10]).MinimisesPayout := by
  rintro ⟨k, -, returned, minimal⟩
  have higher : (openChain [openRow 100 20 0, openRow 110 1 10]).maxPain = some 110 := by decide +kernel
  have paid := minimal 100 (by decide +kernel)
  rw [Option.some.inj (returned.symm.trans higher)] at paid
  exact absurd paid (by decide +kernel)

end OptionChain

end TradeX.V1
