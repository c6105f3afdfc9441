import Mathlib

/-! Computations that read a clock. The readings to come are their state; a computation that needs another
one when none is left has not come back yet. -/

namespace TradeX.Lib

abbrev Clocked (K : Type u) := StateT (List K) Option

namespace Clocked

variable {K : Type u} {α β : Type u}

def reading : Clocked K K
  | [] => none
  | now :: readings => some (now, readings)

/-- A sleep takes no reading; it lets the next one be later. -/
def sleep (_duration : K) : Clocked K PUnit := pure ⟨⟩

variable {x : Clocked K α} {f : α → Clocked K β} {a b : α} {readings rest : List K} {result : β × List K}

theorem bind_inv (run : (x >>= f) readings = some result) :
    ∃ a rest, x readings = some (a, rest) ∧ f a rest = some result := by
  obtain ⟨⟨a, rest⟩, first, second⟩ := Option.bind_eq_some_iff.mp run
  exact ⟨a, rest, first, second⟩

theorem pure_inv (run : (pure a : Clocked K α) readings = some (b, rest)) : b = a ∧ rest = readings := by
  obtain ⟨rfl, rfl⟩ := Prod.mk.inj (Option.some.inj run)
  exact ⟨rfl, rfl⟩

theorem reading_inv {now : K} (run : reading readings = some (now, rest)) : readings = now :: rest := by
  cases readings with
  | nil => cases run
  | cons first readings =>
    obtain ⟨rfl, rfl⟩ := Prod.mk.inj (Option.some.inj run)
    rfl

/-- What a computation leaves of the readings is the end of them. -/
def Forward (x : Clocked K α) : Prop := ∀ readings a rest, x readings = some (a, rest) → rest <:+ readings

theorem forward_reading : (reading : Clocked K K).Forward := by
  intro readings now rest run
  rw [reading_inv run]
  exact List.suffix_cons now rest

theorem forward_pure (a : α) : (pure a : Clocked K α).Forward := by
  intro readings b rest run
  rw [(pure_inv run).2]

theorem Forward.bind (first : x.Forward) (second : ∀ a, (f a).Forward) : (x >>= f).Forward := by
  intro readings b rest run
  obtain ⟨a, middle, before, after⟩ := bind_inv run
  exact (second a middle b rest after).trans (first readings a middle before)

end Clocked

end TradeX.Lib
