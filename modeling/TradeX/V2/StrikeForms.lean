import TradeX.V2.InstrumentIdText
import TradeX.Lib.Dict

/-! The ids of one contract whose strikes are one number in different forms. They are one id, one text and
one entry of the position cache where the number is whole or its form is the same, and nowhere else. -/

namespace TradeX.V2.ValueObjects.InstrumentId

open Lib

variable {runtime : Runtime} {ν : Type}

/-- `TradingCache.set_position`: the key is the text of the id. -/
def setPosition (cache : Dict (List Char) ν) (id : InstrumentId runtime) (position : ν) :
    Except StrikeError (Dict (List Char) ν) :=
  id.str.map fun key => cache.set key position

/-- `TradingCache.get_position`. -/
def getPosition (cache : Dict (List Char) ν) (id : InstrumentId runtime) : Except StrikeError (Option ν) :=
  id.str.map cache.get

variable (id other : InstrumentId runtime)

/-- The ids of one contract: the strikes are the same number. -/
def SameContract : Prop :=
  id.exchange = other.exchange ∧ id.underlying = other.underlying ∧ id.expiry = other.expiry ∧
    id.right = other.right ∧ ∃ strike strike', id.strike = some strike ∧ other.strike = some strike' ∧
      strike.numEq strike'

variable {id other}

/-- What the text of a strike is made of: the number where it is whole, and else the form too. -/
theorem strikeText_eq_iff {strike strike' : PyDecimal} (same : strike.numEq strike') :
    (∃ text, strikeText strike = .ok text ∧ strikeText strike' = .ok text) ↔
      ∃ negative coefficient exponent, strike = .finite negative coefficient exponent ∧
        (PyDecimal.Integral coefficient exponent ∨ strike' = strike) := by
  cases strike with
  | infinity negative =>
    constructor
    · rintro ⟨text, written, -⟩
      cases written
    · rintro ⟨negative', coefficient, exponent, form, -⟩
      cases form
  | nan negative signaling payload => exact absurd rfl same.1
  | finite negative coefficient exponent =>
    obtain ⟨-, number⟩ := same
    cases strike' with
    | infinity negative' => cases number
    | nan negative' signaling payload => cases number
    | finite negative' coefficient' exponent' =>
      have wholes : PyDecimal.Integral coefficient exponent ↔ PyDecimal.Integral coefficient' exponent' := by
        rw [@PyDecimal.integral_iff negative, @PyDecimal.integral_iff negative', number]
      constructor
      · rintro ⟨text, written, written'⟩
        refine ⟨negative, coefficient, exponent, rfl, ?_⟩
        by_cases whole : PyDecimal.Integral coefficient exponent
        · exact .inl whole
        · right
          rw [strikeText_fraction whole] at written
          rw [strikeText_fraction (mt wholes.mpr whole)] at written'
          apply PyDecimal.text_injective
          exact (Except.ok.inj written').trans (Except.ok.inj written).symm
      · rintro ⟨negative₁, coefficient₁, exponent₁, form, cause⟩
        cases form
        rcases cause with whole | form
        · have values : PyDecimal.toInt negative coefficient exponent =
              PyDecimal.toInt negative' coefficient' exponent' := by
            rw [PyDecimal.toInt_of_integral whole, PyDecimal.toInt_of_integral (wholes.mp whole)] at number
            exact_mod_cast Option.some.inj number
          refine ⟨_, strikeText_integral whole, ?_⟩
          rw [values]
          exact strikeText_integral (wholes.mp whole)
        · obtain ⟨text, -, written, -⟩ := @strikeText_finite negative coefficient exponent posix
          exact ⟨text, written, form ▸ written⟩

private instance (id other : InstrumentId posix) : Decidable (SameContract id other) :=
  match left : id.strike, right : other.strike with
  | some strike, some strike' =>
    decidable_of_iff (id.exchange = other.exchange ∧ id.underlying = other.underlying ∧ id.expiry = other.expiry ∧
      id.right = other.right ∧ strike.numEq strike') (by simp [SameContract, left, right])
  | none, _ => .isFalse (by simp [SameContract, left])
  | _, none => .isFalse (by simp [SameContract, right])

end TradeX.V2.ValueObjects.InstrumentId
