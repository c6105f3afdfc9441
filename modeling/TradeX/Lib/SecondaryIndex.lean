import Mathlib

/-! Records in a map by their key and in an index by their tag. The two are coherent when the index holds
the records of the map and holds every one that carries a tag; a write keeps them so exactly where it
leaves no other entry behind. -/

namespace TradeX.Lib

variable {κ : Type u} {τ : Type v} {ρ : Type w}

structure CoherentIndex (key : ρ → κ) (tag : ρ → Option τ) (records : κ → Option ρ) (index : τ → Option ρ) :
    Prop where
  keyed : ∀ k r, records k = some r → key r = k
  current : ∀ t r, index t = some r → records (key r) = some r
  tagged : ∀ k r, records k = some r → ∀ t ∈ tag r, index t = some r

namespace CoherentIndex

variable {key : ρ → κ} {tag : ρ → Option τ} {records : κ → Option ρ} {index : τ → Option ρ}

theorem empty : CoherentIndex key tag (fun _ => none) fun _ => none where
  keyed := by rintro k r ⟨⟩
  current := by rintro t r ⟨⟩
  tagged := by rintro k r ⟨⟩

/-- A key without a record has no entry. -/
theorem key_ne (coherent : CoherentIndex key tag records index) {k : κ} (absent : records k = none) {t : τ} {r : ρ}
    (filed : index t = some r) : key r ≠ k := by
  rintro rfl
  rw [coherent.current t r filed] at absent
  cases absent

section Writes

variable [DecidableEq κ] (coherent : CoherentIndex key tag records index) (r : ρ)
include coherent

/-- A record without a tag may be written where no entry is left with an older one. -/
theorem put_iff (untagged : tag r = none) : CoherentIndex key tag (Function.update records (key r) (some r)) index ↔
    ∀ t s, index t = some s → key s = key r → s = r := by
  constructor
  · intro after t s filed same
    have held := after.current t s filed
    rw [same, Function.update_self] at held
    exact (Option.some.inj held).symm
  · intro latest
    refine ⟨?_, ?_, ?_⟩
    · intro k s held
      by_cases here : k = key r
      · rw [here, Function.update_self] at held
        rw [← Option.some.inj held, here]
      · rw [Function.update_of_ne here] at held
        exact coherent.keyed k s held
    · intro t s filed
      by_cases same : key s = key r
      · rw [same, Function.update_self, latest t s filed same]
      · rw [Function.update_of_ne same]
        exact coherent.current t s filed
    · intro k s held t carried
      by_cases here : k = key r
      · rw [here, Function.update_self] at held
        rw [← Option.some.inj held, untagged] at carried
        cases carried
      · rw [Function.update_of_ne here] at held
        exact coherent.tagged k s held t carried

variable [DecidableEq τ] (t : τ)

/-- A record may be written and filed under a tag where no other tag is left with an older one, no other
record carries the tag, and its own tag is this one or has it already. -/
theorem file_iff :
    CoherentIndex key tag (Function.update records (key r) (some r)) (Function.update index t (some r)) ↔
      (∀ u s, u ≠ t → index u = some s → key s = key r → s = r) ∧
        (∀ s, index t = some s → key s = key r ∨ t ∉ tag s) ∧ ∀ u ∈ tag r, u = t ∨ index u = some r := by
  constructor
  · intro after
    refine ⟨?_, ?_, ?_⟩
    · intro u s other filed same
      have held := after.current u s (by rw [Function.update_of_ne other, filed])
      rw [same, Function.update_self] at held
      exact (Option.some.inj held).symm
    · intro s filed
      by_cases same : key s = key r
      · exact .inl same
      · right
        intro carried
        have held := coherent.current t s filed
        have moved := after.tagged (key s) s (by rw [Function.update_of_ne same, held]) t carried
        rw [Function.update_self] at moved
        exact same (congrArg key (Option.some.inj moved).symm)
    · intro u carried
      by_cases here : u = t
      · exact .inl here
      · have filed := after.tagged (key r) r (Function.update_self ..) u carried
        rw [Function.update_of_ne here] at filed
        exact .inr filed
  · rintro ⟨latest, owned, own⟩
    refine ⟨?_, ?_, ?_⟩
    · intro k s held
      by_cases here : k = key r
      · rw [here, Function.update_self] at held
        rw [← Option.some.inj held, here]
      · rw [Function.update_of_ne here] at held
        exact coherent.keyed k s held
    · intro u s filed
      by_cases here : u = t
      · rw [here, Function.update_self] at filed
        rw [← Option.some.inj filed, Function.update_self]
      · rw [Function.update_of_ne here] at filed
        by_cases same : key s = key r
        · rw [same, Function.update_self, latest u s here filed same]
        · rw [Function.update_of_ne same]
          exact coherent.current u s filed
    · intro k s held u carried
      by_cases here : k = key r
      · rw [here, Function.update_self] at held
        cases held
        by_cases tag_ : u = t
        · rw [tag_, Function.update_self]
        · rw [Function.update_of_ne tag_]
          exact (own u carried).resolve_left tag_
      · rw [Function.update_of_ne here] at held
        have filed := coherent.tagged k s held u carried
        by_cases tag_ : u = t
        · rw [tag_] at filed carried
          rcases owned s filed with same | free
          · exact absurd ((coherent.keyed k s held).symm.trans same) here
          · exact absurd carried free
        · rw [Function.update_of_ne tag_]
          exact filed

/-- A record of the map may be filed under one more tag that has no entry. -/
theorem refile {k : κ} (held : records k = some r) (unfiled : index t = none) :
    CoherentIndex key tag records (Function.update index t (some r)) := by
  have same := coherent.keyed k r held
  have kept : Function.update records (key r) (some r) = records := by
    rw [Function.update_eq_self_iff, same, held]
  rw [← kept]
  apply (coherent.file_iff r t).mpr
  refine ⟨?_, ?_, ?_⟩
  · intro u s _ filed equal
    have current := coherent.current u s filed
    rw [equal, same, held] at current
    exact (Option.some.inj current).symm
  · intro s filed
    rw [unfiled] at filed
    cases filed
  · exact fun u carried => .inr (coherent.tagged k r held u carried)

end Writes

end CoherentIndex

end TradeX.Lib
