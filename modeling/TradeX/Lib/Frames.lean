import TradeX.Lib.LatestByKey

/-! Frames of rows that are put one behind the other and consolidated: when the order of the frames does not matter. -/

namespace TradeX.Lib

variable {α : Type u} {β : Type v} [LinearOrder β] {key : α → β} {k : β} {a : α}
  {frames others : List (List α)}

/-- The last row with a key is the last one of a frame. -/
theorem latestAt_flatten_inv (last : latestAt key k frames.flatten = some a) :
    ∃ f ∈ frames, latestAt key k f = some a := by
  induction frames with
  | nil => cases last
  | cons f rest ih =>
    rw [List.flatten_cons, latestAt_append, Option.or_eq_some_iff] at last
    rw [List.exists_mem_cons_iff]
    rcases last with later | ⟨-, first⟩
    · exact Or.inr (ih later)
    · exact Or.inl first

/-- No two frames have different last rows for one key. -/
def Uncontested (key : α → β) (frames : List (List α)) : Prop :=
  ∀ f ∈ frames, ∀ g ∈ frames, ∀ k a b, latestAt key k f = some a → latestAt key k g = some b → a = b

theorem Uncontested.perm (uncontested : Uncontested key frames) (perm : others.Perm frames) : Uncontested key others :=
  fun f inside g there => uncontested f (perm.mem_iff.mp inside) g (perm.mem_iff.mp there)

/-- Where no key is contested, the last row with a key is that of any frame that has it. -/
theorem Uncontested.latestAt_flatten (uncontested : Uncontested key frames) :
    latestAt key k frames.flatten = some a ↔ ∃ f ∈ frames, latestAt key k f = some a := by
  refine ⟨latestAt_flatten_inv, fun ⟨f, inside, last⟩ => ?_⟩
  obtain ⟨member, named⟩ := latestAt_mem last
  obtain ⟨b, found⟩ := latestAt_isSome.mpr ⟨a, List.mem_flatten_of_mem inside member, named⟩
  obtain ⟨g, there, other⟩ := latestAt_flatten_inv found
  rw [found, uncontested f inside g there k a b last other]

/-- The frames give one table in every order exactly when no key is contested. -/
theorem consolidated_perm_iff : (∀ others : List (List α), others.Perm frames →
      consolidated key others.flatten = consolidated key frames.flatten) ↔ Uncontested key frames := by
  constructor
  · intro same f inside g there k a b first second
    have last : ∀ f ∈ frames, ∀ a, latestAt key k f = some a → latestAt key k frames.flatten = some a := by
      intro f inside a own
      obtain ⟨front, back, split⟩ := List.append_of_mem inside
      -- the frame goes to the end
      have moved : (front ++ back ++ [f]).Perm frames := by
        rw [split]
        exact (List.perm_append_singleton f (front ++ back)).trans List.perm_middle.symm
      rw [← latestAt_consolidated, ← same _ moved, latestAt_consolidated, List.flatten_append, latestAt_append]
      simp [own]
    exact Option.some.inj ((last f inside a first).symm.trans (last g there b second))
  · intro uncontested others perm
    apply consolidated_congr
    intro k
    ext a
    rw [uncontested.latestAt_flatten, (uncontested.perm perm).latestAt_flatten]
    exact exists_congr fun f => and_congr_left' perm.mem_iff

end TradeX.Lib
