import TradeX.Lib.KeyedFold

/-! Two dictionaries compared key by key: every key of either is met once, so the comparison is empty
exactly when it is for every key, and turns with its two sides. -/

namespace TradeX.Lib.Dict

variable {κ : Type u} {α : Type v} {β : Type w} {γ : Type x} [DecidableEq κ]

/-- The keys of `theirs`, and behind them those that only `mine` has. -/
def eitherKeys (mine theirs : Dict κ α) : List κ :=
  theirs.keys ++ mine.keys.filter fun k => theirs.contains k = false

/-- What `between` makes of the two values of every key, in the order of `eitherKeys`. -/
def diff (between : κ → Option α → Option α → List β) (mine theirs : Dict κ α) : List β :=
  (theirs.entries.flatMap fun entry => between entry.1 (mine.get entry.1) (some entry.2)) ++
    ((mine.entries.filter fun entry => theirs.contains entry.1 = false).flatMap fun entry =>
      between entry.1 (some entry.2) none)

variable {between : κ → Option α → Option α → List β} {mine theirs : Dict κ α} {k : κ}

theorem mem_keys_iff {d : Dict κ α} : k ∈ d.keys ↔ d.contains k = true := by
  rw [contains, Option.isSome_iff_exists, keys, List.mem_map]
  constructor
  · rintro ⟨entry, member, rfl⟩
    exact ⟨entry.2, get_eq_some.mpr member⟩
  · rintro ⟨v, found⟩
    exact ⟨(k, v), get_eq_some.mp found, rfl⟩

theorem mem_eitherKeys : k ∈ mine.eitherKeys theirs ↔ mine.contains k = true ∨ theirs.contains k = true := by
  rw [eitherKeys, List.mem_append, List.mem_filter, mem_keys_iff, mem_keys_iff, decide_eq_true_eq]
  cases mine.contains k <;> cases theirs.contains k <;> simp

theorem eitherKeys_nodup : (mine.eitherKeys theirs).Nodup := by
  rw [eitherKeys, List.nodup_append']
  refine ⟨theirs.nodup, mine.nodup.filter _, fun k member other => ?_⟩
  have absent := (List.mem_filter.mp other).2
  rw [mem_keys_iff.mp member] at absent
  cases absent

theorem eitherKeys_swap : (mine.eitherKeys theirs).Perm (theirs.eitherKeys mine) := by
  rw [List.perm_ext_iff_of_nodup eitherKeys_nodup eitherKeys_nodup]
  intro k
  rw [mem_eitherKeys, mem_eitherKeys]
  exact or_comm

theorem diff_eq : diff between mine theirs =
    (mine.eitherKeys theirs).flatMap fun k => between k (mine.get k) (theirs.get k) := by
  rw [diff, eitherKeys, List.flatMap_append, keys, keys, List.filter_map, List.flatMap_map, List.flatMap_map]
  congr 1
  · apply List.flatMap_congr
    intro entry member
    rw [get_eq_some.mpr member]
  · apply List.flatMap_congr
    intro entry member
    obtain ⟨member, absent⟩ := List.mem_filter.mp member
    have missing : theirs.get entry.1 = none := by simpa [contains] using absent
    rw [get_eq_some.mpr member, missing]

theorem diff_eq_nil (silent : ∀ k, between k none none = []) :
    diff between mine theirs = [] ↔ ∀ k, between k (mine.get k) (theirs.get k) = [] := by
  rw [diff_eq, List.flatMap_eq_nil_iff]
  constructor
  · intro quiet k
    by_cases member : k ∈ mine.eitherKeys theirs
    · exact quiet k member
    · rw [mem_eitherKeys, not_or] at member
      simp only [contains, Bool.not_eq_true, Option.isSome_eq_false_iff, Option.isNone_iff_eq_none] at member
      rw [member.1, member.2]
      exact silent k
  · exact fun quiet k _ => quiet k

/-- A view of the items that does not tell the two sides apart sees the same items of the two comparisons. -/
theorem diff_swap {mark : β → γ}
    (symmetric : ∀ k a b, (between k a b).map mark = (between k b a).map mark) :
    ((diff between mine theirs).map mark).Perm ((diff between theirs mine).map mark) := by
  rw [diff_eq, diff_eq, List.map_flatMap, List.map_flatMap]
  have turned : (fun k => (between k (mine.get k) (theirs.get k)).map mark) =
      fun k => (between k (theirs.get k) (mine.get k)).map mark := funext fun k => symmetric k _ _
  rw [turned]
  exact eitherKeys_swap.flatMap_right _

end TradeX.Lib.Dict
