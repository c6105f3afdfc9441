import TradeX.V1.ChunkPlanner

/-! The merge of the bars that several chunks have for one time. The first bar of a time is kept; a later
bar in conflict with the kept one is recorded, and replaces it only where the strategy prefers the newest.
Decimals are rationals behind the rounding of the decimal context. -/

namespace TradeX.V1.History

open Lib

structure DataProvenance where
  brokerId : String
  fetchedAt : ℚ
  requestId : String
  deriving DecidableEq, Repr

/-- A bar; its time is an instant in UTC. -/
structure HistoricalBar where
  instrument : InstrumentRef
  timeframe : String
  eventTime : ℚ
  openPrice : ℚ
  high : ℚ
  low : ℚ
  close : ℚ
  volume : ℤ
  provenance : DataProvenance
  barIndex : ℕ := 0
  deriving DecidableEq, Repr

inductive MergeStrategy where
  | preferPrimary
  | preferNewestProvenance
  | failOnConflict
  deriving DecidableEq, Repr

structure ConflictRecord where
  barEventTime : ℚ
  instrument : String
  timeframe : String
  primaryBroker : String
  secondaryBroker : String
  primaryClose : ℚ
  secondaryClose : ℚ
  deltaPct : ℚ
  resolution : MergeStrategy
  deriving DecidableEq, Repr

/-- The rounding of the decimal context, the strategy and the tolerance of a merge. -/
structure ChunkMerger where
  round : ℚ → ℚ
  strategy : MergeStrategy
  tolerance : ℚ

namespace ChunkMerger

variable (merger : ChunkMerger)

/-- The difference of a value to the one it is compared with, relative to that one. -/
def deltaPct (existing value : ℚ) : ℚ :=
  merger.round (|merger.round (value - existing)| / if existing ≠ 0 then existing else 1)

def conflict (existing bar : HistoricalBar) : ConflictRecord where
  barEventTime := bar.eventTime
  instrument := bar.instrument.str
  timeframe := bar.timeframe
  primaryBroker := existing.provenance.brokerId
  secondaryBroker := bar.provenance.brokerId
  primaryClose := existing.close
  secondaryClose := bar.close
  deltaPct := merger.deltaPct existing.close bar.close
  resolution := merger.strategy

/-- One round of the loop over the bars. -/
def mergeBar (state : Dict ℚ HistoricalBar × List ConflictRecord) (bar : HistoricalBar) :
    Dict ℚ HistoricalBar × List ConflictRecord :=
  match state.1.get bar.eventTime with
  | none => (state.1.set bar.eventTime bar, state.2)
  | some existing =>
    if merger.deltaPct existing.close bar.close ≤ merger.tolerance then state
    else
      (match merger.strategy with
        | .preferPrimary => state.1
        | .preferNewestProvenance =>
          if existing.provenance.fetchedAt < bar.provenance.fetchedAt then state.1.set bar.eventTime bar else state.1
        | .failOnConflict => state.1,
        state.2 ++ [merger.conflict existing bar])

def merge (bars : List HistoricalBar) : List HistoricalBar × List ConflictRecord :=
  let (merged, conflicts) := bars.foldl merger.mergeBar (.empty, [])
  (sortedBy HistoricalBar.eventTime merged.values, conflicts)

/-- Beyond the tolerance in the close. -/
def Clashes (existing bar : HistoricalBar) : Prop := merger.tolerance < merger.deltaPct existing.close bar.close

instance (existing bar : HistoricalBar) : Decidable (merger.Clashes existing bar) := inferInstanceAs (Decidable (_ < _))

/-- Beyond the tolerance in one of the four prices. -/
def Differs (existing bar : HistoricalBar) : Prop :=
  merger.tolerance < merger.deltaPct existing.openPrice bar.openPrice ∨
  merger.tolerance < merger.deltaPct existing.high bar.high ∨
  merger.tolerance < merger.deltaPct existing.low bar.low ∨ merger.Clashes existing bar

instance (existing bar : HistoricalBar) : Decidable (merger.Differs existing bar) := inferInstanceAs (Decidable (_ ∨ _))

/-- The bar that stands for a time behind one more bar. -/
def resolve (existing bar : HistoricalBar) : HistoricalBar :=
  if merger.Clashes existing bar ∧ merger.strategy = .preferNewestProvenance ∧
      existing.provenance.fetchedAt < bar.provenance.fetchedAt then bar
  else existing

/-- The bars of one time that met the kept bar of their turn in conflict. -/
def clashes (existing : HistoricalBar) : List HistoricalBar → List (HistoricalBar × HistoricalBar)
  | [] => []
  | bar :: rest =>
    (if merger.Clashes existing bar then [(existing, bar)] else []) ++ clashes (merger.resolve existing bar) rest

section

variable {merger} {existing bar : HistoricalBar} {rest : List HistoricalBar}

theorem resolve_cases (merger : ChunkMerger) (existing bar : HistoricalBar) : merger.resolve existing bar = existing ∨
    merger.resolve existing bar = bar ∧ merger.Clashes existing bar ∧ merger.strategy = .preferNewestProvenance ∧
      existing.provenance.fetchedAt < bar.provenance.fetchedAt := by
  simp only [resolve]
  split
  · next replaced => exact .inr ⟨rfl, replaced⟩
  · exact .inl rfl

theorem resolve_mem (rest : List HistoricalBar) : merger.resolve existing bar ∈ existing :: bar :: rest := by
  rcases resolve_cases merger existing bar with same | ⟨same, -⟩
  · rw [same]
    exact List.mem_cons_self
  · rw [same]
    exact List.mem_cons_of_mem _ List.mem_cons_self

/-- The bars that can be kept from the second bar on. -/
theorem resolve_subset : merger.resolve existing bar :: rest ⊆ existing :: bar :: rest :=
  List.cons_subset.mpr ⟨resolve_mem rest, fun _ later => List.mem_cons_of_mem _ (List.mem_cons_of_mem _ later)⟩

theorem resolve_agreeing (agree : ¬merger.Clashes existing bar) : merger.resolve existing bar = existing :=
  if_neg fun replaced => agree replaced.1

theorem resolve_first (primary : merger.strategy ≠ .preferNewestProvenance) : merger.resolve existing bar = existing :=
  if_neg fun replaced => primary replaced.2.1

theorem resolve_newer : existing.provenance.fetchedAt ≤ (merger.resolve existing bar).provenance.fetchedAt := by
  rcases resolve_cases merger existing bar with same | ⟨same, -, -, newer⟩
  · rw [same]
  · rw [same]
    exact newer.le

theorem resolve_newest (newest : merger.strategy = .preferNewestProvenance) (clash : merger.Clashes existing bar) :
    bar.provenance.fetchedAt ≤ (merger.resolve existing bar).provenance.fetchedAt := by
  simp only [resolve]
  split
  · exact le_refl _
  · next kept =>
    by_contra older
    exact kept ⟨clash, newest, not_le.mp older⟩

theorem kept_mem : rest.foldl merger.resolve existing ∈ existing :: rest := by
  induction rest generalizing existing with
  | nil => exact List.mem_cons_self
  | cons bar rest ih => exact resolve_subset ih

theorem kept_first (primary : merger.strategy ≠ .preferNewestProvenance) : rest.foldl merger.resolve existing = existing := by
  induction rest generalizing existing with
  | nil => rfl
  | cons bar rest ih => rw [List.foldl_cons, resolve_first primary, ih]

theorem kept_newer : existing.provenance.fetchedAt ≤ (rest.foldl merger.resolve existing).provenance.fetchedAt := by
  induction rest generalizing existing with
  | nil => exact le_refl _
  | cons bar rest ih => exact resolve_newer.trans ih

/-- Where different bars are in conflict, the kept one is the newest. -/
theorem kept_newest (newest : merger.strategy = .preferNewestProvenance)
    (clash : ∀ a ∈ existing :: rest, ∀ b ∈ existing :: rest, a ≠ b → merger.Clashes a b) :
    ∀ bar ∈ existing :: rest, bar.provenance.fetchedAt ≤ (rest.foldl merger.resolve existing).provenance.fetchedAt := by
  induction rest generalizing existing with
  | nil =>
    intro bar member
    rw [List.mem_singleton.mp member]
    exact le_refl _
  | cons next rest ih =>
    have bounds := @ih (merger.resolve existing next) fun a first b second =>
      clash a (resolve_subset first) b (resolve_subset second)
    intro bar member
    rw [List.foldl_cons]
    rcases List.mem_cons.mp member with rfl | behind
    · exact resolve_newer.trans (bounds _ List.mem_cons_self)
    rcases List.mem_cons.mp behind with rfl | later
    · by_cases same : existing = bar
      · rw [same]
        exact resolve_newer.trans kept_newer
      · have met := clash existing List.mem_cons_self bar (List.mem_cons_of_mem _ List.mem_cons_self) same
        exact (resolve_newest newest met).trans (bounds _ List.mem_cons_self)
    · exact bounds bar (List.mem_cons_of_mem _ later)

/-- There is a conflict exactly when one of the bars is in conflict with the first. -/
theorem clashes_ne_nil : merger.clashes existing rest ≠ [] ↔ ∃ bar ∈ rest, merger.Clashes existing bar := by
  induction rest generalizing existing with
  | nil => simp [clashes]
  | cons bar rest ih =>
    by_cases clash : merger.Clashes existing bar
    · simp [clashes, clash]
    · simp only [clashes, clash, if_false, List.nil_append, resolve_agreeing clash, List.exists_mem_cons_iff, false_or]
      exact ih

theorem clashes_append (existing : HistoricalBar) (rest more : List HistoricalBar) :
    merger.clashes existing (rest ++ more) =
      merger.clashes existing rest ++ merger.clashes (rest.foldl merger.resolve existing) more := by
  induction rest generalizing existing with
  | nil => rfl
  | cons bar rest ih => rw [List.cons_append, clashes, clashes, ih, List.append_assoc, List.foldl_cons]

theorem clashes_sound {first second : HistoricalBar} (met : (first, second) ∈ merger.clashes existing rest) :
    first ∈ existing :: rest ∧ second ∈ rest ∧ merger.Clashes first second ∧
      (merger.strategy = .preferNewestProvenance →
        first.provenance.fetchedAt ≤ (rest.foldl merger.resolve existing).provenance.fetchedAt ∧
        second.provenance.fetchedAt ≤ (rest.foldl merger.resolve existing).provenance.fetchedAt) := by
  induction rest generalizing existing with
  | nil => cases met
  | cons bar rest ih =>
    rcases List.mem_append.mp met with here | later
    · by_cases clash : merger.Clashes existing bar
      · rw [if_pos clash, List.mem_singleton] at here
        cases here
        refine ⟨List.mem_cons_self, List.mem_cons_self, clash, ?_⟩
        intro newest
        exact ⟨resolve_newer.trans kept_newer, (resolve_newest newest clash).trans kept_newer⟩
      · rw [if_neg clash] at here
        cases here
    · obtain ⟨held, listed, clash, bounds⟩ := ih later
      exact ⟨resolve_subset held, List.mem_cons_of_mem _ listed, clash, bounds⟩

end

section

variable {bars : List HistoricalBar} {bar : HistoricalBar} {time : ℚ} {state : Dict ℚ HistoricalBar × List ConflictRecord}

/-- What a merge holds about one time: the kept bar and the conflicts. -/
def viewAt (time : ℚ) (state : Dict ℚ HistoricalBar × List ConflictRecord) : Option HistoricalBar × List ConflictRecord :=
  (state.1.get time, state.2.filter fun conflict => conflict.barEventTime = time)

def mergeAt (kept : Option HistoricalBar × List ConflictRecord) (bar : HistoricalBar) :
    Option HistoricalBar × List ConflictRecord :=
  match kept.1 with
  | none => (some bar, kept.2)
  | some existing => (some (merger.resolve existing bar),
      kept.2 ++ if merger.Clashes existing bar then [merger.conflict existing bar] else [])

variable {merger}

theorem mergeBar_own (own : bar.eventTime = time) :
    viewAt time (merger.mergeBar state bar) = merger.mergeAt (viewAt time state) bar := by
  subst own
  simp only [mergeBar, viewAt, mergeAt]
  cases held : state.1.get bar.eventTime with
  | none => simp only [Dict.get_set, if_true]
  | some existing =>
    by_cases agree : merger.deltaPct existing.close bar.close ≤ merger.tolerance
    · have quiet : ¬merger.Clashes existing bar := not_lt.mpr agree
      simp only [if_pos agree, held, resolve_agreeing quiet, if_neg quiet, List.append_nil]
    · have clash : merger.Clashes existing bar := not_le.mp agree
      have recorded : (state.2 ++ [merger.conflict existing bar]).filter (fun conflict =>
          conflict.barEventTime = bar.eventTime) =
          (state.2.filter fun conflict => conflict.barEventTime = bar.eventTime) ++ [merger.conflict existing bar] := by
        rw [List.filter_append, List.filter_cons_of_pos (by simp [conflict]), List.filter_nil]
      simp only [if_neg agree, recorded, resolve, clash, if_true, true_and]
      cases merger.strategy with
      | preferPrimary => simp [held]
      | failOnConflict => simp [held]
      | preferNewestProvenance =>
        by_cases newer : existing.provenance.fetchedAt < bar.provenance.fetchedAt
        · simp [newer]
        · simp [newer, held]

theorem mergeBar_other (other : bar.eventTime ≠ time) : viewAt time (merger.mergeBar state bar) = viewAt time state := by
  have elsewhere (value : HistoricalBar) : (state.1.set bar.eventTime value).get time = state.1.get time :=
    (Dict.get_set _ _ _ _).trans (if_neg fun same => other same.symm)
  simp only [mergeBar, viewAt]
  cases held : state.1.get bar.eventTime with
  | none => simp only [elsewhere]
  | some existing =>
    by_cases agree : merger.deltaPct existing.close bar.close ≤ merger.tolerance
    · simp only [if_pos agree]
    · have recorded : (state.2 ++ [merger.conflict existing bar]).filter (fun conflict => conflict.barEventTime = time) =
          state.2.filter fun conflict => conflict.barEventTime = time := by
        rw [List.filter_append, List.filter_cons_of_neg (by simp [conflict, other]),
          List.filter_nil, List.append_nil]
      simp only [if_neg agree, recorded]
      cases merger.strategy with
      | preferPrimary => rfl
      | failOnConflict => rfl
      | preferNewestProvenance =>
        by_cases newer : existing.provenance.fetchedAt < bar.provenance.fetchedAt
        · simp only [if_pos newer, elsewhere]
        · simp only [if_neg newer]

theorem mergeAt_foldl (existing : HistoricalBar) (rest : List HistoricalBar) (conflicts : List ConflictRecord) :
    rest.foldl merger.mergeAt (some existing, conflicts) = (some (rest.foldl merger.resolve existing),
      conflicts ++ (merger.clashes existing rest).map fun pair => merger.conflict pair.1 pair.2) := by
  induction rest generalizing existing conflicts with
  | nil => simp [clashes]
  | cons bar rest ih =>
    rw [List.foldl_cons, List.foldl_cons, mergeAt, ih, clashes, List.map_append, ← List.append_assoc]
    by_cases clash : merger.Clashes existing bar
    · simp [clash]
    · simp [clash]

/-- What the merge holds about a time is decided by the bars of that time in their order. -/
theorem merge_at (bars : List HistoricalBar) (time : ℚ) :
    viewAt time (bars.foldl merger.mergeBar (.empty, [])) =
      (bars.filter fun bar => bar.eventTime = time).foldl merger.mergeAt (none, []) := by
  apply foldl_view (viewAt time) fun _ => True
  · intro _ _ _
    trivial
  · intro _ _ _ own
    exact mergeBar_own own
  · intro _ _ _ other
    exact mergeBar_other other
  · trivial

/-- The bars of one time, in their order. -/
def barsAt (time : ℚ) (bars : List HistoricalBar) : List HistoricalBar := bars.filter fun bar => bar.eventTime = time

theorem mem_barsAt : bar ∈ barsAt time bars ↔ bar ∈ bars ∧ bar.eventTime = time := by
  simp only [barsAt, List.mem_filter, decide_eq_true_eq]

theorem merge_held : (bars.foldl merger.mergeBar (.empty, [])).1.get time = some bar ↔
    ∃ first rest, barsAt time bars = first :: rest ∧ rest.foldl merger.resolve first = bar := by
  have held : (bars.foldl merger.mergeBar (.empty, [])).1.get time =
      ((barsAt time bars).foldl merger.mergeAt (none, [])).1 := congrArg Prod.fst (merge_at bars time)
  rw [held]
  cases barsAt time bars with
  | nil => simp
  | cons first rest =>
    rw [List.foldl_cons, mergeAt, mergeAt_foldl, Option.some.injEq]
    constructor
    · intro same
      exact ⟨first, rest, rfl, same⟩
    · rintro ⟨_, _, same, kept⟩
      cases same
      exact kept

theorem merge_conflicts : (merger.merge bars).2.filter (fun conflict => conflict.barEventTime = time) =
    ((barsAt time bars).foldl merger.mergeAt (none, [])).2 :=
  congrArg Prod.snd (merge_at bars time)

theorem merge_recorded {first : HistoricalBar} {rest : List HistoricalBar} (listed : barsAt time bars = first :: rest) :
    (merger.merge bars).2.filter (fun conflict => conflict.barEventTime = time) =
      (merger.clashes first rest).map fun pair => merger.conflict pair.1 pair.2 := by
  rw [merge_conflicts, listed, List.foldl_cons, mergeAt, mergeAt_foldl, List.nil_append]

theorem merge_unrecorded (absent : barsAt time bars = []) :
    (merger.merge bars).2.filter (fun conflict => conflict.barEventTime = time) = [] := by
  rw [merge_conflicts, absent]
  rfl

theorem kept_listed {first : HistoricalBar} {rest : List HistoricalBar} (listed : barsAt time bars = first :: rest) :
    rest.foldl merger.resolve first ∈ bars ∧ (rest.foldl merger.resolve first).eventTime = time :=
  mem_barsAt.mp (listed.symm ▸ kept_mem)

theorem mem_merge : bar ∈ (merger.merge bars).1 ↔
    ∃ first rest, barsAt bar.eventTime bars = first :: rest ∧ rest.foldl merger.resolve first = bar := by
  rw [← merge_held, merge, (sortedBy_perm _ _).mem_iff, Dict.values, List.mem_map]
  constructor
  · rintro ⟨⟨time, kept⟩, entry, rfl⟩
    have held := Dict.get_eq_some.mpr entry
    obtain ⟨first, rest, listed, chosen⟩ := merge_held.mp held
    have named : kept.eventTime = time := chosen ▸ (kept_listed listed).2
    exact named ▸ held
  · intro held
    exact ⟨_, Dict.get_eq_some.mp held, rfl⟩

theorem merge_increasing : (merger.merge bars).1.Pairwise fun bar other => bar.eventTime < other.eventTime := by
  apply sortedBy_strict
  have named : (bars.foldl merger.mergeBar (.empty, [])).1.values.map HistoricalBar.eventTime =
      (bars.foldl merger.mergeBar (.empty, [])).1.keys := by
    rw [Dict.values, Dict.keys, List.map_map]
    apply List.map_congr_left
    rintro ⟨time, kept⟩ entry
    obtain ⟨first, rest, listed, chosen⟩ := merge_held.mp (Dict.get_eq_some.mpr entry)
    exact chosen ▸ (kept_listed listed).2
  rw [named]
  exact (bars.foldl merger.mergeBar (.empty, [])).1.nodup

theorem merge_nodup : (merger.merge bars).1.Nodup := by
  apply merge_increasing.imp
  rintro bar _ below rfl
  exact lt_irrefl _ below

theorem merge_complete (member : bar ∈ bars) : ∃ kept ∈ (merger.merge bars).1, kept.eventTime = bar.eventTime := by
  have own : bar ∈ barsAt bar.eventTime bars := mem_barsAt.mpr ⟨member, rfl⟩
  cases listed : barsAt bar.eventTime bars with
  | nil =>
    rw [listed] at own
    cases own
  | cons first rest =>
    have same := (kept_listed listed : rest.foldl merger.resolve first ∈ bars ∧ _).2
    exact ⟨_, mem_merge.mpr ⟨first, rest, same.symm ▸ listed, rfl⟩, same⟩

/-- Different bars of a time differ beyond the tolerance and were fetched at different times. -/
def Distinguished (merger : ChunkMerger) (bars : List HistoricalBar) : Prop :=
  ∀ bar ∈ bars, ∀ other ∈ bars, bar.eventTime = other.eventTime → bar ≠ other →
    merger.Clashes bar other ∧ bar.provenance.fetchedAt ≠ other.provenance.fetchedAt

theorem mem_merge_distinguished (newest : merger.strategy = .preferNewestProvenance) (distinct : merger.Distinguished bars) :
    bar ∈ (merger.merge bars).1 ↔ bar ∈ bars ∧
      ∀ other ∈ bars, other.eventTime = bar.eventTime → other.provenance.fetchedAt ≤ bar.provenance.fetchedAt := by
  have bounds : ∀ {time first rest}, barsAt time bars = first :: rest → ∀ other ∈ bars, other.eventTime = time →
      other.provenance.fetchedAt ≤ (rest.foldl merger.resolve first).provenance.fetchedAt := by
    intro time first rest listed other member same
    refine kept_newest newest ?_ other (listed ▸ mem_barsAt.mpr ⟨member, same⟩)
    intro a first b second differ
    obtain ⟨listedA, sameA⟩ := mem_barsAt.mp (listed.symm ▸ first)
    obtain ⟨listedB, sameB⟩ := mem_barsAt.mp (listed.symm ▸ second)
    exact (distinct a listedA b listedB (sameA.trans sameB.symm) differ).1
  rw [mem_merge]
  constructor
  · rintro ⟨first, rest, listed, chosen⟩
    refine ⟨chosen ▸ (kept_listed listed).1, ?_⟩
    intro other member same
    exact chosen ▸ bounds listed other member same
  · rintro ⟨member, latest⟩
    have own : bar ∈ barsAt bar.eventTime bars := mem_barsAt.mpr ⟨member, rfl⟩
    cases listed : barsAt bar.eventTime bars with
    | nil =>
      rw [listed] at own
      cases own
    | cons first rest =>
      refine ⟨first, rest, rfl, ?_⟩
      obtain ⟨kept, sameTime⟩ : rest.foldl merger.resolve first ∈ bars ∧ _ := kept_listed listed
      have below := latest _ kept sameTime
      have above := bounds listed bar member rfl
      by_contra differ
      exact (distinct _ kept bar member sameTime differ).2 (le_antisymm below above)

/-- The laws of a merge. A difference in one of the prices is one to the bar it is compared with. -/
structure MergeLaws (merger : ChunkMerger) (bars : List HistoricalBar) : Prop where
  increasing : (merger.merge bars).1.Pairwise fun bar other => bar.eventTime < other.eventTime
  chosen : ∀ bar ∈ (merger.merge bars).1, bar ∈ bars
  complete : ∀ bar ∈ bars, ∃ kept ∈ (merger.merge bars).1, kept.eventTime = bar.eventTime
  /-- Where no two bars of a time differ in open, high or low alone, there is a conflict of the time exactly
  when one of its bars differs from the first. -/
  reported : ∀ time, (∀ bar ∈ barsAt time bars, ∀ other ∈ barsAt time bars, merger.Differs bar other →
      merger.Clashes bar other) →
    ((∃ conflict ∈ (merger.merge bars).2, conflict.barEventTime = time) ↔
      ∃ first rest, barsAt time bars = first :: rest ∧ ∃ bar ∈ rest, merger.Differs first bar)
  /-- A conflict is of two bars of its time, and the newest strategy keeps one that is no older than both. -/
  met : ∀ conflict ∈ (merger.merge bars).2, ∃ existing ∈ bars, ∃ bar ∈ bars, conflict = merger.conflict existing bar ∧
    existing.eventTime = bar.eventTime ∧ merger.Differs existing bar ∧
    (merger.strategy = .preferNewestProvenance → ∀ kept ∈ (merger.merge bars).1, kept.eventTime = bar.eventTime →
      existing.provenance.fetchedAt ≤ kept.provenance.fetchedAt ∧ bar.provenance.fetchedAt ≤ kept.provenance.fetchedAt)
  primary : merger.strategy ≠ .preferNewestProvenance →
    ∀ kept ∈ (merger.merge bars).1, (barsAt kept.eventTime bars).head? = some kept
  /-- Where different bars of a time are told apart, the newest strategy keeps the newest, in any order of the bars. -/
  newest : merger.strategy = .preferNewestProvenance → merger.Distinguished bars →
    (∀ kept ∈ (merger.merge bars).1, ∀ bar ∈ bars, bar.eventTime = kept.eventTime →
      bar.provenance.fetchedAt ≤ kept.provenance.fetchedAt) ∧
    ∀ bars', bars.Perm bars' → (merger.merge bars').1 = (merger.merge bars).1

theorem merge_reported (time : ℚ) (closesTell : ∀ bar ∈ barsAt time bars, ∀ other ∈ barsAt time bars,
      merger.Differs bar other → merger.Clashes bar other) :
    (∃ conflict ∈ (merger.merge bars).2, conflict.barEventTime = time) ↔
      ∃ first rest, barsAt time bars = first :: rest ∧ ∃ bar ∈ rest, merger.Differs first bar := by
  have ofTime : (∃ conflict ∈ (merger.merge bars).2, conflict.barEventTime = time) ↔
      (merger.merge bars).2.filter (fun conflict => conflict.barEventTime = time) ≠ [] := by
    simp [List.filter_eq_nil_iff]
  rw [ofTime]
  cases listed : barsAt time bars with
  | nil => simp [merge_unrecorded listed]
  | cons first rest =>
    rw [merge_recorded listed, ne_eq, List.map_eq_nil_iff, ← ne_eq, clashes_ne_nil]
    constructor
    · rintro ⟨bar, later, clash⟩
      exact ⟨first, rest, rfl, bar, later, .inr (.inr (.inr clash))⟩
    · rintro ⟨_, _, same, bar, later, differs⟩
      cases same
      rw [listed] at closesTell
      exact ⟨bar, later, closesTell first List.mem_cons_self bar (List.mem_cons_of_mem _ later) differs⟩

theorem merge_met {conflict : ConflictRecord} (member : conflict ∈ (merger.merge bars).2) :
    ∃ existing ∈ bars, ∃ bar ∈ bars, conflict = merger.conflict existing bar ∧
      existing.eventTime = bar.eventTime ∧ merger.Differs existing bar ∧
      (merger.strategy = .preferNewestProvenance → ∀ kept ∈ (merger.merge bars).1, kept.eventTime = bar.eventTime →
        existing.provenance.fetchedAt ≤ kept.provenance.fetchedAt ∧
        bar.provenance.fetchedAt ≤ kept.provenance.fetchedAt) := by
  have own : conflict ∈ (merger.merge bars).2.filter fun other => other.barEventTime = conflict.barEventTime :=
    List.mem_filter.mpr ⟨member, decide_eq_true rfl⟩
  cases listed : barsAt conflict.barEventTime bars with
  | nil =>
    rw [merge_unrecorded listed] at own
    cases own
  | cons first rest =>
    rw [merge_recorded listed] at own
    obtain ⟨⟨existing, bar⟩, met, recorded⟩ := List.mem_map.mp own
    obtain ⟨held, later, clash, bounds⟩ := clashes_sound met
    obtain ⟨heldIn, heldAt⟩ := mem_barsAt.mp (listed.symm ▸ held)
    obtain ⟨barIn, barAt⟩ := mem_barsAt.mp (listed.symm ▸ List.mem_cons_of_mem first later)
    refine ⟨existing, heldIn, bar, barIn, recorded.symm, heldAt.trans barAt.symm, .inr (.inr (.inr clash)), ?_⟩
    intro newest kept stands same
    obtain ⟨first', rest', listed', chosen⟩ := mem_merge.mp stands
    rw [same, barAt, listed] at listed'
    cases listed'
    exact chosen ▸ bounds newest

theorem Distinguished.perm (distinct : merger.Distinguished bars) {bars' : List HistoricalBar} (perm : bars.Perm bars') :
    merger.Distinguished bars' := by
  intro bar member other member'
  exact distinct bar (perm.mem_iff.mpr member) other (perm.mem_iff.mpr member')

theorem merge_laws (merger : ChunkMerger) (bars : List HistoricalBar) : MergeLaws merger bars where
  increasing := merge_increasing
  chosen := by
    intro bar member
    obtain ⟨first, rest, listed, chosen⟩ := mem_merge.mp member
    exact chosen ▸ (kept_listed listed).1
  complete := fun _ => merge_complete
  reported := merge_reported
  met := fun _ => merge_met
  primary := by
    intro primary kept member
    obtain ⟨first, rest, listed, chosen⟩ := mem_merge.mp member
    rw [listed, List.head?_cons, ← chosen, kept_first primary]
  newest := by
    intro newest distinct
    constructor
    · intro kept member
      exact ((mem_merge_distinguished newest distinct).mp member).2
    · intro bars' perm
      have same : ∀ bar, bar ∈ (merger.merge bars').1 ↔ bar ∈ (merger.merge bars).1 := by
        intro bar
        rw [mem_merge_distinguished newest distinct, mem_merge_distinguished newest (distinct.perm perm)]
        simp only [perm.mem_iff]
      apply eq_of_perm_of_ranked HistoricalBar.eventTime
      · exact (List.perm_ext_iff_of_nodup merge_nodup merge_nodup).mpr same
      · exact List.pairwise_map.mpr (merge_increasing.imp ne_of_lt)
      · exact merge_increasing.imp le_of_lt
      · exact merge_increasing.imp le_of_lt

end

/-- A bar of four equal prices. -/
def flatBar (price fetchedAt : ℚ) : HistoricalBar where
  instrument := ⟨"RELIANCE", "NSE"⟩
  timeframe := "1D"
  eventTime := 0
  openPrice := price
  high := price
  low := price
  close := price
  volume := 1
  provenance := ⟨"dhan", fetchedAt, "r1"⟩

def newestWithinTenthPercent : ChunkMerger := ⟨id, .preferNewestProvenance, 1 / 1000⟩

/-- A newer bar within the tolerance is passed by, so a later conflict keeps a bar that is not the newest;
which one is kept depends on the order, and two bars that differ need not meet. -/
theorem agreeing_bar_hides_a_newer_one :
    (newestWithinTenthPercent.merge [flatBar 100 1, flatBar (2001 / 20) 3, flatBar 200 2]).1 = [flatBar 200 2] ∧
    (newestWithinTenthPercent.merge [flatBar (2001 / 20) 3, flatBar 100 1, flatBar 200 2]).1 = [flatBar (2001 / 20) 3] ∧
    (newestWithinTenthPercent.merge [flatBar 100 1, flatBar (10009 / 100) 2, flatBar (1999 / 20) 3]).2 = [] ∧
    newestWithinTenthPercent.Differs (flatBar (10009 / 100) 2) (flatBar (1999 / 20) 3) := by
  decide +kernel

end ChunkMerger

end TradeX.V1.History
