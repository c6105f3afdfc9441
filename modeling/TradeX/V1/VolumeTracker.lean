import TradeX.Lib.Dict

/-! The volumes of ticks made from the frames of a broker: frames that report the volume of the day so far and frames
that report the last trade alone. A report of the day that is below the last one starts a new count. -/

namespace TradeX.V1.Quotes

open Lib

structure CumulativeVolumeTracker where
  last : Dict String ℤ := ∅

/-- `tick_volume` -/
def CumulativeVolumeTracker.tickVolume (tracker : CumulativeVolumeTracker) (key : String) (reported : ℤ)
    (cumulative : Bool) : CumulativeVolumeTracker × ℤ :=
  if reported ≤ 0 then (tracker, 0)
  else if !cumulative then (tracker, reported)
  else
    let prev := (tracker.last.get key).getD 0
    let prev := if reported < prev then 0 else prev
    (⟨tracker.last.set key reported⟩, max (reported - prev) 0)

/-- What a frame holds of volumes, and the instrument that it is for. -/
structure VolumeFrame where
  symbol : String
  exchange : String
  volume : Option ℤ := none
  vtt : Option ℤ := none
  ltq : Option ℤ := none

namespace VolumeFrame

def key (frame : VolumeFrame) : String := frame.symbol ++ ":" ++ frame.exchange

def raw (frame : VolumeFrame) : ℤ := frame.volume.getD 0

/-- The volume of the day that the frame reports, where it reports one. -/
def reported (frame : VolumeFrame) : Option ℤ := frame.vtt.map fun vtt => if vtt = 0 then frame.raw else vtt

end VolumeFrame

/-- `tick_volume_from_frame` -/
def tickVolumeFromFrame (tracker : CumulativeVolumeTracker) (frame : VolumeFrame) : CumulativeVolumeTracker × ℤ :=
  match frame.reported with
  | some vtt => tracker.tickVolume frame.key vtt true
  | none =>
    match frame.ltq with
    | some ltq => tracker.tickVolume frame.key ltq false
    | none => (tracker, frame.raw)

/-- The sum of the volumes of the ticks of an instrument, of frames that come one after the other. -/
def totalVolume (key : String) (tracker : CumulativeVolumeTracker) : List VolumeFrame → ℤ
  | [] => 0
  | frame :: frames =>
    let ticked := tickVolumeFromFrame tracker frame
    (if frame.key = key then ticked.2 else 0) + totalVolume key ticked.1 frames

/-- The volumes of the day that are reported for an instrument. -/
def reports (key : String) (frames : List VolumeFrame) : List ℤ :=
  ((frames.filter fun frame => frame.key = key).filterMap VolumeFrame.reported).filter fun reported => 0 < reported

/-- What a frame adds that does not report the volume of the day. -/
def VolumeFrame.increment (frame : VolumeFrame) : ℤ :=
  match frame.reported with
  | some _ => 0
  | none =>
    match frame.ltq with
    | some ltq => max ltq 0
    | none => frame.raw

def increments (key : String) (frames : List VolumeFrame) : ℤ :=
  ((frames.filter fun frame => frame.key = key).map VolumeFrame.increment).sum

/-- The reports at which a count ends: a lower one comes next, or none. -/
def counts : List ℤ → List ℤ
  | [] => []
  | [last] => [last]
  | report :: next :: rest => if next < report then report :: counts (next :: rest) else counts (next :: rest)

/-- The largest of the volumes of the day. -/
def largest (reports : List ℤ) : ℤ := reports.foldr max 0

variable {key : String} {tracker : CumulativeVolumeTracker} {frame : VolumeFrame} {frames : List VolumeFrame}
  {all : List ℤ} {p r : ℤ}

/-- What a frame of another instrument does. -/
theorem last_other (other : frame.key ≠ key) :
    (tickVolumeFromFrame tracker frame).1.last.get key = tracker.last.get key := by
  rw [tickVolumeFromFrame]
  split
  · rw [CumulativeVolumeTracker.tickVolume]
    split
    · rfl
    · exact Dict.get_set_other _ _ _ _ (Ne.symm other)
  · split
    · rw [CumulativeVolumeTracker.tickVolume]
      split
      · rfl
      · rfl
    · rfl

/-- A frame that does not report the volume of the day leaves the tracker as it is. -/
theorem tickVolumeFromFrame_increment (none_ : frame.reported = none) :
    tickVolumeFromFrame tracker frame = (tracker, frame.increment) := by
  rw [tickVolumeFromFrame, VolumeFrame.increment, none_]
  dsimp only
  cases frame.ltq with
  | none => rfl
  | some ltq =>
    dsimp only
    rw [CumulativeVolumeTracker.tickVolume]
    split
    · next nothing => rw [max_eq_right nothing]
    · next some_ =>
      rw [max_eq_left (not_le.mp some_).le]
      rfl

/-- A report of the day adds what it is above the last one, and all of it where it is below. -/
theorem tickVolumeFromFrame_report {prev : ℤ} (reported : frame.reported = some r) (positive : 0 < r)
    (held : (tracker.last.get frame.key).getD 0 = prev) :
    (tickVolumeFromFrame tracker frame).2 = (if r < prev then r else r - prev) ∧
      (tickVolumeFromFrame tracker frame).1.last.get frame.key = some r := by
  simp only [tickVolumeFromFrame, reported, CumulativeVolumeTracker.tickVolume, if_neg positive.not_ge, held,
    Bool.not_true, Bool.false_eq_true, if_false, Dict.get_set_self, and_true]
  split
  · rw [sub_zero, max_eq_left positive.le]
  · next above => rw [max_eq_left (sub_nonneg.mpr (not_lt.mp above))]

theorem tickVolumeFromFrame_silent (reported : frame.reported = some r) (nothing : r ≤ 0) :
    tickVolumeFromFrame tracker frame = (tracker, 0) := by
  simp only [tickVolumeFromFrame, reported, CumulativeVolumeTracker.tickVolume, if_pos nothing]

/-- The volumes of an instrument sum up to its increments and the reports at which its counts end, less what was
counted before. -/
theorem totalVolume_eq (key : String) (frames : List VolumeFrame) (tracker : CumulativeVolumeTracker) {prev : ℤ}
    (held : (tracker.last.get key).getD 0 = prev) :
    totalVolume key tracker frames = increments key frames + ((counts (prev :: reports key frames)).sum - prev) := by
  induction frames generalizing tracker prev with
  | nil =>
    simp [totalVolume, increments, reports, counts]
  | cons frame frames ih =>
    rw [totalVolume]
    by_cases own : frame.key = key
    · subst own
      cases reported : frame.reported with
      | none =>
        have more : increments frame.key (frame :: frames) = frame.increment + increments frame.key frames := by
          simp [increments]
        have same : reports frame.key (frame :: frames) = reports frame.key frames := by simp [reports, reported]
        rw [if_pos rfl, tickVolumeFromFrame_increment reported, more, same, ih tracker held]
        ring
      | some r =>
        have same : increments frame.key (frame :: frames) = increments frame.key frames := by
          simp [increments, VolumeFrame.increment, reported]
        rw [if_pos rfl, same]
        by_cases positive : 0 < r
        · obtain ⟨volume, after⟩ := tickVolumeFromFrame_report reported positive held
          have more : reports frame.key (frame :: frames) = r :: reports frame.key frames := by
            simp [reports, reported, positive]
          rw [volume, more, ih _ (by rw [after, Option.getD_some]), counts]
          split
          · rw [List.sum_cons]
            ring
          · ring
        · have silent : reports frame.key (frame :: frames) = reports frame.key frames := by
            simp [reports, reported, positive]
          rw [tickVolumeFromFrame_silent reported (not_lt.mp positive), silent, ih tracker held]
          ring
    · have same : increments key (frame :: frames) = increments key frames := by simp [increments, own]
      have silent : reports key (frame :: frames) = reports key frames := by simp [reports, own]
      rw [if_neg own, same, silent, zero_add, ih _ ((congrArg (·.getD 0) (last_other own)).trans held)]

theorem largest_nonneg (all : List ℤ) : 0 ≤ largest all := by
  cases all with
  | nil => exact le_refl 0
  | cons r rest => exact (largest_nonneg rest).trans (le_max_right r _)

/-- The counts come to the largest report at least, and to no more exactly where no report is below the one before. -/
theorem largest_counts (nonneg : 0 ≤ p) (positive : ∀ r ∈ all, 0 < r) :
    largest (p :: all) ≤ (counts (p :: all)).sum ∧
      ((counts (p :: all)).sum ≤ largest (p :: all) ↔ (p :: all).IsChain (· ≤ ·)) := by
  induction all generalizing p with
  | nil =>
    have alone : largest [p] = p := max_eq_left nonneg
    have count : (counts [p]).sum = p := List.sum_singleton
    rw [alone, count]
    exact ⟨le_refl p, iff_of_true (le_refl p) (List.isChain_singleton p)⟩
  | cons r rest ih =>
    obtain ⟨here, later⟩ := List.forall_mem_cons.mp positive
    obtain ⟨least, exactly⟩ := ih here.le later
    have above : r ≤ largest (r :: rest) := le_max_left r _
    have split_ : largest (p :: r :: rest) = max p (largest (r :: rest)) := rfl
    rw [counts, split_, List.isChain_cons_cons]
    split
    · next below =>
      rw [List.sum_cons]
      refine ⟨by omega, iff_of_false (by omega) fun chain => absurd chain.1 (not_le.mpr below)⟩
    · next up =>
      have high : p ≤ largest (r :: rest) := (not_lt.mp up).trans above
      rw [max_eq_right high]
      exact ⟨least, exactly.trans (and_iff_right (not_lt.mp up)).symm⟩

/-- What the volumes of the ticks of an instrument come to, from a tracker that has seen none of its frames. -/
structure TicksCounted (key : String) (frames : List VolumeFrame) : Prop where
  total : totalVolume key {} frames = increments key frames + (counts (reports key frames)).sum
  ordered : (reports key frames).IsChain (· ≤ ·) →
    totalVolume key {} frames = increments key frames + largest (reports key frames)
  exceeded : ¬ (reports key frames).IsChain (· ≤ ·) →
    increments key frames + largest (reports key frames) < totalVolume key {} frames
  cumulative : (∀ frame ∈ frames, frame.key = key → frame.reported ≠ none) → increments key frames = 0

/-- A report that starts from nothing is above it. -/
theorem counts_zero (positive : ∀ r ∈ all, 0 < r) : (counts (0 :: all)).sum = (counts all).sum ∧
    largest (0 :: all) = largest all ∧ ((0 :: all).IsChain (· ≤ ·) ↔ all.IsChain (· ≤ ·)) := by
  refine ⟨?_, max_eq_right (largest_nonneg all), ?_⟩
  · cases all with
    | nil => rfl
    | cons r rest =>
      have above := positive r List.mem_cons_self
      rw [counts, if_neg above.not_gt]
  · cases all with
    | nil => exact iff_of_true (List.isChain_singleton 0) List.isChain_nil
    | cons r rest =>
      have above := positive r List.mem_cons_self
      rw [List.isChain_cons_cons]
      exact and_iff_right above.le

theorem increments_cumulative (reported : ∀ frame ∈ frames, frame.key = key → frame.reported ≠ none) :
    increments key frames = 0 := by
  apply List.sum_eq_zero
  intro volume member
  obtain ⟨frame, kept, rfl⟩ := List.mem_map.mp member
  obtain ⟨listed, own⟩ := List.mem_filter.mp kept
  obtain ⟨report, some_⟩ := Option.ne_none_iff_exists'.mp (reported frame listed (of_decide_eq_true own))
  rw [VolumeFrame.increment, some_]

/-- The sum is that of the increments and of the last reports of the counts, so that it is the largest report beside
the increments exactly where no report comes behind a larger one. -/
theorem ticks_counted (key : String) (frames : List VolumeFrame) : TicksCounted key frames := by
  have positive : ∀ r ∈ reports key frames, 0 < r := fun r member => of_decide_eq_true (List.mem_filter.mp member).2
  obtain ⟨sameCounts, sameLargest, sameChain⟩ := counts_zero positive
  obtain ⟨least, exactly⟩ := largest_counts (le_refl 0) positive
  rw [sameCounts, sameLargest] at least
  rw [sameCounts, sameLargest, sameChain] at exactly
  have total : totalVolume key {} frames = increments key frames + (counts (reports key frames)).sum := by
    rw [@totalVolume_eq key frames {} 0 rfl, sameCounts, sub_zero]
  refine ⟨total, ?_, ?_, increments_cumulative⟩
  · intro ordered
    rw [total, le_antisymm (exactly.mpr ordered) least]
  · intro disordered
    have more := not_le.mp (mt exactly.mp disordered)
    rw [total]
    omega

/-- Three cumulative frames, the second of which is late, count 2100 shares of 1100. -/
theorem late_frame_recounted :
    let frame (vtt : ℤ) : VolumeFrame := {
      symbol := "RELIANCE"
      exchange := "NSE"
      vtt := some vtt }
    let frames := [frame 1000, frame 900, frame 1100]
    frames.Perm [frame 900, frame 1000, frame 1100] ∧ largest (reports "RELIANCE:NSE" frames) = 1100 ∧
      ¬ totalVolume "RELIANCE:NSE" {} frames ≤ largest (reports "RELIANCE:NSE" frames) := by
  intro frame frames
  refine ⟨List.Perm.swap .., by decide, by decide⟩

end TradeX.V1.Quotes
