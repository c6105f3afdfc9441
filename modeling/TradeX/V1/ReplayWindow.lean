import TradeX.Lib.RingBuffer
import TradeX.V1.ReplayEngine

/-! The sliding windows of the replay engine as it keeps them: one array for each column of the bars, written
around a ring of the window's size, or a deque where the window has no size. The loop over one symbol has
its ring inlined; the loop over several has one for each symbol. -/

namespace TradeX.V1

open Lib

/-- The columns of a window. -/
structure BarColumns (size : Nat) where
  openPrice : Fin size → ℚ
  high : Fin size → ℚ
  low : Fin size → ℚ
  close : Fin size → ℚ
  volume : Fin size → ℤ
  symbol : Fin size → String
  timestamp : Fin size → ℚ

namespace BarColumns

variable {size : Nat}

def write (columns : BarColumns size) (i : Fin size) (bar : HistoricalBar) : BarColumns size where
  openPrice := Function.update columns.openPrice i bar.openPrice
  high := Function.update columns.high i bar.high
  low := Function.update columns.low i bar.low
  close := Function.update columns.close i bar.close
  volume := Function.update columns.volume i bar.volume
  symbol := Function.update columns.symbol i bar.symbol
  timestamp := Function.update columns.timestamp i bar.timestamp

/-- A row of the frame that is built of the columns. -/
def row (columns : BarColumns size) (i : Fin size) : HistoricalBar where
  symbol := columns.symbol i
  timestamp := columns.timestamp i
  openPrice := columns.openPrice i
  high := columns.high i
  low := columns.low i
  close := columns.close i
  volume := columns.volume i

theorem row_write (columns : BarColumns size) (i : Fin size) (bar : HistoricalBar) :
    (columns.write i bar).row = Function.update columns.row i bar := by
  funext j
  rcases eq_or_ne j i with rfl | other
  · simp only [row, write, Function.update_self]
  · simp only [row, write, Function.update_of_ne other]

end BarColumns

/-- The arrays of a ring, with its fill count and its head. -/
structure BarRing (size : Nat) where
  columns : BarColumns size
  filled : Nat
  head : Nat
  filled_le : filled ≤ size
  head_lt : head < size
  head_filling : filled < size → head = filled

namespace BarRing

variable {size : Nat}

/-- The ring whose items are the rows. -/
def rows (ring : BarRing size) : Ring HistoricalBar size where
  slots := ring.columns.row
  filled := ring.filled
  head := ring.head
  filled_le := ring.filled_le
  head_lt := ring.head_lt
  head_filling := ring.head_filling

/-- `np.empty` for each column, over whatever the memory has. -/
def allocate (memory : BarColumns size) (some_ : 0 < size) : BarRing size where
  columns := memory
  filled := 0
  head := 0
  filled_le := size.zero_le
  head_lt := some_
  head_filling := (Ring.empty memory.row some_).head_filling

/-- The bar is written at the head. -/
def write (ring : BarRing size) (bar : HistoricalBar) : BarRing size where
  columns := ring.columns.write ⟨ring.head, ring.head_lt⟩ bar
  filled := if ring.filled < size then ring.filled + 1 else ring.filled
  head := (ring.head + 1) % size
  filled_le := (ring.rows.push bar).filled_le
  head_lt := (ring.rows.push bar).head_lt
  head_filling := (ring.rows.push bar).head_filling

/-- The frame of the slices up to the fill count, or of the indices `np.arange(head - size, head) % size`. -/
def frame (ring : BarRing size) : List HistoricalBar := ring.rows.toList

theorem rows_write (ring : BarRing size) (bar : HistoricalBar) : (ring.write bar).rows = ring.rows.push bar := by
  simp only [rows, write, Ring.push, BarColumns.row_write]
  rfl

theorem rows_writeAll (ring : BarRing size) (bars : List HistoricalBar) :
    (bars.foldl write ring).rows = bars.foldl Ring.push ring.rows := by
  induction bars generalizing ring with
  | nil => rfl
  | cons bar bars ih => rw [List.foldl_cons, ih, rows_write, List.foldl_cons]

theorem frame_writeAll (memory : BarColumns size) (some_ : 0 < size) (bars : List HistoricalBar) :
    (bars.foldl write (allocate memory some_)).frame = bars.drop (bars.length - size) := by
  rw [frame, rows_writeAll]
  exact Ring.toList_pushAll memory.row some_ bars

end BarRing

/-- The state of a window: a ring, or the deque `data` of a window without a size. -/
inductive WindowState where
  | sized {size : Nat} (ring : BarRing size)
  | unlimited (data : List HistoricalBar)

/-- What the memory of fresh arrays has in it. -/
abbrev Memory := (size : Nat) → BarColumns size

namespace WindowState

/-- `new_window_state`. -/
def newWindowState (memory : Memory) (windowSize : ℤ) : WindowState :=
  if some_ : 0 < windowSize then .sized (BarRing.allocate (memory windowSize.toNat) (by omega)) else .unlimited []

/-- `append_bar`. -/
def appendBar (state : WindowState) (bar : HistoricalBar) : WindowState :=
  match state with
  | .sized ring => .sized (ring.write bar)
  | .unlimited data => .unlimited (data ++ [bar])

/-- `to_dataframe`. -/
def toDataframe : WindowState → List HistoricalBar
  | .sized ring => ring.frame
  | .unlimited data => data

theorem appendAll_sized {size : Nat} (ring : BarRing size) (bars : List HistoricalBar) :
    bars.foldl appendBar (.sized ring) = .sized (bars.foldl BarRing.write ring) := by
  induction bars generalizing ring with
  | nil => rfl
  | cons bar bars ih => rw [List.foldl_cons, appendBar, ih, List.foldl_cons]

theorem appendAll_unlimited (data bars : List HistoricalBar) :
    bars.foldl appendBar (.unlimited data) = .unlimited (data ++ bars) := by
  induction bars generalizing data with
  | nil => rw [List.append_nil, List.foldl_nil]
  | cons bar bars ih => rw [List.foldl_cons, appendBar, ih, List.append_assoc, List.singleton_append]

/-- The frame of a window state is the slice of the bars that were appended. -/
theorem toDataframe_appendAll (memory : Memory) (windowSize : ℤ) (bars : List HistoricalBar) :
    (bars.foldl appendBar (newWindowState memory windowSize)).toDataframe = buildWindow bars windowSize := by
  rw [newWindowState, buildWindow]
  split
  · rw [appendAll_sized, toDataframe, BarRing.frame_writeAll]
  · rw [appendAll_unlimited, toDataframe, List.nil_append]

end WindowState

/-- What `run_single` keeps of its window in locals: the arrays with `_filled` and `_head`, or `_window_data`.
Its statements are those of the window states, inlined. -/
structure SingleWindow where
  windowSize : ℤ
  buffer : WindowState

namespace SingleWindow

/-- The locals in front of the first bar. -/
def start (memory : Memory) (configured : ℤ) : SingleWindow :=
  let windowSize := if 0 < configured then configured else 0
  { windowSize := windowSize
    buffer := .newWindowState memory windowSize }

/-- The write of a bar. -/
def take (window : SingleWindow) (bar : HistoricalBar) : SingleWindow :=
  { window with buffer := window.buffer.appendBar bar }

/-- `window_df`. -/
def windowDf (window : SingleWindow) : List HistoricalBar := window.buffer.toDataframe

theorem buffer_takeAll (window : SingleWindow) (bars : List HistoricalBar) :
    (bars.foldl take window).buffer = bars.foldl WindowState.appendBar window.buffer := by
  induction bars generalizing window with
  | nil => rfl
  | cons bar bars ih => rw [List.foldl_cons, ih, take, List.foldl_cons]

theorem windowDf_takeAll (memory : Memory) (configured : ℤ) (bars : List HistoricalBar) :
    (bars.foldl take (start memory configured)).windowDf = buildWindow bars configured := by
  rw [windowDf, buffer_takeAll, start, WindowState.toDataframe_appendAll, buildWindow, buildWindow]
  split
  · rfl
  · rw [if_neg (lt_irrefl 0)]

end SingleWindow

/-- `window_states` of `run_multi_symbol` after one more bar. -/
def appendTo (memory : String → Memory) (windowSize : ℤ) (states : Dict String WindowState) (bar : HistoricalBar) :
    Dict String WindowState :=
  let state := (states.get bar.symbol).getD (.newWindowState (memory bar.symbol) windowSize)
  states.set bar.symbol (state.appendBar bar)

/-- The state of a symbol: none before its first bar, then what its own bars make of a new one. -/
theorem get_appendAll (memory : String → Memory) (windowSize : ℤ) (bars : List HistoricalBar) (symbol : String) :
    ((bars.foldl (appendTo memory windowSize) ∅).get symbol).getD (.newWindowState (memory symbol) windowSize) =
      (bars.filter fun bar => bar.symbol = symbol).foldl WindowState.appendBar
        (.newWindowState (memory symbol) windowSize) := by
  induction bars using List.reverseRecOn with
  | nil => rfl
  | append_singleton bars bar ih =>
    rw [List.foldl_append, List.foldl_cons, List.foldl_nil, appendTo, Dict.get_set, List.filter_append,
      List.foldl_append, ← ih]
    rcases eq_or_ne bar.symbol symbol with rfl | other
    · simp only [if_pos, Option.getD_some, List.filter_cons, decide_true, List.filter_nil, List.foldl_cons,
        List.foldl_nil]
    · rw [if_neg other.symm, List.filter_cons_of_neg (by simpa using other)]
      rfl

/-- The last bars of a list, as many as the window's size, or all of them where it has none. -/
def lastBars (bars : List HistoricalBar) (windowSize : ℤ) : List HistoricalBar :=
  if 0 < windowSize then bars.rtake (min bars.length windowSize.toNat) else bars

theorem buildWindow_lastBars (bars : List HistoricalBar) (windowSize : ℤ) :
    buildWindow bars windowSize = lastBars bars windowSize := by
  rw [buildWindow, lastBars]
  split
  · rw [List.rtake]
    congr 1
    omega
  · rfl

/-- Every window is the last bars that were appended to it: the one of a single symbol, a window state, the
window of one symbol among others, and the slice of the paper engine. -/
theorem windows_lastBars (memory : String → Memory) (windowSize : ℤ) (bars : List HistoricalBar) (symbol : String) :
    (bars.foldl SingleWindow.take (.start (memory symbol) windowSize)).windowDf = lastBars bars windowSize ∧
    (bars.foldl WindowState.appendBar (.newWindowState (memory symbol) windowSize)).toDataframe =
      lastBars bars windowSize ∧
    (((bars.foldl (appendTo memory windowSize) ∅).get symbol).getD
        (.newWindowState (memory symbol) windowSize)).toDataframe =
      lastBars (bars.filter fun bar => bar.symbol = symbol) windowSize ∧
    buildWindow bars windowSize = lastBars bars windowSize := by
  refine ⟨?_, ?_, ?_, buildWindow_lastBars bars windowSize⟩
  · rw [SingleWindow.windowDf_takeAll, buildWindow_lastBars]
  · rw [WindowState.toDataframe_appendAll, buildWindow_lastBars]
  · rw [get_appendAll, WindowState.toDataframe_appendAll, buildWindow_lastBars]

section

variable {σ φ : Type} (engine : ReplayEngine σ φ)

/-- The loop over one symbol keeps every bar in its window, which its frame is cut from. -/
theorem window_processBars (state : σ) (first : HistoricalBar) (bars : List HistoricalBar) :
    (engine.processBars state first bars).window = bars := by
  have appended (stream : ReplayStream σ) :
      (bars.foldl engine.processBar stream).window = stream.window ++ bars := by
    induction bars generalizing stream with
    | nil => rw [List.foldl_nil, List.append_nil]
    | cons bar bars ih =>
      have one : (engine.processBar stream bar).window = stream.window ++ [bar] := by
        simp only [ReplayEngine.processBar]
        split <;> rfl
      rw [List.foldl_cons, ih, one, List.append_assoc, List.singleton_append]
  exact appended _

/-- The features read the frame of the ring. -/
theorem windowDf_processBars (memory : Memory) (state : σ) (first : HistoricalBar) (bars : List HistoricalBar) :
    (bars.foldl SingleWindow.take (.start memory engine.config.windowSize)).windowDf =
      buildWindow (engine.processBars state first bars).window engine.config.windowSize := by
  rw [SingleWindow.windowDf_takeAll, window_processBars]

end

end TradeX.V1
