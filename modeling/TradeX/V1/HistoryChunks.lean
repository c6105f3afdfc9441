import TradeX.Lib.Calendar
import TradeX.V1.ChunkPlanner

/-! The requests for the history of one symbol. A lookback that a broker does not serve at once is fetched from its
first day to today, in chunks of the broker's size. -/

namespace TradeX.V1.Datalake

open Lib History

/-- What a request asks for: a number of days back from today, or the days from a date to a date. -/
inductive HistoryWindow where
  | lookback (days : ℤ)
  | dates (fromDate toDate : Date)
  deriving DecidableEq

/-- The days of a window, both ends included. -/
def HistoryWindow.span (today : Date) : HistoryWindow → Span
  | lookback days => ⟨today.ordinal - days, today.ordinal⟩
  | dates fromDate toDate => ⟨fromDate.ordinal, toDate.ordinal⟩

structure HistoryRequest where
  symbol : String
  exchange : String
  timeframe : String
  window : HistoryWindow
  deriving DecidableEq

/-- A broker. Its capabilities may raise; `history` may raise, and returns a frame or `None`. -/
structure HistoryGateway (ρ : Type u) where
  capabilities : Option (List HistoricalWindowConstraint)
  history : HistoryRequest → Option (Option (List ρ))

/-- `_TIMEFRAME_ALIASES.get(timeframe, timeframe)`. -/
def timeframeAlias (timeframe : String) : String :=
  if timeframe = "1h" then "60m" else if timeframe = "1d" then "1D" else if timeframe = "1w" then "1W" else timeframe

/-- A `pd.Timedelta` of whole days; it raises where its nanoseconds do not fit. -/
def timedelta (days : ℤ) : Option ℤ := if days.natAbs ≤ 106751 then some days else none

/-- The requests that are made, in their order, and what is returned; none where an exception leaves or the loop does
not end. -/
structure Fetched (ρ : Type u) where
  requests : List HistoryRequest
  frame : Option (Option (List ρ))

namespace HistoryGateway

variable {ρ : Type u} (gateway : HistoryGateway ρ)

/-- `_max_chunk_days`. -/
def maxChunkDays (timeframe : String) : ℤ :=
  match gateway.capabilities with
  | none => 90
  | some windows =>
    match windows.find? fun window => window.timeframe = timeframeAlias timeframe with
    | some window => window.maxChunkDays
    | none => 90

/-- The loop over the chunks, for a number of rounds, with the requests that it makes. -/
def fetchChunks (request : HistoryWindow → HistoryRequest) (maxChunk : ℤ) (today : Date) :
    ℕ → Date → List HistoryRequest × Option (List ρ)
  | 0, _ => ([], none)
  | rounds + 1, chunkStart =>
    if chunkStart.ordinal < today.ordinal then
      match (timedelta maxChunk).bind chunkStart.addDays with
      | none => ([], none)
      | some far =>
        let chunkEnd := if today.ordinal < far.ordinal then today else far
        let chunk := request (.dates chunkStart chunkEnd)
        match gateway.history chunk, chunkEnd.addDays 1 with
        | some page, some next =>
          let (requests, rest) := fetchChunks request maxChunk today rounds next
          (chunk :: requests, rest.map (page.getD [] ++ ·))
        | _, _ => ([chunk], none)
    else ([], some [])

/-- `_fetch_history_chunked`. Where the chunks have a day, every round of the loop leads at least one day on. -/
def fetchHistoryChunked (today : Date) (symbol exchange timeframe : String) (lookbackDays : ℤ) : Fetched ρ :=
  let request := fun window => (⟨symbol, exchange, timeframe, window⟩ : HistoryRequest)
  let maxChunk := gateway.maxChunkDays timeframe
  if lookbackDays ≤ maxChunk then
    ⟨[request (.lookback lookbackDays)], gateway.history (request (.lookback lookbackDays))⟩
  else
    match (timedelta lookbackDays).bind fun days => today.addDays (-days) with
    | none => ⟨[], none⟩
    | some overallFrom =>
      let (requests, frame) := gateway.fetchChunks request maxChunk today (lookbackDays.toNat + 2) overallFrom
      ⟨requests, frame.map some⟩

end HistoryGateway

/-- The requests cover every day of the lookback, no day twice, and none has more days than a chunk may have. -/
structure ChunkLaws (today : Date) (lookbackDays maxChunk : ℤ) (requests : List HistoryRequest) : Prop where
  covers : ∀ day : ℤ, today.ordinal - lookbackDays ≤ day → day ≤ today.ordinal →
    ∃ request ∈ requests, day ∈ request.window.span today
  once : requests.Pairwise fun request other => (request.window.span today).Apart (other.window.span today)
  sized : ∀ request ∈ requests, (request.window.span today).length ≤ maxChunk

/-- The last day that the loop reaches from a day on. The chunks have one day more than their size, and where they fill
up the days in front of today, today has none. -/
def lastFetched (maxChunk today start : ℤ) : ℤ := if maxChunk + 1 ∣ today - start then today - 1 else today

section

variable {maxChunk start today : ℤ}

theorem lastFetched_bounds : today - 1 ≤ lastFetched maxChunk today start ∧
    lastFetched maxChunk today start ≤ today := by
  unfold lastFetched
  split <;> omega

/-- A chunk that reaches today leaves no day. -/
theorem lastFetched_today (positive : 0 < maxChunk) (before : start < today) (near : today ≤ start + maxChunk) :
    lastFetched maxChunk today start = today ∧ lastFetched maxChunk today (today + 1) = today := by
  constructor
  · refine if_neg fun divides => ?_
    have least := Int.le_of_dvd (by omega) divides
    omega
  · refine if_neg fun divides => ?_
    have unit : maxChunk + 1 ∣ 1 := by
      rw [← Int.dvd_neg]
      convert divides using 1
      omega
    have least := Int.le_of_dvd (by omega) unit
    omega

theorem lastFetched_next : lastFetched maxChunk today (start + maxChunk + 1) = lastFetched maxChunk today start := by
  have shifted : maxChunk + 1 ∣ today - (start + maxChunk + 1) ↔ maxChunk + 1 ∣ today - start := by
    rw [show today - (start + maxChunk + 1) = today - start - (maxChunk + 1) by omega]
    exact dvd_sub_self_right
  unfold lastFetched
  simp only [shifted]

end

/-- A step of a number of days, where their `Timedelta` does not raise, is that step. -/
theorem timedelta_step {days : ℤ} {move : ℤ → Option Date} {reached : Date}
    (moved : (timedelta days).bind move = some reached) : move days = some reached := by
  unfold timedelta at moved
  split at moved
  · exact moved
  · cases moved

namespace HistoryGateway

variable {ρ : Type u} {gateway : HistoryGateway ρ} {request : HistoryWindow → HistoryRequest} {maxChunk : ℤ}
  {today start far : Date} {rounds : ℕ}

theorem chunk_spans (positive : 0 < maxChunk) (before : start.ordinal < today.ordinal)
    (reached : (timedelta maxChunk).bind start.addDays = some far) {stop : Date}
    (ends : stop = if today.ordinal < far.ordinal then today else far) :
    (start.ordinal : ℤ) ≤ stop.ordinal ∧ (stop.ordinal : ℤ) ≤ lastFetched maxChunk today.ordinal start.ordinal ∧
      (stop.ordinal : ℤ) - start.ordinal + 1 ≤ maxChunk + 1 ∧
      lastFetched maxChunk today.ordinal (stop.ordinal + 1) = lastFetched maxChunk today.ordinal start.ordinal := by
  have ordinal := Date.addDays_iff.mp (timedelta_step reached)
  have bounds := @lastFetched_bounds maxChunk start.ordinal today.ordinal
  by_cases beyond : today.ordinal ≤ far.ordinal
  · have same : stop.ordinal = today.ordinal := by
      rw [ends]
      split <;> omega
    obtain ⟨mine, next⟩ := @lastFetched_today maxChunk start.ordinal today.ordinal positive (by omega) (by omega)
    rw [same, mine, next]
    omega
  · have same : (stop.ordinal : ℤ) = start.ordinal + maxChunk := by
      rw [ends, if_neg (by omega)]
      exact ordinal
    rw [same, lastFetched_next]
    omega

/-- The requests that the loop makes are the first chunks of its days; all of them where it returns. -/
theorem fetchChunks_tiles (positive : 0 < maxChunk) (chunked : ∀ window, (request window).window = window)
    (inside : start.ordinal ≤ today.ordinal + 1) :
    ∃ rest, Span.Tiles (maxChunk + 1) (lastFetched maxChunk today.ordinal start.ordinal) start.ordinal
      ((gateway.fetchChunks request maxChunk today rounds start).1.map (fun made => made.window.span today) ++ rest) ∧
      ((gateway.fetchChunks request maxChunk today rounds start).2.isSome = true → rest = []) := by
  -- where an exception leaves, the days that are left can be cut into chunks
  have left : ∀ current last : ℤ, ∃ rest, Span.Tiles (maxChunk + 1) last current rest := by
    intro current last
    obtain ⟨rest, -, tiles⟩ := Span.cut_tiles (show 0 < maxChunk + 1 by omega) ⟨current, last⟩
    exact ⟨rest, tiles⟩
  induction rounds generalizing start with
  | zero =>
    obtain ⟨rest, tiles⟩ := left start.ordinal (lastFetched maxChunk today.ordinal start.ordinal)
    exact ⟨rest, tiles, nofun⟩
  | succ rounds ih =>
    rw [fetchChunks]
    split
    · next before =>
      split
      · obtain ⟨rest, tiles⟩ := left start.ordinal (lastFetched maxChunk today.ordinal start.ordinal)
        exact ⟨rest, tiles, nofun⟩
      · next far reached =>
        obtain ⟨begins, ends, sized, last⟩ := chunk_spans positive before reached rfl
        have bounds := @lastFetched_bounds maxChunk start.ordinal today.ordinal
        dsimp only
        generalize (if today.ordinal < far.ordinal then today else far) = stop at begins ends sized last ⊢
        split
        · next page next _ followed =>
          have ordinal := Date.addDays_iff.mp followed
          obtain ⟨rest, tiles, returned⟩ := @ih next (by omega)
          rw [ordinal, last] at tiles
          refine ⟨rest, ?_, fun whole => returned (by simpa using whole)⟩
          rw [List.map_cons, chunked, List.cons_append]
          exact .more begins ends sized tiles
        · obtain ⟨rest, tiles⟩ := left (stop.ordinal + 1) (lastFetched maxChunk today.ordinal start.ordinal)
          refine ⟨rest, ?_, nofun⟩
          rw [List.map_cons, chunked]
          exact .more begins ends sized tiles
    · next past =>
      refine ⟨[], .done ?_, fun _ => rfl⟩
      rcases Nat.eq_or_lt_of_le (not_lt.mp past) with same | behind
      · rw [← same, lastFetched, sub_self, if_pos (dvd_zero _)]
        omega
      · have bounds := @lastFetched_bounds maxChunk start.ordinal today.ordinal
        omega

/-- The loop ends where the gateway answers and no date leaves the calendar. -/
theorem fetchChunks_returns (positive : 0 < maxChunk) (fits : maxChunk ≤ 106751)
    (answers : ∀ made, (gateway.history made).isSome = true) (room : (today.ordinal : ℤ) + maxChunk ≤ maxOrdinal)
    (inside : start.ordinal ≤ today.ordinal + 1) (enough : today.ordinal + 1 < start.ordinal + rounds) :
    (gateway.fetchChunks request maxChunk today rounds start).2.isSome = true := by
  induction rounds generalizing start with
  | zero => omega
  | succ rounds ih =>
    rw [fetchChunks]
    split
    · next before =>
      have counted : timedelta maxChunk = some maxChunk := if_pos (by omega)
      obtain ⟨far, added⟩ := @Date.addDays_exists start maxChunk (by omega) (by omega)
      have reached : (timedelta maxChunk).bind start.addDays = some far := by
        rw [counted, Option.bind_some, added]
      obtain ⟨begins, ends, -, -⟩ := chunk_spans positive before reached rfl
      have bounds := @lastFetched_bounds maxChunk start.ordinal today.ordinal
      rw [reached]
      dsimp only
      generalize (if today.ordinal < far.ordinal then today else far) = stop at begins ends ⊢
      obtain ⟨page, answered⟩ := Option.isSome_iff_exists.mp (answers (request (.dates start stop)))
      obtain ⟨next, followed⟩ := @Date.addDays_exists stop 1 (by omega) (by omega)
      have ordinal := Date.addDays_iff.mp followed
      rw [answered, followed]
      dsimp only
      rw [Option.isSome_map]
      exact @ih next (by omega) (by omega)
    · rfl

/-- In front of today, the first request has a day more than its size. -/
theorem fetchChunks_first (chunked : ∀ window, (request window).window = window)
    (before : (start.ordinal : ℤ) + maxChunk < today.ordinal) {made : HistoryRequest} {rest : List HistoryRequest}
    (requests : (gateway.fetchChunks request maxChunk today rounds start).1 = made :: rest) :
    (made.window.span today).length = maxChunk + 1 := by
  cases rounds with
  | zero => cases requests
  | succ rounds =>
    rw [fetchChunks] at requests
    split at requests
    · split at requests
      · cases requests
      · next far reached =>
        have ordinal := Date.addDays_iff.mp (timedelta_step reached)
        have near : ¬today.ordinal < far.ordinal := by omega
        have first : made = request (.dates start far) := by
          rw [if_neg near] at requests
          dsimp only at requests
          split at requests
          · exact (List.cons.inj requests).1.symm
          · exact (List.cons.inj requests).1.symm
        rw [first, chunked]
        change (far.ordinal : ℤ) - start.ordinal + 1 = _
        omega
    · cases requests

variable (gateway today) {symbol exchange timeframe : String} {lookbackDays : ℤ}

/-- The requests of a fetch in chunks, from the first day of the lookback on. -/
theorem fetchHistoryChunked_tiles (positive : 0 < gateway.maxChunkDays timeframe)
    (needed : gateway.maxChunkDays timeframe < lookbackDays) :
    ∃ rest, Span.Tiles (gateway.maxChunkDays timeframe + 1)
      (lastFetched (gateway.maxChunkDays timeframe) today.ordinal (today.ordinal - lookbackDays))
      (today.ordinal - lookbackDays)
      ((gateway.fetchHistoryChunked today symbol exchange timeframe lookbackDays).requests.map
        (fun made => made.window.span today) ++ rest) ∧
      ((gateway.fetchHistoryChunked today symbol exchange timeframe lookbackDays).frame.isSome = true → rest = []) := by
  simp only [fetchHistoryChunked, if_neg (not_le.mpr needed)]
  cases began : (timedelta lookbackDays).bind fun days => today.addDays (-days) with
  | none =>
    obtain ⟨rest, -, tiles⟩ := Span.cut_tiles (show 0 < gateway.maxChunkDays timeframe + 1 by omega)
      ⟨today.ordinal - lookbackDays,
        lastFetched (gateway.maxChunkDays timeframe) today.ordinal (today.ordinal - lookbackDays)⟩
    exact ⟨rest, tiles, nofun⟩
  | some overallFrom =>
    have moved := timedelta_step began
    have ordinal := Date.addDays_iff.mp moved
    obtain ⟨rest, tiles, returned⟩ := @fetchChunks_tiles ρ gateway
      (fun window => ⟨symbol, exchange, timeframe, window⟩) (gateway.maxChunkDays timeframe) today overallFrom
      (lookbackDays.toNat + 2) positive (fun _ => rfl) (by omega)
    rw [ordinal, ← sub_eq_add_neg] at tiles
    refine ⟨rest, tiles, fun whole => returned ?_⟩
    simpa using whole

/-- The fetch returns where the gateway answers and the dates are in the calendar. -/
theorem fetchHistoryChunked_returns (positive : 0 < gateway.maxChunkDays timeframe)
    (needed : gateway.maxChunkDays timeframe < lookbackDays) (fits : lookbackDays ≤ 106751)
    (past : lookbackDays < today.ordinal) (room : (today.ordinal : ℤ) + gateway.maxChunkDays timeframe ≤ maxOrdinal)
    (answers : ∀ made, (gateway.history made).isSome = true) :
    (gateway.fetchHistoryChunked today symbol exchange timeframe lookbackDays).frame.isSome = true := by
  have last := (Date.ordinal_bounds today).2
  have counted : timedelta lookbackDays = some lookbackDays := if_pos (by omega)
  obtain ⟨overallFrom, added⟩ := @Date.addDays_exists today (-lookbackDays) (by omega) (by omega)
  have ordinal := Date.addDays_iff.mp added
  have began : (timedelta lookbackDays).bind (fun days => today.addDays (-days)) = some overallFrom := by
    rw [counted, Option.bind_some, added]
  simp only [fetchHistoryChunked, if_neg (not_le.mpr needed), began, Option.isSome_map]
  exact fetchChunks_returns positive (by omega) answers room (by omega) (by omega)

/-- The first request of a fetch in chunks, where one is made, has a day more than a chunk may have. -/
theorem fetchHistoryChunked_first (needed : gateway.maxChunkDays timeframe < lookbackDays) {made : HistoryRequest}
    {rest : List HistoryRequest}
    (requests : (gateway.fetchHistoryChunked today symbol exchange timeframe lookbackDays).requests = made :: rest) :
    (made.window.span today).length = gateway.maxChunkDays timeframe + 1 := by
  simp only [fetchHistoryChunked, if_neg (not_le.mpr needed)] at requests
  split at requests
  · cases requests
  · next overallFrom began =>
    have moved := timedelta_step began
    have ordinal := Date.addDays_iff.mp moved
    refine fetchChunks_first (fun _ => rfl) ?_ requests
    omega

end HistoryGateway

/-- The requests of a fetch in chunks never meet what they have to: the first one has a day too much. No day is asked
for twice, and no request has more than that day too much. Where the fetch returns, all days of the lookback are
covered exactly where chunks of one day more do not fill up the lookback; where they do, today is not asked for. -/
theorem chunks_oversized {ρ : Type u} (gateway : HistoryGateway ρ) (today : Date) {symbol exchange timeframe : String}
    {lookbackDays : ℤ} (positive : 0 < gateway.maxChunkDays timeframe)
    (needed : gateway.maxChunkDays timeframe < lookbackDays) :
    let fetched := gateway.fetchHistoryChunked today symbol exchange timeframe lookbackDays
    ¬ChunkLaws today lookbackDays (gateway.maxChunkDays timeframe) fetched.requests ∧
      (fetched.requests.Pairwise fun made other => (made.window.span today).Apart (other.window.span today)) ∧
      (∀ made ∈ fetched.requests, (made.window.span today).length ≤ gateway.maxChunkDays timeframe + 1) ∧
      (fetched.frame.isSome = true →
        ((∀ day : ℤ, today.ordinal - lookbackDays ≤ day → day ≤ today.ordinal →
            ∃ made ∈ fetched.requests, day ∈ made.window.span today) ↔
          ¬gateway.maxChunkDays timeframe + 1 ∣ lookbackDays)) := by
  intro fetched
  obtain ⟨rest, tiles, returned⟩ := @HistoryGateway.fetchHistoryChunked_tiles ρ gateway today symbol exchange timeframe
    lookbackDays positive needed
  refine ⟨fun laws => ?_, ?_, fun made member => ?_, fun whole => ?_⟩
  · obtain ⟨made, member, -⟩ := laws.covers today.ordinal (by omega) (le_refl _)
    obtain ⟨first, others, requests⟩ := List.exists_cons_of_ne_nil (List.ne_nil_of_mem member)
    have long := HistoryGateway.fetchHistoryChunked_first gateway today needed requests
    have short := laws.sized first (requests ▸ List.mem_cons_self)
    omega
  · exact List.pairwise_map.mp (List.pairwise_append.mp tiles.apart).1
  · exact (tiles.within (List.mem_append_left _ (List.mem_map_of_mem member))).2.2.2
  · obtain rfl := returned whole
    rw [List.append_nil] at tiles
    have covered : ∀ day : ℤ, (∃ made ∈ fetched.requests, day ∈ made.window.span today) ↔
        today.ordinal - lookbackDays ≤ day ∧
          day ≤ lastFetched (gateway.maxChunkDays timeframe) today.ordinal (today.ordinal - lookbackDays) := by
      intro day
      rw [← tiles.covers day]
      simp only [List.mem_map, exists_exists_and_eq_and]
      rfl
    simp only [covered]
    rw [lastFetched, sub_sub_cancel]
    constructor
    · intro all divides
      have reached := (all today.ordinal (by omega) (le_refl _)).2
      rw [if_pos divides] at reached
      omega
    · intro rest day begins ends
      rw [if_neg rest]
      exact ⟨begins, ends⟩

/-- A broker that takes 90 days at a time, and answers. -/
def ninetyDays : HistoryGateway ℕ := ⟨some [⟨"1m", 1825, 90⟩], fun _ => some (some [])⟩

theorem newYear_valid :
    (0 < 2026 ∧ 2026 < 10000) ∧ (0 < 1 ∧ 1 ≤ 12) ∧ 0 < 5 ∧ 5 ≤ daysIn 2026 1 := by decide

def newYear : Date := ⟨2026, 1, 5, newYear_valid⟩

theorem chunks_oversized_ninetyDays :
    let fetched := ninetyDays.fetchHistoryChunked newYear "RELIANCE" "NSE" "1m" 182
    ¬ChunkLaws newYear 182 (ninetyDays.maxChunkDays "1m") fetched.requests ∧
      (fetched.requests.Pairwise fun made other => (made.window.span newYear).Apart (other.window.span newYear)) ∧
      (∀ made ∈ fetched.requests, (made.window.span newYear).length ≤ ninetyDays.maxChunkDays "1m" + 1) ∧
      (fetched.frame.isSome = true →
        ((∀ day : ℤ, newYear.ordinal - 182 ≤ day → day ≤ newYear.ordinal →
            ∃ made ∈ fetched.requests, day ∈ made.window.span newYear) ↔
          ¬ninetyDays.maxChunkDays "1m" + 1 ∣ 182)) :=
  chunks_oversized ninetyDays newYear (by decide +kernel) (by decide +kernel)

/-- Of a lookback of 182 days each of the two requests has 91 days, and neither has today. -/
theorem today_not_requested :
    (ninetyDays.fetchHistoryChunked newYear "RELIANCE" "NSE" "1m" 182).requests.map HistoryRequest.window =
      [.dates ⟨2025, 7, 7, by decide⟩ ⟨2025, 10, 5, by decide⟩,
        .dates ⟨2025, 10, 6, by decide⟩ ⟨2026, 1, 4, by decide⟩] ∧
    ¬ChunkLaws newYear 182 90 (ninetyDays.fetchHistoryChunked newYear "RELIANCE" "NSE" "1m" 182).requests := by
  have windows : (ninetyDays.fetchHistoryChunked newYear "RELIANCE" "NSE" "1m" 182).requests.map HistoryRequest.window =
      [.dates ⟨2025, 7, 7, by decide⟩ ⟨2025, 10, 5, by decide⟩,
        .dates ⟨2025, 10, 6, by decide⟩ ⟨2026, 1, 4, by decide⟩] := by decide +kernel
  refine ⟨windows, fun laws => ?_⟩
  obtain ⟨made, member, inside⟩ := laws.covers newYear.ordinal (by decide) (le_refl _)
  have window := List.mem_map_of_mem member (f := HistoryRequest.window)
  rw [windows] at window
  rcases List.mem_pair.mp window with first | second
  · rw [first] at inside
    exact absurd inside (by decide)
  · rw [second] at inside
    exact absurd inside (by decide)

end TradeX.V1.Datalake
