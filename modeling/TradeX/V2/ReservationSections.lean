import TradeX.Lib.Interleaving
import TradeX.V2.IdempotencyCache

/-! The idempotency cache under any number of callers. A step is one locked section of a call, or
the clock reading that `reserve` makes before its first section. -/

namespace TradeX.V2

open Lib TwoThreads

/-- What has happened to a correlation id: a reservation granted, a reservation cleared, a result stored. -/
inductive CacheMark where
  | granted (cid : String)
  | cleared (cid : String)
  | committed (cid : String)
  deriving DecidableEq, Repr

/-- The cache with its history, newest first. -/
structure SharedCache (T : Type u) where
  cache : IdempotencyCache T
  history : List CacheMark := []

/-- The call that a caller is in, between two of its sections. -/
inductive CacheCall where
  | idle
  | checking (cid : String) (now : ℚ)
  | grabbing (cid : String) (now : ℚ)
  | dropping (cid : String)
  deriving DecidableEq, Repr

inductive CacheSection (T : Type u) where
  | get (cid : String) (now : ℚ)
  /-- `reserve`: the clock, the section of the results, the section of the reservations. -/
  | clock (cid : String) (now : ℚ)
  | check
  | grab
  /-- `commit`: the section of the results, the section of the reservations. -/
  | store (cid : String) (value : T) (now : ℚ)
  | drop
  | clearReservation (cid : String)
  deriving DecidableEq, Repr

namespace SharedCache

variable {T : Type u}

def act (shared : SharedCache T) (call : CacheCall) : CacheSection T → Option (SharedCache T × CacheCall)
  | .get cid now =>
    match call with
    | .idle => some ({ shared with cache := (shared.cache.get cid now).1 }, .idle)
    | _ => none
  | .clock cid now =>
    match call with
    | .idle => some (shared, .checking cid now)
    | _ => none
  | .check =>
    match call with
    | .checking cid now => some (shared, if shared.cache.finished cid now then .idle else .grabbing cid now)
    | _ => none
  | .grab =>
    match call with
    | .grabbing cid now =>
      let grabbed := shared.cache.grab cid now
      some (⟨grabbed.1, if grabbed.2 then .granted cid :: shared.history else shared.history⟩, .idle)
    | _ => none
  | .store cid value now =>
    match call with
    | .idle => some (⟨shared.cache.storeCommitted cid now value, .committed cid :: shared.history⟩, .dropping cid)
    | _ => none
  | .drop =>
    match call with
    | .dropping cid => some ({ shared with cache := shared.cache.clearReservation cid }, .idle)
    | _ => none
  | .clearReservation cid =>
    match call with
    | .idle => some (⟨shared.cache.clearReservation cid, .cleared cid :: shared.history⟩, .idle)
    | _ => none

end SharedCache

/-- A reservation of the id was granted after the last one of it was cleared. -/
def HeldSince (cid : String) : List CacheMark → Prop
  | [] => False
  | .granted other :: earlier => other = cid ∨ HeldSince cid earlier
  | .cleared other :: earlier => other ≠ cid ∧ HeldSince cid earlier
  | .committed _ :: earlier => HeldSince cid earlier

instance (cid : String) : (history : List CacheMark) → Decidable (HeldSince cid history)
  | [] => inferInstanceAs (Decidable False)
  | .granted _ :: earlier =>
    have := instDecidableHeldSince cid earlier
    inferInstanceAs (Decidable (_ ∨ _))
  | .cleared _ :: earlier =>
    have := instDecidableHeldSince cid earlier
    inferInstanceAs (Decidable (_ ∧ _))
  | .committed _ :: earlier => instDecidableHeldSince cid earlier

/-- Each reservation of the id was granted after the one before had been cleared, and none after
the id was committed. -/
def Exclusive (cid : String) : List CacheMark → Prop
  | [] => True
  | .granted other :: earlier =>
    (other = cid → .committed cid ∉ earlier ∧ ¬ HeldSince cid earlier) ∧ Exclusive cid earlier
  | _ :: earlier => Exclusive cid earlier

instance (cid : String) : (history : List CacheMark) → Decidable (Exclusive cid history)
  | [] => isTrue trivial
  | .granted _ :: earlier =>
    have := instDecidableExclusive cid earlier
    inferInstanceAs (Decidable (_ ∧ _))
  | .cleared _ :: earlier => instDecidableExclusive cid earlier
  | .committed _ :: earlier => instDecidableExclusive cid earlier

namespace IdempotencyCache

variable {T : Type u} (cache : IdempotencyCache T) (cid : String) (now : ℚ)

/-- Storing a result for the id pushes the result of the other one out. -/
def pushesOut (other : String) : Prop := cache.evicts cid ∧ cache.committed.oldest = some other

instance (other : String) : Decidable (cache.pushesOut cid other) := inferInstanceAs (Decidable (_ ∧ _))

/-- A reservation of the id has not expired at the clock reading. -/
def Awaited : Prop := ∃ expiry ∈ cache.pending.get cid, now < expiry

instance : Decidable (cache.Awaited cid now) := inferInstanceAs (Decidable (∃ expiry ∈ _, _))

variable {cache cid now} {other : String} {value : T} {horizon : ℚ}

theorem storeCommitted_other (kept : ¬ cache.pushesOut cid other) (differs : other ≠ cid) :
    (cache.storeCommitted cid now value).committed.get other = cache.committed.get other := by
  unfold storeCommitted
  rw [Dict.get_set_other _ _ _ _ differs]
  split
  · exact Dict.get_pop_other _ _ _ differs
  · split
    · next full =>
      split
      · rfl
      · next oldest first =>
        refine Dict.get_pop_other _ _ _ ?_
        rintro rfl
        exact kept ⟨full, first⟩
    · rfl

theorem get_held (held : (cache.get cid now).1.committed.get other ≠ none) : cache.committed.get other ≠ none := by
  intro absent
  apply held
  unfold get
  split
  · exact absent
  · split
    · exact absent
    · rw [Dict.get_pop]
      split
      · rfl
      · exact absent

/-- The section of the reservations grants what nobody waits for. -/
theorem grab_eq (cache : IdempotencyCache T) (cid : String) (now : ℚ) : cache.grab cid now =
    if cache.Awaited cid now then (cache, false)
    else ({ cache with pending := cache.pending.set cid (now + cache.ttl) }, true) := by
  unfold grab
  split
  · next absent =>
    rw [if_neg]
    rintro ⟨expiry, stored, -⟩
    rw [absent] at stored
    cases stored
  · next expiry present =>
    have awaited : cache.Awaited cid now ↔ now < expiry := by
      unfold Awaited
      rw [present]
      simp
    simp only [awaited]

theorem finished_committed (done : cache.finished cid now = true) : cache.committed.get cid ≠ none := by
  intro absent
  simp only [finished, absent, Bool.false_eq_true] at done

theorem committed_finished (early : now < horizon) (kept : cache.Committed cid horizon) :
    cache.finished cid now = true := by
  obtain ⟨value, expiry, stored, late⟩ := kept
  simp only [finished, stored, decide_eq_true_iff]
  exact early.trans_le late

theorem reserved_awaited (early : now < horizon) (kept : cache.Reserved cid horizon) : cache.Awaited cid now := by
  obtain ⟨expiry, stored, late⟩ := kept
  exact ⟨expiry, stored, early.trans_le late⟩

end IdempotencyCache

namespace SharedCache

variable {T : Type u}

/-- The clock readings lie in the window, and no result of the id is pushed out. -/
def Within (start ttl : ℚ) (cid : String) (shared : SharedCache T) (_ : CacheCall) : CacheSection T → Prop
  | .get _ now | .clock _ now => start ≤ now ∧ now < start + ttl
  | .store other _ now => (start ≤ now ∧ now < start + ttl) ∧ ¬ shared.cache.pushesOut other cid
  | _ => True

/-- No call of `reserve` enters its second section, the result of the id stored by then, where the
reservation of the id is gone. -/
def Undisturbed (cid : String) (shared : SharedCache T) : CacheCall → CacheSection T → Prop
  | .grabbing other now, .grab => other = cid → shared.cache.finished cid now = true → shared.cache.Awaited cid now
  | _, _ => True

instance (start ttl : ℚ) (cid : String) (shared : SharedCache T) (call : CacheCall) :
    (taken : CacheSection T) → Decidable (Within start ttl cid shared call taken)
  | .get _ _ | .clock _ _ | .store _ _ _ => inferInstanceAs (Decidable (_ ∧ _))
  | .check | .grab | .drop | .clearReservation _ => isTrue trivial

instance (cid : String) (shared : SharedCache T) :
    (call : CacheCall) → (taken : CacheSection T) → Decidable (Undisturbed cid shared call taken)
  | .grabbing _ _, .grab => inferInstanceAs (Decidable (_ → _))
  | .grabbing _ _, .get _ _ | .grabbing _ _, .clock _ _ | .grabbing _ _, .check | .grabbing _ _, .store _ _ _
  | .grabbing _ _, .drop | .grabbing _ _, .clearReservation _ => isTrue trivial
  | .idle, _ | .checking _ _, _ | .dropping _, _ => isTrue trivial

/-- What the history says of the id, the cache holds until the horizon. -/
structure Faithful (cid : String) (ttl horizon : ℚ) (shared : SharedCache T) : Prop where
  ttl : shared.cache.ttl = ttl
  held : HeldSince cid shared.history → shared.cache.Owned cid horizon
  stored : .committed cid ∈ shared.history → shared.cache.Committed cid horizon
  known : shared.cache.committed.get cid ≠ none → .committed cid ∈ shared.history

/-- Between its sections a call knows a clock reading of the window, or has stored its result. -/
def Knows (start horizon : ℚ) (shared : SharedCache T) : CacheCall → Prop
  | .idle => True
  | .checking _ now | .grabbing _ now => start ≤ now ∧ now < horizon
  | .dropping cid => .committed cid ∈ shared.history

variable {start ttl : ℚ} {cid : String} {shared shared' : SharedCache T} {call call' other : CacheCall}
  {taken : CacheSection T}

/-- The history only grows. -/
theorem act_history (acted : shared.act call taken = some (shared', call')) :
    ∃ recent, shared'.history = recent ++ shared.history := by
  cases taken with
  | grab =>
    simp only [act] at acted
    split at acted
    · cases acted
      dsimp only
      split
      · exact ⟨[_], rfl⟩
      · exact ⟨[], rfl⟩
    · cases acted
  | check =>
    simp only [act] at acted
    split at acted
    · cases acted
      exact ⟨[], rfl⟩
    · cases acted
  | _ =>
    simp only [act] at acted
    split at acted
    · cases acted
      first
        | exact ⟨[], rfl⟩
        | exact ⟨[_], rfl⟩
    · cases acted

theorem Knows.keeps (knows : Knows start (start + ttl) shared other)
    (acted : shared.act call taken = some (shared', call')) : Knows start (start + ttl) shared' other := by
  cases other with
  | idle => trivial
  | checking cid now => exact knows
  | grabbing cid now => exact knows
  | dropping cid =>
    obtain ⟨recent, grown⟩ := act_history acted
    change _ ∈ shared'.history
    rw [grown]
    exact List.mem_append_right _ knows

/-- What one section leaves true, and which sections keep the law. -/
structure Steps (cid : String) (start ttl : ℚ) (shared : SharedCache T) (call : CacheCall) (taken : CacheSection T)
    (shared' : SharedCache T) (call' : CacheCall) : Prop where
  faithful : Faithful cid ttl (start + ttl) shared'
  knows : Knows start (start + ttl) shared' call'
  lawful : Exclusive cid shared'.history ↔ Exclusive cid shared.history ∧ Undisturbed cid shared call taken

theorem Faithful.get {other : String} {now : ℚ} (faithful : Faithful cid ttl (start + ttl) shared)
    (early : now < start + ttl) :
    Faithful cid ttl (start + ttl) { shared with cache := (shared.cache.get other now).1 } where
  ttl := IdempotencyCache.get_ttl.trans faithful.ttl
  held holding := IdempotencyCache.get_owned early (faithful.held holding)
  stored member := IdempotencyCache.get_committed early (faithful.stored member)
  known kept := faithful.known (IdempotencyCache.get_held kept)

theorem Faithful.store {other : String} {value : T} {now : ℚ} (faithful : Faithful cid ttl (start + ttl) shared)
    (late : start ≤ now) (kept : ¬ shared.cache.pushesOut other cid) :
    Faithful cid ttl (start + ttl) ⟨shared.cache.storeCommitted other now value, .committed other :: shared.history⟩ := by
  have horizon : start + ttl ≤ now + shared.cache.ttl := by
    rw [faithful.ttl]
    exact add_le_add_left late ttl
  by_cases same : cid = other
  · subst same
    have committed : (shared.cache.storeCommitted cid now value).Committed cid (start + ttl) :=
      ⟨value, now + shared.cache.ttl, Dict.get_set_self .., horizon⟩
    exact ⟨faithful.ttl, fun _ => Or.inr committed, fun _ => committed, fun _ => List.mem_cons_self⟩
  · have unchanged : (shared.cache.storeCommitted other now value).committed.get cid =
        shared.cache.committed.get cid := IdempotencyCache.storeCommitted_other kept same
    have committed : shared.cache.Committed cid (start + ttl) →
        (shared.cache.storeCommitted other now value).Committed cid (start + ttl) := by
      rintro ⟨result, expiry, stored, later⟩
      exact ⟨result, expiry, unchanged.trans stored, later⟩
    refine ⟨faithful.ttl, fun holding => ?_, fun member => ?_, fun present => ?_⟩
    · rcases faithful.held holding with reserved | result
      · exact Or.inl reserved
      · exact Or.inr (committed result)
    · rcases List.mem_cons.mp member with first | earlier
      · cases first
        exact absurd rfl same
      · exact committed (faithful.stored earlier)
    · change (shared.cache.storeCommitted other now value).committed.get cid ≠ none at present
      rw [unchanged] at present
      exact List.mem_cons_of_mem _ (faithful.known present)

theorem Faithful.drop {other : String} (faithful : Faithful cid ttl (start + ttl) shared)
    (stored : .committed other ∈ shared.history) :
    Faithful cid ttl (start + ttl) { shared with cache := shared.cache.clearReservation other } := by
  refine ⟨faithful.ttl, fun holding => ?_, faithful.stored, faithful.known⟩
  by_cases same : cid = other
  · subst same
    exact Or.inr (faithful.stored stored)
  · exact IdempotencyCache.clearReservation_owned same (faithful.held holding)

theorem Faithful.clear {other : String} (faithful : Faithful cid ttl (start + ttl) shared) :
    Faithful cid ttl (start + ttl) ⟨shared.cache.clearReservation other, .cleared other :: shared.history⟩ := by
  refine ⟨faithful.ttl, ?_, fun member => ?_, fun present => ?_⟩
  · rintro ⟨differs, holding⟩
    exact IdempotencyCache.clearReservation_owned differs.symm (faithful.held holding)
  · rcases List.mem_cons.mp member with first | earlier
    · cases first
    · exact faithful.stored earlier
  · exact List.mem_cons_of_mem _ (faithful.known present)

theorem Faithful.grant {other : String} {now : ℚ} (faithful : Faithful cid ttl (start + ttl) shared)
    (late : start ≤ now) :
    Faithful cid ttl (start + ttl) ⟨{ shared.cache with pending := shared.cache.pending.set other (now + shared.cache.ttl) },
      .granted other :: shared.history⟩ := by
  have horizon : start + ttl ≤ now + shared.cache.ttl := by
    rw [faithful.ttl]
    exact add_le_add_left late ttl
  refine ⟨faithful.ttl, ?_, fun member => ?_, fun present => ?_⟩
  · rintro (rfl | holding)
    · exact Or.inl (IdempotencyCache.set_pending_reserved _ horizon)
    · rcases faithful.held holding with reserved | result
      · exact Or.inl (IdempotencyCache.set_pending_keeps _ horizon reserved)
      · exact Or.inr result
  · rcases List.mem_cons.mp member with first | earlier
    · cases first
    · exact faithful.stored earlier
  · exact List.mem_cons_of_mem _ (faithful.known present)

/-- A reservation that is granted is lawful exactly when no result of the id is there. -/
theorem Faithful.grant_lawful {now : ℚ} (faithful : Faithful cid ttl (start + ttl) shared) (early : now < start + ttl)
    (free : ¬ shared.cache.Awaited cid now) :
    (.committed cid ∉ shared.history ∧ ¬ HeldSince cid shared.history) ↔ shared.cache.finished cid now = false := by
  constructor
  · rintro ⟨uncommitted, -⟩
    rw [Bool.eq_false_iff]
    exact fun done => uncommitted (faithful.known (IdempotencyCache.finished_committed done))
  · intro unfinished
    have uncommitted : ¬ shared.cache.Committed cid (start + ttl) := by
      intro committed
      rw [IdempotencyCache.committed_finished early committed] at unfinished
      cases unfinished
    refine ⟨fun member => uncommitted (faithful.stored member), fun holding => ?_⟩
    rcases faithful.held holding with reserved | committed
    · exact free (IdempotencyCache.reserved_awaited early reserved)
    · exact uncommitted committed

theorem act_steps (faithful : Faithful cid ttl (start + ttl) shared) (knows : Knows start (start + ttl) shared call)
    (within : Within start ttl cid shared call taken) (acted : shared.act call taken = some (shared', call')) :
    Steps cid start ttl shared call taken shared' call' := by
  have quiet : ∀ held : Exclusive cid shared'.history ↔ Exclusive cid shared.history,
      (Exclusive cid shared'.history ↔ Exclusive cid shared.history ∧ True) := by
    intro held
    rw [held, and_true]
  cases taken with
  | get other now =>
    simp only [act] at acted
    split at acted
    · cases acted
      exact ⟨faithful.get within.2, trivial, quiet Iff.rfl⟩
    · cases acted
  | clock other now =>
    simp only [act] at acted
    split at acted
    · cases acted
      exact ⟨faithful, within, quiet Iff.rfl⟩
    · cases acted
  | check =>
    simp only [act] at acted
    split at acted
    · next other now =>
      cases acted
      refine ⟨faithful, ?_, quiet Iff.rfl⟩
      split
      · trivial
      · exact knows
    · cases acted
  | grab =>
    simp only [act] at acted
    split at acted
    · next other now =>
      obtain ⟨late, early⟩ := knows
      cases acted
      rw [IdempotencyCache.grab_eq]
      by_cases awaited : shared.cache.Awaited other now
      · rw [if_pos awaited]
        refine ⟨faithful, trivial, ?_⟩
        change _ ↔ _ ∧ (_ → _)
        constructor
        · exact fun lawful => ⟨lawful, by rintro rfl _; exact awaited⟩
        · exact And.left
      · rw [if_neg awaited]
        refine ⟨faithful.grant late, trivial, ?_⟩
        change (_ → _) ∧ _ ↔ _ ∧ (_ → _)
        rw [and_comm]
        refine and_congr_right fun _ => forall_congr' ?_
        rintro rfl
        rw [faithful.grant_lawful early awaited, ← Bool.not_eq_true]
        exact ⟨fun unfinished done => absurd done unfinished, fun safe done => awaited (safe done)⟩
    · cases acted
  | store other value now =>
    simp only [act] at acted
    split at acted
    · cases acted
      exact ⟨faithful.store within.1.1 within.2, List.mem_cons_self, quiet Iff.rfl⟩
    · cases acted
  | drop =>
    simp only [act] at acted
    split at acted
    · cases acted
      exact ⟨faithful.drop knows, trivial, quiet Iff.rfl⟩
    · cases acted
  | clearReservation other =>
    simp only [act] at acted
    split at acted
    · cases acted
      exact ⟨faithful.clear, trivial, quiet Iff.rfl⟩
    · cases acted

variable {ι : Type v} [DecidableEq ι]

/-- The callers of a cache, one of them taking a section at a time. -/
abbrev step : Pool ι (SharedCache T) CacheCall → ι × CacheSection T → Option (Pool ι (SharedCache T) CacheCall) :=
  Pool.step act

/-- A new cache whose callers have not called yet. -/
def unused (ι : Type v) (ttl : ℚ) (maxSize : Nat) : Pool ι (SharedCache T) CacheCall :=
  ⟨⟨{ ttl, maxSize }, []⟩, fun _ => .idle⟩

theorem preserves : Pool.Preserves (act (T := T)) (Within start ttl cid) (Faithful cid ttl (start + ttl))
    (Knows start (start + ttl)) (fun _ _ => True) where
  own faithful knows within acted :=
    have steps := act_steps faithful knows within acted
    ⟨steps.faithful, steps.knows⟩
  other _ _ knows _ _ _ acted := ⟨knows.keeps acted, trivial, trivial⟩

/-- Along a run, the law holds of the history exactly when no section is disturbed. -/
theorem exclusive_exec {p q : Pool ι (SharedCache T) CacheCall} {sections : List (ι × CacheSection T)}
    (holds : Pool.Holds (Faithful cid ttl (start + ttl)) (Knows start (start + ttl)) (fun _ _ => True) p)
    (within : Meets step (fun p taken => Within start ttl cid p.shared (p.thread taken.1) taken.2) p sections)
    (ran : exec step p sections = some q) :
    Exclusive cid q.shared.history ↔ Exclusive cid p.shared.history ∧
      Meets step (fun p taken => Undisturbed cid p.shared (p.thread taken.1) taken.2) p sections := by
  induction sections generalizing p with
  | nil =>
    cases ran
    exact (and_true _).symm.to_iff
  | cons taken rest ih =>
    obtain ⟨middle, first, later⟩ := exec_cons_inv ran
    obtain ⟨here, after⟩ := (meets_cons first).mp within
    obtain ⟨shared, call, acted, rfl⟩ := Pool.step_some first
    have steps := act_steps holds.common (holds.each taken.1) here acted
    rw [ih (preserves.step holds here first) after later, meets_cons first, ← and_assoc]
    exact and_congr_left' steps.lawful

/-- From a new cache, with every clock reading in one window of the time to live and no result of the id
pushed out of the full store: a reservation of the id is granted at most once between two clearings of it
and never once the id is committed, exactly when no call of `reserve` enters its second section after the
result of the id has been stored and the reservation of the id is gone. -/
theorem exclusive_iff {maxSize : Nat} {sections : List (ι × CacheSection T)} {after : Pool ι (SharedCache T) CacheCall}
    (start ttl : ℚ) (cid : String)
    (within : Meets step (fun p taken => Within start ttl cid p.shared (p.thread taken.1) taken.2)
      (unused ι ttl maxSize) sections)
    (ran : exec step (unused ι ttl maxSize) sections = some after) :
    Exclusive cid after.shared.history ↔
      Meets step (fun p taken => Undisturbed cid p.shared (p.thread taken.1) taken.2)
        (unused ι ttl maxSize) sections := by
  have faithful : Faithful cid ttl (start + ttl) (⟨{ ttl, maxSize }, []⟩ : SharedCache T) := by
    refine ⟨rfl, ?_, ?_, ?_⟩
    · rintro ⟨⟩
    · rintro ⟨⟩
    · exact fun held => absurd rfl held
  have holds : Pool.Holds (Faithful cid ttl (start + ttl)) (Knows start (start + ttl)) (fun _ _ => True)
      (unused ι ttl maxSize : Pool ι (SharedCache T) CacheCall) :=
    ⟨faithful, fun _ => trivial, fun _ _ _ => trivial⟩
  exact (exclusive_exec holds within ran).trans (and_iff_right trivial)

/-- Two callers reserve one id: the second is refused while the first holds the reservation, and
after the commit. -/
def refusedTwice : List (Fin 2 × CacheSection String) :=
  [(0, .clock "c1" 0), (0, .check), (0, .grab), (1, .clock "c1" 1), (1, .check), (1, .grab),
    (0, .store "c1" "O1" 2), (0, .drop), (1, .clock "c1" 3), (1, .check)]

theorem exclusive_refusedTwice : ∃ after, exec step (unused (Fin 2) 300 10000) refusedTwice = some after ∧
    after.shared.history = [.committed "c1", .granted "c1"] ∧ Exclusive "c1" after.shared.history := by
  obtain ⟨after, ran, history⟩ := Option.map_eq_some_iff.mp
    (show (exec step (unused (Fin 2) 300 10000) refusedTwice).map (fun after => after.shared.history) =
      some [.committed "c1", .granted "c1"] by decide +kernel)
  exact ⟨after, ran, history, (exclusive_iff 0 300 "c1" (by decide +kernel) ran).mpr (by decide +kernel)⟩

/-- The second caller finds no result before the first one stores it, and takes its own
reservation when the first one has dropped its. -/
def grantedTwice : List (Fin 2 × CacheSection String) :=
  [(0, .clock "c1" 0), (0, .check), (0, .grab), (1, .clock "c1" 1), (1, .check), (0, .store "c1" "O1" 2),
    (0, .drop), (1, .grab)]

/-- In a store of one result, the result of another id takes the place of the first. -/
def pushedOut : List (Fin 2 × CacheSection String) :=
  [(0, .store "c1" "O1" 0), (0, .drop), (1, .store "c2" "O2" 1), (1, .drop), (0, .clock "c1" 2), (0, .check), (0, .grab)]

/-- Both runs stay within the time to live, and both grant the id after its commit, the first for
the second time. -/
theorem granted_after_commit :
    (exec step (unused (Fin 2) 300 10000) grantedTwice).map (fun after => after.shared.history) =
        some [.granted "c1", .committed "c1", .granted "c1"] ∧
      (exec step (unused (Fin 2) 300 1) pushedOut).map (fun after => after.shared.history) =
        some [.granted "c1", .committed "c2", .committed "c1"] ∧
      ¬ Exclusive "c1" [.granted "c1", .committed "c1", .granted "c1"] ∧
      ¬ Exclusive "c1" [.granted "c1", .committed "c2", .committed "c1"] := by
  decide +kernel

end SharedCache

end TradeX.V2
