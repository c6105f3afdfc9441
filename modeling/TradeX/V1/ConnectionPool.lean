import TradeX.Lib.Dict
import TradeX.Lib.Interleaving

/-! The pool of broker sessions under any number of threads: the look at the dictionary without the lock,
the section that creates a session, and `close_all`, step by step. -/

namespace TradeX.V1

open Lib

/-- What a call of `get_session` ended with: a session, the `KeyError` of the read without the lock, or the
`RuntimeError` of a closed pool. -/
inductive SessionAnswer where
  | session (id : Nat)
  | keyError
  | poolClosed
  deriving DecidableEq, Repr

/-- `ConnectionPoolManager`. A session is known by its place among the created ones, which are listed by
their keys; the calls of `close` and the answers of `get_session` are listed in their orders. -/
structure ConnectionPoolManager where
  sessions : Dict String Nat := ∅
  closed : Bool := false
  locked : Bool := false
  created : List String := []
  closings : List Nat := []
  answers : List (String × SessionAnswer) := []
  deriving DecidableEq

/-- Where a thread stands in `get_session` or in `close_all`. -/
inductive PoolThread where
  | idle
  | found (key : String)
  | missed (key : String)
  | entered (key : String)
  | admitted (key : String)
  | present (key : String)
  | absent (key : String)
  | made (key : String) (id : Nat)
  | closing
  | sweeping (rest : List Nat)
  deriving DecidableEq, Repr

inductive PoolStep where
  /-- `get_session`: the look without the lock, the read after it, the lock, the look at `_closed`, the second
  look, its read, the new session, and its entry. -/
  | getSession (key : String)
  | read
  | enter
  | checkClosed
  | lookAgain
  | readAgain
  | createSession
  | store
  /-- `close_all`: the call, the lock with the flag, `close` of one session, and the end of the loop. -/
  | closeAll
  | markClosed
  | closeSession (raises : Bool)
  | clear
  deriving DecidableEq, Repr

namespace ConnectionPoolManager

variable (pool : ConnectionPoolManager)

def answer (key : String) (result : SessionAnswer) : ConnectionPoolManager :=
  { pool with answers := pool.answers ++ [(key, result)] }

def unlock : ConnectionPoolManager := { pool with locked := false }

/-- One step of a thread. `close` is attempted once for each session: what it raises is logged. -/
def act (pool : ConnectionPoolManager) : PoolThread → PoolStep → Option (ConnectionPoolManager × PoolThread)
  | .idle, .getSession key => some (pool, if pool.sessions.contains key then .found key else .missed key)
  | .found key, .read =>
    match pool.sessions.get key with
    | some id => some (pool.answer key (.session id), .idle)
    | none => some (pool.answer key .keyError, .idle)
  | .missed key, .enter => if pool.locked then none else some ({ pool with locked := true }, .entered key)
  | .entered key, .checkClosed =>
    if pool.closed then some ((pool.answer key .poolClosed).unlock, .idle) else some (pool, .admitted key)
  | .admitted key, .lookAgain => some (pool, if pool.sessions.contains key then .present key else .absent key)
  | .present key, .readAgain =>
    match pool.sessions.get key with
    | some id => some ((pool.answer key (.session id)).unlock, .idle)
    | none => some ((pool.answer key .keyError).unlock, .idle)
  | .absent key, .createSession =>
    some ({ pool with created := pool.created ++ [key] }, .made key pool.created.length)
  | .made key id, .store =>
    some (({ pool with sessions := pool.sessions.set key id }.answer key (.session id)).unlock, .idle)
  | .idle, .closeAll => some (pool, .closing)
  | .closing, .markClosed =>
    if pool.locked then none
    else if pool.closed then some (pool, .idle)
    else some ({ pool with locked := true, closed := true }, .sweeping pool.sessions.values)
  | .sweeping (id :: rest), .closeSession _ => some ({ pool with closings := pool.closings ++ [id] }, .sweeping rest)
  | .sweeping [], .clear => some ({ pool with sessions := ∅, locked := false }, .idle)
  | _, _ => none

end ConnectionPoolManager

/-- Inside of `with self._lock`. -/
def PoolThread.holds : PoolThread → Bool
  | .entered _ | .admitted _ | .present _ | .absent _ | .made _ _ | .sweeping _ => true
  | _ => false

/-- Where a thread stands that has not passed the look at `_closed`. -/
def PoolThread.early : PoolThread → Bool
  | .idle | .found _ | .missed _ | .entered _ | .closing => true
  | _ => false

theorem PoolThread.early_of_outside {thread : PoolThread} (outside : thread.holds = false) : thread.early = true := by
  cases thread with
  | idle | found | missed | closing => rfl
  | _ => cases outside

namespace ConnectionPoolManager

variable {pool pool' : ConnectionPoolManager} {thread thread' : PoolThread} {taken : PoolStep}

/-- What the lock protects, as it stands when no thread is inside. -/
structure Settled (pool : ConnectionPoolManager) : Prop where
  shut : pool.closed = true → pool.sessions.entries = [] ∧ pool.closings = List.range pool.created.length
  opened : pool.closed = false → pool.sessions.entries = pool.created.zipIdx ∧ pool.closings = []

/-- What a thread inside of the lock knows. -/
def Inside (pool : ConnectionPoolManager) : PoolThread → Prop
  | .entered _ => pool.Settled
  | .admitted _ => pool.Settled ∧ pool.closed = false
  | .present key => pool.Settled ∧ pool.closed = false ∧ pool.sessions.contains key = true
  | .absent key => pool.Settled ∧ pool.closed = false ∧ pool.sessions.contains key = false
  | .made key id => pool.closed = false ∧ pool.closings = [] ∧ ∃ before, pool.created = before ++ [key] ∧
      id = before.length ∧ pool.sessions.entries = before.zipIdx
  | .sweeping rest => pool.closed = true ∧ pool.closings ++ rest = List.range pool.created.length
  | _ => True

/-- What is known of the pool at every moment. -/
structure Sound (pool : ConnectionPoolManager) : Prop where
  distinct : pool.created.Nodup
  once : pool.closings <+: List.range pool.created.length
  settled : pool.locked = false → pool.Settled
  filed : ∀ key id, pool.sessions.get key = some id → pool.created[id]? = some key
  answered : ∀ key id, (key, .session id) ∈ pool.answers → pool.created[id]? = some key
  refused : ∀ key result, (key, result) ∈ pool.answers → (∀ id, result ≠ .session id) → pool.closed = true

/-- What a thread knows: the lock while it is inside, and that a session seen without the lock goes with
the others only. -/
structure Knows (pool : ConnectionPoolManager) (thread : PoolThread) : Prop where
  locked : thread.holds = true → pool.locked = true
  inside : pool.Inside thread
  seen : ∀ key, thread = .found key → pool.closed = true ∨ pool.sessions.contains key = true

variable {key : String} {id : Nat}

theorem contains_iff : pool.sessions.contains key = true ↔ ∃ id, pool.sessions.get key = some id :=
  Option.isSome_iff_exists

/-- A thread outside of the lock changes nothing that the lock protects while another is inside. -/
theorem act_outside (acted : act pool thread taken = some (pool', thread')) (outside : thread.holds = false)
    (locked : pool.locked = true) : ∃ answers, pool' = { pool with answers } ∧ thread'.holds = false := by
  unfold act at acted
  split at acted
  case h_1 key =>
    cases acted
    refine ⟨_, rfl, ?_⟩
    split <;> rfl
  case h_2 key =>
    split at acted <;> cases acted <;> exact ⟨_, rfl, rfl⟩
  case h_3 key =>
    rw [if_pos locked] at acted
    cases acted
  case h_9 =>
    cases acted
    exact ⟨_, rfl, rfl⟩
  case h_10 =>
    rw [if_pos locked] at acted
    cases acted
  case h_13 => cases acted
  all_goals cases outside

/-- A session that is seen stays, until the pool is closed. -/
theorem act_seen (known : pool.Knows thread) (acted : act pool thread taken = some (pool', thread'))
    (seen : pool.closed = true ∨ pool.sessions.contains key = true) :
    pool'.closed = true ∨ pool'.sessions.contains key = true := by
  unfold act at acted
  split at acted
  case h_1 | h_7 | h_9 | h_11 =>
    cases acted
    exact seen
  case h_2 | h_6 =>
    split at acted <;> cases acted <;> exact seen
  case h_3 | h_4 | h_5 =>
    split at acted <;> cases acted <;> exact seen
  case h_8 other id =>
    cases acted
    refine seen.imp_right fun there => ?_
    obtain ⟨old, found⟩ := contains_iff.mp there
    apply contains_iff.mpr
    by_cases same : key = other
    · exact ⟨id, by simp only [answer, unlock, same, Dict.get_set_self]⟩
    · exact ⟨old, by simpa only [answer, unlock, Dict.get_set_other _ _ _ _ same] using found⟩
  case h_10 =>
    split at acted
    · cases acted
    · split at acted <;> cases acted
      · exact seen
      · exact Or.inl rfl
  case h_12 =>
    cases acted
    exact Or.inl known.inside.1
  case h_13 => cases acted

theorem Sound.answer_session (sound : pool.Sound) (found : pool.sessions.get key = some id) :
    (pool.answer key (.session id)).Sound where
  distinct := sound.distinct
  once := sound.once
  settled := fun unlocked => ⟨(sound.settled unlocked).shut, (sound.settled unlocked).opened⟩
  filed := sound.filed
  answered := by
    intro other place member
    rcases List.mem_append.mp member with earlier | last
    · exact sound.answered other place earlier
    · cases List.mem_singleton.mp last
      exact sound.filed key id found
  refused := by
    intro other result member none
    rcases List.mem_append.mp member with earlier | last
    · exact sound.refused other result earlier none
    · cases List.mem_singleton.mp last
      exact absurd rfl (none id)

theorem Sound.answer_refusal {result : SessionAnswer} (sound : pool.Sound) (closed : pool.closed = true)
    (none : ∀ id, result ≠ .session id) : (pool.answer key result).Sound where
  distinct := sound.distinct
  once := sound.once
  settled := fun unlocked => ⟨(sound.settled unlocked).shut, (sound.settled unlocked).opened⟩
  filed := sound.filed
  answered := by
    intro other place member
    rcases List.mem_append.mp member with earlier | last
    · exact sound.answered other place earlier
    · cases List.mem_singleton.mp last
      exact absurd rfl (none place)
  refused := fun _ _ _ _ => closed

/-- The lock is given back with what it protects in order. -/
theorem Sound.unlock (sound : pool.Sound) (settled : pool.Settled) : pool.unlock.Sound :=
  ⟨sound.distinct, sound.once, fun _ => ⟨settled.shut, settled.opened⟩, sound.filed, sound.answered, sound.refused⟩

theorem Settled.answer {result : SessionAnswer} (settled : pool.Settled) : (pool.answer key result).Settled :=
  ⟨settled.shut, settled.opened⟩

theorem knows_idle : pool.Knows .idle := ⟨fun inside => absurd inside Bool.false_ne_true, trivial, by rintro _ ⟨⟩⟩

/-- A new session is listed after the others, and is in no answer yet. -/
theorem Sound.createSession (sound : pool.Sound) (locked : pool.locked = true) (fresh : key ∉ pool.created)
    (none : pool.closings = []) : { pool with created := pool.created ++ [key] : ConnectionPoolManager }.Sound where
  distinct := List.nodup_append.mpr ⟨sound.distinct, List.nodup_singleton key, by grind⟩
  once := none ▸ List.nil_prefix
  settled := fun unlocked => absurd (locked.symm.trans unlocked) Bool.noConfusion
  filed := fun other place found =>
    (List.getElem?_append_left (List.getElem?_eq_some_iff.mp (sound.filed other place found)).1).trans
      (sound.filed other place found)
  answered := fun other place member =>
    (List.getElem?_append_left (List.getElem?_eq_some_iff.mp (sound.answered other place member)).1).trans
      (sound.answered other place member)
  refused := sound.refused

/-- The entry of the new session completes what the lock protects. -/
theorem Settled.store {before : List String} (created : pool.created = before ++ [key])
    (entries : pool.sessions.entries = before.zipIdx) (opened : pool.closed = false) (none : pool.closings = [])
    (nodup : (before ++ [key]).Nodup) :
    { pool with sessions := pool.sessions.set key before.length : ConnectionPoolManager }.Settled where
  shut := fun closed => absurd (closed.symm.trans opened) Bool.noConfusion
  opened := by
    intro _
    have fresh : key ∉ pool.sessions.keys := by
      rw [Dict.keys, entries, List.zipIdx_map_fst]
      exact (List.nodup_append.mp nodup).2.2 |> fun apart member => apart key member key List.mem_cons_self rfl
    refine ⟨?_, none⟩
    rw [Dict.entries_set, if_neg fresh, entries, created, List.zipIdx_append]
    simp only [List.zipIdx_cons, List.zipIdx_nil, Nat.zero_add]

theorem own (sound : pool.Sound) (known : pool.Knows thread)
    (acted : act pool thread taken = some (pool', thread')) : pool'.Sound ∧ pool'.Knows thread' := by
  unfold act at acted
  split at acted
  case h_1 key =>
    cases acted
    refine ⟨sound, ?_⟩
    split
    · next present =>
      exact ⟨fun inside => absurd inside Bool.false_ne_true, trivial, by rintro _ ⟨⟩; exact Or.inr present⟩
    · exact ⟨fun inside => absurd inside Bool.false_ne_true, trivial, by rintro _ ⟨⟩⟩
  case h_2 key =>
    split at acted
    · next id found =>
      cases acted
      exact ⟨sound.answer_session found, knows_idle⟩
    · next gone =>
      cases acted
      have closed : pool.closed = true := (known.seen key rfl).resolve_right fun there => by
        obtain ⟨id, found⟩ := contains_iff.mp there
        rw [gone] at found
        cases found
      exact ⟨sound.answer_refusal closed (by rintro _ ⟨⟩), knows_idle⟩
  case h_3 key =>
    split at acted
    · cases acted
    · next free =>
      cases acted
      have settled := sound.settled (Bool.eq_false_iff.mpr free)
      exact ⟨⟨sound.distinct, sound.once, fun free => absurd free.symm Bool.false_ne_true, sound.filed, sound.answered,
          sound.refused⟩,
        fun _ => rfl, ⟨settled.shut, settled.opened⟩, by rintro _ ⟨⟩⟩
  case h_4 key =>
    have settled : pool.Settled := known.inside
    split at acted
    · next closed =>
      cases acted
      exact ⟨(sound.answer_refusal closed (by rintro _ ⟨⟩)).unlock settled.answer, knows_idle⟩
    · next opened =>
      cases acted
      exact ⟨sound, fun _ => known.locked rfl, ⟨settled, Bool.eq_false_iff.mpr opened⟩, by rintro _ ⟨⟩⟩
  case h_5 key =>
    obtain ⟨settled, opened⟩ := known.inside
    cases acted
    refine ⟨sound, ?_⟩
    split
    · next there => exact ⟨fun _ => known.locked rfl, ⟨settled, opened, there⟩, by rintro _ ⟨⟩⟩
    · next missing =>
      exact ⟨fun _ => known.locked rfl, ⟨settled, opened, Bool.eq_false_iff.mpr missing⟩, by rintro _ ⟨⟩⟩
  case h_6 key =>
    obtain ⟨settled, opened, there⟩ := known.inside
    obtain ⟨id, found⟩ := contains_iff.mp there
    rw [found] at acted
    cases acted
    exact ⟨(sound.answer_session found).unlock settled.answer, knows_idle⟩
  case h_7 key =>
    obtain ⟨settled, opened, missing⟩ := known.inside
    obtain ⟨entries, none⟩ := settled.opened opened
    cases acted
    have fresh : key ∉ pool.created := by
      intro member
      obtain ⟨place, at_place⟩ := List.mem_iff_getElem?.mp member
      have found : pool.sessions.get key = some place := by
        rw [Dict.get_eq_some, entries]
        exact List.mem_zipIdx_iff_getElem?.mpr at_place
      rw [contains_iff.mpr ⟨place, found⟩] at missing
      cases missing
    exact ⟨sound.createSession (known.locked rfl) fresh none, fun _ => known.locked rfl,
      ⟨opened, none, pool.created, rfl, rfl, entries⟩, by rintro _ ⟨⟩⟩
  case h_8 key id =>
    obtain ⟨opened, none, before, created, rfl, entries⟩ := known.inside
    cases acted
    have stored : { pool with sessions := pool.sessions.set key before.length : ConnectionPoolManager }.Sound := by
      refine ⟨sound.distinct, sound.once, fun unlocked => absurd ((known.locked rfl).symm.trans unlocked)
        Bool.noConfusion, ?_, sound.answered, sound.refused⟩
      intro other place found
      rw [Dict.get_set] at found
      split at found
      · next same =>
        cases found
        rw [created, same, List.getElem?_append_right (Nat.le_refl _), Nat.sub_self]
        rfl
      · exact sound.filed other place found
    have settled := Settled.store created entries opened none (created ▸ sound.distinct)
    exact ⟨(stored.answer_session (Dict.get_set_self ..)).unlock settled.answer, knows_idle⟩
  case h_9 =>
    cases acted
    exact ⟨sound, fun inside => absurd inside Bool.false_ne_true, trivial, by rintro _ ⟨⟩⟩
  case h_10 =>
    split at acted
    · cases acted
    · next free =>
      have settled := sound.settled (Bool.eq_false_iff.mpr free)
      split at acted
      · cases acted
        exact ⟨sound, knows_idle⟩
      · next notClosed =>
        have opened : pool.closed = false := Bool.eq_false_iff.mpr notClosed
        obtain ⟨entries, none⟩ := settled.opened opened
        cases acted
        refine ⟨⟨sound.distinct, sound.once, fun free => absurd free.symm Bool.false_ne_true, sound.filed,
          sound.answered, fun _ _ _ _ => rfl⟩, fun _ => rfl, ⟨rfl, ?_⟩, by rintro _ ⟨⟩⟩
        rw [none, Dict.values, entries, List.zipIdx_map_snd, List.nil_append, List.range_eq_range']
  case h_11 id rest raises =>
    obtain ⟨closed, order⟩ := known.inside
    have next : pool.closings ++ [id] ++ rest = List.range pool.created.length := by
      rw [← order, List.append_assoc, List.singleton_append]
    cases acted
    exact ⟨⟨sound.distinct, ⟨rest, next⟩, fun unlocked => absurd ((known.locked rfl).symm.trans unlocked)
      Bool.noConfusion, sound.filed, sound.answered, sound.refused⟩, fun _ => known.locked rfl, ⟨closed, next⟩,
      by rintro _ ⟨⟩⟩
  case h_12 =>
    obtain ⟨closed, order⟩ := known.inside
    cases acted
    rw [List.append_nil] at order
    exact ⟨⟨sound.distinct, sound.once, fun _ => ⟨fun _ => ⟨rfl, order⟩, fun opened =>
      absurd (closed.symm.trans opened) Bool.noConfusion⟩, by rintro _ _ ⟨⟩, sound.answered, sound.refused⟩,
      knows_idle⟩
  case h_13 => cases acted

/-- The pool with the threads that call it. -/
abbrev step {ι : Type u} [DecidableEq ι] :
    Pool ι ConnectionPoolManager PoolThread → ι × PoolStep → Option (Pool ι ConnectionPoolManager PoolThread) :=
  Pool.step act

def start {ι : Type u} : Pool ι ConnectionPoolManager PoolThread := ⟨{}, fun _ => .idle⟩

/-- Two threads are never inside together. -/
def Apart (one other : PoolThread) : Prop := ¬ (one.holds = true ∧ other.holds = true)

theorem preserves : Pool.Preserves act (fun _ _ _ => True) Sound Knows Apart where
  own := fun sound known _ acted => own sound known acted
  other := by
    intro pool thread taken pool' thread' bystander sound known others apart _ _ acted
    have afterwards := own sound known acted
    by_cases inside : bystander.holds = true
    · have outside : thread.holds = false := Bool.eq_false_iff.mpr fun held => apart ⟨held, inside⟩
      obtain ⟨answers, rfl, out⟩ := act_outside acted outside (others.locked inside)
      have stays : ∀ other, Inside { pool with answers } other ↔ Inside pool other := by
        intro other
        have settled : Settled { pool with answers } ↔ Settled pool :=
          ⟨fun held => ⟨held.shut, held.opened⟩, fun held => ⟨held.shut, held.opened⟩⟩
        cases other <;> simp only [Inside, settled]
      refine ⟨⟨others.locked, (stays bystander).mpr others.inside, others.seen⟩, ?_, ?_⟩
      · exact fun both => absurd (both.1.symm.trans out) Bool.noConfusion
      · exact fun both => absurd (both.2.symm.trans out) Bool.noConfusion
    · refine ⟨⟨fun held => absurd held inside, ?_, fun key found => act_seen known acted (others.seen key found)⟩,
        fun both => inside both.2, fun both => inside both.1⟩
      cases bystander
      case idle | found | missed | closing => trivial
      all_goals exact absurd rfl inside

theorem start_holds {ι : Type u} : Pool.Holds Sound Knows Apart (start : Pool ι ConnectionPoolManager PoolThread) where
  common := ⟨List.nodup_nil, List.prefix_rfl,
    fun _ => ⟨fun closed => absurd closed Bool.false_ne_true, fun _ => ⟨rfl, rfl⟩⟩,
    by rintro _ _ ⟨⟩, by rintro _ _ ⟨⟩, by rintro _ _ ⟨⟩⟩
  each := fun _ => knows_idle
  pair := fun _ _ _ both => absurd both.1 Bool.false_ne_true

theorem run_holds {ι : Type u} [DecidableEq ι] {es : List (ι × PoolStep)} {p : Pool ι ConnectionPoolManager PoolThread}
    (run : exec step start es = some p) : Pool.Holds Sound Knows Apart p :=
  preserves.exec start_holds (meets_of_forall fun _ _ => trivial) run

/-- In every interleaving each key has one session and every answer for a key is that session, no session is
closed twice, a refusal means a closed pool, and a closed pool that is not locked has closed every session. -/
theorem one_session_per_key {ι : Type u} [DecidableEq ι] {es : List (ι × PoolStep)}
    {p : Pool ι ConnectionPoolManager PoolThread} (run : exec step start es = some p) :
    p.shared.created.Nodup ∧ p.shared.closings.Nodup ∧
      (∀ key id, (key, .session id) ∈ p.shared.answers → p.shared.created[id]? = some key) ∧
      (∀ key result, (key, result) ∈ p.shared.answers → (∀ id, result ≠ .session id) → p.shared.closed = true) ∧
      (p.shared.closed = true → p.shared.locked = false →
        p.shared.sessions.entries = [] ∧ p.shared.closings = List.range p.shared.created.length) := by
  have sound := (run_holds run).common
  exact ⟨sound.distinct, sound.once.sublist.nodup List.nodup_range, sound.answered, sound.refused,
    fun closed free => (sound.settled free).shut closed⟩

/-- One thread makes the session, another sees it without the lock and closes the pool. -/
def sharedSession : List (Bool × PoolStep) :=
  [(true, .getSession "dhan"), (true, .enter), (true, .checkClosed), (true, .lookAgain), (true, .createSession),
    (true, .store), (false, .getSession "dhan"), (false, .read), (false, .closeAll), (false, .markClosed),
    (false, .closeSession true), (false, .clear)]

theorem one_session_shared : ∃ p, exec step start sharedSession = some p ∧ p.shared.closed = true ∧
    p.shared.locked = false ∧ p.shared.created = ["dhan"] ∧ p.shared.closings = [0] := by
  obtain ⟨p, ran, seen⟩ := Option.map_eq_some_iff.mp
    (show (exec step start sharedSession).map (fun p => (p.shared.closed, p.shared.locked, p.shared.created)) =
      some (true, false, ["dhan"]) by decide +kernel)
  obtain ⟨closed, free, created⟩ : _ ∧ _ ∧ _ := by simpa only [Prod.mk.injEq] using seen
  obtain ⟨-, -, -, -, shut⟩ := one_session_per_key ran
  refine ⟨p, ran, closed, free, created, ?_⟩
  rw [(shut closed free).2, created]
  rfl

/-- A closed pool, with the answers it has given since. -/
structure Shut (earlier pool : ConnectionPoolManager) : Prop where
  closed : pool.closed = true
  empty : pool.sessions.entries = []
  created : pool.created = earlier.created
  closings : pool.closings = earlier.closings
  refusals : ∃ refusals, pool.answers = earlier.answers ++ refusals ∧ ∀ a ∈ refusals, ∀ id, a.2 ≠ .session id

theorem Shut.get_none {earlier : ConnectionPoolManager} (shut : Shut earlier pool) : pool.sessions.get key = none := by
  rw [Dict.get, shut.empty, List.lookup_nil]

theorem Shut.refuse {earlier : ConnectionPoolManager} {result : SessionAnswer} (shut : Shut earlier pool)
    (none : ∀ id, result ≠ .session id) : Shut earlier (pool.answer key result) := by
  obtain ⟨refusals, same, refused⟩ := shut.refusals
  refine ⟨shut.closed, shut.empty, shut.created, shut.closings, refusals ++ [(key, result)], ?_, ?_⟩
  · rw [answer, same, List.append_assoc]
  · intro a member
    rcases List.mem_append.mp member with before | last
    · exact refused a before
    · cases List.mem_singleton.mp last
      exact none

theorem Shut.act {earlier : ConnectionPoolManager} (shut : Shut earlier pool) (early : thread.early = true)
    (acted : act pool thread taken = some (pool', thread')) : Shut earlier pool' ∧ thread'.early = true := by
  unfold ConnectionPoolManager.act at acted
  split at acted
  case h_1 key =>
    cases acted
    refine ⟨shut, ?_⟩
    split <;> rfl
  case h_2 key =>
    rw [shut.get_none] at acted
    cases acted
    exact ⟨shut.refuse (by rintro _ ⟨⟩), rfl⟩
  case h_3 key =>
    split at acted
    · cases acted
    · cases acted
      exact ⟨⟨shut.closed, shut.empty, shut.created, shut.closings, shut.refusals⟩, rfl⟩
  case h_4 key =>
    rw [if_pos shut.closed] at acted
    cases acted
    have refused : Shut earlier (pool.answer key .poolClosed) := shut.refuse (by rintro _ ⟨⟩)
    exact ⟨⟨refused.closed, refused.empty, refused.created, refused.closings, refused.refusals⟩, rfl⟩
  case h_9 =>
    cases acted
    exact ⟨shut, rfl⟩
  case h_10 =>
    rw [if_pos shut.closed] at acted
    split at acted
    · cases acted
    · cases acted
      exact ⟨shut, rfl⟩
  case h_13 => cases acted
  all_goals cases early

/-- A pool that was closed creates no session any more, closes none, and refuses every call from then on. -/
theorem closed_pool_refuses {ι : Type u} [DecidableEq ι] {es later : List (ι × PoolStep)}
    {p q : Pool ι ConnectionPoolManager PoolThread} (run : exec step start es = some p)
    (closed : p.shared.closed = true) (free : p.shared.locked = false) (rest : exec step p later = some q) :
    Shut p.shared q.shared := by
  have held := run_holds run
  have initial : Pool.Holds (Shut p.shared) (fun _ thread => thread.early = true) (fun _ _ => True) p := by
    refine ⟨⟨closed, ((held.common.settled free).shut closed).1, rfl, rfl, [], by simp⟩, fun i => ?_,
      fun _ _ _ => trivial⟩
    have outside : (p.thread i).holds = false :=
      Bool.eq_false_iff.mpr fun inside => Bool.false_ne_true (free.symm.trans ((held.each i).locked inside))
    exact PoolThread.early_of_outside outside
  have owed : Pool.Preserves act (fun _ _ _ => True) (Shut p.shared) (fun _ thread => thread.early = true)
      fun _ _ => True :=
    ⟨fun shut early _ acted => shut.act early acted, fun _ _ early _ _ _ _ => ⟨early, trivial, trivial⟩⟩
  exact (owed.exec initial (meets_of_forall fun _ _ => trivial) rest).common

/-- A caller that comes after the close. -/
theorem closed_pool_refuses_late : ∃ p q, exec step start sharedSession = some p ∧
    exec step p [(true, .getSession "dhan"), (true, .enter), (true, .checkClosed)] = some q ∧
      Shut p.shared q.shared := by
  obtain ⟨q, ran, -⟩ := Option.map_eq_some_iff.mp
    (show (exec step start (sharedSession ++ [(true, .getSession "dhan"), (true, .enter), (true, .checkClosed)])).map
      (fun q => q.shared.closed) = some true by decide +kernel)
  obtain ⟨p, first, rest⟩ := exec_append_inv ran
  have shared := congrArg (Option.map fun p => (p.shared.closed, p.shared.locked)) first
  have flags : (true, false) = (p.shared.closed, p.shared.locked) := Option.some.inj
    ((show _ = some (true, false) by decide +kernel).symm.trans shared)
  exact ⟨p, q, first, rest,
    closed_pool_refuses first (congrArg Prod.fst flags).symm (congrArg Prod.snd flags).symm rest⟩

end ConnectionPoolManager

end TradeX.V1
