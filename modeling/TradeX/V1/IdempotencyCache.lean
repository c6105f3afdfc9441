import TradeX.Lib.Decimal
import TradeX.Lib.Dict

/-! The idempotency cache that the v1 broker adapters share: committed results in a
`cachetools.TTLCache`, and pending reservations in a dictionary beside it. A
reservation does not look at the results. -/

namespace TradeX.V1

open Lib

/-- The interface of `cachetools.TTLCache`, which is not part of the repository. Each
operation reads the timer of the cache once. -/
structure TTLCache (T : Type u) where
  Store : Type v
  empty : Store
  /-- `cache[key]`, with `none` for a `KeyError`; a hit may reorder the items. -/
  getitem : Store → String → ℚ → Store × Option T
  /-- `cache[key] = value`. -/
  setitem : Store → String → T → ℚ → Store
  currsize : Store → ℚ → Nat

namespace TTLCache

def find {T : Type u} (cache : TTLCache.{u, v} T) (store : cache.Store) (key : String) (now : ℚ) : Option T :=
  (cache.getitem store key now).2

/-- What `cachetools` documents: an item is found until its time to live is over, an
item is discarded early only to make room in a full cache, and a lookup discards
nothing. -/
structure Documented {T : Type u} (cache : TTLCache.{u, v} T) (maxsize : Nat) (ttl : ℚ) : Prop where
  getitem_find : ∀ store key now other later,
    cache.find (cache.getitem store key now).1 other later = cache.find store other later
  setitem_find : ∀ store key value now later, 0 < maxsize → later < now + ttl →
    cache.find (cache.setitem store key value now) key later = some value
  setitem_other : ∀ store key value now other later, other ≠ key →
    cache.find store key now ≠ none ∨ cache.currsize store now < maxsize →
    cache.find store other now ≠ none →
    cache.find (cache.setitem store key value now) other later = cache.find store other later

end TTLCache

/-- The items of a `TTLCache` with their expiries, the least recently used one first. -/
abbrev Items (T : Type u) := Dict String (T × ℚ)

namespace Items

variable {T : Type u} (items : Items T) (key : String) (now : ℚ)

def live : Items T := items.keep fun item => decide (now < item.2)

def find : Option T := ((items.live now).get key).map Prod.fst

def getitem : Items T × Option T :=
  match items.get key with
  | none => (items, none)
  | some item => ((items.pop key).set key item, items.find key now)

def full (maxsize : Nat) : Prop := items.contains key = false ∧ items.size ≥ maxsize

instance (maxsize : Nat) : Decidable (items.full key maxsize) := inferInstanceAs (Decidable (_ ∧ _))

def setitem (maxsize : Nat) (ttl : ℚ) (value : T) : Items T :=
  let live := items.live now
  let room :=
    if live.full key maxsize then
      match live.oldest with
      | none => live
      | some first => live.pop first
    else live
  (room.pop key).set key (value, now + ttl)

variable {items key now} {other : String} {later ttl : ℚ} {maxsize : Nat} {value : T}

theorem find_eq :
    items.find key now = ((items.get key).filter fun item => decide (now < item.2)).map Prod.fst := by
  unfold find live
  rw [Dict.get_keep]

theorem getitem_snd : (items.getitem key now).2 = items.find key now := by
  unfold getitem
  cases found : items.get key with
  | none =>
    rw [find_eq, found]
    rfl
  | some item => rfl

theorem getitem_get : (items.getitem key now).1.get other = items.get other := by
  unfold getitem
  cases found : items.get key with
  | none => rfl
  | some item =>
    by_cases same : other = key
    · subst same
      exact (Dict.get_set_self ..).trans found.symm
    · exact (Dict.get_set_other _ _ _ _ same).trans (Dict.get_pop_other _ _ _ same)

theorem getitem_find : (items.getitem key now).1.find other later = items.find other later := by
  rw [find_eq, find_eq, getitem_get]

theorem setitem_find (early : later < now + ttl) :
    (items.setitem key now maxsize ttl value).find key later = some value := by
  rw [find_eq, setitem, Dict.get_set_self, Option.filter_some, if_pos (decide_eq_true early)]
  rfl

theorem setitem_other (differs : other ≠ key)
    (room : items.find key now ≠ none ∨ (items.live now).size < maxsize)
    (found : items.find other now ≠ none) :
    (items.setitem key now maxsize ttl value).find other later = items.find other later := by
  have roomy : ¬ (items.live now).full key maxsize := by
    rintro ⟨absent, full⟩
    rcases room with present | room
    · rw [Dict.contains, Option.isSome_eq_false_iff, Option.isNone_iff_eq_none] at absent
      rw [find, absent] at present
      exact present rfl
    · exact absurd full (Nat.not_le.mpr room)
  have live : (items.live now).get other = items.get other := by
    rw [live, Dict.get_keep]
    cases stored : items.get other with
    | none => rfl
    | some item =>
      rw [find_eq, stored] at found
      by_cases early : now < item.2
      · rw [Option.filter_some, if_pos (decide_eq_true early)]
      · rw [Option.filter_some, if_neg (by simpa using early)] at found
        exact absurd rfl found
  rw [find_eq, find_eq, setitem, if_neg roomy, Dict.get_set_other _ _ _ _ differs,
    Dict.get_pop_other _ _ _ differs, live]

end Items

/-- A cache that behaves as documented. -/
def leastRecentlyUsed (T : Type u) (maxsize : Nat) (ttl : ℚ) : TTLCache T where
  Store := Items T
  empty := ∅
  getitem := Items.getitem
  setitem items key value now := items.setitem key now maxsize ttl value
  currsize items now := (items.live now).size

theorem documented_leastRecentlyUsed (T : Type u) (maxsize : Nat) (ttl : ℚ) :
    (leastRecentlyUsed T maxsize ttl).Documented maxsize ttl where
  getitem_find _ _ _ _ _ := Items.getitem_snd.trans (Items.getitem_find.trans Items.getitem_snd.symm)
  setitem_find _ _ _ _ _ _ early := Items.getitem_snd.trans (Items.setitem_find early)
  setitem_other _ _ _ _ _ _ differs room found :=
    Items.getitem_snd.trans <| (Items.setitem_other differs
      (room.imp_left fun present => Items.getitem_snd ▸ present)
      (Items.getitem_snd ▸ found)).trans Items.getitem_snd.symm

/-- The time to live of the results is `int(ttl)`. -/
def storeTtl (ttl : ℚ) : ℚ := Decimal.toInt ttl

theorem storeTtl_le {ttl : ℚ} (positive : 0 < storeTtl ttl) : storeTtl ttl ≤ ttl := by
  unfold storeTtl at positive ⊢
  exact Decimal.toInt_le (by exact_mod_cast positive)

structure IdempotencyCache {T : Type u} (cache : TTLCache.{u, v} T) where
  ttl : ℚ := 300
  results : cache.Store := cache.empty
  /-- The clock reading of each reservation. -/
  pending : Dict String ℚ := ∅

namespace IdempotencyCache

variable {T : Type u} {cache : TTLCache.{u, v} T}

section

variable (ledger : IdempotencyCache cache) (cid : String) (now : ℚ)

/-- `IdempotencyCache.get`. -/
def get : IdempotencyCache cache × Option T :=
  let found := cache.getitem ledger.results cid now
  ({ ledger with results := found.1 }, found.2)

/-- `IdempotencyCache.put`. -/
def put (value : T) : IdempotencyCache cache :=
  { ledger with results := cache.setitem ledger.results cid value now }

/-- `IdempotencyCache.reserve`. -/
def reserve : IdempotencyCache cache × Bool :=
  match ledger.pending.get cid with
  | none => ({ ledger with pending := ledger.pending.set cid now }, true)
  | some existing =>
    if now - existing < ledger.ttl then (ledger, false)
    else ({ ledger with pending := ledger.pending.set cid now }, true)

/-- `IdempotencyCache.clear_reservation`. -/
def clearReservation : IdempotencyCache cache := { ledger with pending := ledger.pending.pop cid }

/-- `IdempotencyCache.commit`. -/
def commit (value : T) : IdempotencyCache cache := (ledger.put cid now value).clearReservation cid

/-- A result for the id that `get` would return. -/
def finished : Prop := cache.find ledger.results cid now ≠ none

/-- A commit of the id discards no other result. -/
def roomy (maxsize : Nat) : Prop :=
  ledger.finished cid now ∨ cache.currsize ledger.results now < maxsize

/-- A reservation that is live until the horizon. -/
def Reserved (horizon : ℚ) : Prop :=
  ∃ reservedAt, ledger.pending.get cid = some reservedAt ∧ horizon ≤ reservedAt + ledger.ttl

/-- A result that is found until the horizon. -/
def Committed (horizon : ℚ) : Prop := ∀ now < horizon, ledger.finished cid now

/-- Reserved or committed until the horizon. -/
def Owned (horizon : ℚ) : Prop := ledger.Reserved cid horizon ∨ ledger.Committed cid horizon

end

instance (ledger : IdempotencyCache cache) (cid : String) (now : ℚ) :
    Decidable (ledger.finished cid now) :=
  decidable_of_iff _ Option.isSome_iff_ne_none

instance (ledger : IdempotencyCache cache) (cid : String) (now : ℚ) (maxsize : Nat) :
    Decidable (ledger.roomy cid now maxsize) :=
  inferInstanceAs (Decidable (_ ∨ _))

variable {ledger : IdempotencyCache cache} {cid other : String} {now horizon : ℚ} {value : T}
  {maxsize : Nat} {ttl : ℚ}

@[simp] theorem get_pending : (ledger.get cid now).1.pending = ledger.pending := rfl

@[simp] theorem get_ttl : (ledger.get cid now).1.ttl = ledger.ttl := rfl

@[simp] theorem commit_ttl : (ledger.commit cid now value).ttl = ledger.ttl := rfl

theorem get_owned (documented : cache.Documented maxsize ttl) (owned : ledger.Owned other horizon) :
    (ledger.get cid now).1.Owned other horizon := by
  refine owned.imp id fun committed later early => ?_
  unfold finished get
  rw [documented.getitem_find]
  exact committed later early

theorem reserve_false (refused : (ledger.reserve cid now).2 = false) :
    (ledger.reserve cid now).1 = ledger := by
  unfold reserve at refused ⊢
  split at refused
  · cases refused
  · next existing found =>
    split at refused
    · next live => simp only [if_pos live]
    · cases refused

/-- A granted reservation is fresh, and none that lives on was there before. -/
theorem reserve_true (early : now < horizon) (granted : (ledger.reserve cid now).2 = true) :
    (ledger.reserve cid now).1 = { ledger with pending := ledger.pending.set cid now } ∧
      ¬ ledger.Reserved cid horizon := by
  unfold reserve at granted ⊢
  cases found : ledger.pending.get cid with
  | none =>
    refine ⟨rfl, ?_⟩
    rintro ⟨reservedAt, stored, -⟩
    rw [found] at stored
    cases stored
  | some existing =>
    by_cases live : now - existing < ledger.ttl
    · simp only [found, if_pos live, Bool.false_eq_true] at granted
    · simp only [if_neg live]
      refine ⟨trivial, ?_⟩
      rintro ⟨reservedAt, stored, late⟩
      rw [found] at stored
      cases stored
      exact live (by linarith)

theorem set_pending_self (late : horizon ≤ now + ledger.ttl) :
    ({ ledger with pending := ledger.pending.set cid now } : IdempotencyCache cache).Reserved cid horizon :=
  ⟨now, Dict.get_set_self .., late⟩

theorem set_pending_keeps (late : horizon ≤ now + ledger.ttl) (reserved : ledger.Reserved other horizon) :
    ({ ledger with pending := ledger.pending.set cid now } : IdempotencyCache cache).Reserved other
      horizon := by
  by_cases same : other = cid
  · subst same
    exact set_pending_self late
  · obtain ⟨reservedAt, stored, later⟩ := reserved
    exact ⟨reservedAt, (Dict.get_set_other _ _ _ _ same).trans stored, later⟩

theorem clearReservation_reserved (differs : other ≠ cid) (reserved : ledger.Reserved other horizon) :
    (ledger.clearReservation cid).Reserved other horizon := by
  obtain ⟨reservedAt, stored, late⟩ := reserved
  exact ⟨reservedAt, (Dict.get_pop_other _ _ _ differs).trans stored, late⟩

theorem clearReservation_owned (differs : other ≠ cid) (owned : ledger.Owned other horizon) :
    (ledger.clearReservation cid).Owned other horizon :=
  owned.imp (clearReservation_reserved differs) id

theorem commit_reserved (differs : other ≠ cid) (reserved : ledger.Reserved other horizon) :
    (ledger.commit cid now value).Reserved other horizon :=
  clearReservation_reserved differs reserved

theorem commit_committed (documented : cache.Documented maxsize ttl) (positive : 0 < maxsize)
    (late : horizon ≤ now + ttl) : (ledger.commit cid now value).Committed cid horizon := by
  intro later early
  unfold finished commit put clearReservation
  rw [documented.setitem_find _ _ _ _ _ positive (early.trans_le late)]
  exact Option.some_ne_none value

theorem commit_owned (documented : cache.Documented maxsize ttl) (positive : 0 < maxsize)
    (roomy : ledger.roomy cid now maxsize) (early : now < horizon) (late : horizon ≤ now + ttl)
    (owned : ledger.Owned other horizon) : (ledger.commit cid now value).Owned other horizon := by
  by_cases same : other = cid
  · subst same
    exact .inr (commit_committed documented positive late)
  · refine owned.imp (commit_reserved same) fun committed later soon => ?_
    unfold finished commit put clearReservation
    rw [documented.setitem_other _ _ _ _ _ _ same roomy (committed now early)]
    exact committed later soon

end IdempotencyCache

end TradeX.V1
