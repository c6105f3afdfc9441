import TradeX.Lib.Runs
import TradeX.V1.IdempotencyCache

/-! The idempotency service of v1 over a primary and a fallback backend, each of which may fail at every
call: what `claim` reports over a run of claims and releases of one key. -/

namespace TradeX.V1

open Lib

/-- How a call of a backend ends: it answers, or it raises, having done its work or not. -/
inductive BackendCall where
  | answers
  | raises (error : String) (done : Bool)
  deriving DecidableEq, Repr

/-- What a call leaves behind. -/
def BackendCall.leaves {α : Type u} : BackendCall → α → α → α
  | .answers, _, after => after
  | .raises _ done, before, after => if done = true then after else before

/-- How the calls of one backend end while the service makes one of its own. -/
structure BackendFaults where
  contains : BackendCall := .answers
  put : BackendCall := .answers
  delete : BackendCall := .answers
  deriving DecidableEq, Repr

structure IdempotencyFaults where
  primary : BackendFaults := {}
  fallback : BackendFaults := {}
  deriving DecidableEq, Repr

/-- An `IdempotencyCacheBackend`: what it stores, and the life it gives an item that is put with a ttl. -/
structure IdempotencyBackend (T : Type u) where
  lifetime : ℚ → ℚ := id
  items : Items T := ∅

namespace IdempotencyBackend

variable {T : Type u} (backend : IdempotencyBackend T) (key : String) (value : T) (ttl now : ℚ)

def contains : Bool := (backend.items.find key now).isSome

def put : IdempotencyBackend T :=
  { backend with items := backend.items.set key (value, now + backend.lifetime ttl) }

def delete : IdempotencyBackend T := { backend with items := backend.items.pop key }

variable {backend key value ttl now} {later : ℚ}

theorem put_contains (early : later < now + backend.lifetime ttl) :
    (backend.put key value ttl now).contains key later = true := by
  rw [contains, put, Items.find_eq, Dict.get_set_self, Option.filter_some, if_pos (decide_eq_true early)]
  rfl

end IdempotencyBackend

structure IdempotencyService (T : Type u) where
  primary : IdempotencyBackend T
  fallback : Option (IdempotencyBackend T) := none
  defaultTtl : ℚ := 86400
  enableFallback : Bool := true

namespace IdempotencyService

section

variable {T : Type u} (service : IdempotencyService T) (key : String) (value : T) (ttlSeconds : Option ℚ) (now : ℚ)
  (faults : IdempotencyFaults)

/-- The text of the `IdempotencyError` of a put. -/
def putError (error : String) : String := "Failed to store idempotency key " ++ key ++ ": " ++ error

def ttl : ℚ := ttlSeconds.getD service.defaultTtl

/-- The service after the call of the primary's `put`. -/
def primaryPut : IdempotencyService T :=
  { service with
    primary := faults.primary.put.leaves service.primary
      (service.primary.put key value (service.ttl ttlSeconds) now) }

/-- `IdempotencyService.put`. -/
def put : IdempotencyService T × Except String Unit :=
  let stored := service.primaryPut key value ttlSeconds now faults
  match faults.primary.put with
  | .answers => (stored, .ok ())
  | .raises error _ =>
    match service.fallback.filter fun _ => service.enableFallback with
    | none => (stored, .error (putError key error))
    | some fallback =>
      let both := { stored with
        fallback := some (faults.fallback.put.leaves fallback
          (fallback.put key value (service.ttl ttlSeconds) now)) }
      match faults.fallback.put with
      | .answers => (both, .ok ())
      | .raises fallbackError _ => (both, .error (putError key fallbackError))

/-- A backend holds the key. -/
def Holds : Prop :=
  service.primary.contains key now = true ∨ ∃ fallback ∈ service.fallback, fallback.contains key now = true

/-- A backend that holds the key answers when `claim` asks it. -/
def Seen : Prop :=
  (faults.primary.contains = .answers ∧ service.primary.contains key now = true) ∨
    ∃ fallback ∈ service.fallback, faults.fallback.contains = .answers ∧ fallback.contains key now = true

instance : Decidable (service.Holds key now) :=
  inferInstanceAs (Decidable (_ ∨ ∃ fallback ∈ service.fallback, _))

instance : Decidable (service.Seen key now faults) :=
  inferInstanceAs (Decidable (_ ∨ ∃ fallback ∈ service.fallback, _))

/-- `IdempotencyService.claim`. A `contains` that raises is passed over; what follows the two checks does
what `put` does. -/
def claim : IdempotencyService T × Except String Bool :=
  if faults.primary.contains = .answers ∧ service.primary.contains key now = true then (service, .ok false)
  else if ∃ fallback ∈ service.fallback, faults.fallback.contains = .answers ∧ fallback.contains key now = true then
    (service, .ok false)
  else
    let stored := service.put key value ttlSeconds now faults
    (stored.1, stored.2.map fun _ => true)

/-- `IdempotencyService.delete`. A `delete` that raises counts as `False`. -/
def delete : IdempotencyService T × Bool :=
  let primary := faults.primary.delete.leaves service.primary (service.primary.delete key)
  let fallback := service.fallback.map fun fallback =>
    faults.fallback.delete.leaves fallback (fallback.delete key)
  ({ service with primary := primary, fallback := fallback },
    (decide (faults.primary.delete = .answers) && service.primary.contains key now) ||
      (decide (faults.fallback.delete = .answers) && (service.fallback.any fun fallback => fallback.contains key now)))

end

section

variable {T : Type u} {service after : IdempotencyService T} {key : String} {value : T} {ttlSeconds : Option ℚ}
  {now later : ℚ} {faults : IdempotencyFaults}

theorem claim_seen (seen : service.Seen key now faults) :
    service.claim key value ttlSeconds now faults = (service, .ok false) := by
  simp only [claim]
  split
  · rfl
  · next unseen => rw [if_pos (seen.resolve_left unseen)]

/-- Where no backend that holds the key answers, the key is put as if nobody held it. -/
theorem claim_unseen (unseen : ¬ service.Seen key now faults) :
    service.claim key value ttlSeconds now faults =
      ((service.put key value ttlSeconds now faults).1,
        (service.put key value ttlSeconds now faults).2.map fun _ => true) := by
  obtain ⟨primary, fallback⟩ := not_or.mp unseen
  simp only [claim, if_neg primary, if_neg fallback]

/-- A held key is claimed again when no backend that holds it answers and a put goes through. -/
theorem claim_unanswered (unseen : ¬ service.Seen key now faults)
    (stored : (service.put key value ttlSeconds now faults).2 = .ok ()) :
    (service.claim key value ttlSeconds now faults).2 = .ok true := by
  rw [claim_unseen unseen, stored]
  rfl

/-- The life of what a successful put stores, in the backend that has answered. -/
def putLifetime (service : IdempotencyService T) (ttlSeconds : Option ℚ) (faults : IdempotencyFaults) : ℚ :=
  match faults.primary.put with
  | .answers => service.primary.lifetime (service.ttl ttlSeconds)
  | .raises _ _ => (service.fallback.map fun fallback => fallback.lifetime (service.ttl ttlSeconds)).getD 0

/-- A put that reports no error leaves the key in a backend for its life. -/
theorem put_holds (stored : (service.put key value ttlSeconds now faults).2 = .ok ())
    (early : later < now + service.putLifetime ttlSeconds faults) :
    (service.put key value ttlSeconds now faults).1.Holds key later := by
  simp only [put, primaryPut, putLifetime] at stored early ⊢
  cases primary : faults.primary.put with
  | answers =>
    simp only [primary] at early
    exact .inl (IdempotencyBackend.put_contains early)
  | raises error done =>
    simp only [primary] at stored early ⊢
    cases enabled : service.fallback.filter fun _ => service.enableFallback with
    | none =>
      simp only [enabled] at stored
      cases stored
    | some fallback =>
      simp only [enabled] at stored ⊢
      rw [(Option.filter_eq_some_iff.mp enabled).1, Option.map_some, Option.getD_some] at early
      cases second : faults.fallback.put with
      | raises fallbackError done =>
        simp only [second] at stored
        cases stored
      | answers => exact .inr ⟨_, rfl, IdempotencyBackend.put_contains early⟩

end

end IdempotencyService

/-- What happens to one key: a successful claim with the time at which its item expires, or a release. -/
inductive KeyEvent where
  | claimed (time expires : ℚ)
  | released
  deriving DecidableEq, Repr

namespace KeyEvent

/-- The expiries of the claims since the last release, of events with the latest first. -/
def standing : List KeyEvent → List ℚ
  | [] => []
  | released :: _ => []
  | claimed _ expires :: log => expires :: standing log

/-- Each claim has been made when those before it had expired or been released. -/
def AtMostOnce : List KeyEvent → Prop
  | [] => True
  | released :: log => AtMostOnce log
  | claimed time _ :: log => (∀ expires ∈ standing log, expires ≤ time) ∧ AtMostOnce log

end KeyEvent

/-- A call of the service with the time at which it is made. -/
inductive KeyCall (T : Type u) where
  | claim (value : T) (ttlSeconds : Option ℚ) (now : ℚ) (faults : IdempotencyFaults)
  | delete (now : ℚ) (faults : IdempotencyFaults)

/-- The service at a time, and what has happened to the key so far. -/
structure KeyHistory (T : Type u) where
  service : IdempotencyService T
  now : ℚ
  log : List KeyEvent := []

namespace KeyHistory

section

variable {T : Type u} (key : String) (history : KeyHistory T)

/-- One call; no call is made before the ones before it. -/
def step : KeyCall T → Option (KeyHistory T)
  | .claim value ttlSeconds now faults =>
    if now < history.now then none
    else
      let claimed := history.service.claim key value ttlSeconds now faults
      some { service := claimed.1
             now := now
             log :=
               match claimed.2 with
               | .ok true => .claimed now (now + history.service.putLifetime ttlSeconds faults) :: history.log
               | .ok false | .error _ => history.log }
  | .delete now faults =>
    if now < history.now then none
    else some ⟨(history.service.delete key now faults).1, now, .released :: history.log⟩

/-- Where a backend holds the key, one that holds it answers the claim. -/
def Answered : KeyCall T → Prop
  | .claim _ _ now faults => history.service.Holds key now → history.service.Seen key now faults
  | .delete _ _ => True

instance : (call : KeyCall T) → Decidable (history.Answered key call)
  | .claim _ _ now faults =>
    inferInstanceAs (Decidable (history.service.Holds key now → history.service.Seen key now faults))
  | .delete _ _ => isTrue trivial

/-- The claims have been made one after the other's end, and a backend holds each until then. -/
structure Sound : Prop where
  once : KeyEvent.AtMostOnce history.log
  held : ∀ expires ∈ KeyEvent.standing history.log, ∀ later, history.now ≤ later → later < expires →
    history.service.Holds key later

end

variable {T : Type u} {key : String} {history after final : KeyHistory T} {call : KeyCall T}

theorem Sound.expired (sound : history.Sound key) {now : ℚ} (order : history.now ≤ now)
    (free : ¬ history.service.Holds key now) :
    ∀ expires ∈ KeyEvent.standing history.log, expires ≤ now :=
  fun expires member => not_lt.mp fun early => free (sound.held expires member now order early)

theorem Sound.step (sound : history.Sound key) (answered : history.Answered key call)
    (taken : history.step key call = some after) : after.Sound key := by
  cases call with
  | delete now faults =>
    simp only [KeyHistory.step] at taken
    split at taken
    · cases taken
    · cases taken
      exact ⟨sound.once, nofun⟩
  | claim value ttlSeconds now faults =>
    simp only [KeyHistory.step] at taken
    split at taken
    · cases taken
    · next order =>
      rw [not_lt] at order
      have ends := Option.some.inj taken
      by_cases seen : history.service.Seen key now faults
      · rw [IdempotencyService.claim_seen seen] at ends
        rw [← ends]
        exact ⟨sound.once, fun expires member later after => sound.held expires member later (order.trans after)⟩
      · have free : ¬ history.service.Holds key now := fun holds => seen (answered holds)
        have expired := sound.expired order free
        rw [IdempotencyService.claim_unseen seen] at ends
        cases stored : (history.service.put key value ttlSeconds now faults).2 with
        | error error =>
          rw [stored] at ends
          rw [← ends]
          refine ⟨sound.once, fun expires member later after early => ?_⟩
          exact absurd ((expired expires member).trans after) (not_le.mpr early)
        | ok done =>
          rw [stored] at ends
          rw [← ends]
          refine ⟨⟨expired, sound.once⟩, fun expires member later after early => ?_⟩
          rcases List.mem_cons.mp member with rfl | member
          · exact IdempotencyService.put_holds stored early
          · exact absurd ((expired expires member).trans after) (not_le.mpr early)

/-- Whatever fails: where every claim that meets a held key hears so from a backend that holds it, a claim
succeeds only when the earlier ones have expired or been released. -/
theorem claimed_at_most_once (service : IdempotencyService T) (key : String) (now : ℚ) (calls : List (KeyCall T))
    (final : KeyHistory T) (run : exec (step key) ⟨service, now, []⟩ calls = some final)
    (answered : Meets (step key) (Answered key) ⟨service, now, []⟩ calls) : KeyEvent.AtMostOnce final.log := by
  have initial : (⟨service, now, []⟩ : KeyHistory T).Sound key := ⟨trivial, nofun⟩
  exact (exec_invariant (fun _ _ _ sound answered taken => sound.step answered taken) initial answered run).once

private def twoBackends : IdempotencyService String where
  primary := {}
  fallback := some {}

private def down (error : String) : BackendCall := .raises error false

/-- The primary is down while the key is claimed, and later while the claim is repeated. -/
private def repeated : List (KeyCall String) := [
  .claim "evt-1" none 0 { primary := { put := down "timeout" } },
  .claim "evt-1" none 1 { primary := { contains := down "timeout" } },
  .claim "evt-1" none 86401 {}]

theorem repeated_claims_refused : ∃ final, exec (step "evt-1") ⟨twoBackends, 0, []⟩ repeated = some final ∧
    KeyEvent.AtMostOnce final.log :=
  ⟨_, rfl, claimed_at_most_once twoBackends "evt-1" 0 repeated _ rfl (by decide +kernel)⟩

/-- The primary fails to store the key, which the fallback does; then the fallback fails to answer. -/
private def hidden : List (KeyCall String) := [
  .claim "evt-1" none 0 { primary := { put := down "timeout" } },
  .claim "evt-1" none 1 { fallback := { contains := down "disk" } }]

theorem hidden_claim_repeated : ∃ final, exec (step "evt-1") ⟨twoBackends, 0, []⟩ hidden = some final ∧
    ¬ KeyEvent.AtMostOnce final.log := by
  refine ⟨_, rfl, fun once => ?_⟩
  have expired := once.1 86400 (by decide +kernel)
  exact absurd expired (by decide +kernel)

end KeyHistory

end TradeX.V1
