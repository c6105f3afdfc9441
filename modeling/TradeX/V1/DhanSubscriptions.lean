import TradeX.Lib.Runs
import TradeX.V1.ExchangeSegments

/-! The subscriptions of the market feed: a list of instruments and a set of them, kept side by side. The feed may
be connected at a call or not, and its own calls may raise. -/

namespace TradeX.V1.DhanFeed

open Lib

/-- An instrument in the form of the feed: exchange, security and subscription type. -/
abbrev SdkInstrument := ℤ × String × ℤ

inductive Field where
  | number (n : ℤ)
  | text (written : String)
  deriving DecidableEq, Repr

def Field.str : Field → String
  | .number n => toString n
  | .text written => written

/-- The constants of the feed for its subscription types. -/
structure SubscriptionTypes where
  ticker : ℤ
  quote : ℤ
  full : ℤ
  deriving DecidableEq, Repr

/-- `_mode_map`. -/
def SubscriptionTypes.modeMap (types : SubscriptionTypes) : List (String × ℤ) := [
  ("LTP", types.ticker),
  ("TICKER", types.ticker),
  ("QUOTE", types.quote),
  ("FULL", types.full),
  ("DEPTH", types.quote)]

section

variable (table : CharTable) (types : SubscriptionTypes)

def modeInt : Field → ℤ
  | .number n => n
  | .text mode => (types.modeMap.lookup (Symbols.upper table mode)).getD types.ticker

def exchInt : Field → Option ℤ
  | .number n => some n
  | .text exchange => toSdkInt table exchange

/-- An instrument in the form of the feed, none for a malformed one or an unknown exchange. -/
def toSdkInstrument : List Field → Option SdkInstrument
  | [.number exchange, securityId, .number mode] => some (exchange, securityId.str, mode)
  | [exchange, securityId, mode] => (exchInt table exchange).map fun code =>
    (code, securityId.str, modeInt table types mode)
  | _ => none

def toSdkInstruments (instruments : List (List Field)) : List SdkInstrument :=
  instruments.filterMap (toSdkInstrument table types)

end

/-- What the feed is asked for. -/
inductive Request where
  | subscribeSymbols (instruments : List SdkInstrument)
  | unsubscribeSymbols (instruments : List SdkInstrument)
  | closeConnection
  deriving DecidableEq, Repr

structure Connection where
  feed : Bool
  isConnected : Bool
  reconnectCount : ℕ
  deriving DecidableEq, Repr

def Connection.recordConnectionFailure (conn : Connection) : Connection :=
  { conn with isConnected := false, reconnectCount := conn.reconnectCount + 1 }

structure MarketFeedSubscriptionManager where
  instruments : List SdkInstrument
  subscribedInstruments : Finset SdkInstrument
  conn : Option Connection
  requests : List Request := []
  deriving DecidableEq

namespace MarketFeedSubscriptionManager

def MAX_INSTRUMENTS : ℕ := 1000

/-- `__init__`, with the instruments in the form of the feed. -/
def init (instruments : List SdkInstrument) (conn : Option Connection) : MarketFeedSubscriptionManager where
  instruments := instruments
  subscribedInstruments := instruments.toFinset
  conn := conn

variable (manager : MarketFeedSubscriptionManager)

/-- The connection, where it has a feed and is connected. -/
def connected : Option Connection := manager.conn.filter fun conn => conn.feed && conn.isConnected

def newInstruments (sdkInstruments : List SdkInstrument) : List SdkInstrument :=
  sdkInstruments.filter fun instrument => instrument ∉ manager.subscribedInstruments

def limitError (total : ℕ) : String :=
  s!"Dhan WebSocket limit is {MAX_INSTRUMENTS} instruments, would have {total}. Unsubscribe some first."

/-- The call of the feed behind a change; one that raises is recorded, and the connection closed. -/
def subscribeSymbols (instruments : List SdkInstrument) (raises : Bool) : MarketFeedSubscriptionManager :=
  match manager.connected with
  | none => manager
  | some conn =>
    if raises then
      { manager with
        conn := some conn.recordConnectionFailure
        requests := manager.requests ++ [.subscribeSymbols instruments, .closeConnection] }
    else { manager with requests := manager.requests ++ [.subscribeSymbols instruments] }

/-- `subscribe`, with the error that it raises. -/
def subscribe (sdkInstruments : List SdkInstrument) (raises : Bool) : MarketFeedSubscriptionManager × Option String :=
  let newInstruments := manager.newInstruments sdkInstruments
  if newInstruments = [] then (manager, none)
  else
    let total := manager.subscribedInstruments.card + newInstruments.length
    if MAX_INSTRUMENTS < total then (manager, some (limitError total))
    else
      let extended := { manager with
        instruments := manager.instruments ++ newInstruments
        subscribedInstruments := manager.subscribedInstruments ∪ newInstruments.toFinset }
      (extended.subscribeSymbols newInstruments raises, none)

/-- The feed is told, whatever comes of it. -/
def unsubscribeSymbols (instruments : List SdkInstrument) : MarketFeedSubscriptionManager :=
  match manager.connected with
  | none => manager
  | some _ => { manager with requests := manager.requests ++ [.unsubscribeSymbols instruments] }

/-- The set loses the instrument, and the list the first of its entries. -/
def drop (instrument : SdkInstrument) : MarketFeedSubscriptionManager := { manager with
  subscribedInstruments := manager.subscribedInstruments.erase instrument
  instruments := manager.instruments.erase instrument }

def unsubscribe (sdkInstruments : List SdkInstrument) : MarketFeedSubscriptionManager :=
  sdkInstruments.foldl drop (manager.unsubscribeSymbols sdkInstruments)

end MarketFeedSubscriptionManager

/-- Calls of the manager, and what the feed's own threads do to the connection between them. -/
inductive Call where
  | subscribe (instruments : List (List Field)) (raises : Bool)
  | unsubscribe (instruments : List (List Field))
  | connection (conn : Option Connection)

namespace MarketFeedSubscriptionManager

section

variable (table : CharTable) (types : SubscriptionTypes)

def perform (manager : MarketFeedSubscriptionManager) : Call → MarketFeedSubscriptionManager × Option String
  | .subscribe instruments raises => manager.subscribe (toSdkInstruments table types instruments) raises
  | .unsubscribe instruments => (manager.unsubscribe (toSdkInstruments table types instruments), none)
  | .connection conn => ({ manager with conn := conn }, none)

def step (manager : MarketFeedSubscriptionManager) (call : Call) : Option MarketFeedSubscriptionManager :=
  some (manager.perform table types call).1

end

/-- The list and the set hold the same instruments, each once and within the limit. -/
structure Kept (manager : MarketFeedSubscriptionManager) : Prop where
  nodup : manager.instruments.Nodup
  same : manager.instruments.toFinset = manager.subscribedInstruments
  limit : manager.subscribedInstruments.card ≤ MAX_INSTRUMENTS

variable {manager : MarketFeedSubscriptionManager} {sdkInstruments : List SdkInstrument} {raises : Bool}

@[simp] theorem subscribeSymbols_instruments (manager : MarketFeedSubscriptionManager) (raises : Bool) :
    (manager.subscribeSymbols sdkInstruments raises).instruments = manager.instruments := by
  rw [subscribeSymbols]
  cases manager.connected with
  | none => rfl
  | some conn => cases raises <;> rfl

@[simp] theorem subscribeSymbols_subscribed (manager : MarketFeedSubscriptionManager) (raises : Bool) :
    (manager.subscribeSymbols sdkInstruments raises).subscribedInstruments = manager.subscribedInstruments := by
  rw [subscribeSymbols]
  cases manager.connected with
  | none => rfl
  | some conn => cases raises <;> rfl

/-- What a subscribe does: nothing, or it raises at the limit, or it adds what is new. -/
theorem subscribe_cases (manager : MarketFeedSubscriptionManager) (sdkInstruments : List SdkInstrument)
    (raises : Bool) :
    (manager.newInstruments sdkInstruments = [] ∧ manager.subscribe sdkInstruments raises = (manager, none)) ∨
    (MAX_INSTRUMENTS < manager.subscribedInstruments.card + (manager.newInstruments sdkInstruments).length ∧
      ∃ error, manager.subscribe sdkInstruments raises = (manager, some error)) ∨
    (manager.subscribedInstruments.card + (manager.newInstruments sdkInstruments).length ≤ MAX_INSTRUMENTS ∧
      (manager.subscribe sdkInstruments raises).2 = none ∧
      (manager.subscribe sdkInstruments raises).1.instruments =
        manager.instruments ++ manager.newInstruments sdkInstruments ∧
      (manager.subscribe sdkInstruments raises).1.subscribedInstruments =
        manager.subscribedInstruments ∪ (manager.newInstruments sdkInstruments).toFinset) := by
  simp only [subscribe]
  by_cases nothing : manager.newInstruments sdkInstruments = []
  · exact .inl ⟨nothing, if_pos nothing⟩
  · rw [if_neg nothing]
    by_cases above : MAX_INSTRUMENTS <
        manager.subscribedInstruments.card + (manager.newInstruments sdkInstruments).length
    · rw [if_pos above]
      exact .inr (.inl ⟨above, _, rfl⟩)
    · rw [if_neg above]
      exact .inr (.inr ⟨not_lt.mp above, rfl, subscribeSymbols_instruments _ _, subscribeSymbols_subscribed _ _⟩)

theorem mem_newInstruments {instrument : SdkInstrument} : instrument ∈ manager.newInstruments sdkInstruments ↔
    instrument ∈ sdkInstruments ∧ instrument ∉ manager.subscribedInstruments := by
  rw [newInstruments, List.mem_filter, decide_eq_true_eq]

/-- The distinct instruments that a subscribe is for, with those there are. -/
def wanted (manager : MarketFeedSubscriptionManager) (sdkInstruments : List SdkInstrument) : Finset SdkInstrument :=
  manager.subscribedInstruments ∪ sdkInstruments.toFinset

theorem wanted_eq_new : manager.wanted sdkInstruments =
    manager.subscribedInstruments ∪ (manager.newInstruments sdkInstruments).toFinset := by
  ext instrument
  simp only [wanted, Finset.mem_union, List.mem_toFinset, mem_newInstruments]
  tauto

theorem card_wanted : (manager.wanted sdkInstruments).card =
    manager.subscribedInstruments.card + (manager.newInstruments sdkInstruments).toFinset.card := by
  rw [wanted_eq_new, Finset.card_union_of_disjoint]
  rw [Finset.disjoint_left]
  intro instrument held member
  exact (mem_newInstruments.mp (List.mem_toFinset.mp member)).2 held

theorem Kept.drop (kept : manager.Kept) (instrument : SdkInstrument) : (manager.drop instrument).Kept := by
  refine ⟨kept.nodup.erase instrument, ?_, (Finset.card_le_card (Finset.erase_subset _ _)).trans kept.limit⟩
  ext other
  simp only [MarketFeedSubscriptionManager.drop, List.mem_toFinset, kept.nodup.mem_erase_iff, ← kept.same,
    Finset.mem_erase]

theorem Kept.unsubscribe (kept : manager.Kept) (sdkInstruments : List SdkInstrument) :
    (manager.unsubscribe sdkInstruments).Kept := by
  have told : (manager.unsubscribeSymbols sdkInstruments).Kept := by
    rw [unsubscribeSymbols]
    cases manager.connected with
    | none => exact kept
    | some conn => exact ⟨kept.nodup, kept.same, kept.limit⟩
  rw [MarketFeedSubscriptionManager.unsubscribe]
  generalize manager.unsubscribeSymbols sdkInstruments = told_ at told
  induction sdkInstruments generalizing told_ with
  | nil => exact told
  | cons instrument rest ih => exact ih _ (told.drop instrument)

/-- Every new instrument is named once, or there are too many distinct ones. -/
def NamedOnce (manager : MarketFeedSubscriptionManager) (sdkInstruments : List SdkInstrument) : Prop :=
  (manager.newInstruments sdkInstruments).Nodup ∨ MAX_INSTRUMENTS < (manager.wanted sdkInstruments).card

/-- A subscribe keeps the list and the set, raises only above the limit and then changes nothing. -/
def SubscribesLawfully (manager : MarketFeedSubscriptionManager) (sdkInstruments : List SdkInstrument)
    (raises : Bool) : Prop :=
  (manager.subscribe sdkInstruments raises).1.Kept ∧
    ((manager.subscribe sdkInstruments raises).2.isSome →
      (manager.subscribe sdkInstruments raises).1 = manager ∧ MAX_INSTRUMENTS < (manager.wanted sdkInstruments).card)

theorem Kept.subscribes_iff (kept : manager.Kept) :
    manager.SubscribesLawfully sdkInstruments raises ↔ manager.NamedOnce sdkInstruments := by
  have distinct := List.toFinset_card_le (manager.newInstruments sdkInstruments)
  rcases subscribe_cases manager sdkInstruments raises with
    ⟨nothing, same⟩ | ⟨above, error, same⟩ | ⟨within, silent, list, set⟩
  · rw [SubscribesLawfully, NamedOnce, same, nothing]
    exact iff_of_true ⟨kept, nofun⟩ (.inl List.nodup_nil)
  · rw [SubscribesLawfully, NamedOnce, same]
    constructor
    · intro lawful
      exact .inr (lawful.2 rfl).2
    · rintro (once | many)
      · refine ⟨kept, fun _ => ⟨rfl, ?_⟩⟩
        rwa [card_wanted, List.toFinset_card_of_nodup once]
      · exact ⟨kept, fun _ => ⟨rfl, many⟩⟩
  · constructor
    · intro lawful
      have nodup := lawful.1.nodup
      rw [list] at nodup
      exact .inl (List.nodup_append'.mp nodup).2.1
    · rintro (once | many)
      · refine ⟨⟨?_, ?_, ?_⟩, ?_⟩
        · rw [list, List.nodup_append']
          refine ⟨kept.nodup, once, ?_⟩
          intro instrument held new
          refine (mem_newInstruments.mp new).2 ?_
          rw [← kept.same]
          exact List.mem_toFinset.mpr held
        · rw [list, set, List.toFinset_append, kept.same]
        · rw [set, ← wanted_eq_new, card_wanted]
          omega
        · rw [silent]
          nofun
      · rw [card_wanted] at many
        omega

theorem init_kept_iff (instruments : List SdkInstrument) (conn : Option Connection) :
    (init instruments conn).Kept ↔ instruments.Nodup ∧ instruments.length ≤ MAX_INSTRUMENTS := by
  constructor
  · intro kept
    refine ⟨kept.nodup, ?_⟩
    have nodup : instruments.Nodup := kept.nodup
    rw [← List.toFinset_card_of_nodup nodup]
    exact kept.limit
  · rintro ⟨nodup, limit⟩
    exact ⟨nodup, rfl, (List.toFinset_card_le instruments).trans limit⟩

section

variable (table : CharTable) (types : SubscriptionTypes)

/-- The law of a call: the list and the set are kept, and a subscribe is refused only above the limit and then
without a change. -/
def Lawful (manager : MarketFeedSubscriptionManager) : Call → Prop
  | .subscribe instruments raises => manager.SubscribesLawfully (toSdkInstruments table types instruments) raises
  | call => (manager.perform table types call).1.Kept

/-- A subscribe names every instrument that is not subscribed once, or too many of them. -/
def NamesOnce (manager : MarketFeedSubscriptionManager) : Call → Prop
  | .subscribe instruments _ => manager.NamedOnce (toSdkInstruments table types instruments)
  | _ => True

variable {table types}

theorem Kept.lawful_iff (kept : manager.Kept) (call : Call) :
    manager.Lawful table types call ↔ manager.NamesOnce table types call := by
  cases call with
  | subscribe instruments raises => exact kept.subscribes_iff
  | unsubscribe instruments => exact iff_of_true (kept.unsubscribe _) trivial
  | connection conn => exact iff_of_true ⟨kept.nodup, kept.same, kept.limit⟩ trivial

theorem Lawful.kept {after : MarketFeedSubscriptionManager} {call : Call} (lawful : manager.Lawful table types call)
    (taken : step table types manager call = some after) : after.Kept := by
  rw [← Option.some.inj taken]
  cases call with
  | subscribe instruments raises => exact lawful.1
  | unsubscribe instruments => exact lawful
  | connection conn => exact lawful

/-- From the first state on and at every call of a run, the list and the set are kept and subscribes are refused
only above the limit and without a change, if and only if the first instruments are distinct and within the
limit, and no subscribe names an instrument twice that is not subscribed yet, unless there are too many anyway. -/
theorem subscriptions_kept_iff (initial : List (List Field)) (conn : Option Connection) (calls : List Call) :
    ((init (toSdkInstruments table types initial) conn).Kept ∧
      Meets (step table types) (Lawful table types) (init (toSdkInstruments table types initial) conn) calls) ↔
    (((toSdkInstruments table types initial).Nodup ∧ (toSdkInstruments table types initial).length ≤ MAX_INSTRUMENTS) ∧
      Meets (step table types) (NamesOnce table types) (init (toSdkInstruments table types initial) conn) calls) := by
  rw [← init_kept_iff]
  have preserved : ∀ manager call after, Kept manager → Lawful table types manager call →
      step table types manager call = some after → Kept after := fun _ _ _ _ lawful taken => lawful.kept taken
  exact and_congr_right fun kept => meets_iff (fun _ call kept => kept.lawful_iff call) preserved kept

end

/-- An instrument that one call names twice is subscribed once, but listed twice. -/
theorem repeated_instrument_listed_twice : ∃ manager,
    exec (step .ascii ⟨15, 17, 21⟩) (init (toSdkInstruments .ascii ⟨15, 17, 21⟩ []) none)
      [.subscribe [[.number 1, .text "1333", .number 15], [.number 1, .text "1333", .number 15]] false] = some manager ∧
    ¬manager.Kept := by
  refine ⟨_, rfl, ?_⟩
  intro kept
  exact absurd kept.nodup (by decide)

end MarketFeedSubscriptionManager

end TradeX.V1.DhanFeed
