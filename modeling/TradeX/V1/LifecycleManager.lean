import TradeX.Lib.Dict
import TradeX.Lib.Runs

/-! The lifecycle manager: services by name, started in the order of their registration and stopped in the reverse
of it. Calls come one after another; a service may fail to start, fail to stop or hang while it stops. -/

namespace TradeX.V1.Lifecycle

open Lib

/-- A service object, with its identity and the name it is registered under. -/
structure Service where
  id : ℕ
  name : String
  deriving DecidableEq, Repr

/-- How `start` ends; the manager catches an `Exception` only. -/
inductive StartEnd where
  | returns
  | raises
  | escapes
  deriving DecidableEq, Repr

inductive StopEnd where
  | returns
  | raises
  | hangs
  deriving DecidableEq, Repr

inductive Invocation where
  | start (service : Service)
  | stop (service : Service)
  deriving DecidableEq, Repr

structure LifecycleManager where
  services : Dict String Service := .empty
  started : Finset String := ∅
  startFailed : Finset String := ∅
  startAllInvoked : Bool := false
  startOrder : List String := []
  stopOrder : List String := []
  deriving DecidableEq

/-- The manager and the service objects: those that run, those that run without a `stop` so far, those whose last
`start` raised, the names registered, the latest first, and the calls that the objects got. -/
structure World where
  manager : LifecycleManager := {}
  running : Finset Service := ∅
  owed : Finset Service := ∅
  failed : Finset Service := ∅
  registrations : List String := []
  log : List Invocation := []
  deriving DecidableEq

namespace World

variable (world : World)

/-- `service.start()`. -/
def invokeStart (service : Service) : StartEnd → World
  | .returns => { world with
      running := insert service world.running
      owed := insert service world.owed
      failed := world.failed.erase service
      log := world.log ++ [.start service] }
  | .raises => { world with
      failed := insert service world.failed
      log := world.log ++ [.start service] }
  | .escapes => { world with log := world.log ++ [.start service] }

/-- `service.stop()`; an object that does not stop keeps running. -/
def invokeStop (service : Service) : StopEnd → World
  | .returns => { world with
      running := world.running.erase service
      owed := world.owed.erase service
      log := world.log ++ [.stop service] }
  | .raises | .hangs => { world with
      owed := world.owed.erase service
      log := world.log ++ [.stop service] }

/-- `_start_one`, with whether it returns. -/
def startOne (ends : Service → StartEnd) (name : String) : World × Bool :=
  if name ∈ world.manager.started ∨ name ∈ world.manager.startFailed then (world, true)
  else
    match world.manager.services.get name with
    | none => (world, true)
    | some service =>
      let called := world.invokeStart service (ends service)
      match ends service with
      | .returns => ({ called with manager := { world.manager with
          started := insert name world.manager.started
          startFailed := world.manager.startFailed.erase name } }, true)
      | .raises => ({ called with manager := { world.manager with
          startFailed := insert name world.manager.startFailed } }, true)
      | .escapes => (called, false)

/-- `_stop_one`. -/
def stopOne (ends : Service → StopEnd) (name : String) : World :=
  if name ∉ world.manager.started then world
  else
    match world.manager.services.get name with
    | none => world
    | some service =>
      let called := world.invokeStop service (ends service)
      match ends service with
      | .returns => { called with manager := { world.manager with started := world.manager.started.erase name } }
      | .raises | .hangs => called

def startMany (ends : Service → StartEnd) (world : World) : List String → World
  | [] => world
  | name :: names =>
    match world.startOne ends name with
    | (started, true) => startMany ends started names
    | (started, false) => started

/-- The entries of a registration. -/
def enter (service : Service) : World := { world with
  registrations := service.name :: world.registrations
  manager := { world.manager with
    services := world.manager.services.set service.name service
    startOrder := if service.name ∈ world.manager.startOrder then world.manager.startOrder
      else world.manager.startOrder ++ [service.name]
    stopOrder := world.manager.stopOrder.erase service.name ++ [service.name] } }

def register (ends : Service → StartEnd) (service : Service) : World :=
  let entered := world.enter service
  if world.manager.startAllInvoked then (entered.startOne ends service.name).1 else entered

def unregister (name : String) : World := { world with
  manager := { world.manager with
    services := world.manager.services.pop name
    started := world.manager.started.erase name
    startFailed := world.manager.startFailed.erase name
    startOrder := world.manager.startOrder.filter (· ≠ name)
    stopOrder := world.manager.stopOrder.filter (· ≠ name) } }

def startAll (ends : Service → StartEnd) : World :=
  startMany ends { world with manager := { world.manager with startAllInvoked := true } } world.manager.startOrder

def stopAll (ends : Service → StopEnd) : World :=
  world.manager.stopOrder.reverse.foldl (fun world name => world.stopOne ends name) world

end World

/-- The calls of the manager, with how the services take them. -/
inductive Call where
  | register (service : Service) (ends : Service → StartEnd)
  | unregister (name : String)
  | start (name : String) (ends : Service → StartEnd)
  | startAll (ends : Service → StartEnd)
  | stop (name : String) (ends : Service → StopEnd)
  | stopAll (ends : Service → StopEnd)

namespace World

def perform (world : World) : Call → World
  | .register service ends => world.register ends service
  | .unregister name => world.unregister name
  | .start name ends => (world.startOne ends name).1
  | .startAll ends => world.startAll ends
  | .stop name ends => world.stopOne ends name
  | .stopAll ends => world.stopAll ends

/-- Only a service that does not run is unregistered. -/
def Permits (world : World) : Call → Prop
  | .unregister name => ∀ service ∈ world.manager.services.get name, service ∉ world.running
  | _ => True

instance (world : World) (call : Call) : Decidable (world.Permits call) := by
  cases call <;> simp only [Permits] <;> infer_instance

def step (world : World) (call : Call) : Option World := if world.Permits call then some (world.perform call) else none

/-- A name is started where its current service runs. -/
def Accounted (world : World) : Prop :=
  ∀ name, name ∈ world.manager.started ↔ ∃ service, world.manager.services.get name = some service ∧
    service ∈ world.running

/-- What each call owes to the services: a stop of all gives a stop to every service that has had none since it
started, the latest registration first; a start of a service whose start failed is a start of it. -/
def Serves (world : World) : Call → Prop
  | .stopAll ends => ∃ stops : List Service, (world.stopAll ends).log = world.log ++ stops.map .stop ∧
      (∀ service ∈ world.owed, service ∈ stops) ∧ (world.stopAll ends).owed = ∅ ∧
      stops.Pairwise fun first second =>
        world.registrations.idxOf first.name < world.registrations.idxOf second.name
  | .start name ends => ∀ service, world.manager.services.get name = some service → service ∈ world.failed →
      (world.startOne ends name).1.log = world.log ++ [.start service]
  | _ => True

def Lawful (world : World) (call : Call) : Prop := (world.perform call).Accounted ∧ world.Serves call

/-- A started name is registered again with its service only, and no name is started that is marked as failed by
the service it has. -/
def Considerate (world : World) : Call → Prop
  | .register service _ =>
    world.manager.services.get service.name = some service ∨ service.name ∉ world.manager.started
  | .start name _ => ∀ service, world.manager.services.get name = some service → service ∈ world.failed →
      name ∉ world.manager.startFailed
  | _ => True

structure Sound (world : World) : Prop where
  accounted : world.Accounted
  current : ∀ service ∈ world.running, world.manager.services.get service.name = some service
  owed : world.owed ⊆ world.running
  failed : Disjoint world.running world.failed
  named : ∀ name service, world.manager.services.get name = some service → service.name = name
  listed : ∀ name service, world.manager.services.get name = some service → name ∈ world.manager.stopOrder
  ordered : world.manager.stopOrder.reverse.Pairwise fun first second =>
    world.registrations.idxOf first < world.registrations.idxOf second

variable {world : World} {service : Service} {name : String}

theorem sound_empty : Sound {} where
  accounted _ := iff_of_false (Finset.notMem_empty _) nofun
  current _ member := absurd member (Finset.notMem_empty _)
  owed := Finset.Subset.refl _
  failed := Finset.disjoint_empty_left _
  named := nofun
  listed := nofun
  ordered := List.Pairwise.nil

/-- What a start of one name does: nothing, or its service is started. -/
theorem startOne_cases (world : World) (ends : Service → StartEnd) (name : String) :
    (world.startOne ends name = (world, true) ∧ (name ∈ world.manager.started ∨ name ∈ world.manager.startFailed ∨
      world.manager.services.get name = none)) ∨
    ∃ service, world.manager.services.get name = some service ∧ name ∉ world.manager.started ∧
      name ∉ world.manager.startFailed ∧ (world.startOne ends name).1.log = world.log ++ [.start service] := by
  simp only [startOne]
  by_cases marked : name ∈ world.manager.started ∨ name ∈ world.manager.startFailed
  · rw [if_pos marked]
    exact .inl ⟨rfl, marked.imp_right .inl⟩
  · rw [if_neg marked]
    cases held : world.manager.services.get name with
    | none => exact .inl ⟨rfl, .inr (.inr rfl)⟩
    | some service =>
      refine .inr ⟨service, rfl, fun started => marked (.inl started), fun failed => marked (.inr failed), ?_⟩
      cases ended : ends service <;> simp only [ended, invokeStart]

theorem Sound.unstarted (sound : world.Sound) (held : world.manager.services.get name = some service)
    (unmarked : name ∉ world.manager.started) : service ∉ world.running :=
  fun running => unmarked ((sound.accounted name).mpr ⟨service, held, running⟩)

theorem Sound.startOne (sound : world.Sound) (ends : Service → StartEnd) (name : String) :
    (world.startOne ends name).1.Sound := by
  rw [World.startOne]
  split
  · exact sound
  · next unmarked =>
    cases held : world.manager.services.get name with
    | none => exact sound
    | some service =>
      have own : service.name = name := sound.named name service held
      have idle := sound.unstarted held fun started => unmarked (.inl started)
      cases ended : ends service with
      | returns =>
        simp only [ended, invokeStart]
        refine ⟨?_, ?_, Finset.insert_subset_insert _ sound.owed, ?_, sound.named, sound.listed, sound.ordered⟩
        · intro other
          refine Finset.mem_insert.trans ?_
          constructor
          · rintro (rfl | started)
            · exact ⟨service, held, Finset.mem_insert_self _ _⟩
            · obtain ⟨there, found, running⟩ := (sound.accounted other).mp started
              exact ⟨there, found, Finset.mem_insert_of_mem running⟩
          · rintro ⟨there, found, running⟩
            rcases Finset.mem_insert.mp running with rfl | before
            · exact .inl ((sound.named other there found).symm.trans own)
            · exact .inr ((sound.accounted other).mpr ⟨there, found, before⟩)
        · intro there running
          rcases Finset.mem_insert.mp running with rfl | before
          · exact own ▸ held
          · exact sound.current there before
        · rw [Finset.disjoint_left]
          intro there running failed
          obtain ⟨other, failed⟩ := Finset.mem_erase.mp failed
          rcases Finset.mem_insert.mp running with same | before
          · exact other same
          · exact Finset.disjoint_left.mp sound.failed before failed
      | raises =>
        simp only [ended, invokeStart]
        refine ⟨sound.accounted, sound.current, sound.owed, ?_, sound.named, sound.listed, sound.ordered⟩
        exact Finset.disjoint_insert_right.mpr ⟨idle, sound.failed⟩
      | escapes =>
        simp only [ended, invokeStart]
        exact ⟨sound.accounted, sound.current, sound.owed, sound.failed, sound.named, sound.listed, sound.ordered⟩

theorem Sound.startMany (sound : world.Sound) (ends : Service → StartEnd) (names : List String) :
    (startMany ends world names).Sound := by
  induction names generalizing world with
  | nil => exact sound
  | cons name names ih =>
    have first := sound.startOne ends name
    rw [World.startMany]
    cases taken : world.startOne ends name with
    | mk after returned =>
      rw [taken] at first
      cases returned with
      | true => exact ih first
      | false => exact first

theorem Sound.stopOne (sound : world.Sound) (ends : Service → StopEnd) (name : String) :
    (world.stopOne ends name).Sound := by
  rw [World.stopOne]
  split
  · exact sound
  · cases held : world.manager.services.get name with
    | none => exact sound
    | some service =>
      have own : service.name = name := sound.named name service held
      have fewer : world.owed.erase service ⊆ world.running := (Finset.erase_subset _ _).trans sound.owed
      cases ended : ends service with
      | returns =>
        simp only [ended, invokeStop]
        refine ⟨?_, ?_, Finset.erase_subset_erase _ sound.owed, ?_, sound.named, sound.listed, sound.ordered⟩
        · intro other
          refine Finset.mem_erase.trans ?_
          rw [sound.accounted other]
          constructor
          · rintro ⟨differs, there, found, running⟩
            refine ⟨there, found, Finset.mem_erase.mpr ⟨?_, running⟩⟩
            rintro rfl
            exact differs ((sound.named other there found).symm.trans own)
          · rintro ⟨there, found, running⟩
            obtain ⟨differs, running⟩ := Finset.mem_erase.mp running
            refine ⟨?_, there, found, running⟩
            rintro rfl
            exact differs (Option.some.inj (found.symm.trans held))
        · intro there running
          exact sound.current there (Finset.mem_of_mem_erase running)
        · exact sound.failed.mono_left (Finset.erase_subset _ _)
      | raises =>
        simp only [ended, invokeStop]
        exact ⟨sound.accounted, sound.current, fewer, sound.failed, sound.named, sound.listed, sound.ordered⟩
      | hangs =>
        simp only [ended, invokeStop]
        exact ⟨sound.accounted, sound.current, fewer, sound.failed, sound.named, sound.listed, sound.ordered⟩

theorem Sound.nodup (sound : world.Sound) : world.manager.stopOrder.reverse.Nodup := by
  refine sound.ordered.imp ?_
  rintro first second before rfl
  exact lt_irrefl _ before

/-- A registration replaces no other service that runs. -/
theorem Sound.enter (sound : world.Sound)
    (replaces : world.manager.services.get service.name = some service ∨ service.name ∉ world.manager.started) :
    (world.enter service).Sound := by
  have others : ∀ there ∈ world.running, there.name = service.name → there = service := by
    intro there running same
    have found := sound.current there running
    rw [same] at found
    rcases replaces with own | unstarted
    · exact Option.some.inj (found.symm.trans own)
    · exact absurd ((sound.accounted service.name).mpr ⟨there, found, running⟩) unstarted
  refine ⟨?_, ?_, sound.owed, sound.failed, ?_, ?_, ?_⟩
  · intro other
    refine (sound.accounted other).trans ?_
    simp only [World.enter, Dict.get_set]
    by_cases same : other = service.name
    · rw [if_pos same]
      constructor
      · rintro ⟨there, found, running⟩
        have named := sound.named other there found
        exact ⟨service, rfl, others there running (named.trans same) ▸ running⟩
      · rintro ⟨there, found, running⟩
        rw [← Option.some.inj found] at running
        exact ⟨service, same ▸ sound.current service running, running⟩
    · rw [if_neg same]
  · intro there running
    simp only [World.enter, Dict.get_set]
    by_cases same : there.name = service.name
    · rw [if_pos same, others there running same]
    · rw [if_neg same]
      exact sound.current there running
  · intro other there found
    simp only [World.enter, Dict.get_set] at found
    by_cases same : other = service.name
    · rw [if_pos same] at found
      rw [same, Option.some.inj found]
    · rw [if_neg same] at found
      exact sound.named other there found
  · intro other there found
    simp only [World.enter, Dict.get_set] at found ⊢
    by_cases same : other = service.name
    · rw [same]
      exact List.mem_append_right _ List.mem_cons_self
    · rw [if_neg same] at found
      exact List.mem_append_left _ ((List.mem_erase_of_ne same).mpr (sound.listed other there found))
  · have nodup : world.manager.stopOrder.Nodup := List.nodup_reverse.mp sound.nodup
    have later : ∀ other ∈ (world.manager.stopOrder.erase service.name).reverse,
        (service.name :: world.registrations).idxOf other = world.registrations.idxOf other + 1 := by
      intro other member
      have differs := (nodup.mem_erase_iff.mp (List.mem_reverse.mp member)).1
      exact List.idxOf_cons_ne _ differs.symm
    simp only [World.enter, List.reverse_append, List.reverse_singleton, List.singleton_append]
    refine List.pairwise_cons.mpr ⟨?_, ?_⟩
    · intro other member
      rw [List.idxOf_cons_self, later other member]
      exact Nat.succ_pos _
    · refine (sound.ordered.sublist List.erase_sublist.reverse).imp_of_mem ?_
      intro first second inFirst inSecond before
      rw [later first inFirst, later second inSecond]
      exact Nat.succ_lt_succ before

theorem Sound.register (sound : world.Sound) (ends : Service → StartEnd)
    (replaces : world.manager.services.get service.name = some service ∨ service.name ∉ world.manager.started) :
    (world.register ends service).Sound := by
  rw [World.register]
  split
  · exact (sound.enter replaces).startOne ends service.name
  · exact sound.enter replaces

theorem Accounted.unregister (accounted : world.Accounted) (name : String) : (world.unregister name).Accounted := by
  intro other
  simp only [World.unregister, Dict.get_pop, Finset.mem_erase]
  by_cases same : other = name
  · rw [if_pos same]
    exact iff_of_false (fun member => member.1 same) nofun
  · rw [if_neg same]
    exact (and_iff_right same).trans (accounted other)

theorem Sound.unregister (sound : world.Sound)
    (stopped : ∀ service ∈ world.manager.services.get name, service ∉ world.running) :
      (world.unregister name).Sound := by
  refine ⟨sound.accounted.unregister name, ?_, sound.owed, sound.failed, ?_, ?_, ?_⟩
  · intro there running
    have found := sound.current there running
    simp only [World.unregister, Dict.get_pop]
    rw [if_neg]
    · exact found
    · rintro rfl
      exact stopped there found running
  · intro other there found
    simp only [World.unregister, Dict.get_pop] at found
    split at found
    · cases found
    · exact sound.named other there found
  · intro other there found
    simp only [World.unregister, Dict.get_pop] at found
    split at found
    · cases found
    · next differs => exact List.mem_filter.mpr ⟨sound.listed other there found, decide_eq_true differs⟩
  · exact sound.ordered.sublist List.filter_sublist.reverse

/-- What a stop of one name does: nothing where the name is not started, and else its service is stopped. -/
theorem stopOne_cases (world : World) (ends : Service → StopEnd) (name : String) :
    (world.stopOne ends name = world ∧ (name ∉ world.manager.started ∨ world.manager.services.get name = none)) ∨
    ∃ service, world.manager.services.get name = some service ∧
      (world.stopOne ends name).log = world.log ++ [.stop service] ∧
      (world.stopOne ends name).owed = world.owed.erase service ∧
      (world.stopOne ends name).manager.services = world.manager.services ∧
      ∀ other ≠ name, other ∈ (world.stopOne ends name).manager.started ↔ other ∈ world.manager.started := by
  rw [stopOne]
  by_cases started : name ∈ world.manager.started
  · rw [if_neg (not_not.mpr started)]
    cases held : world.manager.services.get name with
    | none => exact .inl ⟨rfl, .inr rfl⟩
    | some service =>
      refine .inr ⟨service, rfl, ?_⟩
      dsimp only
      generalize ends service = ended
      cases ended with
      | returns => exact ⟨rfl, rfl, rfl, fun other differs => Finset.mem_erase.trans (and_iff_right differs)⟩
      | raises => exact ⟨rfl, rfl, rfl, fun _ _ => Iff.rfl⟩
      | hangs => exact ⟨rfl, rfl, rfl, fun _ _ => Iff.rfl⟩
  · rw [if_pos started]
    exact .inl ⟨rfl, .inl started⟩

/-- Every started service of the names gets its stop, in their order, whatever the others do. -/
theorem stopMany_spec (ends : Service → StopEnd) (names : List String) (nodup : names.Nodup) (sound : world.Sound) :
    ∃ stops : List Service,
      (names.foldl (fun world name => world.stopOne ends name) world).log = world.log ++ stops.map .stop ∧
      (names.foldl (fun world name => world.stopOne ends name) world).owed = world.owed \ stops.toFinset ∧
      (∀ name ∈ names, name ∈ world.manager.started →
        ∀ service, world.manager.services.get name = some service → service ∈ stops) ∧
      (stops.map Service.name).Sublist names ∧
        (names.foldl (fun world name => world.stopOne ends name) world).Sound := by
  induction names generalizing world with
  | nil => exact ⟨[], (List.append_nil _).symm, (Finset.sdiff_empty).symm, nofun, List.Sublist.refl _, sound⟩
  | cons name names ih =>
    obtain ⟨fresh, nodup⟩ := List.nodup_cons.mp nodup
    obtain ⟨stops, logged, owed, all, order, final⟩ := ih nodup (sound.stopOne ends name)
    rcases stopOne_cases world ends name with ⟨same, absent⟩ | ⟨service, held, stopped, left, services, others⟩
    · rw [same] at logged owed all
      refine ⟨stops, ?_, ?_, ?_, order.cons name, final⟩
      · rw [List.foldl_cons, same, logged]
      · rw [List.foldl_cons, same, owed]
      · intro other member started there found
        rcases List.mem_cons.mp member with rfl | inside
        · rcases absent with unstarted | missing
          · exact absurd started unstarted
          · rw [found] at missing
            cases missing
        · exact all other inside started there found
    · refine ⟨service :: stops, ?_, ?_, ?_, ?_, final⟩
      · rw [List.foldl_cons, logged, stopped, List.append_assoc]
        rfl
      · rw [List.foldl_cons, owed, left, List.toFinset_cons, Finset.insert_eq, ← Finset.sdiff_singleton_eq_erase,
          sdiff_sdiff_left, Finset.sup_eq_union]
      · intro other member started there found
        rcases List.mem_cons.mp member with rfl | inside
        · rw [Option.some.inj (found.symm.trans held)]
          exact List.mem_cons_self
        · have differs : other ≠ name := fun same => fresh (same ▸ inside)
          exact List.mem_cons_of_mem _ (all other inside ((others other differs).mpr started) there (services ▸ found))
      · rw [List.map_cons, sound.named name service held]
        exact order.cons_cons name

theorem Sound.stopAll (sound : world.Sound) (ends : Service → StopEnd) :
    (world.stopAll ends).Sound ∧ world.Serves (.stopAll ends) := by
  obtain ⟨stops, logged, owed, all, order, final⟩ := stopMany_spec ends _ sound.nodup sound
  have every : ∀ service ∈ world.owed, service ∈ stops := by
    intro service member
    have running := sound.owed member
    have found := sound.current service running
    have listed := List.mem_reverse.mpr (sound.listed service.name service found)
    exact all service.name listed ((sound.accounted service.name).mpr ⟨service, found, running⟩) service found
  refine ⟨final, stops, logged, every, ?_, ?_⟩
  · refine owed.trans (Finset.sdiff_eq_empty_iff_subset.mpr ?_)
    intro service member
    exact List.mem_toFinset.mpr (every service member)
  · have latest := sound.ordered.sublist order
    rwa [List.pairwise_map] at latest

theorem Sound.startAll (sound : world.Sound) (ends : Service → StartEnd) : (world.startAll ends).Sound := by
  have invoked : Sound { world with manager := { world.manager with startAllInvoked := true } } :=
    ⟨sound.accounted, sound.current, sound.owed, sound.failed, sound.named, sound.listed, sound.ordered⟩
  exact invoked.startMany ends world.manager.startOrder

theorem Sound.perform {call : Call} (sound : world.Sound) (permitted : world.Permits call)
    (considerate : world.Considerate call) : (world.perform call).Sound := by
  cases call with
  | register service ends => exact sound.register ends considerate
  | unregister name => exact sound.unregister permitted
  | start name ends => exact sound.startOne ends name
  | startAll ends => exact sound.startAll ends
  | stop name ends => exact sound.stopOne ends name
  | stopAll ends => exact (sound.stopAll ends).1

/-- A start that is refused to a failed service is refused for the mark of its name. -/
theorem Sound.start_serves_iff (sound : world.Sound) (ends : Service → StartEnd) :
    world.Serves (.start name ends) ↔ world.Considerate (.start name ends) := by
  constructor
  · intro serves service held failed marked
    have logged := serves service held failed
    rw [World.startOne, if_pos (.inr marked)] at logged
    exact absurd (List.self_eq_append_right.mp logged) (List.cons_ne_nil _ _)
  · intro considerate service held failed
    have unmarked := considerate service held failed
    rcases startOne_cases world ends name with ⟨-, started | marked | missing⟩ | ⟨there, found, -, -, logged⟩
    · obtain ⟨there, found, running⟩ := (sound.accounted name).mp started
      rw [Option.some.inj (found.symm.trans held)] at running
      exact absurd failed (Finset.disjoint_left.mp sound.failed running)
    · exact absurd marked unmarked
    · rw [held] at missing
      cases missing
    · rw [logged, Option.some.inj (found.symm.trans held)]

/-- A started name that gets another service is not accounted for. -/
theorem Sound.replaces_of_accounted (sound : world.Sound) {ends : Service → StartEnd}
    (accounted : (world.register ends service).Accounted) : world.Considerate (.register service ends) := by
  by_contra foreign
  obtain ⟨differs, started⟩ := not_or.mp foreign
  have started := not_not.mp started
  have unstarted : world.register ends service = world.enter service := by
    rw [World.register]
    split
    · rw [World.startOne, if_pos (.inl started)]
    · rfl
  rw [unstarted] at accounted
  obtain ⟨there, found, running⟩ := (accounted service.name).mp started
  simp only [World.enter, Dict.get_set, if_true] at found
  rw [← Option.some.inj found] at running
  exact differs (sound.current service running)

theorem Sound.lawful_iff (sound : world.Sound) (call : Call) : world.Lawful call ↔ world.Considerate call := by
  cases call with
  | register service ends =>
    constructor
    · intro lawful
      exact sound.replaces_of_accounted lawful.1
    · intro considerate
      exact ⟨(sound.register ends considerate).accounted, trivial⟩
  | unregister name => exact iff_of_true ⟨sound.accounted.unregister name, trivial⟩ trivial
  | start name ends => exact (and_iff_right (sound.startOne ends name).accounted).trans (sound.start_serves_iff ends)
  | startAll ends => exact iff_of_true ⟨(sound.startAll ends).accounted, trivial⟩ trivial
  | stop name ends => exact iff_of_true ⟨(sound.stopOne ends name).accounted, trivial⟩ trivial
  | stopAll ends =>
    obtain ⟨after, serves⟩ := sound.stopAll ends
    exact iff_of_true ⟨after.accounted, serves⟩ trivial

/-- At every call of a run the started names are those whose service runs, a stop of all stops every service that
started and had no stop yet, the latest registration first and whatever the services raise, and a failed service
starts again, if and only if no call registers another service under a started name, and none starts a name that
its service has left marked as failed. -/
theorem lifecycle_kept_iff (calls : List Call) : Meets step Lawful {} calls ↔ Meets step Considerate {} calls := by
  refine meets_iff (fun _ call sound => sound.lawful_iff call) ?_ sound_empty
  intro world call after sound lawful taken
  rw [step] at taken
  split at taken
  · next permitted =>
    rw [← Option.some.inj taken]
    exact sound.perform permitted ((sound.lawful_iff call).mp lawful)
  · cases taken

/-- A service that is registered under a started name takes the place of one that runs: no stop reaches that one. -/
theorem replaced_service_never_stopped : ∃ world,
    exec step {} [.register ⟨1, "feed"⟩ fun _ => .returns, .startAll fun _ => .returns,
      .register ⟨2, "feed"⟩ fun _ => .returns, .stopAll fun _ => .returns] = some world ∧
    world.log = [.start ⟨1, "feed"⟩, .stop ⟨2, "feed"⟩] ∧ world.owed = {⟨1, "feed"⟩} := by
  refine ⟨_, rfl, by decide +kernel, by decide +kernel⟩

end World

end TradeX.V1.Lifecycle
