import Atomistic.Proofs.System.Lists
import Atomistic.Proofs.World.Histories

/-!
# Neighbor lists over whole runs

The neighbor lists of a system are a map from what identifies a list, the pattern of the
cutoff, the direction and the unit, whoever asked for it.  Whatever happened to a system since
it was made, it gives back exactly what was added to it
(`Atomistic.System.neighborLists_keyed`).
-/

namespace Atomistic

open Session

namespace NeighborListOptions

private theorem sameList_comm (a b : NeighborListOptions) : a.sameList b = b.sameList a := by
  rw [Bool.eq_iff_iff, sameList_iff, sameList_iff]
  exact ⟨fun ⟨cutoff, flag, unit⟩ => ⟨cutoff.symm, flag.symm, unit.symm⟩,
    fun ⟨cutoff, flag, unit⟩ => ⟨cutoff.symm, flag.symm, unit.symm⟩⟩

private theorem compare_beq (a b : NeighborListOptions) : (compare a b == .eq) = b.sameList a := by
  rw [sameList_comm, Bool.eq_iff_iff, beq_iff_eq, compare_eq_iff]

end NeighborListOptions

namespace World

/-- What holds of every system that is constructed, if it holds of those at hand, and is kept by
every call, holds of all systems at hand. -/
theorem Reachable.forall_system {world : World} (reachable : world.Reachable)
    {holds : System → Prop} (gives : ∀ {world : World} {session : Session Error System}
      {made : System} {after : Workspace}, world.Reachable →
          (∀ system ∈ world.systems, holds system) →
        world.MakesSystem session → session.exec world.workspace = (.ok made, after) → holds made)
    (calls : ∀ {system made : System} {change : System.Change} {workspace after : Workspace},
      holds system → (change.made system).exec workspace = (.ok made, after) → holds made) :
    ∀ system ∈ world.systems, holds system := by
  exact (@reachable.forall_made world (fun _ => True) holds (fun _ _ _ _ _ => trivial)
    (fun _ _ _ => trivial) (fun reached _ systems => gives reached systems)
    fun _ _ held _ => calls held).2

end World

namespace System

variable {system : System} {events : List Event}

/-- A system whose neighbor lists are what was added to it since it was made. -/
structure Keyed (system : System) (events : List Event) : Prop where
  adds : ∀ options list workspace,
    (∃ made after, (system.addNeighborList options list).exec workspace = (.ok made, after)) ↔
      system.Accepts list ∧ ∀ stored ∈ system.knownNeighborLists, ¬ stored.sameList options
  refuses : ∀ options list workspace, system.Accepts list →
    ∀ stored ∈ system.knownNeighborLists, stored.sameList options →
      (Error.listPresent options).kind = .registry ∧ ∃ after,
        (system.addNeighborList options list).exec workspace =
          (.error (.listPresent options), after)
  keeps : ∀ options list workspace fault left after,
    (attachNeighborList options list).exec system workspace = ((.error fault, left), after) →
      left = system ∧ after.tape = workspace.tape ∧ ∀ changes,
        Held.call ⟨system, changes⟩ (.addNeighborList options list) workspace =
          (⟨system, changes⟩, after)
  finds : ∀ options, (∃ found, system.neighborList options = .ok found) ↔
    (additions events).countP (fun addition => addition.options.sameList options) = 1
  gives : ∀ addition ∈ additions events, ∀ options, addition.options.sameList options →
    ∃ found, system.neighborList options = .ok found ∧
      Became addition.conversions addition.list found
  increasing : system.knownNeighborLists.Pairwise fun first second => compare first second = .lt
  known : List.Perm system.knownNeighborLists ((additions events).map Addition.options)

private theorem contains_known (options : NeighborListOptions) :
    Registry.contains system.neighborLists options ↔
      ∃ stored ∈ system.knownNeighborLists, stored.sameList options := by
  rw [Registry.contains_iff]
  simp only [← beq_iff_eq (b := Ordering.eq), NeighborListOptions.compare_beq, knownNeighborLists,
    List.mem_map, exists_exists_and_eq_and]

private theorem neighborList_iff (options : NeighborListOptions) :
    (∃ found, system.neighborList options = .ok found) ↔
      Registry.contains system.neighborLists options := by
  rw [neighborList, Registry.contains]
  cases Registry.find? system.neighborLists options with
  | none => simp
  | some list => simp

private theorem addNeighborList_iff (options : NeighborListOptions) (list : Block)
    (workspace : Workspace) :
    (∃ made after, (system.addNeighborList options list).exec workspace = (.ok made, after)) ↔
      system.Accepts list ∧ ∀ stored ∈ system.knownNeighborLists, ¬ stored.sameList options := by
  refine ⟨fun ⟨made, after, ran⟩ => ?_, fun ⟨accepts, absent⟩ => ?_⟩
  · obtain ⟨accepts, absent, _⟩ := ((addNeighborList_inserts options list).of_success ran).2
    refine ⟨accepts, fun stored member same => ?_⟩
    exact Bool.eq_false_iff.mp absent ((contains_known options).mpr ⟨stored, member, same⟩)
  · obtain ⟨after, ran, _⟩ := addNeighborList_exec accepts options workspace
    have none : ¬ Registry.contains system.neighborLists options := fun present => by
      obtain ⟨stored, member, same⟩ := (contains_known options).mp present
      exact absent stored member same
    rw [if_neg none] at ran
    exact ⟨_, _, ran⟩

/-- **The registry of a system is a map** from what identifies a list to what was added. -/
theorem Traced.keyed (traced : system.Traced events) : system.Keyed events := by
  obtain ⟨sorted, stored, perm, all⟩ := traced.stores
  have keys : system.knownNeighborLists = stored.map Addition.options :=
    (map_eq_of_forall₂ all fun _ _ holds => holds.1.symm).symm
  have known : List.Perm system.knownNeighborLists ((additions events).map Addition.options) := by
    rw [keys]
    exact perm.map _
  refine
    { adds := addNeighborList_iff
      refuses := fun options list workspace accepts other member same => ⟨rfl, ?_⟩
      keeps := fun options list workspace fault left after failed => ?_
      finds := fun options => ?_
      gives := fun addition member options same => ?_
      increasing := (Registry.sorted_iff_keys _).mp sorted
      known }
  · obtain ⟨after, ran, _⟩ := addNeighborList_exec accepts options workspace
    rw [if_pos ((contains_known options).mpr ⟨other, member, same⟩)] at ran
    exact ⟨after, ran⟩
  · exact (Change.addNeighborList options list).fails failed
  · have counted : (additions events).countP (fun addition => addition.options.sameList options) =
        system.neighborLists.countP fun entry => compare options entry.1 == .eq := by
      have counts := known.countP_eq fun other => other.sameList options
      rw [knownNeighborLists, List.countP_map, List.countP_map] at counts
      simp only [NeighborListOptions.compare_beq]
      exact counts.symm
    have most := sorted.countP_le_one options
    have present : (∃ found, system.neighborList options = .ok found) ↔
        0 < system.neighborLists.countP fun entry => compare options entry.1 == .eq := by
      rw [List.countP_pos_iff, neighborList_iff, Registry.contains_iff]
      simp only [beq_iff_eq]
    rw [counted, present]
    omega
  · obtain ⟨entry, present, key, became⟩ := exists_of_forall₂ all addition (perm.mem_iff.mpr member)
    refine ⟨entry.2, ?_, became⟩
    have equal : compare options entry.1 = .eq := by
      rw [NeighborListOptions.compare_eq_iff, NeighborListOptions.sameList_comm, key]
      exact same
    rw [neighborList, sorted.find?_eq present equal]

/-- What holds of every system that is created, and is kept when a neighbor list is added, holds
of whatever a document says. -/
theorem systemOfJson_forall {holds : System → Prop}
    (created : ∀ {types positions cell pbc : Tensor} {made : System} {before after : Workspace},
      (create types positions cell pbc).exec before = (.ok made, after) → holds made)
    (attached : ∀ {system made : System} {options : NeighborListOptions} {list : Block}
      {before after : Workspace}, holds system →
        (system.addNeighborList options list).exec before = (.ok made, after) → holds made)
    (value : Json) {workspace : Workspace} :
    (Document.systemOfJson value).Within Anywhere workspace fun made _ => holds made := by
  have attach (value : Json) (system : System) (workspace : Workspace) (kept : holds system) :
      (Document.attachEntry system value).Within Anywhere workspace fun made _ => holds made := by
    rw [Document.attachEntry]
    refine (Within.ran _ _).bind fun entry _ _ _ => (Within.ran _ _).bind fun _ _ _ _ => ?_
    exact (Within.ran _ _).weaken fun made after ran => attached kept ran
  rw [Document.systemOfJson]
  refine (Within.ran _ _).bind fun fields _ _ _ => (Within.ran _ _).bind fun positions _ _ _ =>
    (Within.ran _ _).bind fun cell _ _ _ => (Within.ran _ _).bind fun types _ _ _ =>
    (Within.ran _ _).bind fun raw _ _ _ => (Within.ran _ _).bind fun pbc _ _ _ =>
    (Within.ran _ _).bind fun made _ _ ran => ?_
  split
  · exact .of_exec rfl trivial fun same result => Except.ok.inj result ▸ created ran
  · split
    · exact .foldlM (fun _ => trivial) (fun entry _ state middle _ kept =>
        attach entry state middle kept) (created ran)
    · exact .of_error (exec_throw _ _) trivial

/-- Whatever a document says, its lists were added one after another. -/
theorem systemOfJson_traced (value : Json) {workspace : Workspace} :
    (Document.systemOfJson value).Within Anywhere workspace fun made _ =>
      ∃ events, made.Traced events :=
  systemOfJson_forall (fun ran => ⟨[], .created ran⟩)
    (fun {_ _ options list _ _} ⟨_, traced⟩ ran =>
      ⟨_, traced.changed (.addNeighborList options list) ran⟩) value

/-- Every system at hand has a history. -/
theorem traced_of_reachable {world : World} (reachable : world.Reachable) :
    ∀ system ∈ world.systems, ∃ events, system.Traced events := by
  refine reachable.forall_system (fun {world session made after} _ older makes ran => ?_)
    fun {_ _ change _ _} ⟨_, traced⟩ ran => ⟨_, traced.changed change ran⟩
  cases makes with
  | create known => exact ⟨[], .created ran⟩
  | @transfer system present dtype device =>
      obtain ⟨events, traced⟩ := older system present
      exact ⟨_, traced.converted ran⟩
  | ofJson text =>
      have read : (ofJson text).Within Anywhere world.workspace fun made _ =>
          ∃ events, made.Traced events :=
        (Within.ran _ _).bind fun value _ _ _ => systemOfJson_traced value
      exact (read.of_success ran).2

/-- **Neighbor lists are kept under what identifies them.** The order of options tells apart
exactly what equality tells apart, the patterns of the cutoffs, the directions and the units;
every system at hand has a history, whatever led to it; and a system with any history gives
back exactly what was added to it, under equal options, cast and moved as it was since. -/
theorem neighborLists_keyed :
    (∀ a b : NeighborListOptions, (compare a b = .eq ↔ a.sameList b) ∧
      (a.sameList b ↔ a.cutoff.bits = b.cutoff.bits ∧ a.fullList = b.fullList ∧
        a.lengthUnit = b.lengthUnit)) ∧
    (∀ world : World, world.Reachable → ∀ system ∈ world.systems,
      ∃ events, system.Traced events) ∧
    ∀ system events, Traced system events → system.Keyed events :=
  ⟨fun a b => ⟨NeighborListOptions.compare_eq_iff a b, NeighborListOptions.sameList_iff a b⟩,
    fun _ reachable => traced_of_reachable reachable, fun _ _ traced => traced.keyed⟩

end System

namespace World.Alone

/-- The system with the list. -/
def listed : System := { system with neighborLists := [(options, list)] }

private theorem listed_traced :
    listed.Traced [.changed (.addNeighborList options list)] := by
  have created : system.Traced [] :=
    @System.Traced.created (tensor 0) (tensor 1) (tensor 2) (tensor 3) made.workspace _ _ rfl
  exact @System.Traced.changed _ _ _ created (.addNeighborList options list) asked.workspace _ rfl

/-- The list is found whoever asks for it, and can not be added again. -/
theorem neighborLists_keyed_listed : attached.Reachable ∧ listed ∈ attached.systems ∧
    (∃ events, listed.Traced events) ∧
    listed.Traced [.changed (.addNeighborList options list)] ∧
    (∃ found, listed.neighborList { options with requestors := ["someone else"] } = .ok found ∧
      System.Became [] list found) ∧
    listed.knownNeighborLists = [options] ∧
    ∀ workspace, ¬ ∃ again after,
      (listed.addNeighborList options list).exec workspace = (.ok again, after) := by
  obtain ⟨_, histories, keyed⟩ := System.neighborLists_keyed
  have present : listed ∈ attached.systems := by
    rw [show attached.systems = [listed, system] from rfl]
    exact List.mem_cons_self
  have keyed := keyed listed _ listed_traced
  have mine : ({ options, list } : System.Addition) ∈
      System.additions [.changed (.addNeighborList options list)] := List.mem_singleton_self _
  refine ⟨attached_reachable, present, histories attached attached_reachable listed present,
    listed_traced, keyed.gives _ mine { options with requestors := ["someone else"] } rfl, ?_,
    fun workspace again => ?_⟩
  · exact List.perm_singleton.mp keyed.known
  · exact ((keyed.adds options list workspace).mp again).2 options (List.mem_singleton_self _) rfl

end World.Alone

end Atomistic
