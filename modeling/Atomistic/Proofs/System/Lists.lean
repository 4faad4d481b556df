import Atomistic.Proofs.System.Construction
import Atomistic.Proofs.System.Histories

/-!
# The registry of neighbor lists

A system keeps its neighbor lists under their options, in order.  What is stored after any
sequence of operations is exactly what was added, each list with the options that it was
added with, cast and moved as the system was since (`Atomistic.System.Traced.stores`).
-/

namespace Atomistic

open Session

namespace System

variable {workspace : Workspace} {system : System}

/-- A system is created with nothing attached, and with its types cast to `int32`. -/
theorem create_bare (types positions cell pbc : Tensor) :
    (create types positions cell pbc).Within Anywhere workspace fun made _ =>
      made.neighborLists = [] ∧ made.data = [] ∧ types.dtype.canCast .int32 ∧
        ∃ before after, (types.transfer (some .int32) none).exec before =
          (.ok made.types, after) := by
  rw [create]
  refine .check trivial fun _ => .check trivial fun _ => .check trivial fun castable => ?_
  refine (Within.ran _ _).adapt.bind fun _ _ _ ran => (Within.ran _ _).bind fun _ _ _ _ => ?_
  refine .check trivial fun _ => (Within.ran _ _).bind fun _ _ _ _ => ?_
  refine .check trivial fun _ => .check trivial fun _ => .check trivial fun _ =>
    .check trivial fun _ => (Within.ran _ _).bind fun _ _ _ _ => ?_
  refine .of_exec rfl trivial fun made result => ?_
  cases result
  exact ⟨rfl, rfl, by simpa using castable, _, _, ran⟩

/-- A setter replaces the tensor of its field. -/
theorem set_put (field : Field) (tensor : Tensor) :
    (system.set field tensor).Within Anywhere workspace fun made _ =>
      ∃ new, made = system.put field new := by
  cases field with
  | types =>
      rw [set_types]
      refine (Within.ran _ _).bind fun _ _ _ _ => .check trivial fun _ => .check trivial fun _ =>
        .check trivial fun _ => (Within.ran _ _).bind fun new _ _ _ => ?_
      exact .of_exec rfl trivial fun made result => ⟨new, (Except.ok.inj result).symm⟩
  | positions =>
      rw [set_positions, assignPositions_copied]
      refine .of_exec (exec_ofExcept _ _) trivial fun made set => ⟨tensor, ?_⟩
      obtain ⟨_, _, rest⟩ := ok_of_bind set
      obtain ⟨_, _, rest⟩ := ok_of_bind rest
      obtain ⟨_, _, rest⟩ := ok_of_bind rest
      exact (Except.ok.inj rest).symm
  | cell =>
      rw [set_cell, assignCell_copied]
      refine .of_exec (exec_ofExcept _ _) trivial fun made set => ⟨tensor, ?_⟩
      obtain ⟨_, _, rest⟩ := ok_of_bind set
      obtain ⟨_, _, rest⟩ := ok_of_bind rest
      obtain ⟨_, _, rest⟩ := ok_of_bind rest
      exact (Except.ok.inj rest).symm
  | pbc =>
      rw [set_pbc, assignPbc_copied]
      refine .of_exec (exec_ofExcept _ _) trivial fun made set => ⟨tensor, ?_⟩
      obtain ⟨_, _, rest⟩ := ok_of_bind set
      obtain ⟨_, rest⟩ := ok_of_check rest
      obtain ⟨_, rest⟩ := ok_of_check rest
      obtain ⟨_, rest⟩ := ok_of_check rest
      obtain ⟨_, _, rest⟩ := ok_of_bind rest
      exact (Except.ok.inj rest).symm

/-- A list that is added was accepted, is new, and is put in its place. -/
theorem addNeighborList_inserts (options : NeighborListOptions) (list : Block) :
    (system.addNeighborList options list).Within Anywhere workspace fun made _ =>
      system.Accepts list ∧ Registry.contains system.neighborLists options = false ∧
        made = { system with
          neighborLists := Registry.insert options list system.neighborLists } := by
  rw [addNeighborList_steps]
  refine (Within.look (exec_ofExcept _ _) trivial).bind fun _ _ _ layout => ?_
  refine .check trivial fun plain => .check trivial fun device => .check trivial fun dtype => ?_
  refine (Within.ran _ _).bind fun _ _ _ _ => (Within.ran _ _).bind fun _ _ _ _ =>
    (Within.ran _ _).bind fun _ _ _ _ => ?_
  have noted {level : Level} {target text : String} {middle : Workspace} :
      (note level target text : Session Error PUnit).Within Anywhere middle fun _ _ => True :=
    (Within.ran _ _).weaken fun _ _ _ => trivial
  refine .when trivial trivial noted fun _ _ _ => ?_
  refine .check trivial fun absent => (Within.ran _ _).bind fun _ _ _ _ => ?_
  refine .of_exec rfl trivial fun made result => ⟨?_, by simpa using absent, ?_⟩
  · exact ⟨layout.1, List.length_eq_zero_iff.mp (not_not.mp plain), not_not.mp device,
      not_not.mp dtype⟩
  · exact (Except.ok.inj result).symm

/-- A block that is added is put in its place. -/
theorem addData_inserts {name : String} {block : Block} {overwrite : Bool} {made : System}
    (added : system.addData name block overwrite = .ok made) :
    made = { system with data := Registry.insert name block system.data } := by
  rw [addData_steps] at added
  obtain ⟨_, rest⟩ := ok_of_check added
  obtain ⟨_, _, rest⟩ := ok_of_bind rest
  obtain ⟨_, rest⟩ := ok_of_check rest
  obtain ⟨_, rest⟩ := ok_of_check rest
  obtain ⟨_, rest⟩ := ok_of_check rest
  exact (Except.ok.inj rest).symm

/-- Entries of a registry that are inserted one after another, after smaller ones, are stored at
the end in their order. -/
theorem foldlM_inserts {κ : Type} [Ord κ] [Std.TransOrd κ]
    {attach : System → κ × Block → Session Error System} {extend : List (κ × Block) → System}
    {becomes : Block → Block → Prop}
    (each : ∀ entry (stored : List (κ × Block)) (workspace : Workspace),
      (attach (extend stored) entry).Within Anywhere workspace fun made _ =>
        ∃ block, becomes entry.2 block ∧ made = extend (Registry.insert entry.1 block stored))
    {entries stored : List (κ × Block)} (sorted : Registry.Sorted entries)
    (greater : ∀ other ∈ stored, ∀ entry ∈ entries, compare other.1 entry.1 = .lt) :
    (entries.foldlM attach (extend stored)).Within Anywhere workspace fun made _ =>
      ∃ new, made = extend (stored ++ new) ∧
        List.Forall₂ (fun entry new => new.1 = entry.1 ∧ becomes entry.2 new.2) entries new := by
  induction entries generalizing workspace stored with
  | nil =>
      refine .of_exec rfl trivial fun made result => ⟨[], ?_, .nil⟩
      rw [← Except.ok.inj result, List.append_nil]
  | cons entry rest ih =>
      obtain ⟨least, later⟩ := List.pairwise_cons.mp sorted
      rw [List.foldlM_cons]
      refine (each entry stored workspace).bind ?_
      rintro _ middle _ ⟨block, became, rfl⟩
      rw [Registry.insert_greater fun other member =>
        greater other member entry List.mem_cons_self]
      have further := @ih middle (stored ++ [(entry.1, block)]) later
        fun other member next present => by
          rcases List.mem_append.mp member with old | last
          · exact greater other old next (List.mem_cons_of_mem _ present)
          · rw [List.mem_singleton.mp last]
            exact least next present
      apply further.weaken
      rintro _ _ ⟨new, rfl, all⟩
      refine ⟨(entry.1, block) :: new, ?_, .cons ⟨rfl, became⟩ all⟩
      rw [List.append_assoc]
      rfl

/-- What a block can become when it is cast and moved, wherever that happens. -/
def Converts (dtype : Option DType) (device : Option Device) (block made : Block) : Prop :=
  ∃ before after, (block.transfer dtype device).exec before = (.ok made, after)

/-- The lists of a registry are stored again in a system that has none of their keys, in
order, each cast and moved. -/
theorem addConverted_lists (dtype : Option DType) (device : Option Device)
    {lists : List (NeighborListOptions × Block)} (sorted : Registry.Sorted lists)
    (greater : ∀ other ∈ system.neighborLists, ∀ entry ∈ lists, compare other.1 entry.1 = .lt) :
    (addConverted dtype device system lists).Within Anywhere workspace fun made _ =>
      ∃ new, made = { system with neighborLists := system.neighborLists ++ new } ∧
        List.Forall₂ (fun entry new => new.1 = entry.1 ∧ Converts dtype device entry.2 new.2)
          lists new := by
  refine @foldlM_inserts workspace _ _ _ _ (fun stored => { system with neighborLists := stored })
    (Converts dtype device)
    (fun entry stored middle => ?_) lists system.neighborLists sorted greater
  refine (Within.ran _ _).adapt.bind fun list after _ ran => ?_
  apply (addNeighborList_inserts entry.1 list).weaken
  rintro made _ ⟨_, _, rfl⟩
  exact ⟨list, ⟨_, _, ran⟩, rfl⟩

/-- Custom data changes no neighbor list. -/
theorem addConvertedData_lists (dtype : Option DType) (device : Option Device)
    (data : List (String × Block)) :
    (addConvertedData dtype device system data).Within Anywhere workspace fun made _ =>
      made.neighborLists = system.neighborLists := by
  rw [addConvertedData]
  refine .foldlM (fun _ => trivial) (fun entry _ state middle _ kept => ?_) rfl
  refine (Within.ran _ _).bind fun block _ _ _ => .of_exec rfl trivial fun made added => ?_
  rw [addData_inserts added]
  exact kept

/-- A system that is cast and moved is created again without anything attached, and then its
neighbor lists and its custom data are attached. -/
theorem transfer_stages (dtype : Option DType) (device : Option Device) :
    (system.transfer dtype device).Within Anywhere workspace fun made _ =>
      ∃ created converted before middle after, created.neighborLists = [] ∧ created.data = [] ∧
        (addConverted dtype device created system.neighborLists).exec before =
          (.ok converted, middle) ∧
        (addConvertedData dtype device converted system.data).exec middle = (.ok made, after) := by
  rw [transfer]
  refine (Within.ran _ _).bind fun types _ _ _ => (Within.ran _ _).bind fun positions _ _ _ =>
    (Within.ran _ _).bind fun cell _ _ _ => (Within.ran _ _).bind fun pbc _ _ _ => ?_
  refine (create_bare types positions cell pbc).bind fun created before _ bare => ?_
  refine (Within.ran _ _).bind fun converted middle _ lists => ?_
  exact (Within.ran _ _).weaken fun made after data =>
    ⟨created, converted, before, middle, after, bare.1, bare.2.1, lists, data⟩

/-- A system that is cast and moved keeps its neighbor lists under their options, each cast
and moved with it. -/
theorem transfer_lists (sorted : Registry.Sorted system.neighborLists) (dtype : Option DType)
    (device : Option Device) :
    (system.transfer dtype device).Within Anywhere workspace fun made _ =>
      List.Forall₂ (fun entry new => new.1 = entry.1 ∧ Converts dtype device entry.2 new.2)
        system.neighborLists made.neighborLists := by
  apply (transfer_stages dtype device).weaken
  rintro made _ ⟨created, converted, _, _, _, bare, _, lists, data⟩
  have none : ∀ other ∈ created.neighborLists, ∀ entry ∈ system.neighborLists,
      compare other.1 entry.1 = .lt := by
    rw [bare]
    exact List.forall_mem_nil _
  obtain ⟨new, rfl, all⟩ := ((addConverted_lists dtype device sorted none).of_success lists).2
  have same := ((addConvertedData_lists dtype device system.data).of_success data).2
  rw [same, bare]
  exact all

/-- What can happen to a system: a call that changes it in place, or a cast and move of all
of it. -/
inductive Event
  | changed (change : Change)
  | converted (dtype : Option DType) (device : Option Device)

/-- A system and everything that has happened to it since it was created, the newest first.
A call that fails leaves the system as it is and is not recorded. -/
inductive Traced : System → List Event → Prop
  | created {types positions cell pbc : Tensor} {before after : Workspace} {system : System}
      (ran : (create types positions cell pbc).exec before = (.ok system, after)) :
      Traced system []
  | changed {system made : System} {events : List Event} (older : Traced system events)
      (change : Change) {before after : Workspace}
      (ran : (change.made system).exec before = (.ok made, after)) :
      Traced made (.changed change :: events)
  | converted {system made : System} {events : List Event} (older : Traced system events)
      {dtype : Option DType} {device : Option Device} {before after : Workspace}
      (ran : (system.transfer dtype device).exec before = (.ok made, after)) :
      Traced made (.converted dtype device :: events)

/-- A neighbor list that was added, and how it was cast and moved since, the newest last. -/
structure Addition where
  options : NeighborListOptions
  list : Block
  conversions : List (Option DType × Option Device) := []

/-- The neighbor lists that were added, the newest first. -/
def additions : List Event → List Addition
  | [] => []
  | .changed (.addNeighborList options list) :: older => { options, list } :: additions older
  | .changed _ :: older => additions older
  | .converted dtype device :: older => (additions older).map fun addition =>
      { addition with conversions := addition.conversions ++ [(dtype, device)] }

/-- A block became another when it was cast and moved several times in a row. -/
inductive Became : List (Option DType × Option Device) → Block → Block → Prop
  | same (block : Block) : Became [] block block
  | converted {conversions : List (Option DType × Option Device)} {block middle made : Block}
      (older : Became conversions block middle) {dtype : Option DType} {device : Option Device}
      {before after : Workspace}
      (ran : (middle.transfer dtype device).exec before = (.ok made, after)) :
      Became (conversions ++ [(dtype, device)]) block made

/-- An addition is stored under the options that it was made with. -/
def Addition.StoredAs (addition : Addition) (entry : NeighborListOptions × Block) : Prop :=
  entry.1 = addition.options ∧ Became addition.conversions addition.list entry.2

/-- Two lists that go along with a third go along with each other. -/
theorem forall₂_of_both {α β γ : Type} {first : α → β → Prop} {second : α → γ → Prop}
    {both : β → γ → Prop} (combine : ∀ a b c, first a b → second a c → both b c) {as : List α}
    {bs : List β} (along : List.Forall₂ first as bs) : ∀ {cs : List γ},
      List.Forall₂ second as cs → List.Forall₂ both bs cs := by
  induction along with
  | nil =>
      intro cs other
      cases other
      exact .nil
  | cons holds _ ih =>
      intro cs other
      cases other with
      | cons also rest => exact .cons (combine _ _ _ holds also) (ih rest)

/-- Entries with the keys of a registry are in order. -/
theorem sorted_of_keys {κ : Type} [Ord κ] {entries new : List (κ × Block)}
    (sorted : Registry.Sorted entries)
    (same : List.Forall₂ (fun entry new => new.1 = entry.1) entries new) : Registry.Sorted new := by
  rw [Registry.sorted_iff_keys, map_eq_of_forall₂ same fun _ _ key => key]
  exact (Registry.sorted_iff_keys entries).mp sorted

/-- **A registry holds what was added**, each list once and in the order of the options. -/
theorem Traced.stores {events : List Event} (traced : system.Traced events) :
    Registry.Sorted system.neighborLists ∧ ∃ stored, List.Perm stored (additions events) ∧
      List.Forall₂ (fun entry addition => addition.StoredAs entry) system.neighborLists stored := by
  induction traced with
  | @created types positions cell pbc before after system ran =>
      have bare := ((create_bare types positions cell pbc).of_success ran).2.1
      rw [bare]
      exact ⟨.nil, [], .refl _, .nil⟩
  | @changed system made events older change before after ran ih =>
      obtain ⟨sorted, stored, perm, all⟩ := ih
      cases change with
      | set field tensor =>
          obtain ⟨new, rfl⟩ := ((set_put field tensor).of_success ran).2
          rw [show (system.put field new).neighborLists = system.neighborLists by
            cases field <;> rfl]
          exact ⟨sorted, stored, perm, all⟩
      | addNeighborList options list =>
          obtain ⟨_, absent, rfl⟩ := ((addNeighborList_inserts options list).of_success ran).2
          refine ⟨sorted.insert options list, ?_⟩
          have first : Addition.StoredAs { options, list } (options, list) := ⟨rfl, .same list⟩
          obtain ⟨again, matched, moved⟩ := List.perm_comp_forall₂
            (Registry.insert_perm absent list) (.cons first all)
          exact ⟨again, moved.trans (perm.cons _), matched⟩
      | addData name block overwrite =>
          have added : system.addData name block overwrite = .ok made := congrArg Prod.fst ran
          rw [addData_inserts added]
          exact ⟨sorted, stored, perm, all⟩
  | @converted system made events older dtype device before after ran ih =>
      obtain ⟨sorted, stored, perm, all⟩ := ih
      have kept := ((transfer_lists sorted dtype device).of_success ran).2
      refine ⟨sorted_of_keys sorted (kept.imp fun _ _ moved => moved.1), _, perm.map _, ?_⟩
      refine List.forall₂_map_right_iff.mpr (forall₂_of_both ?_ kept all)
      rintro entry new addition ⟨same, _, _, moved⟩ ⟨key, became⟩
      exact ⟨same.trans key, became.converted moved⟩

end System

end Atomistic
