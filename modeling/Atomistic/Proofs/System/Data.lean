import Atomistic.Proofs.System.Lists

/-!
# Custom data

Custom data is kept under names, each compared as it is spelled, except with the few names that
are reserved in any case.  What is stored after any sequence of operations is the block that was
added last under each name, cast and moved as the system was since
(`Atomistic.System.Traced.files`).
-/

namespace Atomistic

open Session

namespace System

variable {workspace : Workspace} {system : System} {name : String} {block : Block}
  {overwrite : Bool} {events : List Event}

/-- The name has only letters and digits of ASCII, underscores and hyphens, and some of them. -/
structure DataName (name : String) : Prop where
  nonempty : name ≠ ""
  letters : ∀ c ∈ name.toList, c.isAlphanum ∨ c = '_' ∨ c = '-'

/-- A block can be stored under a name: the name is made of the right characters and is none of
the reserved ones in any case, nothing is there that is not to be replaced, and the values of the
block have the device and the element type of the system. -/
structure AcceptsData (system : System) (name : String) (block : Block) (overwrite : Bool) :
    Prop extends DataName name where
  free : name.toLower ∉ ["types", "positions", "position", "cell", "neighbors", "neighbor"]
  replaceable : overwrite ∨ name ∉ system.knownData
  device : block.values.device = system.device
  dtype : block.values.dtype = system.dtype

private theorem validDataName_iff : validDataName name ↔ DataName name := by
  have characters (c : Char) :
      (isAlphanumeric c || c == '_' || c == '-') = true ↔ c.isAlphanum ∨ c = '_' ∨ c = '-' := by
    rw [isAlphanumeric, Bool.or_eq_true, Bool.or_eq_true, beq_iff_eq, beq_iff_eq, or_assoc]
    rfl
  rw [validDataName, Bool.and_eq_true, bne_iff_ne, List.all_eq_true]
  simp only [characters]
  exact ⟨fun ⟨nonempty, letters⟩ => ⟨nonempty, letters⟩, fun valid => ⟨valid.1, valid.2⟩⟩

/-- The Kelvin sign, which is folded to a letter of ASCII, is in no name of data. -/
theorem DataName.fold (valid : DataName name) : Text.fold name = name.toLower := by
  have plain : name.toList.map Text.lower = name.toList.map Char.toLower := by
    refine List.map_congr_left fun c member => if_neg ?_
    rw [beq_iff_eq]
    rintro rfl
    exact absurd (valid.letters _ member) (by decide)
  rw [Text.fold, plain, ← String.toList_inj, String.toList_ofList]
  exact String.toList_map.symm

private theorem checkReserved_iff :
    checkReserved name = .ok () ↔ Text.fold name ∉ reservedNames := by
  rw [checkReserved]
  by_cases reserved : Text.fold name ∈ reservedNames
  · rw [if_pos (List.contains_iff_mem.mpr reserved)]
    exact iff_of_false (fun impossible => nomatch impossible) (not_not.mpr reserved)
  · rw [if_neg (mt List.contains_iff_mem.mp reserved)]
    exact iff_of_true rfl reserved

/-- The names of the data are those it is stored under. -/
theorem contains_data : Registry.contains system.data name ↔ name ∈ system.knownData := by
  simp only [Registry.contains_iff, Std.LawfulEqOrd.compare_eq_iff_eq, knownData, List.mem_map]
  exact ⟨fun ⟨entry, member, same⟩ => ⟨entry, member, same.symm⟩,
    fun ⟨entry, member, same⟩ => ⟨entry, member, same.symm⟩⟩

/-- Data is added exactly if it is accepted, and is then stored under its name. -/
theorem addData_ok_iff {made : System} : system.addData name block overwrite = .ok made ↔
    system.AcceptsData name block overwrite ∧
      made = { system with data := Registry.insert name block system.data } := by
  constructor
  · intro added
    refine ⟨?_, addData_inserts added⟩
    rw [addData_steps] at added
    obtain ⟨valid, rest⟩ := ok_of_check added
    obtain ⟨_, free, rest⟩ := ok_of_bind rest
    obtain ⟨replaceable, rest⟩ := ok_of_check rest
    obtain ⟨device, rest⟩ := ok_of_check rest
    obtain ⟨dtype, _⟩ := ok_of_check rest
    have named : DataName name := validDataName_iff.mp (by simpa using valid)
    refine ⟨named, ?_, ?_, not_not.mp device, not_not.mp dtype⟩
    · rw [← named.fold]
      exact checkReserved_iff.mp free
    · rw [← contains_data]
      simpa [or_iff_not_imp_left] using replaceable
  · rintro ⟨accepts, rfl⟩
    have valid : validDataName name := validDataName_iff.mpr accepts.toDataName
    have free : checkReserved name = .ok () := by
      rw [checkReserved_iff, accepts.fold]
      exact accepts.free
    have replaceable : (!overwrite && Registry.contains system.data name) = false := by
      have either := accepts.replaceable
      rw [← contains_data] at either
      simpa [or_iff_not_imp_left] using either
    exact addData_stores valid free accepts.device accepts.dtype replaceable

/-- Custom data is stored again, in order, each block cast and moved. -/
theorem addConvertedData_stores (dtype : Option DType) (device : Option Device)
    {data : List (String × Block)} (sorted : Registry.Sorted data) (none : system.data = []) :
    (addConvertedData dtype device system data).Within Anywhere workspace fun made _ =>
      List.Forall₂ (fun entry new => new.1 = entry.1 ∧ Converts dtype device entry.2 new.2)
        data made.data := by
  have stored := @foldlM_inserts workspace _ _ _
    (fun system entry => do
      Session.ofExcept (system.addData entry.1 (← entry.2.transfer dtype device) false))
    (fun stored => { system with data := stored }) (Converts dtype device)
    (fun entry stored middle => by
      refine (Within.ran _ _).adapt.bind fun block after _ ran => ?_
      exact .of_exec rfl trivial fun made added => ⟨block, ⟨_, _, ran⟩, addData_inserts added⟩)
    data [] sorted (List.forall_mem_nil _)
  rw [← none] at stored
  apply stored.weaken
  rintro _ _ ⟨new, rfl, all⟩
  rw [none]
  exact all

private theorem addConverted_data (dtype : Option DType) (device : Option Device)
    (lists : List (NeighborListOptions × Block)) :
    (addConverted dtype device system lists).Within Anywhere workspace fun made _ =>
      made.data = system.data := by
  rw [addConverted]
  refine .foldlM (fun _ => trivial) (fun entry _ state middle _ kept => ?_) rfl
  refine (Within.ran _ _).bind fun list _ _ _ => ?_
  apply (addNeighborList_inserts entry.1 list).weaken
  rintro made _ ⟨_, _, rfl⟩
  exact kept

/-- A system that is cast and moved keeps its custom data under the names, each block cast and
moved with it. -/
theorem transfer_data (sorted : Registry.Sorted system.data) (dtype : Option DType)
    (device : Option Device) :
    (system.transfer dtype device).Within Anywhere workspace fun made _ =>
      List.Forall₂ (fun entry new => new.1 = entry.1 ∧ Converts dtype device entry.2 new.2)
        system.data made.data := by
  apply (transfer_stages dtype device).weaken
  rintro made _ ⟨created, converted, _, _, _, _, bare, lists, data⟩
  have none : converted.data = [] :=
    ((addConverted_data dtype device system.neighborLists).of_success lists).2.trans bare
  exact ((addConvertedData_stores dtype device sorted none).of_success data).2

/-- The block that was stored last under a name, and how it was cast and moved since, the newest
last. -/
def lastStored (name : String) : List Event → Option (Block × List (Option DType × Option Device))
  | [] => none
  | .changed (.addData other block _) :: older =>
      if name = other then some (block, []) else lastStored name older
  | .changed _ :: older => lastStored name older
  | .converted dtype device :: older => (lastStored name older).map fun (block, conversions) =>
      (block, conversions ++ [(dtype, device)])

/-- Some block was stored under a name. -/
def Stores (events : List Event) (name : String) : Prop :=
  ∃ block overwrite, .changed (.addData name block overwrite) ∈ events

/-- There is a last block under a name exactly if one was stored under it. -/
theorem lastStored_iff : (lastStored name events).isSome ↔ Stores events name := by
  induction events with
  | nil => simp [lastStored, Stores]
  | cons event older ih =>
      cases event with
      | converted dtype device => simpa [lastStored, Stores] using ih
      | changed change =>
          cases change with
          | set field tensor => simpa [lastStored, Stores] using ih
          | addNeighborList options list => simpa [lastStored, Stores] using ih
          | addData other block overwrite =>
              rw [lastStored]
              by_cases same : name = other
              · subst same
                rw [if_pos rfl]
                exact iff_of_true rfl ⟨block, overwrite, List.mem_cons_self⟩
              · rw [if_neg same, ih]
                simp [Stores, same]

/-- No name that data was stored under is reserved. -/
theorem Traced.free (traced : system.Traced events) (stores : Stores events name) :
    checkReserved name = .ok () := by
  obtain ⟨block, overwrite, member⟩ := stores
  induction traced with
  | created ran => cases member
  | @changed system made events older change before after ran ih =>
      rcases List.mem_cons.mp member with first | further
      · obtain rfl := Event.changed.inj first
        have added : system.addData name block overwrite = .ok made := congrArg Prod.fst ran
        have accepts := (addData_ok_iff.mp added).1
        rw [checkReserved_iff, accepts.fold]
        exact accepts.free
      · exact ih further
  | @converted system made events older dtype device before after ran ih =>
      rcases List.mem_cons.mp member with first | further
      · cases first
      · exact ih further

/-- **Custom data is what was stored last** under each name, in the order of the names. -/
theorem Traced.files (traced : system.Traced events) : Registry.Sorted system.data ∧
    ∀ name, Option.Rel (fun last found => Became last.2 last.1 found) (lastStored name events)
      (Registry.find? system.data name) := by
  induction traced with
  | @created types positions cell pbc before after system ran =>
      have bare := ((create_bare types positions cell pbc).of_success ran).2.2.1
      rw [bare]
      exact ⟨.nil, fun name => .none⟩
  | @changed system made events older change before after ran ih =>
      cases change with
      | set field tensor =>
          obtain ⟨new, rfl⟩ := ((set_put field tensor).of_success ran).2
          rw [show (system.put field new).data = system.data by cases field <;> rfl]
          exact ih
      | addNeighborList options list =>
          obtain ⟨_, _, rfl⟩ := ((addNeighborList_inserts options list).of_success ran).2
          exact ih
      | addData other block overwrite =>
          obtain ⟨sorted, found⟩ := ih
          have added : system.addData other block overwrite = .ok made := congrArg Prod.fst ran
          obtain rfl := addData_inserts added
          refine ⟨sorted.insert other block, fun name => ?_⟩
          simp only [lastStored, Registry.find?_insert, Std.LawfulEqOrd.compare_eq_iff_eq]
          split
          · exact .some (.same block)
          · exact found name
  | @converted system made events older dtype device before after ran ih =>
      obtain ⟨sorted, found⟩ := ih
      have kept := ((transfer_data sorted dtype device).of_success ran).2
      refine ⟨sorted_of_keys sorted (kept.imp fun _ _ moved => moved.1), fun name => ?_⟩
      have moved := Registry.find?_rel kept name
      have last := found name
      rw [lastStored]
      generalize lastStored name events = stored at last
      generalize Registry.find? system.data name = old at last moved
      generalize Registry.find? made.data name = new at moved
      cases moved with
      | none =>
          cases last
          exact .none
      | some converts =>
          cases last with
          | some became =>
              obtain ⟨_, _, transferred⟩ := converts
              exact .some (became.converted transferred)

end System

end Atomistic
