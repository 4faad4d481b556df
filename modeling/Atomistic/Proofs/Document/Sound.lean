import Atomistic.Document.System
import Atomistic.Proofs.Json.Lawful
import Atomistic.Proofs.System.Sound

/-!
# What is read is sound

Tensors, options and systems that are read from documents are like all others:
sound, whatever the document.  Systems are read onto the CPU, and nobody has asked for
their lists (`Atomistic.Document.systemOfJson_decoded`).
-/

namespace Atomistic

open Run

variable {workspace : Workspace}

namespace System

/-- Nobody is recorded as having asked for the lists of a system. -/
def Anonymous (system : System) : Prop := ∀ entry ∈ system.neighborLists, entry.1.requestors = []

/-- What is read: a constructed system on the CPU whose lists nobody has asked for. -/
structure Decoded (tape : Tape) (system : System) : Prop extends Constructed tape system where
  onCpu : system.device = .cpu
  anonymous : system.Anonymous

/-- The doubles of the positions, the cell and all lists are finite. -/
structure FiniteDoubles (system : System) : Prop where
  positions : system.positions.data.FiniteDoubles
  cell : system.cell.data.FiniteDoubles
  lists : ∀ entry ∈ system.neighborLists, entry.2.values.data.FiniteDoubles

end System

namespace NeighborList

/-- A list that is assembled is sound, and holds the samples and distances it was assembled from. -/
theorem assemble_within {samples distances : Tensor} (samples_known : workspace.tape.Knows samples)
    (distances_known : workspace.tape.Knows distances) :
    (assemble samples distances).Within (Extends Dense.Valid) workspace fun made after =>
      made.Sound after.tape ∧ made.values = distances ∧ made.gradients = [] ∧
        made.samples.values = samples := by
  rw [assemble]
  apply (ofExcept_within _).bind
  rintro table one _ ⟨table_made, rfl⟩
  obtain ⟨table_sound, rfl⟩ := Labels.ofTensor_sound samples_known table_made
  apply (Labels.ofFlat_within _ _).bind
  rintro xyz two second ⟨xyz_sound, _⟩
  apply (Labels.transfer_within Dense.kind_valid xyz_sound distances.device).adapt.bind
  intro moved_xyz three third moved_xyz_sound
  apply (Labels.ofFlat_within _ _).bind
  rintro distance four fourth ⟨distance_sound, _⟩
  apply (Labels.transfer_within Dense.kind_valid distance_sound distances.device).adapt.bind
  intro moved_distance five fifth moved_distance_sound
  apply (ofExcept_within _).weaken
  rintro made after ⟨built, rfl⟩
  have later : Extends Dense.Valid three after := IsTrans.trans _ _ _ fourth fifth
  have all : Extends Dense.Valid one after :=
    IsTrans.trans _ _ _ second (IsTrans.trans _ _ _ third later)
  obtain ⟨sound, shape⟩ := Block.create_sound (all.knows distances_known) (fun labels member => by
    simp only [List.cons_append, List.nil_append, List.mem_cons, List.not_mem_nil,
      or_false] at member
    rcases member with rfl | rfl | rfl
    · exact table_sound.mono all
    · exact moved_xyz_sound.sound.mono later
    · exact moved_distance_sound.sound) built
  rw [shape]
  exact ⟨shape ▸ sound, rfl, rfl, rfl⟩

end NeighborList

namespace Document

/-- A field that was found is in the document. -/
theorem of_field {fields : List (String × Json)} {key what : String} {value : Json}
    (found : field fields key what = .ok value) : Registry.find? fields key = some value := by
  rw [field] at found
  split at found
  next stored => exact stored.trans (congrArg some (Except.ok.inj found))
  next => cases found

/-- Only an object is of a class. -/
theorem of_ofClass {value : Json} {className : String} {fields : List (String × Json)}
    (found : ofClass value className = .ok fields) : value = .object fields := by
  rw [ofClass] at found
  split at found
  · cases found
  next stored object =>
    split at found
    · cases found
    · split at found
      · cases found
        cases value with
        | object fields =>
            cases object
            rfl
        | _ => cases object
      · cases found

private theorem readValues_valid {dtype : DType} {sizes : Shape} {values : List Json} {d : Dense}
    (read : readValues dtype sizes values = .ok d) : d.Valid := by
  rw [readValues] at read
  split at read
  · split at read
    · exact Dense.ofFloats_valid (ok_of_mapError read)
    · cases read
  · split at read
    · exact Dense.ofIntegers_valid (ok_of_mapError read)
    · cases read

/-- What is read for a tensor is read for the values under its key, in the type that it names. -/
theorem of_tensorOfJson {value : Json} {d : Dense} (read : tensorOfJson value = .ok d) :
    ∃ name dtype sizes values, value.get? "dtype" = some (.string name) ∧
      DType.ofName name = .ok dtype ∧ value.get? "values" = some (.array values) ∧
      readValues dtype sizes values = .ok d := by
  rw [tensorOfJson] at read
  split at read
  next fields object =>
    have part {key what : String} {item : Json} (found : field fields key what = .ok item) :
        value.get? key = some item := by
      rw [Json.get?, object]
      exact of_field found
    split at read
    next name named =>
      obtain ⟨dtype, known, read⟩ := ok_of_bind read
      obtain ⟨_, _, read⟩ := ok_of_bind read
      split at read
      next =>
        obtain ⟨items, found, read⟩ := ok_of_bind read
        split at read
        next values listed =>
          obtain ⟨_, _, read⟩ := ok_of_bind read
          refine ⟨name, dtype, _, values, ?_, ok_of_mapError known, ?_, read⟩
          · obtain ⟨held, stored, text⟩ := Option.bind_eq_some_iff.mp named
            cases held with
            | string _ =>
                cases text
                rw [Json.get?, object]
                exact stored
            | _ => cases text
          · cases items with
            | array _ =>
                cases listed
                exact part found
            | _ => cases listed
        next => cases read
      next => cases read
    next => cases read
  next => cases read

/-- Data that is read is valid. -/
theorem tensorOfJson_valid {value : Json} {d : Dense} (read : tensorOfJson value = .ok d) :
    d.Valid := by
  obtain ⟨_, _, _, _, _, _, _, read⟩ := of_tensorOfJson read
  exact readValues_valid read

/-- Data is read onto the CPU. -/
theorem tensorOfJson_onCpu {value : Json} {d : Dense} (read : tensorOfJson value = .ok d) :
    d.device = .cpu := by
  obtain ⟨_, _, _, _, _, _, _, read⟩ := of_tensorOfJson read
  rw [readValues] at read
  split at read
  · split at read
    · rw [(Dense.ofFloats_eq (ok_of_mapError read)).2.2]
    · cases read
  · split at read
    · rw [(Dense.ofIntegers_eq (ok_of_mapError read)).2.2]
    · cases read

/-- Doubles that are read are finite, since there are no other numbers in a document. -/
theorem tensorOfJson_finite {value : Json} (inRange : value.InRange) {d : Dense}
    (read : tensorOfJson value = .ok d) : d.FiniteDoubles := by
  obtain ⟨_, dtype, _, items, _, _, listed, read⟩ := of_tensorOfJson read
  have items_inRange : ∀ item ∈ items, item.InRange := (inRange.get? listed).items
  rw [readValues] at read
  split at read
  · split at read
    next values numbered =>
      obtain ⟨_, _, rfl⟩ := Dense.ofFloats_eq (ok_of_mapError read)
      intro double found held
      cases double
      rw [← Values.floats.inj held, show DType.float64.round = id from rfl, List.map_id]
      exact Json.InRange.numbers items_inRange numbered
    next => cases read
  · split at read
    next values _ =>
      obtain ⟨_, _, rfl⟩ := Dense.ofIntegers_eq (ok_of_mapError read)
      intro _ found held
      cases held
    next => cases read

/-- What is read are numbers, of which those in single precision may be infinite. -/
theorem tensorOfJson_numbers {value : Json} (inRange : value.InRange) {d : Dense}
    (read : tensorOfJson value = .ok d) : d.Numbers := by
  obtain ⟨_, dtype, _, items, _, _, listed, read⟩ := of_tensorOfJson read
  have items_inRange : ∀ item ∈ items, item.InRange := (inRange.get? listed).items
  intro found held x member
  rw [readValues] at read
  split at read
  · split at read
    next values numbered =>
      obtain ⟨_, _, rfl⟩ := Dense.ofFloats_eq (ok_of_mapError read)
      rw [← Values.floats.inj held] at member
      obtain ⟨source, present, rfl⟩ := List.mem_map.mp member
      have number : source.isNaN = false :=
        (Binary64.not_special (Json.InRange.numbers items_inRange numbered source present)).1
      cases dtype with
      | float32 => exact Binary64.toSingle_number number
      | _ => exact number
    next => cases read
  · split at read
    next values _ =>
      obtain ⟨_, _, rfl⟩ := Dense.ofIntegers_eq (ok_of_mapError read)
      cases held
    next => cases read

private theorem optionsOfJson_sound {value : Json} {options : NeighborListOptions}
    (read : optionsOfJson value = .ok options) : options.Sound ∧ options.requestors = [] := by
  obtain ⟨fields, _, read⟩ := ok_of_bind read
  split at read
  next bits =>
    split at read
    next fullList =>
      dsimp only at read
      split at read
      · cases read
        exact ⟨NeighborListOptions.validate_empty, rfl⟩
      next unit =>
        split at read
        next text =>
          obtain ⟨sound, rfl⟩ := NeighborListOptions.setLengthUnit_ok (ok_of_mapError read)
          exact ⟨sound, rfl⟩
        next => cases read
    next => cases read
  next => cases read

/-- Options that a document gives have a unit that is known, or none, and nobody asked for them. -/
theorem ofJson_options_sound {text : String} {options : NeighborListOptions}
    (read : NeighborListOptions.ofJson text = .ok options) :
    options.Sound ∧ options.requestors = [] := by
  obtain ⟨_, _, read⟩ := ok_of_bind read
  exact optionsOfJson_sound read

private theorem listOfJson_within (fields : List (String × Json)) :
    (listOfJson fields).Within (Extends Dense.Valid) workspace fun made after =>
      made.Sound after.tape ∧
        ((Json.object fields).InRange → made.values.data.FiniteDoubles) := by
  rw [listOfJson]
  apply (ofExcept_within _).bind
  rintro _ one _ ⟨_, rfl⟩
  apply (ofExcept_within _).bind
  rintro samples two _ ⟨samples_read, rfl⟩
  apply (place_within fun _ => tensorOfJson_valid samples_read).bind
  rintro samples three third ⟨samples_known, _⟩
  apply (ofExcept_within _).bind
  rintro part four _ ⟨found, rfl⟩
  apply (ofExcept_within _).bind
  rintro data five _ ⟨values_read, rfl⟩
  apply (place_within fun _ => tensorOfJson_valid values_read).bind
  rintro values six sixth ⟨values_known, held⟩
  apply (NeighborList.assemble_within (sixth.knows samples_known) values_known).weaken
  rintro made after ⟨made_sound, same, _⟩
  refine ⟨made_sound, fun inRange => ?_⟩
  rw [same, held]
  exact tensorOfJson_finite (inRange.get? (of_field found)) values_read

private theorem entryOfJson_within (value : Json) :
    (entryOfJson value).Within (Extends Dense.Valid) workspace fun made after =>
      (made.1.Sound ∧ made.1.requestors = []) ∧ made.2.Sound after.tape ∧
        (value.InRange → made.2.values.data.FiniteDoubles) := by
  have refused {α : Type} (fault : Error) {ended : α → Workspace → Prop} :
      (throw fault : Session Error α).Within (Extends Dense.Valid) workspace ended :=
    .of_error (Session.exec_throw fault workspace) (.refl workspace)
  rw [entryOfJson]
  split
  next options =>
    apply (ofExcept_within _).bind
    rintro options one _ ⟨options_read, rfl⟩
    split
    next fields found =>
      apply (listOfJson_within fields).bind
      rintro list two second ⟨list_sound, finite⟩
      refine .of_exec rfl (.refl _) fun made result => ?_
      cases result
      refine ⟨optionsOfJson_sound options_read, list_sound, fun inRange => finite ?_⟩
      obtain ⟨part, stored, object⟩ := Option.bind_eq_some_iff.mp found
      cases part with
      | object fields =>
          cases object
          exact inRange.get? stored
      | _ => cases object
    next => exact refused _
  next => exact refused _

private theorem attachEntry_within {system : System} (sound : system.Sound workspace.tape)
    (anonymous : system.Anonymous) (value : Json) :
    (attachEntry system value).Within (Extends Dense.Valid) workspace fun made after =>
      made.Sound after.tape ∧ made.Anonymous ∧ made.get = system.get ∧
        (value.InRange → (∀ entry ∈ system.neighborLists, entry.2.values.data.FiniteDoubles) →
          ∀ entry ∈ made.neighborLists, entry.2.values.data.FiniteDoubles) := by
  rw [attachEntry]
  apply (entryOfJson_within value).bind
  rintro entry one first ⟨⟨options_sound, unasked⟩, list_sound, list_finite⟩
  apply (System.note_within _ _ _).bind
  intro _ two second same
  apply (System.addNeighborList_within ((sound.mono first).mono second) options_sound
    (list_sound.mono second)).weaken
  rintro made after ⟨made_sound, rfl⟩
  have all := @Registry.forall_insert _ _ _ (fun options => options.requestors = [])
    (fun _ => True) entry.1 entry.2 system.neighborLists unasked trivial
    fun other member => ⟨anonymous other member, trivial⟩
  refine ⟨made_sound, fun other member => (all other member).1, system.get_neighborLists _,
    fun inRange finite other member => ?_⟩
  have every := @Registry.forall_insert _ _ _ (fun _ => True)
    (fun list : Block => list.values.data.FiniteDoubles) entry.1 entry.2 system.neighborLists
    trivial (list_finite inRange) fun other member => ⟨trivial, finite other member⟩
  exact (every other member).2

private theorem systemTensor_within (fields : List (String × Json)) (key : String) :
    (systemTensor fields key).Within (Extends Dense.Valid) workspace fun made after =>
      after.tape.Knows made ∧ made.device = .cpu ∧
        ((Json.object fields).InRange → made.data.FiniteDoubles) := by
  rw [systemTensor]
  apply (ofExcept_within _).bind
  rintro part one _ ⟨found, rfl⟩
  apply (ofExcept_within _).bind
  rintro data two _ ⟨read, rfl⟩
  apply (place_within fun _ => tensorOfJson_valid read).weaken
  rintro made after ⟨known, same⟩
  refine ⟨known, (congrArg Dense.device same).trans (tensorOfJson_onCpu read), fun inRange => ?_⟩
  rw [same]
  exact tensorOfJson_finite (inRange.get? (of_field found)) read

/-- The neighbor lists of a document are attached one after another.  The four tensors stay
as they are, so the system that was constructed stays constructed. -/
theorem attachAll_within {system : System} (constructed : system.Constructed workspace.tape)
    (bare : system.neighborLists = []) (onCpu : system.device = .cpu) (lists : List Json) :
    (lists.foldlM attachEntry system).Within (Extends Dense.Valid) workspace fun made after =>
      made.Decoded after.tape ∧ made.get = system.get ∧
        ((∀ entry ∈ lists, entry.InRange) →
          ∀ entry ∈ made.neighborLists, entry.2.values.data.FiniteDoubles) := by
  let kept (made : System) (after : Workspace) : Prop :=
    made.Sound after.tape ∧ made.Anonymous ∧ made.get = system.get ∧
      ((∀ entry ∈ lists, entry.InRange) →
        ∀ entry ∈ made.neighborLists, entry.2.values.data.FiniteDoubles)
  have started : kept system workspace := by
    refine ⟨constructed.toSound, ?_, rfl, fun _ => ?_⟩
    · rw [System.Anonymous, bare]
      exact List.forall_mem_nil _
    · rw [bare]
      exact List.forall_mem_nil _
  have attached := @Session.Within.foldlM _ _ _ _ workspace _ lists attachEntry kept Extends.refl
    (fun entry member state middle _ state_kept => by
      obtain ⟨sound, anonymous, same, finite⟩ := state_kept
      apply (attachEntry_within sound anonymous entry).weaken
      rintro made after ⟨made_sound, made_anonymous, made_same, made_finite⟩
      exact ⟨made_sound, made_anonymous, made_same.trans same, fun inRange =>
        made_finite (inRange entry member) (finite inRange)⟩)
    system started
  apply attached.weaken
  rintro made after ⟨sound, anonymous, same, finite⟩
  have types : made.types = system.types := congrFun same .types
  refine ⟨⟨constructed.of_get sound same, ?_, anonymous⟩, same, finite⟩
  rw [System.device, types]
  exact onCpu

/-- What is read for a system is constructed, on the CPU, whatever the document, and it has
no doubles that are not finite. -/
theorem systemOfJson_decoded (value : Json) :
    (systemOfJson value).Within (Extends Dense.Valid) workspace fun made after =>
      made.Decoded after.tape ∧ (value.InRange → made.FiniteDoubles) := by
  rw [systemOfJson]
  apply (ofExcept_within _).bind
  rintro fields zero _ ⟨classed, rfl⟩
  have whole := of_ofClass classed
  apply (systemTensor_within fields "positions").bind
  rintro positions one first ⟨positions_known, _, positions_finite⟩
  apply (systemTensor_within fields "cell").bind
  rintro cell two second ⟨cell_known, _, cell_finite⟩
  apply (systemTensor_within fields "types").bind
  rintro types three third ⟨types_known, on_cpu, _⟩
  apply (systemTensor_within fields "pbc").bind
  rintro raw four fourth ⟨raw_known, _⟩
  apply (Run.transfer_within Dense.kind_valid raw_known (some .bool) none).adapt.bind
  rintro pbc five fifth ⟨pbc_known, _⟩
  have known : ∀ tensor ∈ [types, positions, cell, pbc], five.tape.Knows tensor := by
    simp only [List.forall_mem_cons]
    exact ⟨fifth.knows (fourth.knows types_known),
      fifth.knows (fourth.knows (third.knows (second.knows positions_known))),
      fifth.knows (fourth.knows (third.knows cell_known)), pbc_known, List.forall_mem_nil _⟩
  apply (System.create_within Dense.kind_valid known).bind
  rintro system six sixth ⟨constructed, bare, _, device, same_positions, same_cell⟩
  have placed : system.device = .cpu := device.trans on_cpu
  have finite (inRange : (Json.object fields).InRange) : system.positions.data.FiniteDoubles ∧
      system.cell.data.FiniteDoubles := by
    rw [same_positions, same_cell]
    exact ⟨positions_finite inRange, cell_finite inRange⟩
  rw [whole]
  split
  · have attached := attachAll_within constructed bare placed []
    refine .of_exec rfl (.refl _) fun made result => ?_
    cases result
    obtain ⟨decoded, _, lists_finite⟩ := (attached.of_success rfl).2
    exact ⟨decoded, fun inRange =>
      ⟨(finite inRange).1, (finite inRange).2, lists_finite (List.forall_mem_nil _)⟩⟩
  next stored found =>
    split
    next lists listed =>
      have part (inRange : (Json.object fields).InRange) : ∀ entry ∈ lists, entry.InRange := by
        cases stored with
        | array items =>
            cases listed
            exact (inRange.get? found).items
        | _ => cases listed
      apply (attachAll_within constructed bare placed lists).weaken
      rintro made after ⟨decoded, same, lists_finite⟩
      have positions : made.positions = system.positions := congrFun same .positions
      have cell : made.cell = system.cell := congrFun same .cell
      refine ⟨decoded, fun inRange => ⟨?_, ?_, lists_finite (part inRange)⟩⟩
      · rw [positions]
        exact (finite inRange).1
      · rw [cell]
        exact (finite inRange).2
    next => exact .of_error (Session.exec_throw _ _) (.refl _)

/-- **A system that is read is sound**, whatever the document. -/
theorem systemOfJson_within (value : Json) :
    (systemOfJson value).Within (Extends Dense.Valid) workspace fun made after =>
      made.Sound after.tape :=
  (systemOfJson_decoded value).weaken fun _ _ made => made.1.toSound

end Document

/-- A system that is read from a text is constructed, on the CPU, and has no doubles that are
not finite. -/
theorem System.ofJson_decoded (text : String) :
    (System.ofJson text).Within (Extends Dense.Valid) workspace fun made after =>
      made.Decoded after.tape ∧ made.FiniteDoubles := by
  apply (ofExcept_within _).bind
  rintro value one _ ⟨parsed, rfl⟩
  apply (Document.systemOfJson_decoded value).weaken
  rintro made after ⟨decoded, doubles⟩
  refine ⟨decoded, doubles ?_⟩
  rw [Document.parse] at parsed
  split at parsed
  next accepted =>
    cases parsed
    exact Json.lawful.inRange accepted
  next => cases parsed

end Atomistic
