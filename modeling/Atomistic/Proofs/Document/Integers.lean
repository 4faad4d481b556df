import Atomistic.Proofs.Document.Stability
import Atomistic.Proofs.System.Lists
import Atomistic.Proofs.Tensor.Represented

/-!
# Integers in documents

The values of a tensor of integers are signed 64-bit integers, or the document is rejected.
Each is brought into the range of the type that the document names, and the types of the atoms
are then brought into the range of `int32`, the type of the samples of neighbor lists.  So what
a document says about atoms and pairs is what is read exactly if all of its integers are in
those ranges (`Atomistic.System.ofJson_integers`); others wrap around
(`Atomistic.System.types_wrap_around`).
-/

namespace Atomistic

open Session

namespace DType

/-- Integers go through a type and then through `int32` as they are exactly if they are in the
range of both. -/
theorem int32_wrap_wrap_eq_iff {dtype : DType} (integral : dtype.isFloating = false) (i : Int) :
    int32.wrap (dtype.wrap i) = i ↔ dtype.InRange i ∧ int32.InRange i := by
  cases dtype with
  | bool =>
      simp only [wrap, InRange, Int.bmod]
      split <;> split <;> omega
  | uint8 | int8 | int16 | int32 | int64 =>
      simp only [wrap, InRange, Int.bmod]
      grind
  | float32 | float64 => cases integral

/-- Only integral types can be cast to `int32`. -/
theorem integral_of_canCast {dtype : DType} (castable : dtype.canCast .int32) :
    dtype.isFloating = false := by
  cases dtype with
  | float32 | float64 => cases castable
  | _ => rfl

end DType

/-- A list goes through a function as it is if its entries do. -/
theorem map_eq_self_iff {α : Type} {f : α → α} {items : List α} :
    items.map f = items ↔ ∀ item ∈ items, f item = item := by
  simpa using @List.map_inj_left _ _ items f id

private theorem Dense.convert_wraps {d e : Dense} {integers : List Int}
    (held : d.values = .integers integers)
    (present : d.device ≠ .metadata) {dtype : DType} (distinct : dtype ≠ d.dtype)
    (integral : dtype.isFloating = false) (converted : d.convert dtype d.device = .ok e) :
    e.values = .integers (integers.map dtype.wrap) := by
  have placed : ¬ d.device.isMeta := by simpa [Device.isMeta] using present
  have there : d.values ≠ .absent := by simp [held]
  rw [Dense.convert, if_neg placed, if_neg there] at converted
  simp only [if_neg distinct, held, Dense.castValues, integral, Bool.false_eq_true,
    if_false] at converted
  rw [← Except.ok.inj converted]

/-- Integers that are cast to an integral type are brought into its range. -/
theorem Tensor.transfer_wraps {workspace : Workspace} {tensor : Tensor} {integers : List Int}
    (held : tensor.data.values = .integers integers) (present : tensor.device ≠ .metadata)
    (wrapped : ∀ i ∈ integers, tensor.dtype.wrap i = i) {dtype : DType}
    (integral : dtype.isFloating = false) :
    (tensor.transfer (some dtype) none).Within Anywhere workspace fun made _ =>
      made.data.values = .integers (integers.map dtype.wrap) := by
  rw [Tensor.transfer]
  split
  next same =>
    refine .of_exec rfl trivial fun made result => ?_
    cases result
    have type : dtype = tensor.dtype := same.1
    rw [held, type, map_eq_self_iff.mpr wrapped]
  next other =>
    have distinct : dtype ≠ tensor.dtype := fun same => other ⟨same, rfl⟩
    refine (Within.ran _ _).bind fun flag _ _ _ => ?_
    rw [if_neg (by simp [integral]), Tensor.convert]
    refine (Within.look (exec_ofExcept _ _) trivial).bind fun outcome _ _ converted => ?_
    refine .of_exec rfl trivial fun made result => ?_
    cases result
    obtain ⟨data, cast, result⟩ := ok_of_bind converted.1
    cases result
    exact Dense.convert_wraps held present distinct integral cast

namespace Document

/-- A stored tensor names an integral type, and its values are signed 64-bit integers. -/
structure Integers (value : Json) (dtype : DType) (integers : List Int) : Prop where
  integral : dtype.isFloating = false
  named : ∃ name, value.get? "dtype" = some (.string name) ∧ DType.ofName name = .ok dtype
  listed : ∃ items, value.get? "values" = some (.array items) ∧
    items.mapM Json.integer? = some integers
  signed : ∀ i ∈ integers, DType.int64.InRange i

private theorem signed_of_mapM_integer {items : List Json} {integers : List Int}
    (read : items.mapM Json.integer? = some integers) : ∀ i ∈ integers, DType.int64.InRange i := by
  induction items generalizing integers with
  | nil =>
      cases read
      exact List.forall_mem_nil _
  | cons item rest ih =>
      rw [List.mapM_cons] at read
      obtain ⟨first, one, read⟩ := Option.bind_eq_some_iff.mp read
      obtain ⟨others, later, same⟩ := Option.bind_eq_some_iff.mp read
      cases same
      refine List.forall_mem_cons.mpr ⟨?_, ih later⟩
      cases item with
      | integer value =>
          rw [Json.integer?] at one
          split at one
          next inside =>
            cases one
            simp only [DType.InRange]
            omega
          next => cases one
      | _ => cases one

/-- What is read for a tensor of an integral type are the integers that it holds, in the range of
its type. -/
theorem integers_of_tensorOfJson {value : Json} {d : Dense} (read : tensorOfJson value = .ok d)
    (integral : d.dtype.isFloating = false) : ∃ integers, Integers value d.dtype integers ∧
      d.values = .integers (integers.map d.dtype.wrap) := by
  obtain ⟨name, dtype, sizes, items, named, known, listed, read⟩ := of_tensorOfJson read
  rw [readValues] at read
  split at read
  next floating =>
    split at read
    next =>
      obtain ⟨_, _, rfl⟩ := Dense.ofFloats_eq (ok_of_mapError read)
      exact absurd floating (Bool.eq_false_iff.mp integral)
    next => cases read
  next =>
    split at read
    next integers found =>
      obtain ⟨_, _, rfl⟩ := Dense.ofIntegers_eq (ok_of_mapError read)
      exact ⟨integers, ⟨integral, ⟨name, named, known⟩, ⟨items, listed, found⟩,
        signed_of_mapM_integer found⟩, rfl⟩
    next => cases read

/-- A neighbor list was read for an entry, with the options of the entry and the integers of its
samples. -/
structure Entry (entry : Json) (options : NeighborListOptions) (samples : List Int)
    (list : Block) : Prop where
  options : ∃ part, entry.get? "options" = some part ∧ optionsOfJson part = .ok options
  listed : ∃ data part, entry.get? "data" = some data ∧ data.get? "samples" = some part ∧
    Integers part .int32 samples
  held : list.samples.values.data.values = .integers (samples.map DType.int32.wrap)

private theorem listOfJson_samples {workspace : Workspace} (fields : List (String × Json)) :
    (listOfJson fields).Within Anywhere workspace fun made _ => ∃ part samples,
      Registry.find? fields "samples" = some part ∧ Integers part .int32 samples ∧
        made.samples.values.data.values = .integers (samples.map DType.int32.wrap) := by
  suffices extending : (listOfJson fields).Within (Run.Extends Dense.Valid) workspace fun made _ =>
      ∃ part samples, Registry.find? fields "samples" = some part ∧ Integers part .int32 samples ∧
        made.samples.values.data.values = .integers (samples.map DType.int32.wrap) from
    extending.anywhere
  rw [listOfJson]
  apply (Run.ofExcept_within _).bind
  rintro part one _ ⟨found, rfl⟩
  apply (Run.ofExcept_within _).bind
  rintro data two _ ⟨read, rfl⟩
  apply (Run.place_within fun _ => tensorOfJson_valid read).bind
  rintro samples three third ⟨samples_known, held⟩
  apply (Run.ofExcept_within _).bind
  rintro _ four _ ⟨_, rfl⟩
  apply (Run.ofExcept_within _).bind
  rintro distances five _ ⟨distances_read, rfl⟩
  apply (Run.place_within fun _ => tensorOfJson_valid distances_read).bind
  rintro distances six sixth ⟨distances_known, _⟩
  apply (NeighborList.assemble_within (sixth.knows samples_known) distances_known).weaken
  rintro made after ⟨sound, _, _, same⟩
  have dtype : data.dtype = .int32 := by
    have narrow := sound.samples.1.dtype
    rwa [same, Tensor.dtype, held] at narrow
  obtain ⟨integers, stored, values⟩ := integers_of_tensorOfJson read (by rw [dtype]; rfl)
  rw [dtype] at stored values
  exact ⟨part, integers, of_field found, stored, by rw [same, held]; exact values⟩

private theorem attachEntry_entry {workspace : Workspace} {system : System} (value : Json)
    (sorted : Registry.Sorted system.neighborLists) :
    (attachEntry system value).Within Anywhere workspace fun made _ =>
      made.types = system.types ∧ Registry.Sorted made.neighborLists ∧
        system.neighborLists ⊆ made.neighborLists ∧
        ∃ options samples list, (options, list) ∈ made.neighborLists ∧
          Entry value options samples list := by
  have refused {α : Type} (fault : Error) {ended : α → Workspace → Prop} {before : Workspace} :
      (throw fault : Session Error α).Within Anywhere before ended :=
    .of_error (exec_throw fault before) trivial
  have entry : (entryOfJson value).Within Anywhere workspace fun made _ =>
      ∃ samples, Entry value made.1 samples made.2 := by
    rw [entryOfJson]
    split
    next part found =>
      refine (Within.look (exec_ofExcept _ _) trivial).bind fun options _ _ read => ?_
      split
      next fields stored =>
        refine (listOfJson_samples fields).bind fun list _ _ held => ?_
        refine .of_exec rfl trivial fun made result => ?_
        cases result
        obtain ⟨samples_part, samples, there, integers, values⟩ := held
        obtain ⟨data, data_found, object⟩ := Option.bind_eq_some_iff.mp stored
        refine ⟨samples, ⟨part, (Option.filter_eq_some_iff.mp found).1, read.1⟩,
          ⟨data, samples_part, data_found, ?_, integers⟩, values⟩
        rw [Json.get?, object]
        exact there
      next => exact refused _
    next => exact refused _
  rw [attachEntry]
  refine entry.bind fun made _ _ stored => (Within.ran _ _).bind fun _ _ _ _ => ?_
  apply (System.addNeighborList_inserts made.1 made.2).weaken
  rintro extended _ ⟨_, absent, rfl⟩
  have perm := Registry.insert_perm absent made.2
  obtain ⟨samples, held⟩ := stored
  exact ⟨rfl, sorted.insert _ _, fun other member =>
      perm.mem_iff.mpr (List.mem_cons_of_mem _ member),
    made.1, samples, made.2, perm.mem_iff.mpr List.mem_cons_self, held⟩

/-- Every entry of a document is stored under its options, and all that was stored stays. -/
theorem attachAll_entries (entries : List Json) :
    ∀ {workspace : Workspace} {system : System}, Registry.Sorted system.neighborLists →
      (entries.foldlM attachEntry system).Within Anywhere workspace fun made _ =>
        made.types = system.types ∧ Registry.Sorted made.neighborLists ∧
          system.neighborLists ⊆ made.neighborLists ∧
          ∀ entry ∈ entries, ∃ options samples list, (options, list) ∈ made.neighborLists ∧
            Entry entry options samples list := by
  induction entries with
  | nil =>
      intro workspace system sorted
      refine .of_exec rfl trivial fun made result => ?_
      cases result
      exact ⟨rfl, sorted, List.Subset.refl _, List.forall_mem_nil _⟩
  | cons entry rest ih =>
      intro workspace system sorted
      rw [List.foldlM_cons]
      refine (attachEntry_entry entry sorted).bind ?_
      rintro middle _ _ ⟨types, middle_sorted, kept, options, samples, list, stored, held⟩
      refine (ih middle_sorted).weaken ?_
      rintro made _ ⟨same, made_sorted, further, all⟩
      refine ⟨same.trans types, made_sorted, List.Subset.trans kept further,
        List.forall_mem_cons.mpr ⟨?_, all⟩⟩
      exact ⟨options, samples, list, further stored, held⟩

/-- A tensor of a system holds what its part of the document says. -/
theorem systemTensor_read {workspace : Workspace} (fields : List (String × Json)) (key : String) :
    (systemTensor fields key).Within Anywhere workspace fun made _ => ∃ part,
      Registry.find? fields key = some part ∧ tensorOfJson part = .ok made.data := by
  rw [systemTensor]
  refine (Within.look (exec_ofExcept _ _) trivial).bind fun part _ _ found => ?_
  refine (Within.look (exec_ofExcept _ _) trivial).bind fun data _ _ read => ?_
  refine .of_exec rfl trivial fun made result => ?_
  cases result
  exact ⟨part, of_field found.1, read.1⟩

/-- What is read of the integers of a system. -/
theorem systemOfJson_integers {workspace : Workspace} (value : Json) :
    (systemOfJson value).Within Anywhere workspace fun made _ =>
      (∃ part dtype integers, value.get? "types" = some part ∧ Integers part dtype integers ∧
        made.types.data.values =
          .integers (integers.map fun i => DType.int32.wrap (dtype.wrap i))) ∧
      Registry.Sorted made.neighborLists ∧
      ∀ entries, value.get? "neighbor_lists" = some (.array entries) → ∀ entry ∈ entries,
        ∃ options samples list, (options, list) ∈ made.neighborLists ∧
          Entry entry options samples list := by
  rw [systemOfJson]
  refine (Within.look (exec_ofExcept _ _) trivial).bind fun fields _ _ classed => ?_
  have whole := of_ofClass classed.1
  refine (Within.ran _ _).bind fun positions _ _ _ => (Within.ran _ _).bind fun cell _ _ _ => ?_
  refine (systemTensor_read fields "types").bind ?_
  rintro types _ _ ⟨part, found, read⟩
  refine (Within.ran _ _).bind fun raw _ _ _ => (Within.ran _ _).bind fun pbc _ _ _ => ?_
  have created {before : Workspace} :
      (System.create types positions cell pbc).Within Anywhere before fun made _ =>
        made.neighborLists = [] ∧ ∃ integers, Integers part types.dtype integers ∧
          made.types.data.values =
            .integers (integers.map fun i => DType.int32.wrap (types.dtype.wrap i)) := by
    refine ⟨trivial, fun made succeeded => ?_⟩
    obtain ⟨bare, _, castable, _, _, cast⟩ :=
      (System.create_bare types positions cell pbc).gives made succeeded
    have integral : types.dtype.isFloating = false := DType.integral_of_canCast castable
    obtain ⟨integers, stored, values⟩ := integers_of_tensorOfJson read integral
    have placed : types.device ≠ .metadata := by
      rw [Tensor.device, tensorOfJson_onCpu read]
      decide
    have wrapped : ∀ i ∈ integers.map types.dtype.wrap, types.dtype.wrap i = i := by
      intro i member
      obtain ⟨source, _, rfl⟩ := List.mem_map.mp member
      exact DType.wrap_wrap _ _
    have held := ((Tensor.transfer_wraps values placed wrapped rfl).of_success cast).2
    rw [List.map_map] at held
    exact ⟨bare, integers, stored, held⟩
  refine created.bind ?_
  rintro system _ _ ⟨bare, integers, stored, values⟩
  have sorted : Registry.Sorted system.neighborLists := by
    rw [bare]
    exact .nil
  have whole_get (key : String) : value.get? key = Registry.find? fields key := by
    rw [whole]
    rfl
  simp only [whole_get]
  split
  next absent =>
    refine .of_exec rfl trivial fun made result => ?_
    cases result
    refine ⟨⟨part, _, integers, found, stored, values⟩, sorted, fun entries present => ?_⟩
    rw [absent] at present
    cases present
  next lists present =>
    split
    next entries listed =>
      refine (attachAll_entries entries sorted).weaken ?_
      rintro made _ ⟨same, made_sorted, _, all⟩
      rw [same]
      refine ⟨⟨part, _, integers, found, stored, values⟩, made_sorted, fun others again => ?_⟩
      rw [present] at again
      cases again
      cases listed
      exact all
    next => exact .of_error (exec_throw _ _) trivial

/-- A stored tensor holds one list of integers, in one type. -/
theorem Integers.unique {value : Json} {dtype other : DType} {integers others : List Int}
    (first : Integers value dtype integers) (second : Integers value other others) :
    dtype = other ∧ integers = others := by
  obtain ⟨_, ⟨name, found, known⟩, ⟨items, listed, read⟩, _⟩ := first
  obtain ⟨_, ⟨_, again, same⟩, ⟨_, relisted, reread⟩, _⟩ := second
  cases found.symm.trans again
  cases listed.symm.trans relisted
  exact ⟨Except.ok.inj (known.symm.trans same), Option.some.inj (read.symm.trans reread)⟩

end Document

namespace System

open Document

/-- **Integers are read in the range of their type.** In a document that is accepted the types
are integers of 64 bits in a type that the document names, and so are the samples of every list,
in `int32`.  The system has the types in the range of that type and then of `int32`, and its list
under the options of the entry has the samples in the range of `int32`.  They are as the document
says exactly if they all are in those ranges. -/
theorem ofJson_integers {text : String} {workspace after : Workspace} {system : System}
    (read : (ofJson text).exec workspace = (.ok system, after)) :
    ∃ document, Document.parse text = .ok document ∧
      (∃ part dtype integers, document.get? "types" = some part ∧ Integers part dtype integers ∧
        system.types.data.toIntegers =
          .ok (integers.map fun i => DType.int32.wrap (dtype.wrap i)) ∧
        (system.types.data.toIntegers = .ok integers ↔
          ∀ i ∈ integers, dtype.InRange i ∧ DType.int32.InRange i)) ∧
      ∀ entries, document.get? "neighbor_lists" = some (.array entries) → ∀ entry ∈ entries,
        ∃ options samples list, Entry entry options samples list ∧
          system.neighborList options = .ok list ∧
          list.samples.values.data.toIntegers = .ok (samples.map DType.int32.wrap) ∧
          (list.samples.values.data.toIntegers = .ok samples ↔
            ∀ i ∈ samples, DType.int32.InRange i) := by
  obtain ⟨document, parsed, ran⟩ : ∃ document, Document.parse text = .ok document ∧
      (systemOfJson document).exec workspace = (.ok system, after) := by
    rw [ofJson, exec_bind, exec_ofExcept] at read
    cases parsed : Document.parse text with
    | error fault =>
        rw [parsed] at read
        cases read
    | ok document =>
        rw [parsed] at read
        exact ⟨document, rfl, read⟩
  obtain ⟨⟨part, dtype, integers, found, stored, types⟩, sorted, lists⟩ :=
    ((systemOfJson_integers document).of_success ran).2
  have read_types : system.types.data.toIntegers =
      .ok (integers.map fun i => DType.int32.wrap (dtype.wrap i)) := by
    rw [Dense.toIntegers, types]
  refine ⟨document, parsed, ⟨part, dtype, integers, found, stored, read_types, ?_⟩,
    fun entries present entry member => ?_⟩
  · rw [read_types, Except.ok.injEq, map_eq_self_iff]
    exact forall₂_congr fun i _ => DType.int32_wrap_wrap_eq_iff stored.integral i
  · obtain ⟨options, samples, list, kept, held⟩ := lists entries present entry member
    have read_samples : list.samples.values.data.toIntegers =
        .ok (samples.map DType.int32.wrap) := by
      rw [Dense.toIntegers, held.held]
    refine ⟨options, samples, list, held, ?_, read_samples, ?_⟩
    · rw [neighborList, sorted.find?_mem kept]
    · rw [read_samples, Except.ok.injEq, map_eq_self_iff]
      exact forall₂_congr fun i _ => DType.wrap_eq_self_iff rfl i

end System

namespace Document

namespace Bonded

/-- The document of a tensor that holds integers. -/
def tensor (dtype : DType) (sizes : List Nat) (integers : List Int) : Json :=
  OneAtom.tensor dtype sizes (integers.map Json.integer)

/-- The document of the only neighbor list: one pair, a step apart on the first axis. -/
def entry (samples : List Int) : Json :=
  .object
    [ ("data", .object
        [ ("samples", tensor .int32 [1, 5] samples),
          ("values", tensor .float32 [1, 3, 1] [1, 0, 0]) ]),
      ("options", optionsToJson { cutoff := .one, fullList := true }) ]

/-- The document of an atom and its neighbor list. -/
def document (dtype : DType) (type : Int) (samples : List Int) : Json :=
  .object
    [ ("cell", tensor .float32 [3, 3] (List.replicate 9 0)),
      ("class", .string systemClass),
      ("neighbor_lists", .array [entry samples]),
      ("pbc", tensor .int32 [3] [0, 0, 0]),
      ("positions", tensor .float32 [1, 3] [0, 0, 0]),
      ("types", tensor dtype [1] [type]) ]

/-- A stored tensor of integers can be written if its sizes and its integers fit in 64 bits. -/
theorem tensor_writable (dtype : DType) {sizes : List Nat} {integers : List Int} {depth : Nat}
    (small : ∀ size ∈ sizes, size < 0x10000000000000000)
    (signed : ∀ i ∈ integers, DType.int64.InRange i) :
    (tensor dtype sizes integers).Writable (depth + 2) := by
  refine OneAtom.tensor_writable dtype small fun value member => ?_
  obtain ⟨i, present, rfl⟩ := List.mem_map.mp member
  have inside := signed i present
  simp only [DType.InRange] at inside
  exact .integer (by omega) (by omega)

/-- The document of a system with one atom can be written. -/
theorem document_writable (dtype : DType) {type : Int} {samples : List Int}
    (type_signed : DType.int64.InRange type) (signed : ∀ i ∈ samples, DType.int64.InRange i) :
    (document dtype type samples).Writable Json.maxDepth := by
  have written : (entry samples).Writable 125 := by
    refine .object ?_ ?_
    · simp only [Registry.Sorted, List.pairwise_cons, List.forall_mem_cons]
      exact ⟨⟨by decide, List.forall_mem_nil _⟩, List.forall_mem_nil _, .nil⟩
    · simp only [List.forall_mem_cons]
      refine ⟨.object ?_ ?_, optionsToJson_writable _ _, List.forall_mem_nil _⟩
      · simp only [Registry.Sorted, List.pairwise_cons, List.forall_mem_cons]
        exact ⟨⟨by decide, List.forall_mem_nil _⟩, List.forall_mem_nil _, .nil⟩
      · simp only [List.forall_mem_cons]
        exact ⟨tensor_writable _ (by decide) signed, tensor_writable _ (by decide) (by decide),
          List.forall_mem_nil _⟩
  refine .object ?_ ?_
  · simp only [Registry.Sorted, List.pairwise_cons, List.forall_mem_cons]
    exact ⟨⟨by decide, by decide, by decide, by decide, by decide, List.forall_mem_nil _⟩,
      ⟨by decide, by decide, by decide, by decide, List.forall_mem_nil _⟩,
      ⟨by decide, by decide, by decide, List.forall_mem_nil _⟩,
      ⟨by decide, by decide, List.forall_mem_nil _⟩, ⟨by decide, List.forall_mem_nil _⟩,
      List.forall_mem_nil _, .nil⟩
  · simp only [List.forall_mem_cons]
    exact ⟨tensor_writable _ (by decide) (by decide), .string _,
      .array (List.forall_mem_singleton.mpr written), tensor_writable _ (by decide) (by decide),
      tensor_writable _ (by decide) (by decide),
      tensor_writable _ (by decide) (List.forall_mem_singleton.mpr type_signed),
      List.forall_mem_nil _⟩

private theorem tensor_integers {dtype : DType} (integral : dtype.isFloating = false)
    (sizes : List Nat)
    {integers : List Int} (signed : ∀ i ∈ integers, DType.int64.InRange i) :
    Integers (tensor dtype sizes integers) dtype integers := by
  let d : Dense := ⟨sizes, dtype, .cpu, .integers integers⟩
  have found {key : String} {value : Json} (member : (key, value) ∈ storedFields d) :
      (tensor dtype sizes integers).get? key = some value :=
        (storedFields_sorted d).find?_mem member
  have readable : (integers.map Json.integer).mapM Json.integer? = some integers :=
    mapM_map_some fun i member => if_pos (by
      have inside := signed i member
      simp only [DType.InRange] at inside
      omega)
  exact ⟨integral, ⟨dtype.name, found (by simp [storedFields, d]), DType.ofName_name dtype⟩,
    ⟨_, found (by simp [storedFields, d, numbers]), readable⟩, signed⟩

section Reading

variable {dtype : DType} {type : Int} {samples : List Int} (type_signed : DType.int64.InRange type)
  (signed : ∀ i ∈ samples, DType.int64.InRange i)

include type_signed signed

private theorem parse_eq :
    parse (document dtype type samples).dump = .ok (document dtype type samples) := by
  rw [parse, Json.lawful.reads (document_writable dtype type_signed signed)]

/-- The text of the document is accepted if the document is. -/
theorem read {types : Values}
    (found : ((systemOfJson (document dtype type samples)).exec {}).1.toOption.map
    (fun system => system.types.data.values) = some types) : ∃ system after,
      (System.ofJson (document dtype type samples).dump).exec {} = (.ok system, after) ∧
        system.types.data.values = types := by
  have runs : (System.ofJson (document dtype type samples).dump).exec {} =
      (systemOfJson (document dtype type samples)).exec {} := by
    rw [System.ofJson, exec_bind, exec_ofExcept, parse_eq type_signed signed]
  rw [runs]
  rcases ran : (systemOfJson (document dtype type samples)).exec {} with ⟨_ | system, after⟩
  all_goals
    rw [ran] at found
    cases found
  exact ⟨system, after, rfl, rfl⟩

end Reading

end Bonded

end Document

namespace System

open Document

/-- The type and the pair of the document are read as they are. -/
theorem ofJson_integers_bonded : ∃ text system after, (ofJson text).exec {} = (.ok system, after) ∧
    system.types.data.toIntegers = .ok [6] ∧ ∃ options list,
      system.neighborList options = .ok list ∧
      list.samples.values.data.toIntegers = .ok [0, 0, 1, 0, 0] := by
  have type_signed : DType.int64.InRange 6 := by decide
  have signed : ∀ i ∈ [0, 0, 1, 0, 0], DType.int64.InRange i := by decide
  obtain ⟨system, after, read, _⟩ := @Bonded.read .int64 6 [0, 0, 1, 0, 0] type_signed signed
    (.integers [6]) (by decide +kernel)
  obtain ⟨document, parsed, ⟨part, dtype, integers, found, stored, _, types⟩, lists⟩ :=
    ofJson_integers read
  cases (Bonded.parse_eq type_signed signed).symm.trans parsed
  cases found
  obtain ⟨rfl, rfl⟩ := stored.unique (Bonded.tensor_integers rfl [1] (by decide))
  obtain ⟨options, samples, list, held, kept, _, same⟩ :=
    lists _ rfl (Bonded.entry [0, 0, 1, 0, 0]) List.mem_cons_self
  obtain ⟨_, _, data, listed, stored⟩ := held.listed
  cases data
  cases listed
  obtain ⟨_, rfl⟩ := stored.unique (Bonded.tensor_integers rfl [1, 5] signed)
  exact ⟨_, system, after, read, types.mpr (by decide), options, list, kept, same.mpr (by decide)⟩

/-- A type of 33 bits is accepted, and loses its highest bit. -/
theorem types_wrap_around : ¬ ∀ text workspace system after,
    (ofJson text).exec workspace = (.ok system, after) → ∃ document part dtype integers,
      Document.parse text = .ok document ∧ document.get? "types" = some part ∧
        Integers part dtype integers ∧ system.types.data.toIntegers = .ok integers := by
  intro unaltered
  have type_signed : DType.int64.InRange 4294967297 := by decide
  have signed : ∀ i ∈ [0, 0, 1, 0, 0], DType.int64.InRange i := by decide
  obtain ⟨system, after, read, types⟩ := @Bonded.read .int64 4294967297 [0, 0, 1, 0, 0] type_signed
    signed (.integers [1]) (by decide +kernel)
  obtain ⟨document, part, dtype, integers, parsed, found, stored, same⟩ := unaltered _ _ _ _ read
  cases (Bonded.parse_eq type_signed signed).symm.trans parsed
  cases found
  obtain ⟨rfl, rfl⟩ := stored.unique (Bonded.tensor_integers rfl [1] (by decide))
  rw [Dense.toIntegers, types] at same
  exact absurd same (by decide)

end System

end Atomistic
