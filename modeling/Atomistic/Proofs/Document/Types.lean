import Atomistic.Proofs.Document.Counts
import Atomistic.Proofs.Document.Entries
import Atomistic.Proofs.Document.Integers
import Atomistic.Proofs.Names

/-!
# Element types in documents

The element type of a tensor in a document is given by its name, and what is accepted there is
exactly what is read as the name of an element type: any name of the type does as well as any
other, and a text that is not a name is what the document is rejected for
(`Atomistic.Document.types_named`).  Names that no other part of the program writes are among
them (`Atomistic.Document.doubled_family_accepted`).
-/

namespace Atomistic

open Session

namespace Document

/-- The rest of a tensor, once its type is known. -/
def dataOfFields (fields : List (String × Json)) (dtype : DType) : Except Error Dense := do
  let sizes ← field fields "sizes" "tensor"
  let some sizes := sizes.array?.bind fun sizes => sizes.mapM Json.natural?
    | throw (.wrongValue "sizes" "tensor" "an array of positive integers")
  let values ← field fields "values" "tensor"
  let some values := values.array? | throw (.wrongValue "values" "tensor" "an array")
  checkCount sizes values.length
  readValues dtype sizes values

variable {value other : Json} {name again : String} {dtype : DType}

/-- A tensor is read by reading the name of its type and then the rest. -/
theorem tensorOfJson_named (named : value.get? "dtype" = some (.string name)) : ∃ fields,
    value = .object fields ∧
      tensorOfJson value = (DType.ofName name).mapError Error.tensor >>= dataOfFields fields := by
  cases value with
  | object fields =>
      have found : Registry.find? fields "dtype" = some (.string name) := named
      refine ⟨fields, rfl, ?_⟩
      rw [tensorOfJson, Json.object?]
      simp only [found, Option.bind_some, Json.string?]
      rfl
  | _ => cases named

/-- A fault that neither part of a computation has is not a fault of the computation. -/
theorem bind_ne_error {Fault α β : Type} {fault : Fault} {result : Except Fault α}
    {next : α → Except Fault β} (first : result ≠ .error fault)
    (later : ∀ middle, next middle ≠ .error fault) : result >>= next ≠ .error fault := by
  cases result with
  | error other => exact fun failed => first (by injection failed with same; rw [same])
  | ok middle => exact later middle

private theorem checkLength_ne (shape : Shape) (actual : Nat) (name : String) :
    Dense.checkLength shape actual ≠ .error (.unknownDType name) := by
  rw [Dense.checkLength_eq]
  split
  · split <;> simp
  · simp

/-- Once the type is known, nothing is said against its name. -/
theorem readValues_ne (dtype : DType) (sizes : Shape) (items : List Json) (name : String) :
    readValues dtype sizes items ≠ .error (.tensor (.unknownDType name)) := by
  have made {result : Except TensorError Dense} (other : result ≠ .error (.unknownDType name)) :
      result.mapError Error.tensor ≠ .error (.tensor (.unknownDType name)) := by
    cases result with
    | error fault =>
        intro failed
        injection failed with same
        injection same with same
        exact other (by rw [same])
    | ok d => exact fun failed => by cases failed
  rw [readValues]
  split
  next floating =>
    split
    next numbers _ =>
      refine made ?_
      rw [Dense.ofFloats, if_neg (by simp [floating])]
      exact bind_ne_error (checkLength_ne _ _ _) fun _ made => by cases made
    next => exact fun failed => by cases failed
  next integral =>
    split
    next integers _ =>
      refine made ?_
      rw [Dense.ofIntegers, if_neg integral]
      exact bind_ne_error (checkLength_ne _ _ _) fun _ made => by cases made
    next => exact fun failed => by cases failed

private theorem dataOfFields_ne (fields : List (String × Json)) (dtype : DType) (name : String) :
    dataOfFields fields dtype ≠ .error (.tensor (.unknownDType name)) := by
  have there (key : String) :
      field fields key "tensor" ≠ .error (.tensor (.unknownDType name)) := by
    rw [field]
    split <;> simp
  have counted (sizes : Shape) (actual : Nat) :
      checkCount sizes actual ≠ .error (.tensor (.unknownDType name)) := by
    rw [checkCount_judged]
    split
    · split <;> simp
    · simp
  refine bind_ne_error (there "sizes") fun sizes => ?_
  split
  next extents _ =>
    refine bind_ne_error (there "values") fun values => ?_
    split
    next items _ =>
      exact bind_ne_error (counted extents items.length) fun _ =>
        readValues_ne dtype extents items name
    next => exact fun failed => by cases failed
  next => exact fun failed => by cases failed

/-- **A tensor is rejected for the name of its type exactly if that is not the name of a type.** -/
theorem tensorOfJson_unknown_iff (named : value.get? "dtype" = some (.string name)) :
    tensorOfJson value = .error (.tensor (.unknownDType name)) ↔
      ∀ dtype count, ¬ DType.Named dtype count name := by
  obtain ⟨fields, -, read⟩ := tensorOfJson_named named
  rw [read, ← DType.ofName_error_iff]
  cases known : DType.ofName name with
  | error fault =>
      rw [DType.ofName] at known
      split at known
      · cases known
      · cases known
        exact iff_of_true rfl rfl
  | ok dtype => exact iff_of_false (dataOfFields_ne fields dtype name) (by simp)

/-- **Any name of a type does as well as any other.** -/
theorem tensorOfJson_respelled {count more : Nat} (first : dtype.Named count name)
    (second : dtype.Named more again) (named : value.get? "dtype" = some (.string name))
    (renamed : other.get? "dtype" = some (.string again))
    (rest : ∀ key, key ≠ "dtype" → other.get? key = value.get? key) :
    tensorOfJson other = tensorOfJson value := by
  obtain ⟨fields, rfl, read⟩ := tensorOfJson_named named
  obtain ⟨others, rfl, reread⟩ := tensorOfJson_named renamed
  have same {key : String} (apart : key ≠ "dtype") :
      field others key "tensor" = field fields key "tensor" := by
    have found : Registry.find? others key = Registry.find? fields key := rest key apart
    rw [field, field, found]
  rw [read, reread, DType.ofName_ok_iff.mpr ⟨count, first⟩, DType.ofName_ok_iff.mpr ⟨more, second⟩]
  change dataOfFields others dtype = dataOfFields fields dtype
  rw [dataOfFields, dataOfFields, same (by decide), same (by decide)]

/-- The tensors in the document of a system: four of its fields, and two tables for each of its
neighbor lists. -/
inductive TensorIn (document : Json) : Json → Prop
  | field {key : String} {part : Json} (one : key ∈ ["positions", "cell", "types", "pbc"])
      (found : document.get? key = some part) : TensorIn document part
  | table {key : String} {entries : List Json} {entry data part : Json}
      (listed : document.get? "neighbor_lists" = some (.array entries)) (member : entry ∈ entries)
      (stored : entry.get? "data" = some data) (one : key ∈ ["samples", "values"])
      (found : data.get? key = some part) : TensorIn document part

section Reading

variable {workspace : Workspace}

private theorem listOfJson_read (fields : List (String × Json)) :
    (listOfJson fields).Within Anywhere workspace fun _ _ => ∃ data, pairData fields =
      .ok data := by
  rw [listOfJson]
  refine (Within.look (exec_ofExcept _ _) trivial).bind fun samples _ _ samples_found => ?_
  refine (Within.look (exec_ofExcept _ _) trivial).bind fun pairs _ _ pairs_read => ?_
  refine (Within.ran _ _).bind fun _ _ _ _ => ?_
  refine (Within.look (exec_ofExcept _ _) trivial).bind fun values _ _ values_found => ?_
  refine (Within.look (exec_ofExcept _ _) trivial).bind fun vectors _ _ vectors_read => ?_
  refine (Within.ran _ _).weaken fun _ _ _ => ⟨⟨pairs, vectors⟩, ?_⟩
  rw [pairData, samples_found.1, ok_bind, pairs_read.1, ok_bind, values_found.1, ok_bind,
    vectors_read.1]
  rfl

private theorem attachEntry_read (system : System) (entry : Json) :
    (attachEntry system entry).Within Anywhere workspace fun _ _ =>
      ∃ said, entryData entry = .ok said := by
  have refused {α : Type} (fault : Error) {ended : α → Workspace → Prop} {before : Workspace} :
      (throw fault : Session Error α).Within Anywhere before ended :=
    .of_error (exec_throw fault before) trivial
  have read : (entryOfJson entry).Within Anywhere workspace fun _ _ =>
      ∃ said, entryData entry = .ok said := by
    rw [entryOfJson]
    split
    next part found =>
      refine (Within.look (exec_ofExcept _ _) trivial).bind fun options _ _ options_read => ?_
      split
      next fields stored =>
        refine (listOfJson_read fields).bind fun _ _ _ tables => ?_
        obtain ⟨data, tables⟩ := tables
        refine (Within.ran _ _).weaken fun _ _ _ => ⟨(options, data), ?_⟩
        rw [entryData, found]
        dsimp only
        rw [options_read.1, ok_bind, stored]
        dsimp only
        rw [tables]
        rfl
      next => exact refused _
    next => exact refused _
  rw [attachEntry]
  exact read.bind fun _ _ _ said => (Within.ran _ _).weaken fun _ _ _ => said

private theorem attachAll_read (entries : List Json) : ∀ {workspace : Workspace} (system : System),
    (entries.foldlM attachEntry system).Within Anywhere workspace fun _ _ =>
      ∀ entry ∈ entries, ∃ said, entryData entry = .ok said := by
  induction entries with
  | nil => exact fun system => (Within.ran _ _).weaken fun _ _ _ => List.forall_mem_nil _
  | cons entry rest ih =>
      intro workspace system
      rw [List.foldlM_cons]
      refine (attachEntry_read system entry).bind fun middle _ _ first => ?_
      exact (ih middle).weaken fun _ _ later => List.forall_mem_cons.mpr ⟨first, later⟩

/-- Every tensor in a document that is accepted is read. -/
theorem systemOfJson_tensors (value : Json) : (systemOfJson value).Within Anywhere workspace
    fun _ _ => ∀ part, TensorIn value part → ∃ d, tensorOfJson part = .ok d := by
  rw [systemOfJson]
  refine (Within.look (exec_ofExcept _ _) trivial).bind fun fields _ _ classed => ?_
  obtain rfl := of_ofClass classed.1
  refine (systemTensor_read fields "positions").bind fun positions _ _ positions_read => ?_
  refine (systemTensor_read fields "cell").bind fun cell _ _ cell_read => ?_
  refine (systemTensor_read fields "types").bind fun types _ _ types_read => ?_
  refine (systemTensor_read fields "pbc").bind fun pbc _ _ pbc_read => ?_
  refine (Within.ran _ _).bind fun _ _ _ _ => (Within.ran _ _).bind fun system _ _ _ => ?_
  have fields_read {key : String} (one : key ∈ ["positions", "cell", "types", "pbc"]) {part : Json}
      (found : Registry.find? fields key = some part) : ∃ d, tensorOfJson part = .ok d := by
    have read {key : String} {tensor : Tensor} (there : ∃ part,
        Registry.find? fields key = some part ∧ tensorOfJson part = .ok tensor.data)
        (found : Registry.find? fields key = some part) : ∃ d, tensorOfJson part = .ok d := by
      obtain ⟨_, stored, read⟩ := there
      cases stored.symm.trans found
      exact ⟨_, read⟩
    simp only [List.mem_cons, List.not_mem_nil, or_false] at one
    rcases one with rfl | rfl | rfl | rfl
    · exact read positions_read found
    · exact read cell_read found
    · exact read types_read found
    · exact read pbc_read found
  split
  next absent =>
    refine (Within.ran _ _).weaken fun _ _ _ part inside => ?_
    cases inside with
    | field one found => exact fields_read one found
    | table listed => cases absent.symm.trans listed
  next lists present =>
    split
    next entries listed =>
      refine (attachAll_read entries system).weaken fun _ _ all part inside => ?_
      cases inside with
      | field one found => exact fields_read one found
      | table again member stored one found =>
          cases present.symm.trans again
          cases listed
          obtain ⟨said, read⟩ := all _ member
          obtain ⟨_, inner, _, _, inner_found, tables⟩ := of_entryData read
          cases inner_found.symm.trans stored
          obtain ⟨_, _, samples_found, pairs, values_found, vectors⟩ := of_pairData tables
          simp only [List.mem_cons, List.not_mem_nil, or_false] at one
          rcases one with rfl | rfl
          · cases samples_found.symm.trans found
            exact ⟨_, pairs⟩
          · cases values_found.symm.trans found
            exact ⟨_, vectors⟩
    next => exact .of_error (exec_throw _ _) trivial

/-- The type of a tensor that is read is one that it names. -/
theorem named_of_tensorOfJson {d : Dense} (read : tensorOfJson value = .ok d) : ∃ name count,
    value.get? "dtype" = some (.string name) ∧ d.dtype.Named count name := by
  obtain ⟨name, dtype, sizes, items, named, known, _, read⟩ := of_tensorOfJson read
  obtain ⟨count, spelled⟩ := DType.ofName_ok_iff.mp known
  have type : d.dtype = dtype := by
    rw [readValues] at read
    split at read
    · split at read
      · rw [(Dense.ofFloats_eq (ok_of_mapError read)).2.2]
      · cases read
    · split at read
      · rw [(Dense.ofIntegers_eq (ok_of_mapError read)).2.2]
      · cases read
  exact ⟨name, count, named, type ▸ spelled⟩

end Reading

/-- **Names of element types.** A text is read as an element type exactly if it is one of the short
names of the type with the family in front any number of times; every other text is an error that
names it.  The documented names, with the family in front once or not at all, are those that do not
start with the family twice.  In a document the same texts are accepted: a tensor is rejected for
the name of its type exactly if the text is not a name, all names of a type are read alike, and
every tensor of a system that was read, and everything else that was read as a tensor, has a name
of its type. -/
theorem types_named (text : String) (dtype : DType) (value : Json) :
    (DType.ofName text = .ok dtype ↔ ∃ count, dtype.Named count text) ∧
    (DType.ofName text = .error (.unknownDType text) ↔
      ∀ other, DType.ofName text ≠ .ok other) ∧
    (dtype.Documented text ↔ DType.ofName text = .ok dtype ∧
      ¬ (DType.family ++ DType.family).toList <+: text.toList) ∧
    (value.get? "dtype" = some (.string text) →
      (tensorOfJson value = .error (.tensor (.unknownDType text)) ↔
        ∀ other count, ¬ DType.Named other count text) ∧
      ∀ other again count more, dtype.Named count text → dtype.Named more again →
        other.get? "dtype" = some (.string again) →
        (∀ key, key ≠ "dtype" → other.get? key = value.get? key) →
          tensorOfJson other = tensorOfJson value) ∧
    (∀ d, tensorOfJson value = .ok d → ∃ name count,
      value.get? "dtype" = some (.string name) ∧ d.dtype.Named count name) ∧
    ∀ source workspace system after, (System.ofJson source).exec workspace = (.ok system, after) →
      ∃ document, parse source = .ok document ∧ ∀ part, TensorIn document part →
        ∃ name other count, part.get? "dtype" = some (.string name) ∧
          DType.Named other count name := by
  refine ⟨DType.ofName_ok_iff, ?_, DType.documented_iff,
    fun named => ⟨tensorOfJson_unknown_iff named,
      fun _ _ _ _ first second renamed => tensorOfJson_respelled first second named renamed⟩,
    fun _ => named_of_tensorOfJson, fun source workspace system after read => ?_⟩
  · rw [DType.ofName_error_iff]
    refine forall_congr' fun other => ?_
    rw [ne_eq, DType.ofName_ok_iff, not_exists]
  · rw [System.ofJson, exec_bind, exec_ofExcept] at read
    cases parsed : parse source with
    | error fault =>
        rw [parsed] at read
        cases read
    | ok document =>
        rw [parsed] at read
        refine ⟨document, rfl, fun part inside => ?_⟩
        obtain ⟨d, tensor⟩ := ((systemOfJson_tensors document).of_success read).2 part inside
        obtain ⟨name, count, named, spelled⟩ := named_of_tensorOfJson tensor
        exact ⟨name, d.dtype, count, named, spelled⟩

namespace Elementless

/-- The document of a tensor without elements, with a name for its type. -/
def named (name : String) : Json :=
  .object [("dtype", .string name), ("sizes", .ofSizes sizes), ("values", .array [])]

end Elementless

open Elementless

/-- A synonym does as well as the name of the type, and half precision is not known. -/
theorem types_named_synonym : DType.Documented .float64 "double" ∧
    DType.ofName "double" = .ok .float64 ∧
    tensor.get? "dtype" = some (.string "torch.float64") ∧
    tensorOfJson (named "double") = tensorOfJson tensor ∧
    tensorOfJson (named "torch.float16") = .error (.tensor (.unknownDType "torch.float16")) := by
  obtain ⟨_, _, documented, _⟩ := types_named "double" .float64 tensor
  obtain ⟨_, _, _, full, _⟩ := types_named "torch.float64" .float64 tensor
  obtain ⟨_, _, _, half, _⟩ := types_named "torch.float16" .float64 (named "torch.float16")
  have synonym : DType.Documented .float64 "double" := by decide
  have first : DType.Named .float64 1 "torch.float64" := ⟨"float64", by decide, by decide⟩
  have second : DType.Named .float64 0 "double" := ⟨"double", by decide, by decide⟩
  refine ⟨synonym, (documented.mp synonym).1, rfl,
    (full rfl).2 (named "double") _ _ _ first second rfl fun key apart => ?_, (half rfl).1.mpr ?_⟩
  · simp only [Json.get?, tensor, named, Json.object?, Option.bind_some, Registry.find?,
      List.find?_cons]
    rw [beq_eq_false_iff_ne.mpr fun same => apart (Std.LawfulEqCmp.eq_of_compare same)]
  · exact DType.ofName_error_iff.mp rfl

/-- The family can be written twice, which the documentation does not promise. -/
theorem doubled_family_accepted :
    (¬ ∀ text dtype, DType.ofName text = .ok dtype ↔ dtype.Documented text) ∧
    ¬ ∀ value d, tensorOfJson value = .ok d → ∃ name,
      value.get? "dtype" = some (.string name) ∧ d.dtype.Documented name := by
  have doubled : DType.Named .float32 2 "torch.torch.float" := ⟨"float", by decide, by decide⟩
  have read : DType.ofName "torch.torch.float" = .ok .float32 :=
    DType.ofName_ok_iff.mpr ⟨2, doubled⟩
  have undocumented : ¬ DType.Documented .float32 "torch.torch.float" := by decide
  refine ⟨fun grammar => undocumented ((grammar _ _).mp read), fun accepts => ?_⟩
  obtain ⟨name, found, documented⟩ := accepts (named "torch.torch.float")
    ⟨sizes, .float32, .cpu, .floats []⟩ rfl
  cases found
  exact undocumented documented

end Document

end Atomistic
