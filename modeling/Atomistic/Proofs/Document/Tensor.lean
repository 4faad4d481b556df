import Atomistic.Document.Tensor
import Atomistic.Proofs.Json.RoundTrip
import Atomistic.Proofs.Tensor.Valid

/-!
# Tensors read back

The data of a tensor can be stored unless it is boolean or on the meta device
(`Atomistic.Document.tensorToJson_eq`).  What is stored is read back, on the CPU,
exactly if all of its values are finite (`Atomistic.Document.tensorOfJson_stored`).
-/

namespace Atomistic

namespace DType

/-- Every name is read as the type that it names. -/
theorem ofName_name (dtype : DType) : ofName dtype.name = .ok dtype := by
  cases dtype <;> rfl

/-- The integers of every type fit in 64 bits. -/
theorem range_of_wrap {dtype : DType} (integral : dtype.isFloating = false) {i : Int}
    (wrapped : dtype.wrap i = i) : -0x8000000000000000 ≤ i ∧ i < 0x8000000000000000 := by
  rw [← wrapped]
  cases dtype with
  | bool =>
      rw [wrap]
      split <;> decide
  | uint8 =>
      rw [wrap]
      omega
  | int8 =>
      rw [wrap]
      have least := @Int.le_bmod i 0x100 (by decide)
      have greatest := @Int.bmod_lt i 0x100 (by decide)
      omega
  | int16 =>
      rw [wrap]
      have least := @Int.le_bmod i 0x10000 (by decide)
      have greatest := @Int.bmod_lt i 0x10000 (by decide)
      omega
  | int32 =>
      rw [wrap]
      have least := @Int.le_bmod i 0x100000000 (by decide)
      have greatest := @Int.bmod_lt i 0x100000000 (by decide)
      omega
  | int64 =>
      rw [wrap]
      have least := @Int.le_bmod i 0x10000000000000000 (by decide)
      have greatest := @Int.bmod_lt i 0x10000000000000000 (by decide)
      omega
  | float32 => cases integral
  | float64 => cases integral

end DType

namespace Dense

/-- Data that documents can hold: it is there, not boolean, and no extent is larger than
a word. -/
structure Storable (d : Dense) : Prop where
  valid : d.Valid
  present : d.device ≠ .metadata
  unboolean : d.dtype ≠ .bool
  extents : ∀ extent ∈ d.shape, extent < 0x10000000000000000

end Dense

namespace Document

/-- The numbers that are stored for values. -/
def numbers : Values → List Json
  | .floats values => values.map Json.ofBinary64
  | .integers values => values.map Json.integer
  | .absent => []

/-- The fields that are stored for data. -/
def storedFields (d : Dense) : List (String × Json) :=
  [ ("dtype", .string d.dtype.name),
    ("sizes", .ofSizes d.shape),
    ("values", .array (numbers d.values)) ]

/-- The object that is stored for data. -/
def stored (d : Dense) : Json := .object (storedFields d)

private theorem valuesToJson_eq {d : Dense} (valid : d.Valid) (present : d.device ≠ .metadata) :
    valuesToJson d = .ok (numbers d.values) := by
  cases valid with
  | floats floating _ _ _ =>
      rw [valuesToJson, if_pos floating]
      rfl
  | integers integral _ _ _ =>
      rw [valuesToJson, if_neg (by simp [integral])]
      rfl
  | absent _ => exact absurd rfl present

/-- What is storable is stored field by field. -/
theorem tensorToJson_eq {d : Dense} (storable : d.Storable) : tensorToJson d = .ok (stored d) := by
  rw [tensorToJson, if_neg storable.unboolean, valuesToJson_eq storable.valid storable.present]
  rfl

/-- Nothing is stored for data on the meta device. -/
theorem tensorToJson_absent {d : Dense} (valid : d.Valid) (absent : d.device = .metadata)
    (value : Json) : tensorToJson d ≠ .ok value := by
  intro written
  rw [tensorToJson] at written
  obtain ⟨_, written⟩ := ok_of_check written
  obtain ⟨values, read, _⟩ := ok_of_bind written
  have read := ok_of_mapError read
  have none : d.values = .absent := valid.absent_iff.mpr absent
  rw [valuesToJson] at read
  split at read
  · rw [Dense.toFloats, none] at read
    cases read
  · rw [Dense.toIntegers, none] at read
    cases read

private theorem numbers_writable {d : Dense} (valid : d.Valid) (depth : Nat) :
    ∀ item ∈ numbers d.values, item.Writable depth := by
  intro item member
  cases valid with
  | floats _ _ _ _ =>
      obtain ⟨x, _, rfl⟩ := List.mem_map.mp member
      rw [Json.ofBinary64]
      split
      next finite => exact .real finite
      next => exact .null
  | integers integral _ _ wrapped =>
      obtain ⟨i, present, rfl⟩ := List.mem_map.mp member
      obtain ⟨least, greatest⟩ := DType.range_of_wrap integral (wrapped i present)
      exact .integer least (by omega)
  | absent _ => cases member

/-- The fields of a tensor are stored in the order of their names. -/
theorem storedFields_sorted (d : Dense) : Registry.Sorted (storedFields d) := by
  simp only [storedFields, Registry.Sorted, List.pairwise_cons, List.forall_mem_cons]
  exact ⟨⟨by decide, by decide, List.forall_mem_nil _⟩, ⟨by decide, List.forall_mem_nil _⟩,
    List.forall_mem_nil _, .nil⟩

/-- What is storable can be written two levels above the deepest one. -/
theorem stored_writable {d : Dense} (storable : d.Storable) (depth : Nat) :
    (stored d).Writable (depth + 2) := by
  refine .object (storedFields_sorted d) ?_
  simp only [storedFields, List.forall_mem_cons]
  refine ⟨.string _, .array fun item member => ?_, .array (numbers_writable storable.valid depth),
    List.forall_mem_nil _⟩
  obtain ⟨extent, present, rfl⟩ := List.mem_map.mp member
  have small := storable.extents extent present
  exact .integer (by omega) (by omega)

/-- What is written item by item is read item by item. -/
theorem mapM_map_some {α β : Type} {write : α → β} {read : β → Option α} {items : List α}
    (reads : ∀ item ∈ items, read (write item) = some item) :
    (items.map write).mapM read = some items := by
  induction items with
  | nil => rfl
  | cons item rest ih =>
      obtain ⟨first, later⟩ := List.forall_mem_cons.mp reads
      rw [List.map_cons, List.mapM_cons, first, ih later]
      rfl

private theorem finite_of_mapM_number {values found : List Binary64}
    (read : (values.map Json.ofBinary64).mapM Json.number? = some found) :
    ∀ x ∈ values, x.isFinite := by
  induction values generalizing found with
  | nil => exact List.forall_mem_nil _
  | cons x rest ih =>
      rw [List.map_cons, List.mapM_cons] at read
      obtain ⟨number, first, read⟩ := Option.bind_eq_some_iff.mp read
      obtain ⟨numbers, later, _⟩ := Option.bind_eq_some_iff.mp read
      refine List.forall_mem_cons.mpr ⟨?_, ih later⟩
      by_contra infinite
      rw [Json.ofBinary64, if_neg infinite] at first
      cases first

private theorem checkCount_eq {shape : Shape} {count : Nat}
    (counted : shape.checkedCount = some count) :
    checkCount shape count = .ok () := by
  rw [checkCount, counted]
  exact if_pos rfl

private theorem numbers_counted {d : Dense} (storable : d.Storable) :
    d.shape.checkedCount = some (numbers d.values).length := by
  obtain ⟨valid, present, _, _⟩ := storable
  cases valid with
  | floats _ _ counted _ =>
      rw [numbers, List.length_map]
      exact counted
  | integers _ _ counted _ =>
      rw [numbers, List.length_map]
      exact counted
  | absent _ => exact absurd rfl present

private theorem tensorOfJson_eq {d : Dense} (storable : d.Storable) :
    tensorOfJson (stored d) = readValues d.dtype d.shape (numbers d.values) := by
  have found {key : String} {value : Json} (member : (key, value) ∈ storedFields d) :
      Registry.find? (storedFields d) key = some value := (storedFields_sorted d).find?_mem member
  have name := found (List.mem_cons_self : ("dtype", Json.string d.dtype.name) ∈ storedFields d)
  have sizes : Registry.find? (storedFields d) "sizes" = some (.ofSizes d.shape) :=
    found (by simp [storedFields])
  have values : Registry.find? (storedFields d) "values" = some (.array (numbers d.values)) :=
    found (by simp [storedFields])
  have extents : (d.shape.map fun (size : Nat) => Json.integer size).mapM Json.natural? =
      some d.shape := mapM_map_some fun size _ => by
    rw [Json.natural?, if_pos (Int.natCast_nonneg size)]
    rfl
  rw [tensorOfJson, stored, Json.object?]
  dsimp only
  rw [name, Option.bind_some, Json.string?]
  dsimp only
  rw [DType.ofName_name, field, sizes, field, values]
  simp only [Except.mapError, Except.bind, bind, Json.ofSizes, Json.array?, Option.bind, extents]
  rw [checkCount_eq (numbers_counted storable)]

private theorem ofFloats_eq_ok {values : List Binary64} {shape : Shape} {dtype : DType}
    (floating : dtype.isFloating) (counted : shape.checkedCount = some values.length)
    (rounded : ∀ x ∈ values, dtype.round x = x) :
    Dense.ofFloats values shape dtype = .ok ⟨shape, dtype, .cpu, .floats values⟩ := by
  have same : values.map dtype.round = values := (List.map_congr_left rounded).trans (List.map_id _)
  rw [Dense.ofFloats, if_neg (by simp [floating]), Dense.checkLength, counted]
  simp only [if_true, same]
  rfl

private theorem ofIntegers_eq_ok {values : List Int} {shape : Shape} {dtype : DType}
    (integral : dtype.isFloating = false) (counted : shape.checkedCount = some values.length)
    (wrapped : ∀ i ∈ values, dtype.wrap i = i) :
    Dense.ofIntegers values shape dtype = .ok ⟨shape, dtype, .cpu, .integers values⟩ := by
  have same : values.map dtype.wrap = values := (List.map_congr_left wrapped).trans (List.map_id _)
  rw [Dense.ofIntegers, if_neg (by simp [integral]), Dense.checkLength, counted]
  simp only [if_true, same]
  rfl

/-- **Finite data is read back**, on the CPU. -/
theorem tensorOfJson_stored {d : Dense} (storable : d.Storable) (finite : d.Finite) :
    tensorOfJson (stored d) = .ok d.onCpu := by
  rw [tensorOfJson_eq storable]
  obtain ⟨valid, present, _, _⟩ := storable
  cases valid with
  | floats floating _ counted rounded =>
      have numbered : (numbers (.floats _)).mapM Json.number? = some _ :=
        mapM_map_some fun x member => by
          rw [Json.ofBinary64, if_pos (finite _ rfl x member)]
          rfl
      rw [readValues, if_pos floating]
      dsimp only
      rw [numbered]
      dsimp only
      rw [ofFloats_eq_ok floating counted rounded]
      rfl
  | integers integral _ counted wrapped =>
      have numbered : (numbers (.integers _)).mapM Json.integer? = some _ :=
        mapM_map_some fun i member => if_pos (DType.range_of_wrap integral (wrapped i member))
      rw [readValues, if_neg (by simp [integral])]
      dsimp only
      rw [numbered]
      dsimp only
      rw [ofIntegers_eq_ok integral counted wrapped]
      rfl
  | absent _ => exact absurd rfl present

/-- Only finite data is read back. -/
theorem finite_of_tensorOfJson {d e : Dense} (storable : d.Storable)
    (read : tensorOfJson (stored d) = .ok e) : d.Finite := by
  rw [tensorOfJson_eq storable] at read
  intro values held
  have floating : d.dtype.isFloating := by
    obtain ⟨valid, _, _, _⟩ := storable
    cases valid with
    | floats floating _ _ _ => exact floating
    | integers _ _ _ _ => cases held
    | absent _ => cases held
  rw [readValues, if_pos floating, held] at read
  split at read
  next found numbered => exact finite_of_mapM_number numbered
  next => cases read

end Document

end Atomistic
