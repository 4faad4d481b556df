import Atomistic.Proofs.Binary64.Values
import Atomistic.Proofs.Results
import Atomistic.Tensor.Operations

/-!
# Valid data

The data of every tensor is valid (`Atomistic.Dense.Valid`): the number of elements
fits in 64 bits, there are as many values as elements, they are of the kind that the
element type asks for and in its range, and only data on the meta device has none.
Whatever makes data makes valid data, and every conversion and sum keeps it valid.
-/

namespace Atomistic

namespace Shape

private theorem checkedFrom_eq (shape : Shape) : ∀ {start count : Nat},
    shape.foldlM (fun count extent =>
      if count * extent < 0x10000000000000000 then some (count * extent) else none) start =
        some count → shape.foldl (· * ·) start = count := by
  induction shape with
  | nil => intro start count checked; exact Option.some.inj checked
  | cons extent rest ih =>
      intro start count checked
      rw [List.foldlM_cons] at checked
      split at checked
      · exact ih checked
      · cases checked

/-- A count that fits is the number of elements. -/
theorem count_of_checked {shape : Shape} {count : Nat} (checked : shape.checkedCount = some count) :
    shape.count = count :=
  checkedFrom_eq shape checked

private theorem checkedFrom_lt (shape : Shape) :
    ∀ {start count : Nat}, start < 0x10000000000000000 →
    shape.foldlM (fun count extent =>
      if count * extent < 0x10000000000000000 then some (count * extent) else none) start =
        some count → count < 0x10000000000000000 := by
  induction shape with
  | nil => exact fun small checked => Option.some.inj checked ▸ small
  | cons extent rest ih =>
      intro start count small checked
      rw [List.foldlM_cons] at checked
      split at checked
      next fits => exact ih fits checked
      · cases checked

/-- A count that fits is less than `2 ^ 64`. -/
theorem lt_of_checked {shape : Shape} {count : Nat} (checked : shape.checkedCount = some count) :
    count < 0x10000000000000000 :=
  checkedFrom_lt shape (by decide) checked

end Shape

namespace DType

/-- An integer is wrapped once. -/
theorem wrap_wrap (dtype : DType) (i : Int) : dtype.wrap (dtype.wrap i) = dtype.wrap i := by
  cases dtype with
  | bool => by_cases zero : i = 0 <;> simp [wrap, zero]
  | uint8 => exact Int.emod_emod_of_dvd i (dvd_refl 0x100)
  | int8 => exact Int.bmod_bmod
  | int16 => exact Int.bmod_bmod
  | int32 => exact Int.bmod_bmod
  | int64 => exact Int.bmod_bmod
  | float32 => rfl
  | float64 => rfl

private theorem round_round (dtype : DType) (x : Binary64) :
    dtype.round (dtype.round x) = dtype.round x := by
  cases dtype with
  | float32 => exact x.toSingle_toSingle
  | _ => rfl

end DType

namespace Dense

/-- No value is infinite or a NaN. -/
def Finite (d : Dense) : Prop := ∀ values, d.values = .floats values → ∀ x ∈ values, x.isFinite

/-- No double is infinite or a NaN; numbers of single precision may be. -/
def FiniteDoubles (d : Dense) : Prop := d.dtype = .float64 → d.Finite

/-- No value is a NaN. -/
def Numbers (d : Dense) : Prop :=
  ∀ values, d.values = .floats values → ∀ x ∈ values, x.isNaN = false

/-- Finite values are numbers. -/
theorem Finite.numbers {d : Dense} (finite : d.Finite) : d.Numbers := fun values held x member =>
  (Binary64.not_special (finite values held x member)).1

/-- Numbers are equal to themselves. -/
theorem equal_self {d : Dense} (numbers : d.Numbers) : d.equal d := by
  obtain ⟨shape, dtype, device, values⟩ := d
  rw [equal]
  cases values with
  | floats values =>
      have all : ∀ x ∈ values, x.equal x := fun x member =>
        Binary64.equal_self (numbers values rfl x member)
      simpa [List.zip_eq_zipWith, List.zipWith_self] using all
  | integers values => simp
  | absent => simp

/-- The same data on the CPU. -/
def onCpu (d : Dense) : Dense := { d with device := .cpu }

/-- The same values as `int32`. -/
def widened (d : Dense) : Dense := { d with dtype := .int32 }

/-- What holds of the data of every tensor. -/
inductive Valid : Dense → Prop
  | floats {shape : Shape} {dtype : DType} {device : Device} {values : List Binary64}
      (floating : dtype.isFloating) (present : device ≠ .metadata)
      (counted : shape.checkedCount = some values.length)
      (rounded : ∀ x ∈ values, dtype.round x = x) : Valid ⟨shape, dtype, device, .floats values⟩
  | integers {shape : Shape} {dtype : DType} {device : Device} {values : List Int}
      (integral : dtype.isFloating = false) (present : device ≠ .metadata)
      (counted : shape.checkedCount = some values.length)
      (wrapped : ∀ i ∈ values, dtype.wrap i = i) : Valid ⟨shape, dtype, device, .integers values⟩
  | absent {shape : Shape} {dtype : DType} {count : Nat}
      (counted : shape.checkedCount = some count) :
      Valid (onMeta shape dtype)

private theorem checkLength_ok {shape : Shape} {actual : Nat}
    (checked : checkLength shape actual = .ok ()) :
    shape.checkedCount = some actual := by
  rw [checkLength] at checked
  split at checked
  · cases checked
  next expected found =>
    split at checked
    next same => rw [found, same]
    · cases checked

/-- What is made of floating values, and when. -/
theorem ofFloats_eq {values : List Binary64} {shape : Shape} {dtype : DType} {d : Dense}
    (made : ofFloats values shape dtype = .ok d) :
    dtype.isFloating ∧ shape.checkedCount = some values.length ∧
      d = ⟨shape, dtype, .cpu, .floats (values.map dtype.round)⟩ := by
  rw [ofFloats] at made
  obtain ⟨floating, rest⟩ := ok_of_check made
  obtain ⟨_, checked, same⟩ := ok_of_bind rest
  exact ⟨by simpa using floating, checkLength_ok checked, (Except.ok.inj same).symm⟩

/-- What is made of integers, and when. -/
theorem ofIntegers_eq {values : List Int} {shape : Shape} {dtype : DType} {d : Dense}
    (made : ofIntegers values shape dtype = .ok d) :
    dtype.isFloating = false ∧ shape.checkedCount = some values.length ∧
      d = ⟨shape, dtype, .cpu, .integers (values.map dtype.wrap)⟩ := by
  rw [ofIntegers] at made
  obtain ⟨integral, rest⟩ := ok_of_check made
  obtain ⟨_, checked, same⟩ := ok_of_bind rest
  exact ⟨by simpa using integral, checkLength_ok checked, (Except.ok.inj same).symm⟩

private theorem rounded_map {α : Type} (dtype : DType) (f : α → Binary64) (values : List α) :
    ∀ x ∈ values.map fun value => dtype.round (f value), dtype.round x = x := by
  intro x member
  obtain ⟨raw, _, rfl⟩ := List.mem_map.mp member
  exact dtype.round_round (f raw)

private theorem wrapped_map {α : Type} (dtype : DType) (f : α → Int) (values : List α) :
    ∀ i ∈ values.map fun value => dtype.wrap (f value), dtype.wrap i = i := by
  intro i member
  obtain ⟨raw, _, rfl⟩ := List.mem_map.mp member
  exact dtype.wrap_wrap (f raw)

/-- What is made of floating values is valid. -/
theorem ofFloats_valid {values : List Binary64} {shape : Shape} {dtype : DType} {d : Dense}
    (made : ofFloats values shape dtype = .ok d) : d.Valid := by
  obtain ⟨floating, counted, rfl⟩ := ofFloats_eq made
  exact .floats floating (by decide) (by rwa [List.length_map]) (rounded_map dtype id values)

/-- What is made of integers is valid. -/
theorem ofIntegers_valid {values : List Int} {shape : Shape} {dtype : DType} {d : Dense}
    (made : ofIntegers values shape dtype = .ok d) : d.Valid := by
  obtain ⟨integral, counted, rfl⟩ := ofIntegers_eq made
  exact .integers integral (by decide) (by rwa [List.length_map]) (wrapped_map dtype id values)

/-- A filled tensor is valid whenever its elements can be counted. -/
theorem full_valid {shape : Shape} {count : Nat} (counted : shape.checkedCount = some count)
    (value : Binary64) (dtype : DType) (device : Device) :
      (full shape value dtype device).Valid := by
  have length := Shape.count_of_checked counted
  by_cases empty : device = .metadata
  · subst empty
    exact .absent counted
  · have present : device.isMeta = false := by simpa [Device.isMeta] using empty
    rw [full, present, if_neg Bool.false_ne_true]
    cases floating : dtype.isFloating with
    | true =>
        refine .floats floating empty (by rw [List.length_replicate, counted, length]) fun x
          member => ?_
        rw [List.eq_of_mem_replicate member, DType.round_round]
    | false =>
        refine .integers floating empty (by rw [List.length_replicate, counted, length]) fun i
          member => ?_
        rw [List.eq_of_mem_replicate member, DType.wrap_wrap]

/-- A conversion keeps the shape. -/
theorem convert_kind {d e : Dense} {dtype : DType} {device : Device}
    (converted : d.convert dtype device = .ok e) :
    e.shape = d.shape ∧ e.dtype = dtype ∧ e.device = device := by
  rw [Dense.convert] at converted
  split at converted
  next empty =>
    have placed : device = .metadata := by simpa [Device.isMeta] using empty
    rw [← Except.ok.inj converted, placed]
    exact ⟨rfl, rfl, rfl⟩
  next =>
    split at converted
    · cases converted
    · rw [← Except.ok.inj converted]
      exact ⟨rfl, rfl, rfl⟩

/-- A sum has the shape, the element type and the device of the first summand. -/
theorem add_kind {d e total : Dense} (added : d.add e = .ok total) :
    total.shape = d.shape ∧ total.dtype = d.dtype ∧ total.device = d.device := by
  rw [Dense.add] at added
  obtain ⟨_, rest⟩ := ok_of_check added
  obtain ⟨_, _, made⟩ := ok_of_bind rest
  rw [← Except.ok.inj made]
  exact ⟨rfl, rfl, rfl⟩

/-- A table has an element in each row and column. -/
theorem count_table {d : Dense} {rows columns : Nat} (shape : d.shape = [rows, columns]) :
    d.count = rows * columns := by
  rw [count, shape]
  exact congrArg (· * columns) (Nat.one_mul rows)

/-- Values that can be read are there. -/
theorem present_of_toFloats {d : Dense} {values : List Binary64} (read : d.toFloats = .ok values) :
    d.values ≠ .absent := fun absent => by
  rw [toFloats, absent] at read
  cases read

/-- Integers that can be read are there. -/
theorem present_of_toIntegers {d : Dense} {values : List Int} (read : d.toIntegers = .ok values) :
    d.values ≠ .absent := fun absent => by
  rw [toIntegers, absent] at read
  cases read

namespace Valid

variable {d e : Dense}

/-- The shape of valid data has a count of its elements. -/
theorem counted (valid : d.Valid) : ∃ count, d.shape.checkedCount = some count := by
  cases valid with
  | floats _ _ counted _ => exact ⟨_, counted⟩
  | integers _ _ counted _ => exact ⟨_, counted⟩
  | absent counted => exact ⟨_, counted⟩

/-- The number of elements fits in 64 bits. -/
theorem count_lt (valid : d.Valid) : d.count < 0x10000000000000000 := by
  obtain ⟨count, counted⟩ := valid.counted
  rw [Dense.count, Shape.count_of_checked counted]
  exact Shape.lt_of_checked counted

/-- Only data on the meta device has no values. -/
theorem absent_iff (valid : d.Valid) : d.values = .absent ↔ d.device = .metadata := by
  cases valid with
  | floats _ present _ _ => simp [present]
  | integers _ present _ _ => simp [present]
  | absent _ => exact ⟨fun _ => rfl, fun _ => rfl⟩

/-- Data that is there can be read as numbers, one for each element. -/
theorem toFloats_ok (valid : d.Valid) (off : d.device ≠ .metadata) :
    ∃ values, d.toFloats = .ok values ∧ d.shape.checkedCount = some values.length := by
  cases valid with
  | floats _ _ counted _ => exact ⟨_, rfl, counted⟩
  | integers _ _ counted _ => exact ⟨_, rfl, by rwa [List.length_map]⟩
  | absent _ => exact absurd rfl off

/-- Data that is there can be read as integers, one for each element. -/
theorem toIntegers_ok (valid : d.Valid) (off : d.device ≠ .metadata) :
    ∃ values, d.toIntegers = .ok values ∧ d.shape.checkedCount = some values.length := by
  cases valid with
  | floats _ _ counted _ => exact ⟨_, rfl, by rwa [List.length_map]⟩
  | integers _ _ counted _ => exact ⟨_, rfl, counted⟩
  | absent _ => exact absurd rfl off

/-- Whatever numbers are read, there is one for each element. -/
theorem length_toFloats (valid : d.Valid) {values : List Binary64}
    (read : d.toFloats = .ok values) : values.length = d.count := by
  obtain ⟨others, again, counted⟩ := valid.toFloats_ok fun gone =>
    present_of_toFloats read (valid.absent_iff.mpr gone)
  cases read.symm.trans again
  exact (Shape.count_of_checked counted).symm

/-- Whatever integers are read, there is one for each element. -/
theorem length_toIntegers (valid : d.Valid) {values : List Int}
    (read : d.toIntegers = .ok values) : values.length = d.count := by
  obtain ⟨others, again, counted⟩ := valid.toIntegers_ok fun gone =>
    present_of_toIntegers read (valid.absent_iff.mpr gone)
  cases read.symm.trans again
  exact (Shape.count_of_checked counted).symm

/-- Data that is there can be read as truth values, one for each element. -/
theorem toBooleans_ok (valid : d.Valid) (off : d.device ≠ .metadata) :
    ∃ values, d.toBooleans = .ok values ∧ d.shape.checkedCount = some values.length := by
  cases valid with
  | floats _ _ counted _ => exact ⟨_, rfl, by rwa [List.length_map]⟩
  | integers _ _ counted _ => exact ⟨_, rfl, by rwa [List.length_map]⟩
  | absent _ => exact absurd rfl off

/-- Integers are finite. -/
theorem finite (valid : d.Valid) (integral : d.dtype.isFloating = false) : d.Finite := by
  intro values held
  cases valid with
  | floats floating _ _ _ =>
      rw [integral] at floating
      cases floating
  | integers _ _ _ _ => cases held
  | absent _ => cases held

/-- Valid data is converted to what it is already. -/
theorem convert_self (valid : d.Valid) : d.convert d.dtype d.device = .ok d := by
  cases valid with
  | absent _ => rfl
  | floats _ present _ _ =>
      rw [Dense.convert, if_neg (by simpa [Device.isMeta] using present)]
      simp
  | integers _ present _ _ =>
      rw [Dense.convert, if_neg (by simpa [Device.isMeta] using present)]
      simp

/-- Data that is there can be moved to the CPU. -/
theorem convert_onCpu (valid : d.Valid) (off : d.device ≠ .metadata) :
    d.convert d.dtype .cpu = .ok d.onCpu := by
  have held : d.values ≠ .absent := fun none => off (valid.absent_iff.mp none)
  rw [Dense.convert, if_neg (by decide), if_neg held]
  simp only [if_true]
  rfl

/-- A move of valid data onto another device that holds data. -/
theorem move (valid : d.Valid) (off : d.device ≠ .metadata) {device : Device}
    (present : device ≠ .metadata) : Valid { d with device } := by
  cases valid with
  | floats floating _ counted rounded => exact .floats floating present counted rounded
  | integers integral _ counted wrapped => exact .integers integral present counted wrapped
  | absent _ => exact absurd rfl off

private theorem cast_valid (valid : d.Valid) (off : d.device ≠ .metadata) (dtype : DType)
    {device : Device}
    (present : device ≠ .metadata) :
    Valid ⟨d.shape, dtype, device, castValues d.values dtype⟩ := by
  cases valid with
  | absent _ => exact absurd rfl off
  | @floats shape source _ values floating _ counted rounded =>
      rw [castValues]
      cases target : dtype.isFloating with
      | true =>
          exact .floats target present (by rwa [List.length_map]) (rounded_map dtype id values)
      | false =>
          by_cases boolean : dtype = .bool
          · subst boolean
            refine .integers rfl present (by rwa [List.length_map]) fun i member => ?_
            obtain ⟨x, _, rfl⟩ := List.mem_map.mp member
            cases x.equal .zero <;> rfl
          · rw [if_neg Bool.false_ne_true, if_neg boolean]
            exact .integers target present (by rwa [List.length_map])
              (wrapped_map dtype Binary64.toInt64 values)
  | @integers shape source _ values integral _ counted wrapped =>
      rw [castValues]
      cases target : dtype.isFloating with
      | true =>
          exact .floats target present (by rwa [List.length_map])
            (rounded_map dtype Binary64.ofInt values)
      | false =>
          exact .integers target present (by rwa [List.length_map]) (wrapped_map dtype id values)

/-- Valid data stays valid when it is converted. -/
theorem convert (valid : d.Valid) {dtype : DType} {device : Device}
    (converted : d.convert dtype device = .ok e) : e.Valid := by
  rw [Dense.convert] at converted
  obtain ⟨count, counted⟩ := valid.counted
  split at converted
  · rw [← Except.ok.inj converted]
    exact .absent counted
  next held =>
    have present : device ≠ .metadata := by simpa [Device.isMeta] using held
    split at converted
    · cases converted
    next off =>
      have here : d.device ≠ .metadata := fun empty => off (valid.absent_iff.mpr empty)
      rw [← Except.ok.inj converted]
      by_cases same : dtype = d.dtype
      · subst same
        simp only [if_true]
        exact valid.move here present
      · simp only [if_neg same]
        exact valid.cast_valid here dtype present

private theorem booleans_wrap {values : List Int} (wrapped : ∀ i ∈ values, DType.bool.wrap i = i) :
    ∀ i ∈ values, DType.int32.wrap i = i := by
  intro i member
  have flag := wrapped i member
  rw [DType.wrap] at flag
  split at flag
  next zero =>
    rw [zero]
    rfl
  next =>
    rw [← flag]
    rfl

section Booleans

variable (valid : d.Valid) (boolean : d.dtype = .bool) (present : d.device ≠ .metadata)

include valid boolean present

private theorem booleans : ∃ values, d = ⟨d.shape, .bool, d.device, .integers values⟩ ∧
    ∀ i ∈ values, DType.bool.wrap i = i := by
  cases valid with
  | floats floating _ _ _ =>
      dsimp only at boolean
      subst boolean
      cases floating
  | @integers shape dtype device values _ _ _ wrapped =>
      dsimp only at boolean
      subst boolean
      exact ⟨values, rfl, wrapped⟩
  | absent _ => exact absurd rfl present

/-- Booleans are zeros and ones as integers. -/
theorem convert_widened : d.convert .int32 d.device = .ok d.widened := by
  obtain ⟨values, same, wrapped⟩ := valid.booleans boolean present
  have kept : values.map DType.int32.wrap = values :=
    (List.map_congr_left (booleans_wrap wrapped)).trans (List.map_id _)
  rw [same, Dense.convert, if_neg (by simpa [Device.isMeta] using present)]
  simp only [reduceCtorEq, if_false, castValues, DType.isFloating, Bool.false_eq_true, kept,
    widened]

/-- Valid data stays valid when it is widened. -/
theorem widened : d.widened.Valid := valid.convert (valid.convert_widened boolean present)

/-- Zeros and ones are booleans again. -/
theorem convert_narrowed : d.widened.onCpu.convert .bool .cpu = .ok d.onCpu := by
  obtain ⟨values, same, wrapped⟩ := valid.booleans boolean present
  have kept : values.map DType.bool.wrap = values :=
    (List.map_congr_left wrapped).trans (List.map_id _)
  rw [same, Dense.convert, if_neg (by decide)]
  simp only [Dense.widened, onCpu, reduceCtorEq, if_false, castValues, DType.isFloating,
    Bool.false_eq_true, kept]

end Booleans

/-- Valid data stays valid when it is read on the cpu. -/
theorem onCpu (valid : d.Valid) (off : d.device ≠ .metadata) : d.onCpu.Valid :=
  valid.move off (by decide)

/-- The sum of valid data is valid. -/
theorem sum (valid : d.Valid) : d.sum.Valid := by
  have single : Shape.checkedCount [] = some 1 := rfl
  cases valid with
  | floats _ _ _ _ => exact full_valid single _ _ _
  | @integers shape dtype device values _ present _ _ =>
      refine .integers rfl present single fun i member => ?_
      rw [List.mem_singleton.mp member]
      rcases List.eq_nil_or_concat values with rfl | ⟨front, last, rfl⟩
      · rfl
      · rw [List.concat_eq_append, List.foldl_append]
        exact DType.int64.wrap_wrap _
  | absent _ => exact .absent single

/-- The sum of two valid tensors is valid. -/
theorem add (left : d.Valid) (right : e.Valid) {total : Dense} (added : d.add e = .ok total) :
    total.Valid := by
  rw [Dense.add] at added
  obtain ⟨same, rest⟩ := ok_of_check added
  obtain ⟨moved, converted, made⟩ := ok_of_bind rest
  obtain ⟨shape, dtype, device⟩ := convert_kind converted
  have other := right.convert converted
  have length {a b : Nat} (first : d.shape.checkedCount = some a)
      (second : moved.shape.checkedCount = some b) : a = b := by
    rw [shape, ← not_not.mp same, first] at second
    exact Option.some.inj second
  rw [← Except.ok.inj made]
  cases left with
  | @floats _ _ _ xs floating present counted _ =>
      cases other with
      | @floats _ _ _ ys _ _ others _ =>
          refine .floats floating present ?_ fun x member => ?_
          · rw [List.length_zipWith, ← length counted others, Nat.min_self]
            exact counted
          · rw [← List.map_uncurry_zip_eq_zipWith] at member
            exact rounded_map _ (Function.uncurry Binary64.add) (xs.zip ys) x member
      | integers integral _ _ _ =>
          have clash := (congrArg DType.isFloating dtype).symm.trans integral
          exact absurd (floating.symm.trans clash) (by decide)
      | absent _ => exact absurd device.symm present
  | @integers _ _ _ xs integral present counted _ =>
      cases other with
      | floats floating _ _ _ =>
          have clash := (congrArg DType.isFloating dtype).symm.trans floating
          exact absurd (integral.symm.trans clash) (by decide)
      | @integers _ _ _ ys _ _ others _ =>
          refine .integers integral present ?_ fun x member => ?_
          · rw [List.length_zipWith, ← length counted others, Nat.min_self]
            exact counted
          · rw [← List.map_uncurry_zip_eq_zipWith] at member
            exact wrapped_map _ (Function.uncurry fun i j => DType.int64.wrap (i + j)) (xs.zip ys) x
              member
      | absent _ => exact absurd device.symm present
  | absent counted => exact .absent counted

end Valid

end Dense

end Atomistic
