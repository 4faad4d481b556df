import Atomistic.Proofs.Tensor.Valid

/-!
# What data looks like

Data that can be made looks like this (`Atomistic.Dense.Represented`): its shape can be
counted, there are no values exactly on the meta device, floating point types hold doubles
and all others integers, as many as the shape says, within the range of the type.  Data looks
like this exactly if it can be made from values, by filling a shape, by conversions and by
sums (`Atomistic.Dense.obtained_iff`).
-/

namespace Atomistic

namespace DType

/-- The integers that an integral type can hold.  The other types hold none. -/
def InRange (dtype : DType) (i : Int) : Prop :=
  match dtype with
  | bool => i = 0 ∨ i = 1
  | uint8 => 0 ≤ i ∧ i ≤ 255
  | int8 => -128 ≤ i ∧ i ≤ 127
  | int16 => -32768 ≤ i ∧ i ≤ 32767
  | int32 => -2147483648 ≤ i ∧ i ≤ 2147483647
  | int64 => -9223372036854775808 ≤ i ∧ i ≤ 9223372036854775807
  | float32 | float64 => False

instance (dtype : DType) (i : Int) : Decidable (dtype.InRange i) :=
  match dtype with
  | bool => inferInstanceAs (Decidable (i = 0 ∨ i = 1))
  | uint8 => inferInstanceAs (Decidable (0 ≤ i ∧ i ≤ 255))
  | int8 => inferInstanceAs (Decidable (-128 ≤ i ∧ i ≤ 127))
  | int16 => inferInstanceAs (Decidable (-32768 ≤ i ∧ i ≤ 32767))
  | int32 => inferInstanceAs (Decidable (-2147483648 ≤ i ∧ i ≤ 2147483647))
  | int64 => inferInstanceAs (Decidable (-9223372036854775808 ≤ i ∧ i ≤ 9223372036854775807))
  | float32 | float64 => inferInstanceAs (Decidable False)

/-- Exactly the integers of an integral type stay as they are when they are brought into
its range. -/
theorem wrap_eq_self_iff {dtype : DType} (integral : dtype.isFloating = false) (i : Int) :
    dtype.wrap i = i ↔ dtype.InRange i := by
  cases dtype with
  | bool =>
      simp only [wrap, InRange]
      split <;> omega
  | uint8 =>
      simp only [wrap, InRange]
      omega
  | int8 | int16 | int32 | int64 =>
      simp only [wrap, InRange, Int.bmod]
      split <;> omega
  | float32 | float64 => cases integral

/-- Single precision is the only type that rounds. -/
theorem round_eq_self_iff (dtype : DType) (x : Binary64) :
    dtype.round x = x ↔ (dtype = .float32 → x.toSingle = x) := by
  cases dtype <;> simp [round]

end DType

namespace Dense

/-- What the data of every tensor looks like. -/
structure Represented (d : Dense) : Prop where
  counted : d.shape.checkedCount = some d.count
  absent_iff : d.values = .absent ↔ d.device = .metadata
  floats_iff : (∃ values, d.values = .floats values) ↔
    d.device ≠ .metadata ∧ d.dtype.isFloating
  integers_iff : (∃ values, d.values = .integers values) ↔
    d.device ≠ .metadata ∧ d.dtype.isFloating = false
  floats : ∀ values, d.values = .floats values →
    values.length = d.count ∧ (d.dtype = .float32 → ∀ x ∈ values, x.toSingle = x)
  integers : ∀ values, d.values = .integers values →
    values.length = d.count ∧ ∀ i ∈ values, d.dtype.InRange i

/-- Data that can be made from values and by filling a shape whose elements can be counted,
and by conversions and sums of such data. -/
inductive Obtained : Dense → Prop
  | ofFloats {values : List Binary64} {shape : Shape} {dtype : DType} {d : Dense}
      (made : ofFloats values shape dtype = .ok d) : Obtained d
  | ofIntegers {values : List Int} {shape : Shape} {dtype : DType} {d : Dense}
      (made : ofIntegers values shape dtype = .ok d) : Obtained d
  | ofRows {rows : List (Vec3 Binary64)} (fits : rows.length * 3 < 0x10000000000000000) :
      Obtained (ofRows rows)
  | full {shape : Shape} (counted : shape.checkedCount.isSome) (value : Binary64) (dtype : DType)
      (device : Device) : Obtained (full shape value dtype device)
  | convert {d e : Dense} {dtype : DType} {device : Device} (obtained : Obtained d)
      (converted : d.convert dtype device = .ok e) : Obtained e
  | sum {d : Dense} (obtained : Obtained d) : Obtained d.sum
  | add {d e total : Dense} (left : Obtained d) (right : Obtained e) (added : d.add e = .ok total) :
      Obtained total

/-- Valid data looks as data should. -/
theorem Valid.represented {d : Dense} (valid : d.Valid) : d.Represented := by
  cases valid with
  | @floats shape dtype device values floating present counted rounded =>
      have length : shape.count = values.length := Shape.count_of_checked counted
      refine ⟨by rw [count, length]; exact counted, by simp [present], by simp [present, floating],
        by simp [present, floating], fun others held => ?_, fun _ held => ?_⟩
      · cases held
        exact ⟨length.symm, fun single x member =>
          (dtype.round_eq_self_iff x).mp (rounded x member) single⟩
      · cases held
  | @integers shape dtype device values integral present counted wrapped =>
      have length : shape.count = values.length := Shape.count_of_checked counted
      refine ⟨by rw [count, length]; exact counted, by simp [present], by simp [present, integral],
        by simp [present, integral], fun _ held => ?_, fun others held => ?_⟩
      · cases held
      · cases held
        exact ⟨length.symm, fun i member =>
          (DType.wrap_eq_self_iff integral i).mp (wrapped i member)⟩
  | absent counted =>
      rw [← Shape.count_of_checked counted] at counted
      refine ⟨counted, by simp [onMeta], by simp [onMeta], by simp [onMeta],
        fun _ held => ?_, fun _ held => ?_⟩ <;> cases held

private theorem checkLength_of_counted {shape : Shape} {actual : Nat}
    (counted : shape.checkedCount = some actual) : checkLength shape actual = .ok () := by
  rw [checkLength, counted]
  exact if_pos rfl

/-- Data that looks as it should can be made: from its values on the CPU and moved, or by
filling its shape on the meta device. -/
theorem Represented.obtained {d : Dense} (represented : d.Represented) : d.Obtained := by
  obtain ⟨counted, absent, floats_iff, integers_iff, floats, integers⟩ := represented
  obtain ⟨shape, dtype, device, values⟩ := d
  cases values with
  | absent =>
      obtain rfl : device = .metadata := absent.mp rfl
      exact .full (Option.isSome_iff_exists.mpr ⟨_, counted⟩) .zero dtype .metadata
  | floats values =>
      obtain ⟨present, floating⟩ := floats_iff.mp ⟨values, rfl⟩
      obtain ⟨length, single⟩ := floats values rfl
      dsimp only at present floating single
      have rounded : values.map dtype.round = values :=
        (List.map_congr_left fun x member =>
          (dtype.round_eq_self_iff x).mpr fun narrow => single narrow x member).trans
            (List.map_id _)
      have checked := checkLength_of_counted (length ▸ counted)
      have made : ofFloats values shape dtype = .ok ⟨shape, dtype, .cpu, .floats values⟩ := by
        rw [ofFloats, floating, checked, rounded]
        rfl
      have moved : (⟨shape, dtype, .cpu, .floats values⟩ : Dense).convert dtype device =
          .ok ⟨shape, dtype, device, .floats values⟩ := by
        simp [Dense.convert, Device.isMeta, present]
      exact .convert (.ofFloats made) moved
  | integers values =>
      obtain ⟨present, integral⟩ := integers_iff.mp ⟨values, rfl⟩
      obtain ⟨length, ranged⟩ := integers values rfl
      dsimp only at present integral ranged
      have wrapped : values.map dtype.wrap = values :=
        (List.map_congr_left fun i member =>
          (DType.wrap_eq_self_iff integral i).mpr (ranged i member)).trans (List.map_id _)
      have checked := checkLength_of_counted (length ▸ counted)
      have made : ofIntegers values shape dtype = .ok ⟨shape, dtype, .cpu, .integers values⟩ := by
        rw [ofIntegers, integral, checked, wrapped]
        rfl
      have moved : (⟨shape, dtype, .cpu, .integers values⟩ : Dense).convert dtype device =
          .ok ⟨shape, dtype, device, .integers values⟩ := by
        simp [Dense.convert, Device.isMeta, present]
      exact .convert (.ofIntegers made) moved

/-- A table of rows is valid if its elements can be counted. -/
theorem ofRows_valid {rows : List (Vec3 Binary64)} (fits : rows.length * 3 < 0x10000000000000000) :
    (ofRows rows).Valid := by
  have length : (Vec3.flatten rows).length = rows.length * 3 := by
    simp [Vec3.flatten, Vec3.toList, List.length_flatMap]
  refine .floats rfl (by decide) ?_ fun x _ => rfl
  have tall : rows.length < 0x10000000000000000 := by omega
  simp [Shape.checkedCount, length, tall, fits]

/-- Everything that can be made is valid. -/
theorem Obtained.valid {d : Dense} (obtained : d.Obtained) : d.Valid := by
  induction obtained with
  | ofFloats made => exact ofFloats_valid made
  | ofIntegers made => exact ofIntegers_valid made
  | ofRows fits => exact ofRows_valid fits
  | full counted value dtype device =>
      obtain ⟨count, counted⟩ := Option.isSome_iff_exists.mp counted
      exact full_valid counted value dtype device
  | convert _ converted ih => exact ih.convert converted
  | sum _ ih => exact ih.sum
  | add _ _ added left right => exact left.add right added

/-- What can be obtained is what is represented. -/
theorem obtained_iff (d : Dense) : d.Obtained ↔ d.Represented :=
  ⟨fun obtained => obtained.valid.represented, Represented.obtained⟩

/-- What is valid is what can be obtained. -/
theorem valid_iff (d : Dense) : d.Valid ↔ d.Obtained :=
  ⟨fun valid => valid.represented.obtained, Obtained.valid⟩

end Dense

end Atomistic
