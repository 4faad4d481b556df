import Atomistic.Proofs.Document.Counts
import Atomistic.Proofs.Tensor.Transfer
import Atomistic.Proofs.World
import Mathlib.Algebra.BigOperators.Ring.List

/-!
# Filled tensors

A tensor can be filled with a value in its own element type, or filled with doubles and cast.
Both always succeed, on every device, and they give the same data in every type but one: filling
takes the integer part of the value before it looks whether that is zero, and a cast to truth
values looks at the value itself.  So they agree exactly if no truth values are asked for, or the
value is zero or has an integer part that is not (`Atomistic.World.Reachable.full_cast_iff`).
Between zero and one, and for a NaN, they differ (`Atomistic.World.Halves.half_is_false`).
-/

namespace Atomistic

namespace Binary64

/-- A number is cut off to zero exactly if it is a NaN or its magnitude is less than one. -/
theorem toInt64_eq_zero_iff (x : Binary64) :
    x.toInt64 = 0 ↔ x.isNaN ∨ x.isFinite ∧ x.magnitude.1 < x.magnitude.2 := by
  by_cases nan : x.isNaN
  · rw [toInt64, if_pos nan]
    exact iff_of_true rfl (.inl nan)
  · have denominator : 0 < x.magnitude.2 := two_pow_pos _
    have whole : x.magnitude.1 / x.magnitude.2 = 0 ↔ x.magnitude.1 < x.magnitude.2 := by
      rw [Nat.div_eq_zero_iff]
      omega
    by_cases infinite : x.isInfinite
    · have endless : ¬ x.isFinite := fun finite => by
        rw [(not_special finite).2] at infinite
        cases infinite
      rw [toInt64, if_neg nan, infinite]
      refine iff_of_false ?_ fun either => either.elim nan fun both => endless both.1
      simp only [↓reduceIte]
      split <;> omega
    · have finite := finite_of_not_special nan infinite
      rw [toInt64, if_neg nan, Bool.eq_false_iff.mpr infinite, ← whole]
      simp only [nan, finite, Bool.false_eq_true, ↓reduceIte, false_or, true_and]
      split <;> omega

private theorem toInt64_of_zero {x : Binary64} (zero : x.equal .zero) : x.toInt64 = 0 := by
  have null : x.isZero := x.equal_zero ▸ zero
  have finite : x.isFinite := by
    simp only [isZero, isFinite, Bool.and_eq_true, beq_iff_eq, bne_iff_ne] at null ⊢
    omega
  refine x.toInt64_eq_zero_iff.mpr (.inr ⟨finite, ?_⟩)
  rw [magnitude, x.isZero_iff.mp null, Nat.zero_mul]
  exact two_pow_pos _

/-- Neither zero nor a number with an integer part that is not zero: a NaN, or a number strictly
between -1 and 1 that is not zero. -/
def Vanishes (x : Binary64) : Prop :=
  x.isNaN ∨ x.isFinite ∧ 0 < x.magnitude.1 ∧ x.magnitude.1 < x.magnitude.2

instance (x : Binary64) : Decidable x.Vanishes := inferInstanceAs (Decidable (_ ∨ _))

/-- What vanishes differs from zero, and is cut off to zero. -/
theorem vanishes_iff (x : Binary64) : x.Vanishes ↔ x.toInt64 = 0 ∧ ¬ x.equal .zero := by
  have numerator : 0 < x.magnitude.1 ↔ ¬ x.equal .zero := by
    rw [equal_zero, isZero_iff, Nat.pos_iff_ne_zero, magnitude, Nat.mul_ne_zero_iff]
    exact and_iff_left (two_pow_pos _).ne'
  have nan_apart : x.isNaN → ¬ x.equal .zero := by
    intro nan
    simp [equal, nan]
  rw [Vanishes, toInt64_eq_zero_iff, numerator]
  tauto

end Binary64

private theorem Shape.count_eq_zero_iff {shape : Shape} : shape.count = 0 ↔ 0 ∈ shape := by
  rw [count, ← List.prod_eq_foldl, List.prod_eq_zero_iff]

namespace Dense

variable {shape : Shape} {value : Binary64} {dtype : DType} {device : Device}

section Real

variable (real : device ≠ .metadata)

include real

private theorem full_real : full shape value dtype device = ⟨shape, dtype, device,
    if dtype.isFloating then .floats (List.replicate shape.count (dtype.round value))
    else .integers (List.replicate shape.count (dtype.wrap value.toInt64))⟩ := by
  rw [full, if_neg (by simpa [Device.isMeta] using real)]

/-- Doubles are left as they are by a cast to their own type, and converted by a cast to another. -/
theorem full_convert : (full shape value .float64 device).convert dtype device =
    .ok ⟨shape, dtype, device, if dtype = .float64 then .floats (List.replicate shape.count value)
      else castValues (.floats (List.replicate shape.count value)) dtype⟩ := by
  rw [full_real real, convert, if_neg (by simpa [Device.isMeta] using real),
    if_neg (by simp [DType.isFloating])]
  rfl

private theorem full_recast : (full shape value .float64 device).recast (some dtype) none =
    ⟨shape, dtype, device, if dtype = .float64 then .floats (List.replicate shape.count value)
      else castValues (.floats (List.replicate shape.count value)) dtype⟩ :=
  recast_of_convert (full_convert real)

/-- Filled truth values tell whether the integer part of the value differs from zero. -/
theorem full_bool : full shape value .bool device = ⟨shape, .bool, device,
    .integers (List.replicate shape.count (if value.toInt64 = 0 then 0 else 1))⟩ :=
  full_real real

/-- Truth values that doubles are cast to tell whether the value itself differs from zero. -/
theorem full_recast_bool : (full shape value .float64 device).recast (some .bool) none =
    ⟨shape, .bool, device,
      .integers (List.replicate shape.count (if value.equal .zero then 0 else 1))⟩ := by
  rw [full_recast real, if_neg (by decide), castValues, if_neg (by decide), if_pos rfl,
    List.map_replicate]

end Real

/-- In every other type a cast gives what filling gives. -/
theorem full_recast_of_ne (other : dtype ≠ .bool) :
    (full shape value .float64 device).recast (some dtype) none =
      full shape value dtype device := by
  by_cases real : device = .metadata
  · subst real
    rfl
  · rw [full_recast real, full_real real]
    cases dtype with
    | bool => exact absurd rfl other
    | uint8 | int8 | int16 | int32 | int64 => simp [castValues, DType.isFloating]
    | float32 | float64 => simp [castValues, DType.isFloating, DType.round]

/-- **When filling is casting.**  Only truth values can differ, where there are any, and they do
if the value vanishes. -/
theorem full_eq_recast_iff : full shape value dtype device =
      (full shape value .float64 device).recast (some dtype) none ↔
    dtype ≠ .bool ∨ device = .metadata ∨ 0 ∈ shape ∨ ¬ value.Vanishes := by
  by_cases other : dtype = .bool
  · subst other
    by_cases real : device = .metadata
    · subst real
      exact iff_of_true rfl (.inr (.inl rfl))
    · rw [full_bool real, full_recast_bool real, Binary64.vanishes_iff, ← Shape.count_eq_zero_iff]
      simp only [mk.injEq, true_and, Values.integers.injEq, List.replicate_inj, real, ne_eq,
        not_true_eq_false, false_or]
      by_cases zero : value.equal .zero
      · simp [zero, Binary64.toInt64_of_zero zero]
      · simp [zero]
  · exact iff_of_true (full_recast_of_ne other).symm (.inl other)

end Dense

namespace World

open Session Workspace

/-- **Filling is casting, up to truth values.**  A tensor can be filled in its own type, and it
can be filled with doubles and cast, in any state, with any value and on any device.  Both give
the same data down to the last bit, unless there are truth values and the value is a NaN or lies
strictly between -1 and 1 without being zero: then filling makes all of them false, and the cast
makes all of them true. -/
theorem Reachable.full_cast_iff {world : World} (reachable : world.Reachable) {shape : Shape}
    (fits : shape.Fits) (value : Binary64) (dtype : DType) (device : Device) :
    ∃ filled first doubles second made third,
      (create (.full shape value dtype device) : Session TensorError Tensor).exec world.workspace =
        (.ok filled, first) ∧
      (create (.full shape value .float64 device) : Session TensorError Tensor).exec first =
        (.ok doubles, second) ∧
      (doubles.transfer (some dtype) none).exec second = (.ok made, third) ∧
      (filled.bitEqual made ↔
        dtype ≠ .bool ∨ device = .metadata ∨ 0 ∈ shape ∨ ¬ value.Vanishes) ∧
      (dtype = .bool → device ≠ .metadata → value.Vanishes →
        filled.data.values = .integers (List.replicate shape.count 0) ∧
        made.data.values = .integers (List.replicate shape.count 1)) := by
  have clean := clean_of_sound reachable.sound.tape
  have counted : shape.checkedCount = some shape.prod := by
    rw [Shape.checkedCount_eq, if_pos fits]
  obtain ⟨filled, first, filled_ran, filled_held, _⟩ :=
    (@create_decides TensorError _ clean (.full shape value dtype device)).succeeds
  have first_clean : first.Clean :=
    ((create_decides clean (.full shape value dtype device)).of_success filled_ran).1.clean clean
  obtain ⟨doubles, second, doubles_ran, doubles_held, _⟩ :=
    (@create_decides TensorError _ first_clean (.full shape value .float64 device)).succeeds
  have second_clean : second.Clean :=
    ((create_decides first_clean (.full shape value .float64 device)).of_success
      doubles_ran).1.clean first_clean
  have valid : doubles.data.Valid := doubles_held ▸ Dense.full_valid counted value .float64 device
  have stays : doubles.device.Reaches (none.getD doubles.device) := id
  obtain ⟨made, third, made_ran, made_held⟩ :=
    ((Tensor.transfer_recasts second_clean valid (some dtype) none).congr
      (iff_of_true trivial stays)).succeeds
  rw [doubles_held] at made_held
  refine ⟨filled, first, doubles, second, made, third, filled_ran, doubles_ran, made_ran, ?_,
    fun truth real vanishes => ?_⟩
  · rw [Tensor.bitEqual, Dense.bitEqual, beq_iff_eq, filled_held, made_held]
    exact Dense.full_eq_recast_iff
  · subst truth
    obtain ⟨cut, apart⟩ := value.vanishes_iff.mp vanishes
    rw [filled_held, made_held, Dense.full_bool real, Dense.full_recast_bool real, if_pos cut,
      if_neg apart]
    exact ⟨rfl, rfl⟩

namespace Halves

/-- Minus one and a half. -/
def value : Binary64 := ⟨0xbff8000000000000⟩

/-- Minus one and a half is true, whether it is filled in or cast. -/
theorem full_cast_iff_true : World.Reachable {} ∧ Shape.Fits [2] ∧
    ∃ filled first doubles second made third,
      (create (.full [2] value .bool (.cuda 1)) : Session TensorError Tensor).exec {} =
        (.ok filled, first) ∧
      (create (.full [2] value .float64 (.cuda 1)) : Session TensorError Tensor).exec first =
        (.ok doubles, second) ∧
      (doubles.transfer (some .bool) none).exec second = (.ok made, third) ∧
      filled.bitEqual made ∧ filled.data.values = .integers [1, 1] := by
  have reachable : World.Reachable {} := .refl
  have fits : Shape.Fits [2] := by decide
  have stays : ¬ value.Vanishes := by decide
  obtain ⟨filled, first, doubles, second, made, third, filled_ran, doubles_ran, made_ran,
    same, _⟩ := reachable.full_cast_iff fits value .bool (.cuda 1)
  have filled_held : filled.data = .full [2] value .bool (.cuda 1) :=
    ((create_decides (fun _ _ => rfl) _).of_success filled_ran).2.1
  refine ⟨reachable, fits, filled, first, doubles, second, made, third, filled_ran, doubles_ran,
    made_ran, same.mpr (.inr (.inr (.inr stays))), ?_⟩
  rw [filled_held]
  decide

/-- One half is false when truth values are filled with it, and true when it is cast to them. -/
theorem half_is_false : ¬ ∀ (world : World), world.Reachable → ∀ (shape : Shape), shape.Fits →
    ∀ (value : Binary64) (dtype : DType) (device : Device), device ≠ .metadata →
      ∀ filled first doubles second made third,
        (create (.full shape value dtype device) : Session TensorError Tensor).exec
          world.workspace = (.ok filled, first) →
        (create (.full shape value .float64 device) : Session TensorError Tensor).exec first =
          (.ok doubles, second) →
        (doubles.transfer (some dtype) none).exec second = (.ok made, third) →
        filled.bitEqual made := by
  intro agrees
  have same := agrees {} .refl [1] (by decide) ⟨0x3fe0000000000000⟩ .bool .cpu (by decide)
    _ _ _ _ _ _ rfl rfl rfl
  exact absurd same (by decide)

end Halves

end World

end Atomistic
