import Atomistic.Proofs.Tensor.Represented
import Atomistic.Proofs.Tensor.Transfer
import Atomistic.Proofs.World
import Mathlib.Data.Int.ModEq

/-!
# Casts to integers

An integer type holds one integer of each residue class modulo two to the number of its bits, and
a cast gives the one of the class of the value (`Atomistic.DType.eq_wrap_iff`).  So it does not
matter whether a tensor goes through other integer types on its way to a type with no more bits
than they have, and a tensor of integers comes back as it was from every type that can hold them
(`Atomistic.World.Reachable.casts_residues`).  Signs do not matter for this: only the range that
the classes are told in depends on them.

Truth values are no residues.  They can be cast, and are kept by every integer type, but what is
cast to them tells only whether it is zero.
-/

namespace Atomistic

open Session Workspace

namespace DType

/-- The number of bits of an integer type.  Truth values and floating point numbers are not
counted among them. -/
def width? : DType → Option Nat
  | uint8 | int8 => some 8
  | int16 => some 16
  | int32 => some 32
  | int64 => some 64
  | bool | float32 | float64 => none

/-- What an integer becomes in another type: it stays as it is if the type can hold it, and in a
type of integers it becomes the only one that the type can hold and that differs by a multiple
of two to the number of bits. -/
structure Residue (dtype : DType) (value residue : Int) : Prop where
  kept : dtype.InRange value → residue = value
  unique : ∀ bits, dtype.width? = some bits →
    ∀ i, i = residue ↔ dtype.InRange i ∧ i ≡ value [ZMOD 2 ^ bits]

section Width

variable {dtype wide narrow : DType} {bits fewer : Nat}

private theorem integral_of_width (width : dtype.width? = some bits) :
    dtype.isFloating = false := by
  cases dtype with
  | float32 | float64 => cases width
  | _ => rfl

private theorem ne_bool_of_width (width : dtype.width? = some bits) : dtype ≠ .bool := by
  rintro rfl
  cases width

/-- A type that can hold whatever an integral type can is integral. -/
theorem integral_of_contains (integral : narrow.isFloating = false)
    (contains : ∀ i, narrow.InRange i → dtype.InRange i) : dtype.isFloating = false := by
  have zero : narrow.InRange 0 := by
    cases narrow with
    | float32 | float64 => cases integral
    | _ => decide
  cases dtype with
  | float32 | float64 => exact (contains 0 zero).elim
  | _ => rfl

/-- **An integer type holds one integer of each residue class**, and an integer is brought into
the range of the type by taking the one of its class. -/
theorem eq_wrap_iff (width : dtype.width? = some bits) (i j : Int) :
    j = dtype.wrap i ↔ dtype.InRange j ∧ j ≡ i [ZMOD 2 ^ bits] := by
  cases dtype with
  | bool | float32 | float64 => cases width
  | uint8 =>
      cases width
      simp only [wrap, InRange, Int.ModEq]
      omega
  | int8 | int16 | int32 | int64 =>
      cases width
      simp only [wrap, InRange, Int.bmod, Int.ModEq]
      split <;> omega

/-- Residues modulo a power of two are told by residues modulo a higher power. -/
theorem wrap_wrap_of_le (wide_width : wide.width? = some bits)
    (narrow_width : narrow.width? = some fewer) (fits : fewer ≤ bits) (i : Int) :
    narrow.wrap (wide.wrap i) = narrow.wrap i := by
  obtain ⟨_, first⟩ := (eq_wrap_iff wide_width i _).mp rfl
  obtain ⟨inside, second⟩ := (eq_wrap_iff narrow_width (wide.wrap i) _).mp rfl
  have first : wide.wrap i ≡ i [ZMOD 2 ^ fewer] := first.of_dvd (pow_dvd_pow 2 fits)
  exact (eq_wrap_iff narrow_width i _).mpr ⟨inside, second.trans first⟩

private theorem residue_wrap (integral : dtype.isFloating = false) (value : Int) :
    dtype.Residue value (dtype.wrap value) where
  kept := (wrap_eq_self_iff integral value).mpr
  unique _ width i := eq_wrap_iff width value i

end Width

end DType

namespace Dense

section Values

variable {dtype wide narrow : DType} {bits fewer : Nat}

private theorem castValues_integers (integral : dtype.isFloating = false) (values : List Int) :
    castValues (.integers values) dtype = .integers (values.map dtype.wrap) := by
  rw [castValues, integral, if_neg Bool.false_ne_true]

/-- Values that go through an integer type become what they become without it, if the last type
has no more bits. -/
theorem castValues_castValues (wide_width : wide.width? = some bits)
    (narrow_width : narrow.width? = some fewer) (fits : fewer ≤ bits) (values : Values) :
    castValues (castValues values wide) narrow = castValues values narrow := by
  have wide_integral := DType.integral_of_width wide_width
  have narrow_integral := DType.integral_of_width narrow_width
  have narrowed := DType.wrap_wrap_of_le wide_width narrow_width fits
  cases values with
  | absent => rfl
  | integers values =>
      simp only [castValues_integers wide_integral, castValues_integers narrow_integral,
        List.map_map, Function.comp_def, narrowed]
  | floats values =>
      simp only [castValues, wide_integral, narrow_integral, DType.ne_bool_of_width wide_width,
        DType.ne_bool_of_width narrow_width, Bool.false_eq_true, if_false, List.map_map,
        Function.comp_def, narrowed]

end Values

namespace Valid

variable {d : Dense} {dtype : DType} (valid : d.Valid)

include valid

/-- Integers that are there already are kept by a cast to their own type, so a cast to an integral
type always casts the values. -/
theorem recast_integral (integral : dtype.isFloating = false) :
    d.recast (some dtype) none = { d with dtype, values := castValues d.values dtype } := by
  refine recast_of_convert ?_
  cases valid with
  | absent _ => rfl
  | @floats shape home device values floating present _ _ =>
      have distinct : dtype ≠ home := fun same => by
        rw [← same, integral] at floating
        cases floating
      rw [Dense.convert, if_neg (by simpa [Device.isMeta] using present), if_neg (by simp)]
      simp only [Option.getD_some, Option.getD_none, if_neg distinct]
  | @integers shape home device values _ present _ wrapped =>
      rw [Dense.convert, if_neg (by simpa [Device.isMeta] using present), if_neg (by simp)]
      simp only [Option.getD_some, Option.getD_none]
      split
      next same =>
        -- The values were brought into the range of the type before.
        rw [castValues_integers integral, same, List.map_congr_left wrapped, List.map_id']
      · rfl

/-- Values are kept by a type that can hold them. -/
theorem castValues_of_contains (integral : d.dtype.isFloating = false)
    (contains : ∀ i, d.dtype.InRange i → dtype.InRange i) : castValues d.values dtype =
      d.values := by
  have target := DType.integral_of_contains integral contains
  have inside := valid.represented.integers
  cases valid with
  | absent _ => rfl
  | floats floating => exact absurd floating (by rw [integral]; decide)
  | @integers _ _ _ values =>
      have kept : ∀ i ∈ values, dtype.wrap i = i := fun i member =>
        (DType.wrap_eq_self_iff target i).mpr (contains i ((inside values rfl).2 i member))
      rw [castValues_integers target, List.map_congr_left kept, List.map_id']

end Valid

end Dense

namespace Tensor

variable {workspace : Workspace} {tensor : Tensor} {dtype wide narrow : DType} {bits fewer : Nat}

section Casts

variable (clean : workspace.Clean) (valid : tensor.data.Valid)

include clean valid

/-- A tensor can always be cast to an integral type, which changes its type and its values. -/
theorem cast_data (integral : dtype.isFloating = false) :
    ∃ made after, (tensor.transfer (some dtype) none).exec workspace = (.ok made, after) ∧
      made.data = { tensor.data with dtype, values := Dense.castValues tensor.data.values dtype } ∧
      made.data.Valid ∧ after.Clean := by
  have reaches : tensor.device.Reaches (none.getD tensor.device) := id
  cases transfer_recasts clean valid (some dtype) none with
  | refuses _ stuck => exact absurd reaches stuck
  | @gives made after ran _ moved data =>
      exact ⟨made, after, ran, data.trans (valid.recast_integral integral),
        data ▸ valid.recast reaches, moved clean⟩

/-- A cast to an integer type can go through another of at least as many bits. -/
theorem casts_bitEqual (wide_width : wide.width? = some bits)
    (narrow_width : narrow.width? = some fewer) (fits : fewer ≤ bits) :
    ∃ between first around second direct third,
      (tensor.transfer (some wide) none).exec workspace = (.ok between, first) ∧
      (between.transfer (some narrow) none).exec first = (.ok around, second) ∧
      (tensor.transfer (some narrow) none).exec second = (.ok direct, third) ∧
      around.bitEqual direct := by
  have wide_integral := DType.integral_of_width wide_width
  have narrow_integral := DType.integral_of_width narrow_width
  obtain ⟨between, first, ran, between_data, between_valid, first_clean⟩ :=
    cast_data clean valid wide_integral
  obtain ⟨around, second, again, around_data, _, second_clean⟩ :=
    cast_data first_clean between_valid narrow_integral
  obtain ⟨direct, third, once, direct_data, _⟩ := cast_data second_clean valid narrow_integral
  refine ⟨between, first, around, second, direct, third, ran, again, once, beq_iff_eq.mpr ?_⟩
  rw [around_data, direct_data, between_data]
  simp only [Dense.castValues_castValues wide_width narrow_width fits]

section Integers

variable (source : tensor.dtype.isFloating = false)

include source

/-- A cast of integers to an integral type gives their residues. -/
theorem cast_residues (integral : dtype.isFloating = false) : ∃ made after,
    (tensor.transfer (some dtype) none).exec workspace = (.ok made, after) ∧
      made.shape = tensor.shape ∧ made.dtype = dtype ∧ made.device = tensor.device ∧
      (tensor.device = .metadata → made.data.values = .absent) ∧
      (tensor.device ≠ .metadata → ∃ values residues, tensor.data.values = .integers values ∧
        made.data.values = .integers residues ∧ List.Forall₂ dtype.Residue values residues) := by
  obtain ⟨made, after, ran, data, _⟩ := cast_data clean valid integral
  refine ⟨made, after, ran, ?_, ?_, ?_, fun home => ?_, fun real => ?_⟩
  · rw [Tensor.shape, data, Tensor.shape]
  · rw [Tensor.dtype, data]
  · rw [Tensor.device, data, Tensor.device]
  · rw [data, valid.absent_iff.mpr home, Dense.castValues]
  · obtain ⟨values, held⟩ := valid.represented.integers_iff.mpr ⟨real, source⟩
    refine ⟨values, values.map dtype.wrap, held, ?_, ?_⟩
    · rw [data, held, Dense.castValues_integers integral]
    · exact List.forall₂_map_right_iff.mpr
        (List.forall₂_same.mpr fun value _ => DType.residue_wrap integral value)

/-- Integers come back as they were from a type that can hold them. -/
theorem cast_back (contains : ∀ i, tensor.dtype.InRange i → dtype.InRange i) :
    ∃ there first back second,
      (tensor.transfer (some dtype) none).exec workspace = (.ok there, first) ∧
      (there.transfer (some tensor.dtype) none).exec first = (.ok back, second) ∧
      back.bitEqual tensor := by
  obtain ⟨there, first, ran, there_data, there_valid, first_clean⟩ :=
    cast_data clean valid (DType.integral_of_contains source contains)
  obtain ⟨back, second, again, back_data, _⟩ := cast_data first_clean there_valid source
  refine ⟨there, first, back, second, ran, again, beq_iff_eq.mpr ?_⟩
  rw [back_data, there_data]
  have kept : Dense.castValues tensor.data.values dtype = tensor.data.values :=
    valid.castValues_of_contains source contains
  have stays : Dense.castValues tensor.data.values tensor.dtype = tensor.data.values :=
    valid.castValues_of_contains source fun _ inside => inside
  simp only [kept, stays]
  rfl

end Integers

end Casts

end Tensor

namespace World

variable {world : World} {tensor : Tensor}

/-- **Casts to integers take residues.** Any tensor can be cast to an integer type and from there
to another one of no more bits, and has the data then, down to the last bit, of a direct cast to
the last.  What integers or truth values are cast to are their residues in the range of the type,
one for each value, and they are the values themselves where the type can hold them; on the meta
device there are none.  So a cast to a type that can hold all that the type of the tensor can, and
back, changes nothing. -/
theorem Reachable.casts_residues (reachable : world.Reachable)
    (known : world.workspace.tape.Knows tensor) :
    (∀ wide narrow bits fewer, wide.width? = some bits → narrow.width? = some fewer →
      fewer ≤ bits → ∃ between first around second direct third,
        (tensor.transfer (some wide) none).exec world.workspace = (.ok between, first) ∧
        (between.transfer (some narrow) none).exec first = (.ok around, second) ∧
        (tensor.transfer (some narrow) none).exec second = (.ok direct, third) ∧
        around.bitEqual direct) ∧
    (tensor.dtype.isFloating = false →
      (∀ dtype : DType, dtype.isFloating = false → ∃ made after,
        (tensor.transfer (some dtype) none).exec world.workspace = (.ok made, after) ∧
        made.shape = tensor.shape ∧ made.dtype = dtype ∧ made.device = tensor.device ∧
        (tensor.device = .metadata → made.data.values = .absent) ∧
        (tensor.device ≠ .metadata → ∃ values residues, tensor.data.values = .integers values ∧
          made.data.values = .integers residues ∧
          List.Forall₂ dtype.Residue values residues)) ∧
      ∀ dtype : DType, (∀ i, tensor.dtype.InRange i → dtype.InRange i) →
        ∃ there first back second,
          (tensor.transfer (some dtype) none).exec world.workspace = (.ok there, first) ∧
          (there.transfer (some tensor.dtype) none).exec first = (.ok back, second) ∧
          back.bitEqual tensor) := by
  have clean := clean_of_sound reachable.sound.tape
  have valid : tensor.data.Valid := reachable.sound.holds.knows known
  refine ⟨fun wide narrow bits fewer wide_width narrow_width fits => ?compose,
    fun source => ⟨fun dtype integral => ?residues, fun dtype contains => ?back⟩⟩
  case compose => exact Tensor.casts_bitEqual clean valid wide_width narrow_width fits
  case residues => exact Tensor.cast_residues clean valid source integral
  case back => exact Tensor.cast_back clean valid source contains

namespace Edges

/-- Integers at the edges of eight bits. -/
def edges : Tensor := ⟨⟨⟨[4], .int16, .cpu, .integers [127, 128, 255, -129]⟩, .ofTensor 0⟩, 0⟩

/-- The integers are made. -/
def made : Workspace := ((Session.create edges.data : Session TensorError Tensor).exec {}).2

private theorem edges_valid : edges.data.Valid := .integers rfl (by decide) rfl (by decide)

private theorem made_run : Run Dense.Valid {} made := .create {} edges_valid

/-- The integers become signed bytes, directly or by way of `int32`, and come back from `int64`. -/
theorem casts_residues_edges : Reachable { workspace := made } ∧ made.tape.Knows edges ∧
    edges.dtype.isFloating = false ∧
    (∃ between first around second direct third,
      (edges.transfer (some .int32) none).exec made = (.ok between, first) ∧
      (between.transfer (some .int8) none).exec first = (.ok around, second) ∧
      (edges.transfer (some .int8) none).exec second = (.ok direct, third) ∧
      around.bitEqual direct) ∧
    (∃ bytes after, (edges.transfer (some .int8) none).exec made = (.ok bytes, after) ∧
      bytes.data.values = .integers [127, -128, -1, 127]) ∧
    ∃ there first back second,
      (edges.transfer (some .int64) none).exec made = (.ok there, first) ∧
      (there.transfer (some .int16) none).exec first = (.ok back, second) ∧
        back.bitEqual edges := by
  have reachable : Reachable { workspace := made } := .single (.run made_run)
  have known : made.tape.Knows edges := rfl
  obtain ⟨compose, cast⟩ := reachable.casts_residues known
  obtain ⟨residues, back⟩ := cast rfl
  refine ⟨reachable, known, rfl, compose .int32 .int8 32 8 rfl rfl (by decide), ?_,
    back .int64 fun i inside => ?_⟩
  · obtain ⟨bytes, after, ran, _, _, _, _, real⟩ := residues .int8 rfl
    obtain ⟨values, others, held, made_held, all⟩ := real (by decide)
    cases held
    have byte {value other : Int} (residue : DType.int8.Residue value other) (i : Int)
        (same : DType.int8.InRange i ∧ i ≡ value [ZMOD 2 ^ 8]) : other = i :=
      ((residue.unique 8 rfl i).mpr same).symm
    rcases all with _ | ⟨first, _ | ⟨second, _ | ⟨third, _ | ⟨fourth, ⟨⟩⟩⟩⟩⟩
    refine ⟨bytes, after, ran, ?_⟩
    rw [made_held, byte first 127 (by decide), byte second (-128) (by decide),
      byte third (-1) (by decide), byte fourth 127 (by decide)]
  · change -32768 ≤ i ∧ i ≤ 32767 at inside
    change -9223372036854775808 ≤ i ∧ i ≤ 9223372036854775807
    omega

end Edges

end World

end Atomistic
