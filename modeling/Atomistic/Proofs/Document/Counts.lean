import Atomistic.Proofs.Document.Sound
import Mathlib.Algebra.BigOperators.Group.List.Basic
import Mathlib.Algebra.Order.BigOperators.GroupWithZero.List
import Mathlib.Data.List.TakeWhile

/-!
# Counting elements

The number of elements of a shape is multiplied up from left to right, and an extent of zero
only helps those after it.  So a shape is too large exactly if the extents in front of the first
zero are (`Atomistic.Shape.checkedCount_eq`), and with this reservation data is made of values,
from numbers or from a document, exactly if there are as many as the product of the extents
(`Atomistic.Document.elements_counted`).  Without the reservation that is false: no elements at
all can be too many (`Atomistic.Document.no_elements_refused`).
-/

namespace Atomistic

namespace Shape

/-- The extents in front of the first zero multiply up to less than `2 ^ 64`. -/
def Fits (shape : Shape) : Prop := (shape.takeWhile (· ≠ 0)).prod < 0x10000000000000000

instance (shape : Shape) : Decidable shape.Fits := inferInstanceAs (Decidable (_ < _))

private theorem positive_of_mem_takeWhile {shape : Shape} {extent : Nat}
    (member : extent ∈ shape.takeWhile (· ≠ 0)) : 0 < extent := by
  have different : decide (extent ≠ 0) :=
    List.mem_takeWhile_imp (p := fun extent : Nat => decide (extent ≠ 0)) member
  exact Nat.pos_of_ne_zero (of_decide_eq_true different)

private theorem takeWhile_of_positive {shape : Shape} (positive : 0 ∉ shape) :
    shape.takeWhile (· ≠ 0) = shape := by
  refine List.takeWhile_eq_self_iff.mpr fun extent member => ?_
  exact decide_eq_true fun zero => positive (zero ▸ member)

/-- Multiplying up from a number that is not zero. -/
theorem checkedFrom_positive (shape : Shape) : ∀ {start : Nat}, 0 < start →
    start < 0x10000000000000000 →
    shape.foldlM (fun count extent =>
      if count * extent < 0x10000000000000000 then some (count * extent) else none) start =
        if start * (shape.takeWhile (· ≠ 0)).prod <
          0x10000000000000000 then some (start * shape.prod)
        else none := by
  induction shape with
  | nil =>
      intro start _ small
      simp [small]
  | cons extent rest ih =>
      intro start positive small
      rw [List.foldlM_cons]
      by_cases zero : extent = 0
      · -- From here on the count is zero, whatever comes after.
        have stays : ∀ later : Shape, later.foldlM (fun count extent =>
            if count * extent < 0x10000000000000000 then some (count * extent) else none) 0 =
              some 0 := by
          intro later
          induction later with
          | nil => rfl
          | cons next later ih => simpa using ih
        simp [zero, small, stays]
      · have after : (extent :: rest).takeWhile (· ≠ 0) = extent :: rest.takeWhile (· ≠ 0) :=
          List.takeWhile_cons_of_pos (decide_eq_true zero)
        rw [after, List.prod_cons, List.prod_cons, ← Nat.mul_assoc, ← Nat.mul_assoc]
        by_cases fits : start * extent < 0x10000000000000000
        · rw [if_pos fits]
          exact ih (Nat.mul_pos positive (Nat.pos_of_ne_zero zero)) fits
        · have rest_positive : 0 < (rest.takeWhile (· ≠ 0)).prod :=
            List.prod_pos fun later member => positive_of_mem_takeWhile member
          have larger : start * extent ≤ start * extent * (rest.takeWhile (· ≠ 0)).prod :=
            Nat.le_mul_of_pos_right _ rest_positive
          rw [if_neg fits, if_neg fun small => fits (larger.trans_lt small)]
          rfl

/-- **A shape is too large exactly if the extents in front of the first zero are.** -/
theorem checkedCount_eq (shape : Shape) :
    shape.checkedCount = if shape.Fits then some shape.prod else none := by
  have counted := checkedFrom_positive shape Nat.one_pos (by decide)
  rw [Nat.one_mul, Nat.one_mul] at counted
  exact counted

/-- A shape without a zero fits exactly if all of its elements do. -/
theorem fits_of_positive {shape : Shape} (positive : 0 ∉ shape) :
    shape.Fits ↔ shape.prod < 0x10000000000000000 := by
  rw [Fits, takeWhile_of_positive positive]

private theorem prod_takeWhile_le (shape : Shape) :
    (shape.takeWhile (· ≠ 0)).prod ≤ (shape.filter (· ≠ 0)).prod := by
  have kept : (shape.takeWhile (· ≠ 0)).filter (· ≠ 0) = shape.takeWhile (· ≠ 0) :=
    List.filter_eq_self.mpr fun extent member =>
      decide_eq_true (positive_of_mem_takeWhile member).ne'
  have part := (List.takeWhile_sublist (l := shape) fun extent : Nat => decide (extent ≠ 0)).filter
      (· ≠ 0)
  rw [kept] at part
  refine Nat.le_of_dvd (List.prod_pos fun extent member => ?_) part.prod_dvd_prod
  exact Nat.pos_of_ne_zero (of_decide_eq_true (List.mem_filter.mp member).2)

/-- The order of the extents does not matter exactly if there is no zero among them, or if the
others fit without it. -/
theorem fits_perm_iff (shape : Shape) :
    (∀ other : Shape, other.Perm shape → (other.Fits ↔ shape.Fits)) ↔
      0 ∉ shape ∨ (shape.filter (· ≠ 0)).prod < 0x10000000000000000 := by
  have fits_last (zeros : Nat) :
      Fits (shape.filter (· ≠ 0) ++ List.replicate zeros 0) ↔
        (shape.filter (· ≠ 0)).prod < 0x10000000000000000 := by
    rw [Fits, List.takeWhile_append_of_pos fun extent member => (List.mem_filter.mp member).2]
    cases zeros <;> simp [List.replicate_succ]
  constructor
  · intro same
    by_cases zero : 0 ∈ shape
    · refine .inr ?_
      obtain ⟨front, back, split⟩ := List.append_of_mem zero
      have first : Fits (0 :: (front ++ back)) := by
        rw [Fits, List.takeWhile_cons_of_neg (by simp)]
        decide
      have fits : shape.Fits :=
        (same (0 :: (front ++ back)) (split ▸ List.perm_middle.symm)).mp first
      have zeros : shape.filter (fun extent => !decide (extent ≠ 0)) =
          List.replicate (List.count 0 shape) 0 := by
        rw [← List.filter_eq]
        refine List.filter_congr fun extent _ => ?_
        simp
      have parts := List.filter_append_perm (fun extent => decide (extent ≠ 0)) shape
      rw [zeros] at parts
      have last := same _ parts
      exact (fits_last _).mp (last.mpr fits)
    · exact .inl zero
  · rintro (positive | small) other perm
    · rw [fits_of_positive positive, fits_of_positive fun zero => positive (perm.mem_iff.mp zero),
        perm.prod_eq]
    · have bounded (each : Shape) (same : each.Perm shape) : each.Fits := by
        rw [← (same.filter _).prod_eq] at small
        exact (prod_takeWhile_le each).trans_lt small
      exact iff_of_true (bounded other perm) (bounded shape (.refl _))

end Shape

/-- What some values come to when a shape is given for them: they are taken exactly if the shape
fits and there are as many of them as the product of the extents, and the shape is called too
large exactly if it does not fit. -/
structure Shape.Judges {Fault α : Type} (shape : Shape) (values : Nat) (overflow : Fault)
    (result : Except Fault α) : Prop where
  accepts : (∃ made, result = .ok made) ↔ shape.Fits ∧ shape.prod = values
  overflows : result = .error overflow ↔ ¬ shape.Fits

/-- A check of a number of values, before the values are taken. -/
theorem Shape.Judges.of_check {Fault α : Type} {shape : Shape} {count : Nat}
    {overflow other : Fault} {next : Except Fault α} (different : other ≠ overflow)
    (takes : shape.Fits → shape.prod = count → ∃ made, next = .ok made) :
    shape.Judges count overflow
      ((if shape.Fits then if shape.prod = count then .ok () else .error other
        else .error overflow) >>= fun _ => next) := by
  by_cases fits : shape.Fits
  · by_cases same : shape.prod = count
    · obtain ⟨made, taken⟩ := takes fits same
      rw [if_pos fits, if_pos same, ok_bind, taken]
      exact ⟨iff_of_true ⟨made, rfl⟩ ⟨fits, same⟩, iff_of_false nofun (not_not.mpr fits)⟩
    · rw [if_pos fits, if_neg same]
      refine ⟨iff_of_false nofun fun both => same both.2, iff_of_false ?_ (not_not.mpr fits)⟩
      exact fun equal => different (Except.error.inj equal)
  · rw [if_neg fits]
    exact ⟨iff_of_false nofun fun both => fits both.1, iff_of_true rfl fits⟩

namespace Dense

variable {shape : Shape} {dtype : DType}

/-- The check of a number of values against a shape. -/
theorem checkLength_eq (shape : Shape) (actual : Nat) :
    checkLength shape actual =
      if shape.Fits then
        if shape.prod = actual then .ok () else .error (.dataLength shape shape.prod actual)
      else .error (.shapeOverflow shape) := by
  rw [checkLength, Shape.checkedCount_eq]
  by_cases fits : shape.Fits <;> simp only [if_pos, if_neg, fits, not_false_eq_true]

private theorem ofFloats_judges (floating : dtype.isFloating) (shape : Shape)
    (values : List Binary64) :
    shape.Judges values.length (.shapeOverflow shape) (ofFloats values shape dtype) := by
  rw [ofFloats, if_neg (by simp [floating])]
  change shape.Judges _ _ (checkLength shape values.length >>= fun _ => .ok _)
  rw [checkLength_eq]
  refine .of_check (fun equal => ?_) fun _ _ => ⟨_, rfl⟩
  cases equal

private theorem ofIntegers_judges (integral : dtype.isFloating = false) (shape : Shape)
    (values : List Int) :
    shape.Judges values.length (.shapeOverflow shape) (ofIntegers values shape dtype) := by
  rw [ofIntegers, if_neg (by simp [integral])]
  change shape.Judges _ _ (checkLength shape values.length >>= fun _ => .ok _)
  rw [checkLength_eq]
  refine .of_check (fun equal => ?_) fun _ _ => ⟨_, rfl⟩
  cases equal

end Dense

namespace Document

/-- An object for a tensor, with a type, sizes, and values of the kind that the type asks for. -/
structure Payload (value : Json) (shape : Shape) (count : Nat) : Prop where
  sizes : ∃ sizes, value.get? "sizes" = some (.array sizes) ∧
    sizes.mapM Json.natural? = some shape
  values : ∃ name dtype items, value.get? "dtype" = some (.string name) ∧
    DType.ofName name = .ok dtype ∧ value.get? "values" = some (.array items) ∧
    items.length = count ∧
    if dtype.isFloating then ∃ numbers, items.mapM Json.number? = some numbers
    else ∃ integers, items.mapM Json.integer? = some integers

/-- What is read item by item has as many items. -/
theorem length_of_mapM {α β : Type} {read : α → Option β} {items : List α} {found : List β}
    (reads : items.mapM read = some found) : found.length = items.length := by
  induction items generalizing found with
  | nil =>
      cases reads
      rfl
  | cons item rest ih =>
      rw [List.mapM_cons] at reads
      obtain ⟨first, _, reads⟩ := Option.bind_eq_some_iff.mp reads
      obtain ⟨others, later, same⟩ := Option.bind_eq_some_iff.mp reads
      cases same
      exact congrArg (· + 1) (ih later)

/-- The check of a number of values against sizes. -/
theorem checkCount_judged (sizes : Shape) (actual : Nat) :
    checkCount sizes actual =
      if sizes.Fits then
        if sizes.prod = actual then .ok () else .error (.elementCount sizes.prod actual)
      else .error (.sizesOverflow sizes) := by
  rw [checkCount, Shape.checkedCount_eq]
  by_cases fits : sizes.Fits <;> simp only [if_pos, if_neg, fits, not_false_eq_true]

variable {value : Json} {shape : Shape} {count : Nat}

/-- An object for a tensor is read by counting its values and then taking them. -/
theorem Payload.read (payload : Payload value shape count) : ∃ dtype items,
    tensorOfJson value = (checkCount shape count >>= fun _ => readValues dtype shape items) ∧
      (shape.Fits → shape.prod = count → ∃ made, readValues dtype shape items = .ok made) := by
  obtain ⟨⟨sizes, sized, extents⟩, name, dtype, items, named, known, listed, length, kind⟩ :=
    payload
  obtain ⟨fields, object, sized⟩ := Option.bind_eq_some_iff.mp sized
  have found (key : String) : value.get? key = Registry.find? fields key := by
    rw [Json.get?, object]
    rfl
  rw [found] at named listed
  refine ⟨dtype, items, ?_, fun fits same => ?_⟩
  · rw [tensorOfJson, object]
    simp only [named, Option.bind_some, Json.string?, known, Except.mapError, ok_bind, field, sized,
      listed, Json.array?, extents, length]
  · rw [readValues]
    by_cases floating : dtype.isFloating
    · rw [if_pos floating] at kind ⊢
      obtain ⟨numbers, numbered⟩ := kind
      have counted : shape.prod = numbers.length := by
        rw [same, length_of_mapM numbered, length]
      obtain ⟨made, taken⟩ :=
        (Dense.ofFloats_judges floating shape numbers).accepts.mpr ⟨fits, counted⟩
      exact ⟨made, by simp only [numbered, taken, Except.mapError]⟩
    · rw [if_neg floating] at kind ⊢
      obtain ⟨integers, numbered⟩ := kind
      have counted : shape.prod = integers.length := by
        rw [same, length_of_mapM numbered, length]
      obtain ⟨made, taken⟩ := (Dense.ofIntegers_judges (Bool.eq_false_iff.mpr floating) shape
        integers).accepts.mpr ⟨fits, counted⟩
      exact ⟨made, by simp only [numbered, taken, Except.mapError]⟩

/-- The number of values in a document is counted twice, and the second time it is right. -/
theorem tensorOfJson_judges (payload : Payload value shape count) :
    shape.Judges count (.sizesOverflow shape) (tensorOfJson value) := by
  obtain ⟨dtype, items, read, takes⟩ := payload.read
  rw [read, checkCount_judged]
  refine .of_check (fun equal => ?_) takes
  cases equal

/-- **Elements are counted from left to right.**  Values are taken, as numbers, as integers or
from a document, exactly if there are as many as the product of the extents and the extents in
front of the first zero can be multiplied up; the shape is called too large exactly if they can
not.  Without a zero this is the product of all extents, and the order of the extents does not
matter exactly if there is no zero or the others fit without it. -/
theorem elements_counted (shape : Shape) :
    (∀ dtype : DType, dtype.isFloating → ∀ values, shape.Judges values.length
      (.shapeOverflow shape) (Dense.ofFloats values shape dtype)) ∧
    (∀ dtype : DType, dtype.isFloating = false → ∀ values, shape.Judges values.length
      (.shapeOverflow shape) (Dense.ofIntegers values shape dtype)) ∧
    (∀ value count, Payload value shape count →
      shape.Judges count (.sizesOverflow shape) (tensorOfJson value)) ∧
    (0 ∉ shape → (shape.Fits ↔ shape.prod < 0x10000000000000000)) ∧
    ((∀ other : Shape, other.Perm shape → (other.Fits ↔ shape.Fits)) ↔
      0 ∉ shape ∨ (shape.filter (· ≠ 0)).prod < 0x10000000000000000) :=
  ⟨fun _ floating => Dense.ofFloats_judges floating shape,
    fun _ integral => Dense.ofIntegers_judges integral shape,
    fun _ _ payload => tensorOfJson_judges payload, Shape.fits_of_positive, shape.fits_perm_iff⟩

namespace Elementless

/-- Sizes without elements that fit in this order. -/
def sizes : Shape := [0, 0x4000000000000000, 8]

/-- The same sizes in an order in which they do not fit. -/
def turned : Shape := [0x4000000000000000, 8, 0]

/-- The document of a tensor without elements. -/
def tensor : Json :=
  .object [("dtype", .string "torch.float64"), ("sizes", .ofSizes sizes), ("values", .array [])]

private theorem tensor_payload : Payload tensor sizes 0 :=
  ⟨⟨_, rfl, rfl⟩, "torch.float64", .float64, [], rfl, rfl, rfl, rfl, [], rfl⟩

end Elementless

open Elementless

/-- No values are taken for sizes that start with zero, whatever follows. -/
theorem elements_counted_empty :
    (∃ made, Dense.ofFloats [] sizes .float64 = .ok made) ∧
    (∃ made, Dense.ofIntegers [] sizes .int32 = .ok made) ∧
    Payload tensor sizes 0 ∧ (∃ made, tensorOfJson tensor = .ok made) ∧
    ¬ ∀ other : Shape, other.Perm sizes → (other.Fits ↔ sizes.Fits) := by
  obtain ⟨floats, integers, document, _, order⟩ := elements_counted sizes
  have fits : sizes.Fits ∧ sizes.prod = 0 := by decide
  refine ⟨(floats .float64 rfl []).accepts.mpr fits, (integers .int32 rfl []).accepts.mpr fits,
    tensor_payload, (document tensor 0 tensor_payload).accepts.mpr fits, fun same => ?_⟩
  exact absurd (order.mp same) (by decide)

/-- Sizes of which the last is zero are refused for no values, although they make no elements;
they are called too large; and in another order they are accepted. -/
theorem no_elements_refused :
    (¬ ∀ (shape : Shape) (values : List Binary64),
      (∃ made, Dense.ofFloats values shape .float64 = .ok made) ↔ shape.prod = values.length) ∧
    (¬ ∀ (shape : Shape) (values : List Binary64),
      Dense.ofFloats values shape .float64 = .error (.shapeOverflow shape) →
        0x10000000000000000 ≤ shape.prod) ∧
    ¬ ∀ (shape other : Shape) (values : List Binary64), other.Perm shape →
      ((∃ made, Dense.ofFloats values other .float64 = .ok made) ↔
        ∃ made, Dense.ofFloats values shape .float64 = .ok made) := by
  have refused : Dense.ofFloats [] turned .float64 = .error (.shapeOverflow turned) := rfl
  have no_data : ¬ ∃ made, Dense.ofFloats [] turned .float64 = .ok made := by
    rw [refused]
    exact nofun
  refine ⟨fun judged => no_data ((judged turned []).mpr (by decide)),
    fun judged => absurd (judged turned [] refused) (by decide), fun same => ?_⟩
  exact no_data ((same sizes turned [] (by decide)).mpr ⟨_, rfl⟩)

end Document

end Atomistic
