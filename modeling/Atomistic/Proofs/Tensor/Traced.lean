import Atomistic.Proofs.Tensor.Transfer

/-!
# Tracing without data

Operations that take one tensor to another can be run on a tensor without data, to learn the
shape and the element type of what they make.  They always succeed, with data or without
(`Atomistic.Unary.runAll_decides`).  What they make without data has the type of the last cast,
since a sum leaves the type as it is (`Atomistic.Unary.applyAll_onMeta`); what they make of data
has the same shape, and the type of the last cast unless integers were summed since, whose sum is
of type `int64` (`Atomistic.Unary.applyAll_kind`).
-/

namespace Atomistic

open Workspace

variable {workspace : Workspace} {d : Dense}

/-- A sum can always be made, tracked or not. -/
theorem Tensor.sum_decides (tensor : Tensor) (clean : workspace.Clean) :
    tensor.sum.Decides Cleanly True workspace fun made _ => made.data = tensor.data.sum := by
  have created := @Session.create_decides TensorError workspace clean tensor.data.sum
  have tracked : (Session.requiresGrad tensor : Session TensorError Bool).Decides Cleanly True
      workspace fun _ after => after = workspace := .gives rfl trivial id rfl
  unfold Tensor.sum
  apply tracked.follow
  intro flag middle _ stays
  subst stays
  split
  · refine @Operation.apply_decides _ _ _ _ _ _ (fun output => output.data = tensor.data.sum) ?_
    apply created.follow
    rintro output after _ ⟨held, blank⟩
    exact .gives rfl trivial (Grows.refl _) ⟨held, blank⟩
  · exact created.cleanly.weaken fun _ _ _ held => held.1

/-- An operation that takes one tensor to another, on whatever device that is. -/
inductive Unary
  | sum
  | cast (dtype : DType)
  | detach

namespace Unary

/-- Run an operation. -/
def run : Unary → Tensor → Session TensorError Tensor
  | sum, tensor => tensor.sum
  | cast dtype, tensor => tensor.transfer (some dtype) none
  | detach, tensor => tensor.detach

/-- Run operations one after another. -/
def runAll (operations : List Unary) (tensor : Tensor) : Session TensorError Tensor :=
  operations.foldlM (fun tensor operation => operation.run tensor) tensor

/-- The data that an operation makes of data. -/
def apply (d : Dense) : Unary → Dense
  | sum => d.sum
  | cast dtype => d.recast (some dtype) none
  | detach => d

/-- The data that operations make, one after another. -/
def applyAll (operations : List Unary) (d : Dense) : Dense := operations.foldl apply d

/-- The shape of what an operation makes. -/
def shape (shape : Shape) : Unary → Shape
  | sum => []
  | _ => shape

/-- The element type of what an operation makes of data that is there. -/
def dtype (dtype : DType) : Unary → DType
  | sum => if dtype.isFloating then dtype else .int64
  | cast new => new
  | detach => dtype

/-- The type of the last cast, or else the one that there was. -/
def lastType (dtype : DType) : List Unary → DType
  | [] => dtype
  | cast new :: rest => lastType new rest
  | _ :: rest => lastType dtype rest

/-- Whether there is a sum after the last cast, or there was one before and there is no cast. -/
def summedSince (summed : Bool) : List Unary → Bool
  | [] => summed
  | sum :: rest => summedSince true rest
  | cast _ :: rest => summedSince false rest
  | detach :: rest => summedSince summed rest

/-- The type of what is there when a type was cast to and summed since, or not. -/
def settled (dtype : DType) (summed : Bool) : DType :=
  if summed && !dtype.isFloating then .int64 else dtype

section Data

variable (valid : d.Valid)

include valid

private theorem apply_valid (operation : Unary) : (apply d operation).Valid := by
  cases operation with
  | sum => exact valid.sum
  | cast dtype => exact valid.recast id
  | detach => exact valid

private theorem apply_kind (present : d.device ≠ .metadata) (operation : Unary) :
    (apply d operation).shape = operation.shape d.shape ∧
      (apply d operation).dtype = operation.dtype d.dtype ∧
      (apply d operation).device = d.device := by
  cases operation with
  | sum =>
      cases valid with
      | floats floating _ _ _ =>
          refine ⟨rfl, ?_, rfl⟩
          simp only [dtype, floating, ↓reduceIte]
          rfl
      | integers integral _ _ _ =>
          refine ⟨rfl, ?_, rfl⟩
          simp only [dtype, integral, Bool.false_eq_true, ↓reduceIte]
          rfl
      | absent _ => exact absurd rfl present
  | cast new => exact valid.recast_kind id
  | detach => exact ⟨rfl, rfl, rfl⟩

end Data

/-- Without data an operation makes nothing but a shape and a type, and a sum keeps the type. -/
theorem apply_onMeta (shape : Shape) (dtype : DType) (operation : Unary) :
    apply (.onMeta shape dtype) operation =
      .onMeta (operation.shape shape) (lastType dtype [operation]) := by
  cases operation <;> rfl

/-- Operations on data without values change shape and element type only. -/
theorem applyAll_onMeta (operations : List Unary) (shape : Shape) (dtype : DType) :
    applyAll operations (.onMeta shape dtype) =
      .onMeta (operations.foldl Unary.shape shape) (lastType dtype operations) := by
  induction operations generalizing shape dtype with
  | nil => rfl
  | cons operation rest ih =>
      rw [applyAll, List.foldl_cons, apply_onMeta]
      refine (ih _ _).trans ?_
      cases operation <;> rfl

private theorem settled_sum (dtype : DType) (summed : Bool) :
    sum.dtype (settled dtype summed) = settled dtype true := by
  cases dtype <;> cases summed <;> rfl

/-- What holds of all that operations make of data that is there. -/
theorem applyAll_kind (operations : List Unary) {last : DType} {summed : Bool} (valid : d.Valid)
    (present : d.device ≠ .metadata) (start : d.dtype = settled last summed) :
    (applyAll operations d).shape = operations.foldl Unary.shape d.shape ∧
      (applyAll operations d).dtype =
        settled (lastType last operations) (summedSince summed operations) ∧
      (applyAll operations d).device = d.device := by
  induction operations generalizing d last summed with
  | nil => exact ⟨rfl, start, rfl⟩
  | cons operation rest ih =>
      obtain ⟨shape, dtype, device⟩ := apply_kind valid present operation
      have there : (apply d operation).device ≠ .metadata := device ▸ present
      have later {last : DType} {summed : Bool} :=
        @ih (apply d operation) last summed (apply_valid valid operation) there
      rw [shape, device] at later
      cases operation with
      | sum =>
          refine later (dtype.trans ?_)
          rw [start]
          exact settled_sum last summed
      | cast new => exact @later new false dtype
      | detach => exact later start

/-- What a tensor without data becomes has the type of the last cast, whatever was summed. -/
theorem settled_eq_iff (dtype : DType) (summed : Bool) :
    dtype = settled dtype summed ↔ dtype.isFloating ∨ dtype = .int64 ∨ summed = false := by
  cases dtype <;> cases summed <;> decide

/-- **Operations always succeed**, whether the tensor is tracked or not and has data or not. -/
theorem runAll_decides (operations : List Unary) {tensor : Tensor} (valid : tensor.data.Valid)
    (clean : workspace.Clean) :
    (runAll operations tensor).Decides Cleanly True workspace fun made _ =>
      made.data = applyAll operations tensor.data := by
  induction operations generalizing tensor workspace with
  | nil => exact .gives rfl trivial id rfl
  | cons operation rest ih =>
      have first : (operation.run tensor).Decides Cleanly True workspace fun made _ =>
          made.data = apply tensor.data operation := by
        cases operation with
        | sum => exact tensor.sum_decides clean
        | cast dtype =>
            exact (Tensor.transfer_recasts clean valid (some dtype) none).congr
              (iff_of_true trivial id)
        | detach =>
            exact (Session.place_decides clean tensor.keep).cleanly.weaken fun _ _ _ made => made.1
      rw [runAll, List.foldlM_cons]
      refine first.follow fun made after moved held => ?_
      have later := @ih after made (held ▸ apply_valid valid operation) (moved clean)
      rw [held] at later
      exact later

end Unary

end Atomistic
