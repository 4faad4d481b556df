import Atomistic.Proofs.Document.RoundTrip
import Atomistic.Proofs.Tensor.Traced

/-!
# Tracing tensors at hand

Operations are run on a tensor at hand, and again on the tensor moved to the meta device, where
nothing but shapes and types is left.  Both runs succeed and give the same shape.  They give the
same type exactly if no integers of another type than `int64` are summed after the last cast
(`Atomistic.World.Reachable.trace_agrees`): the sum of such integers is of type `int64`, and
without data it keeps their type (`Atomistic.World.Alone.trace_sum_narrow`).
-/

namespace Atomistic

/-- Run operations on a tensor that is moved to the meta device first. -/
def Unary.trace (operations : List Unary) (tensor : Tensor) : Session TensorError Tensor := do
  runAll operations (← tensor.transfer none (some .metadata))

namespace World

open Unary Workspace

/-- **Tracing gives the shape, and the type up to sums.** -/
theorem Reachable.trace_agrees {world : World} (reachable : world.Reachable) {tensor : Tensor}
    (known : world.workspace.tape.Knows tensor) (present : tensor.device ≠ .metadata)
    (operations : List Unary) :
    let last := lastType tensor.dtype operations
    ∃ real realAfter traced tracedAfter,
      (runAll operations tensor).exec world.workspace = (.ok real, realAfter) ∧
      (trace operations tensor).exec world.workspace = (.ok traced, tracedAfter) ∧
      traced.shape = real.shape ∧ traced.device = .metadata ∧ real.device = tensor.device ∧
      traced.dtype = last ∧ real.dtype = settled last (summedSince false operations) ∧
      (traced.dtype = real.dtype ↔
        last.isFloating ∨ last = .int64 ∨ summedSince false operations = false) := by
  intro last
  have sound := reachable.sound
  have clean := clean_of_sound sound.tape
  have valid : tensor.data.Valid := sound.holds.knows known
  obtain ⟨real, realAfter, ran, held⟩ := (runAll_decides operations valid clean).succeeds
  have moving : (tensor.transfer none (some .metadata)).Decides Cleanly True world.workspace
      fun made _ => made.data = .onMeta tensor.shape tensor.dtype :=
    (Tensor.transfer_recasts clean valid none (some .metadata)).congr
      (iff_of_true trivial fun _ => rfl)
  have tracing : (trace operations tensor).Decides Cleanly True world.workspace fun made _ =>
      made.data = applyAll operations (.onMeta tensor.shape tensor.dtype) := by
    refine moving.follow fun moved middle cleanly placed => ?_
    have moved_valid : moved.data.Valid := by
      obtain ⟨count, counted⟩ := valid.counted
      exact placed ▸ .absent counted
    exact placed ▸ runAll_decides operations moved_valid (cleanly clean)
  obtain ⟨traced, tracedAfter, traced_ran, traced_held⟩ := tracing.succeeds
  rw [applyAll_onMeta] at traced_held
  obtain ⟨shape, dtype, device⟩ := @applyAll_kind tensor.data operations tensor.dtype false valid
    present rfl
  rw [← held] at shape dtype device
  have traced_dtype : traced.dtype = last := congrArg Dense.dtype traced_held
  refine ⟨real, realAfter, traced, tracedAfter, ran, traced_ran, ?_,
    congrArg Dense.device traced_held, device, traced_dtype, dtype, ?_⟩
  · exact (congrArg Dense.shape traced_held).trans shape.symm
  · rw [traced_dtype, show real.dtype = _ from dtype]
    exact settled_eq_iff last _

namespace Alone

/-- A cast to double precision, a sum and a cast to `int32` are traced to the same type. -/
theorem trace_agrees_cast : made.Reachable ∧ made.workspace.tape.Knows (tensor 0) ∧
    (tensor 0).device ≠ .metadata ∧ ∃ real realAfter traced tracedAfter,
      (runAll [.cast .float64, .sum, .cast .int32] (tensor 0)).exec made.workspace =
        (.ok real, realAfter) ∧
      (trace [.cast .float64, .sum, .cast .int32] (tensor 0)).exec made.workspace =
        (.ok traced, tracedAfter) ∧
      traced.shape = real.shape ∧ traced.dtype = .int32 ∧ traced.dtype = real.dtype := by
  have reachable : made.Reachable := .single (.run made_run)
  have known : made.workspace.tape.Knows (tensor 0) := rfl
  have present : (tensor 0).device ≠ .metadata := by decide
  obtain ⟨real, realAfter, traced, tracedAfter, ran, traced_ran, shape, _, _, dtype, _, agrees⟩ :=
    reachable.trace_agrees known present [.cast .float64, .sum, .cast .int32]
  exact ⟨reachable, known, present, real, realAfter, traced, tracedAfter, ran, traced_ran, shape,
    dtype, agrees.mpr (.inr (.inr rfl))⟩

/-- The sum of `int32` numbers is not traced to its type. -/
theorem trace_sum_narrow : ¬ ∀ (world : World), world.Reachable → ∀ tensor,
    world.workspace.tape.Knows tensor → tensor.device ≠ .metadata → ∀ operations,
      ∀ real realAfter traced tracedAfter,
        (runAll operations tensor).exec world.workspace = (.ok real, realAfter) →
        (trace operations tensor).exec world.workspace = (.ok traced, tracedAfter) →
        traced.shape = real.shape ∧ traced.dtype = real.dtype := by
  intro agrees
  have reachable : made.Reachable := .single (.run made_run)
  have same := (agrees made reachable (tensor 0) rfl (by decide) [.sum] _ _ _ _ rfl rfl).2
  exact absurd same (by decide)

end Alone

end World

end Atomistic
