import Atomistic.Proofs.World

/-!
# Which tensors require gradients

A leaf is marked only if it is of a floating point type, since only `setRequiresGrad`
marks leaves.  The output of a node is marked when the node is attached, and `attach` does
not look at its type.  So a tensor that requires a gradient is of a floating point type
unless an operation was applied that gave it as its output
(`Atomistic.World.Reachable.requiresGrad_floating`), and there are operations that do
(`Atomistic.World.Counted.requiresGrad_integers`).
-/

namespace Atomistic

namespace World

/-- **Only floating point leaves require gradients.** All tensors that require gradients
are of a floating point type exactly as long as all outputs of nodes are. -/
theorem Reachable.requiresGrad_floating {world : World} (reachable : world.Reachable) :
    (∀ tensor, world.workspace.tape.Knows tensor →
      (world.workspace.tape.state tensor.number).requiresGrad →
      (world.workspace.tape.state tensor.number).gradFn = none → tensor.dtype.isFloating) ∧
    ((∀ tensor, world.workspace.tape.Knows tensor →
        (world.workspace.tape.state tensor.number).requiresGrad → tensor.dtype.isFloating) ↔
      ∀ tensor, world.workspace.tape.Knows tensor →
        ∀ node, (world.workspace.tape.state tensor.number).gradFn = some node →
          tensor.dtype.isFloating) := by
  have marked := reachable.sound.marked
  refine ⟨marked.leaves, fun floating tensor known node produced => ?_,
    fun floating tensor known tracked => ?_⟩
  · exact floating tensor known (marked.produced tensor.number node produced)
  · cases produced : (world.workspace.tape.state tensor.number).gradFn with
    | none => exact marked.leaves tensor known tracked produced
    | some node => exact floating tensor known node produced

namespace Counted

/-- An operation whose output is whatever it counted, without gradients. -/
def count : Operation where
  name := "CountBackward"
  rule := fun _ _ => return []

/-- A number. -/
def number : Tensor := ⟨⟨.full [] .one .float64 .cpu, .ofTensor 0⟩, 0⟩

/-- An integer. -/
def integer : Tensor := ⟨⟨⟨[], .int64, .cpu, .integers [1]⟩, .ofTensor 1⟩, 1⟩

/-- A number that requires a gradient, and an integer. -/
def made : Workspace :=
  let first := ((Session.create number.data : Session TensorError Tensor).exec {}).2
  let marked := ((number.setRequiresGrad true).exec first).2
  ((Session.create integer.data : Session TensorError Tensor).exec marked).2

/-- The integer has been given as a function of the number. -/
def counted : World where
  workspace := ((count.apply (id : TensorError → TensorError) [number]
    (pure { output := integer })).exec made).2

/-- The tensors of the example are made in a run. -/
theorem made_run : Run Dense.Valid {} made := by
  have number_valid : number.data.Valid := .floats rfl (by decide) rfl fun _ _ => rfl
  have integer_valid : integer.data.Valid := .integers rfl (by decide) rfl (by decide)
  refine .trans (.create {} number_valid)
    (.trans (.setRequiresGrad ?_ true) (.create _ integer_valid))
  rfl

private theorem counted_reachable : counted.Reachable := by
  have applied : Run Dense.Valid made counted.workspace := by
    refine .apply (fun _ _ outcomes _ _ ruled outcome member => ?_) ?_ (.refl made) ?_
    · cases ruled
      cases member
    · exact List.forall_mem_singleton.mpr rfl
    · intro forward gave
      cases gave
      exact List.forall_mem_singleton.mpr rfl
  exact .single (.run (.trans made_run applied))

/-- An operation can mark a tensor of integers. -/
theorem requiresGrad_integers :
    ¬ ∀ world : World, world.Reachable → ∀ tensor, world.workspace.tape.Knows tensor →
      (world.workspace.tape.state tensor.number).requiresGrad → tensor.dtype.isFloating := by
  intro floating
  exact absurd (floating counted counted_reachable integer rfl rfl) (by decide)

/-- A tensor of integers requires a gradient after a function that counts. -/
theorem requiresGrad_floating_counted : counted.Reachable ∧
    (∀ tensor, counted.workspace.tape.Knows tensor →
      (counted.workspace.tape.state tensor.number).requiresGrad →
      (counted.workspace.tape.state tensor.number).gradFn = none → tensor.dtype.isFloating) ∧
    ¬ ∀ tensor, counted.workspace.tape.Knows tensor →
      (counted.workspace.tape.state tensor.number).requiresGrad → tensor.dtype.isFloating := by
  obtain ⟨leaves, all⟩ := counted_reachable.requiresGrad_floating
  refine ⟨counted_reachable, leaves, fun floating => ?_⟩
  have outputs := all.mp floating integer rfl 0 rfl
  exact absurd outputs (by decide)

end Counted

end World

end Atomistic
