import Atomistic.Proofs.Autograd.Steps

/-!
# Marks

The marks of a tensor say whether it requires a gradient and which node produced it.
Making tensors, forgetting gradients and carrying them back change no marks.  Whoever
marks leaves only if they are of a floating point type keeps a tape on which all marked
leaves are (`Atomistic.Tape.Marked`); the outputs of nodes are marked whatever their type.
-/

namespace Atomistic

namespace Tape

variable {D : Type}

/-- Whether each tensor requires a gradient, and which node produced it. -/
def marks (tape : Tape D) (tensor : Nat) : Bool × Option Nat :=
  ((tape.state tensor).requiresGrad, (tape.state tensor).gradFn)

variable {tape after : Tape D}

private theorem requiresGrad_of_marks (same : after.marks = tape.marks) (tensor : Nat) :
    (after.state tensor).requiresGrad = (tape.state tensor).requiresGrad :=
  congrArg Prod.fst (congrFun same tensor)

/-- The marks say which node produced a tensor. -/
theorem gradFn_of_marks (same : after.marks = tape.marks) (tensor : Nat) :
    (after.state tensor).gradFn = (tape.state tensor).gradFn :=
  congrArg Prod.snd (congrFun same tensor)

/-- Whether a tensor requires a gradient has nothing to do with what produced it. -/
theorem gradFn_setFlag (tape : Tape D) (tensor : Nat) (requiresGrad : Bool) (other : Nat) :
    ((tape.setState tensor { tape.state tensor with requiresGrad }).state other).gradFn =
      (tape.state other).gradFn := by
  rw [state_setState]
  split
  next same => rw [same]
  next => rfl

/-- A tensor that is given another gradient keeps its marks, and all others keep theirs. -/
theorem marks_setGrad (tape : Tape D) (tensor : Nat) (grad : Option (Tensor D)) :
    (tape.setState tensor { tape.state tensor with grad }).marks = tape.marks := by
  funext other
  rw [marks, state_setState]
  split
  next same =>
    rw [same]
    rfl
  next => rfl

variable [TensorData D]

private theorem marks_deliver (tape : Tape D) (leaf : Tensor D) (gradient : View D) :
    (tape.deliver leaf gradient).marks = tape.marks :=
  marks_setGrad (tape.place _).2 leaf.number _

private theorem marks_deliverAll (delivered : List (Tensor D × View D)) :
    ∀ tape : Tape D, (tape.deliverAll delivered).marks = tape.marks := by
  induction delivered with
  | nil => exact fun _ => rfl
  | cons entry rest ih =>
      intro tape
      exact (ih (tape.deliver entry.1 entry.2)).trans (tape.marks_deliver entry.1 entry.2)

/-- Carrying gradients back changes no marks, also when it fails. -/
theorem marks_backward (tape : Tape D) (root : Tensor D) (seed : View D) :
    (tape.backward root seed).2.marks = tape.marks := by
  rw [Tape.backward]
  split
  · cases accept tape.sweeps root seed with
    | error fault => rfl
    | ok gradient => exact marks_deliver { tape with sweeps := tape.sweeps + 1 } root gradient
  · exact marks_deliverAll _ { tape with sweeps := tape.sweeps + 1 }

/-- The outputs of nodes require gradients, and of the leaves only those of a floating
point type do. -/
structure Marked (tape : Tape D) : Prop where
  produced : ∀ tensor node, (tape.state tensor).gradFn = some node →
    (tape.state tensor).requiresGrad
  leaves : ∀ tensor, tape.Knows tensor → (tape.state tensor.number).requiresGrad →
    (tape.state tensor.number).gradFn = none → (TensorData.dtype tensor.data).isFloating

/-- On the empty tape no tensor is marked. -/
theorem Marked.start : Marked ({} : Tape D) where
  produced tensor node produced := by cases produced
  leaves tensor known := by simp [Knows] at known

/-- Only tensors that have been made require gradients. -/
theorem Sound.marked_lt (sound : tape.Sound) {tensor : Nat}
    (tracked : (tape.state tensor).requiresGrad) : tensor < tape.tensors.size := by
  by_contra outside
  rw [state, sound.listed tensor (Nat.le_of_not_lt outside)] at tracked
  cases tracked

/-- Steps that change no marks keep a tape marked: the new tensors have none. -/
theorem Marked.of_marks (marked : tape.Marked) (sound : tape.Sound) (steps : Steps tape after)
    (same : after.marks = tape.marks) : after.Marked where
  produced tensor node produced := by
    rw [gradFn_of_marks same] at produced
    rw [requiresGrad_of_marks same]
    exact marked.produced tensor node produced
  leaves tensor known tracked leaf := by
    rw [requiresGrad_of_marks same] at tracked
    rw [gradFn_of_marks same] at leaf
    have inside := sound.marked_lt tracked
    let older : Tensor D := ⟨tape.tensors[tensor.number], tensor.number⟩
    have older_known : tape.Knows older := Array.getElem?_eq_getElem inside
    have one : older = tensor := (steps.knows older_known).unique known rfl
    exact marked.leaves tensor (one ▸ older_known) tracked leaf

/-- A tape stays marked when a tensor is marked as the output of a node or is a leaf of a
floating point type. -/
theorem Marked.setState (marked : tape.Marked) {tensor : Tensor D} (known : tape.Knows tensor)
    {state : GradState D} (produced : ∀ node, state.gradFn = some node → state.requiresGrad)
    (leaf : state.requiresGrad → state.gradFn = none → (TensorData.dtype tensor.data).isFloating) :
    (tape.setState tensor.number state).Marked where
  produced other node stored := by
    rw [state_setState] at stored ⊢
    split at stored
    next same =>
      rw [if_pos same]
      exact produced node stored
    next distinct =>
      rw [if_neg distinct]
      exact marked.produced other node stored
  leaves other present := by
    rw [state_setState]
    split
    next same =>
      rw [present.unique known same]
      exact leaf
    next => exact marked.leaves other present

/-- Floating leaves can be marked. -/
theorem Marked.setRequiresGrad (marked : tape.Marked) {tensor : Tensor D}
    (known : tape.Knows tensor) {requiresGrad : Bool}
    (floating : requiresGrad → (TensorData.dtype tensor.data).isFloating)
    (changed : tape.setRequiresGrad tensor.number requiresGrad = .ok after) : after.Marked := by
  rw [Tape.setRequiresGrad] at changed
  split at changed
  · cases changed
  next leaf =>
    rw [← Except.ok.inj changed]
    refine marked.setState known (fun node produced => ?_) fun tracked _ => floating tracked
    rw [produced] at leaf
    exact absurd rfl leaf

/-- The output of a node is marked, whatever its element type is. -/
theorem Marked.attach (marked : tape.Marked) {output : Tensor D} (known : tape.Knows output)
    {node : Node D} (attached : tape.attach output node = .ok after) : after.Marked := by
  have pushed : ({ tape with nodes := tape.nodes.push node } : Tape D).Marked :=
    ⟨marked.produced, marked.leaves⟩
  rw [Tape.attach] at attached
  split at attached
  · cases attached
  · rw [← Except.ok.inj attached]
    exact pushed.setState known (fun _ _ => rfl) fun _ leaf =>
      absurd leaf (Option.some_ne_none _)

end Tape

end Atomistic
