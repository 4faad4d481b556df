import Atomistic.Proofs.Autograd.Carried
import Atomistic.Proofs.Autograd.Steps

/-!
# What a tape holds

When conversions and sums make data of some kind from data of that kind, and so do
the rules of all nodes, a tape that holds only such data goes on to hold only such
data: when tensors are made and nodes are attached, and when gradients are carried
back (`Atomistic.Tape.Holds.backward`).
-/

namespace Atomistic

variable {D : Type}

/-- Conversions and sums make data of a kind from data of that kind. -/
structure TensorData.Closed [TensorData D] (allowed : D → Prop) : Prop where
  convert : ∀ {data new dtype device}, allowed data →
    TensorData.convert data dtype device = .ok new → allowed new
  add : ∀ {old new total}, allowed old → allowed new → TensorData.add old new = .ok total →
    allowed total

/-- The rule of a node makes gradients of a kind from gradients of that kind. -/
def Node.Keeps (allowed : D → Prop) (node : Node D) : Prop :=
  ∀ gradient outcomes, allowed gradient.data → node.rule node.context gradient = .ok outcomes →
    ∀ outcome : Outcome D, some outcome ∈ outcomes → allowed outcome.data

namespace Tape

/-- All data on a tape is of a kind. -/
structure Holds (allowed : D → Prop) (tape : Tape D) : Prop where
  tensors : ∀ (number : Nat) (view : View D), tape.tensors[number]? = some view → allowed view.data
  grads : ∀ tensor grad, (tape.state tensor).grad = some grad → allowed grad.data
  nodes : ∀ (number : Nat) (node : Node D), tape.nodes[number]? = some node → node.Keeps allowed

variable {allowed : D → Prop} {tape after : Tape D}

/-- The empty tape holds nothing. -/
theorem Holds.start : Holds allowed ({} : Tape D) where
  tensors number view present := by simp at present
  grads tensor grad stored := by cases stored
  nodes number node present := by simp at present

/-- Tensors that were made hold allowed data. -/
theorem Holds.knows (holds : tape.Holds allowed) {tensor : Tensor D} (known : tape.Knows tensor) :
    allowed tensor.data :=
  holds.tensors tensor.number tensor.toView known

/-- A tape can take another tensor with allowed data. -/
theorem Holds.place (holds : tape.Holds allowed) {outcome : Outcome D}
    (new : allowed outcome.data) :
    (tape.place outcome).2.Holds allowed where
  tensors number view present := by
    rw [Tape.place, Array.getElem?_push] at present
    split at present
    · rw [← Option.some.inj present]
      exact new
    · exact holds.tensors number view present
  grads := holds.grads
  nodes := holds.nodes

private theorem Holds.setState (holds : tape.Holds allowed) (number : Nat) {state : GradState D}
    (fine : ∀ grad, state.grad = some grad → allowed grad.data) :
    (tape.setState number state).Holds allowed where
  tensors := holds.tensors
  grads other grad stored := by
    rw [state_setState] at stored
    split at stored
    · exact fine grad stored
    · exact holds.grads other grad stored
  nodes := holds.nodes

/-- Whether a leaf requires a gradient has nothing to do with data. -/
theorem Holds.setRequiresGrad (holds : tape.Holds allowed) {tensor : Nat} {requiresGrad : Bool}
    (changed : tape.setRequiresGrad tensor requiresGrad = .ok after) : after.Holds allowed := by
  rw [Tape.setRequiresGrad] at changed
  split at changed
  · cases changed
  · rw [← Except.ok.inj changed]
    exact holds.setState tensor (holds.grads tensor)

/-- A tape can forget a gradient. -/
theorem Holds.zeroGrad (holds : tape.Holds allowed) (tensor : Nat) :
    (tape.zeroGrad tensor).Holds allowed :=
  holds.setState tensor fun _ stored => nomatch stored

/-- A tape can take a node whose rule keeps to allowed data. -/
theorem Holds.attach (holds : tape.Holds allowed) {output : Tensor D} {node : Node D}
    (keeps : node.Keeps allowed) (attached : tape.attach output node = .ok after) :
    after.Holds allowed := by
  have pushed : ({ tape with nodes := tape.nodes.push node } : Tape D).Holds allowed := by
    refine ⟨holds.tensors, holds.grads, fun number other present => ?_⟩
    rw [Array.getElem?_push] at present
    split at present
    · rw [← Option.some.inj present]
      exact keeps
    · exact holds.nodes number other present
  rw [Tape.attach] at attached
  split at attached
  · cases attached
  · rw [← Except.ok.inj attached]
    exact pushed.setState _ (holds.grads output.number)

variable [TensorData D] (closed : TensorData.Closed allowed)

include closed

private theorem Holds.deliver (holds : tape.Holds allowed) (leaf : Tensor D) {gradient : View D}
    (fine : allowed gradient.data) : (tape.deliver leaf gradient).Holds allowed := by
  have stored {total : Outcome D} (new : allowed total.data) :
      ((tape.place total).2.setState leaf.number
        { tape.state leaf.number with grad := some (tape.place total).1 }).Holds allowed := by
    refine (holds.place new).setState leaf.number fun grad present => ?_
    rw [← Option.some.inj present]
    exact new
  rw [Tape.deliver]
  dsimp only
  split
  · exact stored fine
  next old held =>
    have old_fine := holds.grads leaf.number old held
    split
    next data sum =>
      have added : allowed (Outcome.data ⟨data, none⟩) := closed.add old_fine fine sum
      exact stored added
    · exact stored old_fine

private theorem Holds.deliverAll (delivered : List (Tensor D × View D)) :
    ∀ {tape : Tape D}, tape.Holds allowed → (∀ entry ∈ delivered, allowed entry.2.data) →
      (tape.deliverAll delivered).Holds allowed := by
  induction delivered with
  | nil =>
      intro tape holds _
      exact holds
  | cons entry rest ih =>
      intro tape holds fine
      exact ih (holds.deliver closed entry.1 (fine entry List.mem_cons_self))
        fun other member => fine other (List.mem_cons_of_mem _ member)

/-- What is converted stays allowed. -/
theorem convert_allowed {view : View D} (fine : allowed view.data) {dtype : DType}
    {device : Device} {outcome : Outcome D} (converted : view.convert dtype device = .ok outcome) :
    allowed outcome.data := by
  obtain ⟨data, cast, made⟩ := ok_of_bind converted
  rw [← Except.ok.inj made]
  exact closed.convert fine cast

/-- What a leaf takes is allowed if what arrives is. -/
theorem accept_allowed {sweep : Nat} {leaf : Tensor D} {raw gradient : View D}
    (fine : allowed raw.data) (accepted : accept sweep leaf raw = .ok gradient) :
    allowed gradient.data := by
  rw [accept] at accepted
  obtain ⟨_, taken⟩ := ok_of_check accepted
  obtain ⟨outcome, converted, placed⟩ := ok_of_bind taken
  rw [← Except.ok.inj placed]
  exact convert_allowed closed fine converted

/-- The graph of a tape keeps to the kind of data that the tape holds. -/
theorem Holds.graph_keeps (holds : tape.Holds allowed) :
    tape.graph.Keeps fun gradient => allowed gradient.data where
  rule {number gradient gradients} fine ruled := by
    intro new member
    rw [graph] at ruled
    dsimp only at ruled
    split at ruled
    · cases ruled
      cases member
    next node stored =>
      obtain ⟨outcomes, made, placed⟩ := ok_of_bind ruled
      rw [← Except.ok.inj placed] at member
      obtain ⟨slot, inside, same⟩ := List.mem_mapIdx.mp member
      obtain ⟨outcome, present, view⟩ := Option.map_eq_some_iff.mp same
      rw [← view]
      exact holds.nodes number node stored gradient outcomes fine made outcome
        (present ▸ List.getElem_mem inside)
  meet {number old new total} first second met := by
    obtain ⟨data, added, made⟩ := ok_of_bind met
    rw [← Except.ok.inj made]
    exact closed.add first second added
  accept fine accepted := accept_allowed closed fine accepted

/-- **Gradients are of the kind that the tape holds.** -/
theorem Holds.backward (holds : tape.Holds allowed) (root : Tensor D) {seed : View D}
    (fine : allowed seed.data) : (tape.backward root seed).2.Holds allowed := by
  have counted : ({ tape with sweeps := tape.sweeps + 1 } : Tape D).Holds allowed :=
    ⟨holds.tensors, holds.grads, holds.nodes⟩
  rw [Tape.backward]
  split
  · cases taken : accept tape.sweeps root seed with
    | error fault => exact holds
    | ok gradient => exact counted.deliver closed root (accept_allowed closed fine taken)
  next node produced =>
    exact counted.deliverAll closed _
      ((holds.graph_keeps closed).sweep_carries node fine).delivered

end Tape

end Atomistic
