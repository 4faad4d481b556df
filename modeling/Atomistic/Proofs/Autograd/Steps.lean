import Atomistic.Autograd.Tape
import Atomistic.Proofs.Autograd.Deliveries
import Atomistic.Proofs.Results

/-!
# What holds of every tape

A tape changes in steps: a tensor is made, a leaf is marked, a gradient is
forgotten, a node is attached to a tensor, or gradients are carried back.  Every
tape that steps lead to is sound (`Atomistic.Tape.Steps.sound`): the edges of a
node lead to nodes that were made before it, and what the tape knows about a
tensor fits that tensor.
-/

namespace Atomistic

namespace TensorData

variable {D : Type} [TensorData D]

/-- What the gradient of a tensor shares with the tensor. -/
def kind (data : D) : Shape × DType × Device := (shape data, dtype data, device data)

end TensorData

/-- Data whose conversions and sums have the announced kinds. -/
class LawfulTensorData (D : Type) [TensorData D] : Prop where
  kind_convert : ∀ {data new : D} {dtype : DType} {device : Device},
    TensorData.convert data dtype device = .ok new →
      TensorData.kind new = (TensorData.shape data, dtype, device)
  kind_add : ∀ {old new total : D}, TensorData.add old new = .ok total →
    TensorData.kind total = TensorData.kind old

namespace Tape

variable {D : Type}

/-- A tensor that has been made. -/
def Knows (tape : Tape D) (tensor : Tensor D) : Prop :=
  tape.tensors[tensor.number]? = some tensor.toView

/-- Tensors that were made have numbers below the next one. -/
theorem Knows.lt {tape : Tape D} {tensor : Tensor D} (known : tape.Knows tensor) :
    tensor.number < tape.tensors.size := by
  by_contra beyond
  rw [Knows, Array.getElem?_eq_none (Nat.le_of_not_lt beyond)] at known
  cases known

/-- A tensor is known by its number. -/
theorem Knows.unique {tape : Tape D} {tensor other : Tensor D} (known : tape.Knows tensor)
    (present : tape.Knows other) (same : tensor.number = other.number) : tensor = other := by
  rw [Knows] at known present
  rw [same, present] at known
  cases tensor
  cases other
  simp_all

/-- Setting the state of a tensor changes that of no other. -/
@[simp] theorem state_setState (tape : Tape D) (number other : Nat) (state : GradState D) :
    (tape.setState number state).state other = if other = number then state
      else tape.state other := by
  rw [Tape.state, setState, Table.get?_set]
  split <;> rfl

@[simp] private theorem setState_tensors (tape : Tape D) (number : Nat) (state : GradState D) :
    (tape.setState number state).tensors = tape.tensors := rfl

/-- A new tensor has been made. -/
theorem place_knows (tape : Tape D) (outcome : Outcome D) :
    (tape.place outcome).2.Knows (tape.place outcome).1 := Array.getElem?_push_size

/-- Tensors stay when another one is made. -/
theorem Knows.place {tape : Tape D} {tensor : Tensor D} (known : tape.Knows tensor)
    (outcome : Outcome D) : (tape.place outcome).2.Knows tensor := by
  have other : tensor.number ≠ tape.tensors.size := known.lt.ne
  rw [Knows, Tape.place, Array.getElem?_push, if_neg other]
  exact known

/-- No gradient goes to tensors that require none. -/
theorem edgeTo_eq_untracked_iff {tape : Tape D} {input : Tensor D} :
    tape.edgeTo input = .untracked ↔ (tape.state input.number).requiresGrad = false := by
  rw [edgeTo]
  split
  next tracked => split <;> simp [tracked]
  next untracked => simpa using untracked

/-- The gradient for an output of a node goes to the node. -/
theorem edgeTo_eq_node_iff {tape : Tape D} {input : Tensor D} {node : Nat} :
    tape.edgeTo input = .node node ↔
      (tape.state input.number).requiresGrad = true ∧
        (tape.state input.number).gradFn = some node := by
  rw [edgeTo]
  split
  next tracked =>
    split
    next other produced => simp [tracked, produced]
    next produced => simp [produced]
  next untracked => simp [untracked]

/-- The gradient for a leaf goes to the leaf itself. -/
theorem edgeTo_eq_leaf_iff {tape : Tape D} {input leaf : Tensor D} :
    tape.edgeTo input = .leaf leaf ↔ leaf = input ∧
      (tape.state input.number).requiresGrad = true ∧ (tape.state input.number).gradFn = none := by
  rw [edgeTo]
  split
  next tracked =>
    split
    next node produced => simp [produced]
    next produced => simp [tracked, produced, eq_comm]
  next untracked => simp [untracked]

variable [TensorData D]

/-- The changes of a tape. -/
inductive Step : Tape D → Tape D → Prop
  | place (tape : Tape D) (outcome : Outcome D) : Step tape (tape.place outcome).2
  | setRequiresGrad {tape after : Tape D} {tensor : Tensor D} {requiresGrad : Bool}
      (known : tape.Knows tensor)
      (changed : tape.setRequiresGrad tensor.number requiresGrad = .ok after) : Step tape after
  | zeroGrad {tape : Tape D} {tensor : Tensor D} (known : tape.Knows tensor) :
      Step tape (tape.zeroGrad tensor.number)
  | attach {tape after : Tape D} {inputs : List (Tensor D)} {output : Tensor D} {node : Node D}
      (inputs_known : ∀ input ∈ inputs, tape.Knows input) (output_known : tape.Knows output)
      (edges : node.edges = inputs.map tape.edgeTo)
      (attached : tape.attach output node = .ok after) : Step tape after
  | backward {tape : Tape D} {root : Tensor D} (known : tape.Knows root) (seed : View D) :
      Step tape (tape.backward root seed).2

/-- Any number of changes. -/
def Steps : Tape D → Tape D → Prop := Relation.ReflTransGen Step

/-- What holds of every tape. -/
structure Sound (tape : Tape D) : Prop where
  /-- Nodes lead to nodes that were made before them. -/
  earlier : ∀ (number : Nat) (node : Node D), tape.nodes[number]? = some node →
    ∀ target, .node target ∈ node.edges → target < number
  leaves : ∀ (number : Nat) (node : Node D), tape.nodes[number]? = some node →
    ∀ leaf, .leaf leaf ∈ node.edges → tape.Knows leaf
  produced : ∀ tensor node, (tape.state tensor).gradFn = some node → node < tape.nodes.size
  listed : ∀ tensor, tape.tensors.size ≤ tensor → tape.states.get? tensor = none
  /-- Gradients fit their tensors. -/
  fits : ∀ tensor grad, (tape.state tensor).grad = some grad → tape.Knows grad ∧
    ∀ view, tape.tensors[tensor]? = some view → TensorData.kind grad.data =
      TensorData.kind view.data

variable {tape after : Tape D}

/-- The empty tape is sound. -/
theorem Sound.start : Sound ({} : Tape D) where
  earlier number node present := by simp at present
  leaves number node present := by simp at present
  produced tensor node produced := by cases produced
  listed tensor _ := rfl
  fits tensor grad stored := by cases stored

private theorem Sound.place (sound : tape.Sound) (outcome : Outcome D) :
    (tape.place outcome).2.Sound where
  earlier := sound.earlier
  leaves number node present leaf member := (sound.leaves number node present leaf member).place _
  produced := sound.produced
  listed tensor outside := by
    rw [Tape.place, Array.size_push] at outside
    exact sound.listed tensor (Nat.le_of_succ_le outside)
  fits tensor grad stored := by
    obtain ⟨known, fits⟩ := sound.fits tensor grad stored
    refine ⟨known.place _, fun view present => fits view ?_⟩
    have inside : tensor < tape.tensors.size := by
      by_contra outside
      have unlisted := sound.listed tensor (Nat.le_of_not_lt outside)
      have absent : (tape.state tensor).grad = none := by
        rw [state, unlisted]
        rfl
      rw [show (tape.place outcome).2.state tensor = tape.state tensor from rfl, absent] at stored
      cases stored
    rw [Tape.place, Array.getElem?_push, if_neg inside.ne] at present
    exact present

/-- Sweeps that are counted change nothing else. -/
theorem Sound.counted (sound : tape.Sound) : ({ tape with sweeps := tape.sweeps + 1 }).Sound :=
  ⟨sound.earlier, sound.leaves, sound.produced, sound.listed, sound.fits⟩

/-- A tape stays sound when the state of a tensor is replaced by one that fits. -/
theorem Sound.setState (sound : tape.Sound) {tensor : Tensor D} (known : tape.Knows tensor)
    {state : GradState D} (produced : ∀ node, state.gradFn = some node → node < tape.nodes.size)
    (fits : ∀ grad, state.grad = some grad → tape.Knows grad ∧
      TensorData.kind grad.data = TensorData.kind tensor.data) :
    (tape.setState tensor.number state).Sound where
  earlier := sound.earlier
  leaves := sound.leaves
  produced other node stored := by
    rw [state_setState] at stored
    by_cases same : other = tensor.number
    · rw [if_pos same] at stored
      exact produced node stored
    · rw [if_neg same] at stored
      exact sound.produced other node stored
  listed other outside := by
    have distinct : other ≠ tensor.number := (known.lt.trans_le outside).ne'
    rw [Tape.setState, Table.get?_set, if_neg distinct]
    exact sound.listed other outside
  fits other grad stored := by
    rw [state_setState] at stored
    by_cases same : other = tensor.number
    · rw [if_pos same] at stored
      obtain ⟨placed, equal⟩ := fits grad stored
      refine ⟨placed, fun view present => ?_⟩
      rw [setState_tensors, same, show tape.tensors[tensor.number]? = some tensor.toView from known]
        at present
      rw [← Option.some.inj present]
      exact equal
    · rw [if_neg same] at stored
      exact sound.fits other grad stored

private theorem Sound.setRequiresGrad (sound : tape.Sound) {tensor : Tensor D}
    (known : tape.Knows tensor) {requiresGrad : Bool}
    (changed : tape.setRequiresGrad tensor.number requiresGrad = .ok after) : after.Sound := by
  rw [Tape.setRequiresGrad] at changed
  split at changed
  · cases changed
  · rw [← Except.ok.inj changed]
    exact sound.setState known (sound.produced tensor.number) fun grad stored =>
      ⟨(sound.fits _ grad stored).1, (sound.fits _ grad stored).2 _ known⟩

private theorem Sound.zeroGrad (sound : tape.Sound) {tensor : Tensor D}
    (known : tape.Knows tensor) :
    (tape.zeroGrad tensor.number).Sound :=
  sound.setState known (sound.produced tensor.number) fun _ stored => nomatch stored

/-- A new node leads to earlier ones, since it is added after its edges are
found. -/
theorem Sound.pushNode (sound : tape.Sound) {inputs : List (Tensor D)}
    (known : ∀ input ∈ inputs, tape.Knows input) {node : Node D}
    (edges : node.edges = inputs.map tape.edgeTo) :
    ({ tape with nodes := tape.nodes.push node }).Sound where
  earlier number other present target member := by
    rw [Array.getElem?_push] at present
    by_cases new : number = tape.nodes.size
    · rw [if_pos new] at present
      rw [← Option.some.inj present, edges] at member
      obtain ⟨input, _, edge⟩ := List.mem_map.mp member
      rw [new]
      exact sound.produced input.number target (edgeTo_eq_node_iff.mp edge).2
    · rw [if_neg new] at present
      exact sound.earlier number other present target member
  leaves number other present leaf member := by
    rw [Array.getElem?_push] at present
    by_cases new : number = tape.nodes.size
    · rw [if_pos new] at present
      rw [← Option.some.inj present, edges] at member
      obtain ⟨input, listed, edge⟩ := List.mem_map.mp member
      rw [(edgeTo_eq_leaf_iff.mp edge).1]
      exact known input listed
    · rw [if_neg new] at present
      exact sound.leaves number other present leaf member
  produced tensor number stored := by
    rw [Array.size_push]
    exact Nat.lt_succ_of_lt (sound.produced tensor number stored)
  listed := sound.listed
  fits := sound.fits

private theorem Sound.attach (sound : tape.Sound) {inputs : List (Tensor D)} {output : Tensor D}
    {node : Node D} (inputs_known : ∀ input ∈ inputs, tape.Knows input)
    (output_known : tape.Knows output) (edges : node.edges = inputs.map tape.edgeTo)
    (attached : tape.attach output node = .ok after) : after.Sound := by
  rw [Tape.attach] at attached
  split at attached
  · cases attached
  · rw [← Except.ok.inj attached]
    refine (sound.pushNode inputs_known edges).setState output_known (fun number new => ?_)
      fun grad stored => ⟨(sound.fits _ grad stored).1, (sound.fits _ grad stored).2 _ output_known⟩
    rw [Array.size_push, ← Option.some.inj new]
    exact Nat.lt_succ_self _

/-- The edges of the graph are edges of nodes. -/
theorem exists_node {number : Nat} {edge : Edge (Tensor D)}
    (member : edge ∈ tape.graph.edges number) :
    ∃ node, tape.nodes[number]? = some node ∧ edge ∈ node.edges := by
  rw [graph] at member
  cases stored : tape.nodes[number]? with
  | none => simp [stored] at member
  | some node =>
      simp only [stored, Option.map_some, Option.getD_some] at member
      exact ⟨node, rfl, member⟩

/-- The graph of a sound tape has no cycles. -/
theorem Sound.descending (sound : tape.Sound) : tape.graph.Descending := by
  intro number target leads
  obtain ⟨node, stored, member⟩ := exists_node (Graph.mem_edges_of_leads leads)
  exact sound.earlier number node stored target member

/-- The leaves that edges lead to have been made. -/
theorem Sound.leaf_known (sound : tape.Sound) {number : Nat} {leaf : Tensor D}
    (member : .leaf leaf ∈ tape.graph.edges number) : tape.Knows leaf := by
  obtain ⟨node, stored, listed⟩ := exists_node member
  exact sound.leaves number node stored leaf listed

/-- A tape stays sound when a leaf gets a gradient of its kind. -/
theorem Sound.deliver [LawfulTensorData D] (sound : tape.Sound) {leaf : Tensor D}
    (known : tape.Knows leaf) {gradient : View D}
    (same : TensorData.kind gradient.data = TensorData.kind leaf.data) :
    (tape.deliver leaf gradient).Sound := by
  rw [Tape.deliver]
  refine (sound.place _).setState (known.place _) (sound.produced leaf.number) fun grad stored => ?_
  rw [← Option.some.inj stored]
  refine ⟨place_knows tape _, ?_⟩
  split
  next => exact same
  next old held =>
    have fits := (sound.fits leaf.number old held).2 _ known
    split
    next total sum => exact (LawfulTensorData.kind_add sum).trans fits
    next => exact fits

/-- A converted view shares its buffer unless the element type changes or the data is dropped. -/
theorem convert_view (view : View D) (dtype : DType) (device : Device) :
    view.convert dtype device = (TensorData.convert view.data dtype device).map fun data =>
      ⟨data, if dtype == TensorData.dtype view.data && !device.isMeta then some view.buffer
        else none⟩ := by
  rw [View.convert]
  cases TensorData.convert view.data dtype device <;> rfl

/-- A converted view has the shape of the old one, and the type and device that were asked for. -/
theorem kind_convert_view [LawfulTensorData D] {view : View D} {dtype : DType} {device : Device}
    {outcome : Outcome D} (converted : view.convert dtype device = .ok outcome) :
    TensorData.kind outcome.data = (TensorData.shape view.data, dtype, device) := by
  obtain ⟨data, cast, made⟩ := ok_of_bind converted
  rw [← Except.ok.inj made]
  exact LawfulTensorData.kind_convert cast

/-- An accepted gradient fits its leaf. -/
theorem kind_accept [LawfulTensorData D] {sweep : Nat} {leaf : Tensor D} {raw gradient : View D}
    (accepted : accept sweep leaf raw = .ok gradient) :
    TensorData.kind gradient.data = TensorData.kind leaf.data := by
  rw [accept] at accepted
  obtain ⟨same, taken⟩ := ok_of_check accepted
  obtain ⟨outcome, converted, placed⟩ := ok_of_bind taken
  have kind := kind_convert_view converted
  rw [not_not.mp same] at kind
  rw [← Except.ok.inj placed]
  exact kind

private theorem Sound.deliverAll [LawfulTensorData D] (delivered : List (Tensor D × View D)) :
    ∀ {tape : Tape D}, tape.Sound →
      (∀ entry ∈ delivered, tape.Knows entry.1 ∧
        TensorData.kind entry.2.data = TensorData.kind entry.1.data) →
      (tape.deliverAll delivered).Sound := by
  induction delivered with
  | nil =>
      intro tape sound _
      exact sound
  | cons entry rest ih =>
      intro tape sound fits
      have first := fits entry List.mem_cons_self
      refine ih (sound.deliver first.1 first.2) fun other member => ?_
      have later := fits other (List.mem_cons_of_mem _ member)
      exact ⟨later.1.place _, later.2⟩

/-- Everything that a sweep delivers fits the leaf that takes it. -/
theorem Sound.delivered_fits [LawfulTensorData D] (sound : tape.Sound) (root : Nat)
    (seed : View D) : ∀ entry ∈ (tape.graph.sweep root seed).2.delivered,
      tape.Knows entry.1 ∧ TensorData.kind entry.2.data = TensorData.kind entry.1.data := by
  intro entry member
  obtain ⟨⟨source, _, edge⟩, raw, accepted⟩ :=
    sound.descending.sweep_delivered root seed entry member
  exact ⟨sound.leaf_known edge, kind_accept accepted⟩

/-- Carrying gradients back keeps a tape sound, also when it fails. -/
theorem Sound.backward [LawfulTensorData D] (sound : tape.Sound) {root : Tensor D}
    (known : tape.Knows root) (seed : View D) : (tape.backward root seed).2.Sound := by
  rw [Tape.backward]
  split
  · cases taken : accept tape.sweeps root seed with
    | error fault => exact sound
    | ok gradient => exact sound.counted.deliver known (kind_accept taken)
  · next node produced => exact sound.counted.deliverAll _ (sound.delivered_fits node seed)

private theorem Step.sound [LawfulTensorData D] (step : Step tape after) (sound : tape.Sound) :
    after.Sound := by
  cases step with
  | place outcome => exact sound.place outcome
  | setRequiresGrad known changed => exact sound.setRequiresGrad known changed
  | zeroGrad known => exact sound.zeroGrad known
  | attach inputs_known output_known edges attached =>
      exact sound.attach inputs_known output_known edges attached
  | backward known seed => exact sound.backward known seed

/-- **Every tape is sound.** -/
theorem Steps.sound [LawfulTensorData D] (steps : Steps tape after) (sound : tape.Sound) :
    after.Sound := by
  induction steps with
  | refl => exact sound
  | tail _ step ih => exact step.sound ih

private theorem Knows.deliverAll (delivered : List (Tensor D × View D)) :
    ∀ {tape : Tape D} {tensor : Tensor D}, tape.Knows tensor →
      (tape.deliverAll delivered).Knows tensor := by
  induction delivered with
  | nil =>
      intro tape tensor known
      exact known
  | cons entry rest ih =>
      intro tape tensor known
      exact ih (known.place _)

/-- No step loses a tensor. -/
theorem Step.knows (step : Step tape after) {tensor : Tensor D} (known : tape.Knows tensor) :
    after.Knows tensor := by
  cases step with
  | place outcome => exact known.place outcome
  | zeroGrad _ => exact known
  | setRequiresGrad _ changed =>
      rw [Tape.setRequiresGrad] at changed
      split at changed
      · cases changed
      · rw [← Except.ok.inj changed]
        exact known
  | attach _ _ _ attached =>
      rw [Tape.attach] at attached
      split at attached
      · cases attached
      · rw [← Except.ok.inj attached]
        exact known
  | @backward root _ seed =>
      rw [Tape.backward]
      split
      · cases accept tape.sweeps root seed with
        | error fault => exact known
        | ok gradient => exact known.place _
      · exact Knows.deliverAll _ known

/-- Tensors that have been made stay known. -/
theorem Steps.knows (steps : Steps tape after) {tensor : Tensor D} (known : tape.Knows tensor) :
    after.Knows tensor := by
  induction steps with
  | refl => exact known
  | tail _ step ih => exact step.knows ih

end Tape

end Atomistic
