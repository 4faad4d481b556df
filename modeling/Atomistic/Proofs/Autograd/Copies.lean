import Atomistic.Proofs.Autograd.Contributions
import Atomistic.Proofs.Tensor.Transfer

/-!
# What the node of a copy passes on

The node of a tensor that was cast or moved converts the gradient of the copy back.  If the
tensor was a leaf, any sweep that comes by the node with a gradient of the right shape delivers
exactly one gradient to that leaf (`Atomistic.Tape.visit_returns`), and a sweep that starts there
delivers nothing else (`Atomistic.Tape.Sound.sweep_returns`).
-/

namespace Atomistic

/-- A node that converts its gradient to what a leaf takes, and passes it on to that leaf. -/
structure Node.Returns (node : Node) (leaf : Tensor) : Prop where
  rule : node.rule = Operation.toCopy.rule
  saved : node.context.saved = [leaf.toView]
  edges : node.edges = [.leaf leaf]

namespace Tape

variable {tape : Tape} {number : Nat} {node : Node} {root leaf : Tensor} {gradient : View}
  {data : Dense}

section Returns

variable (stored : tape.nodes[number]? = some node) (returns : node.Returns leaf)

include stored returns

private theorem edges_returns : tape.graph.edges number = [.leaf leaf] := by
  rw [edges_of_node stored, returns.edges]

variable (valid : gradient.data.Valid) (shape : gradient.data.shape = leaf.shape)
  (converted : gradient.data.convert leaf.dtype leaf.device = .ok data)

include valid shape converted

/-- A gradient that waits at the node of a copy is converted and delivered. -/
theorem visit_returns {sweep : Sweep View Tensor}
    (waiting : sweep.pending.get? number = some gradient) :
    ∃ after delivered, tape.graph.visit sweep number = .ok after ∧
      after.delivered = sweep.delivered ++ [(leaf, delivered)] ∧ delivered.data = data := by
  let outcome : Outcome :=
    ⟨data, if leaf.dtype == gradient.data.dtype && !leaf.device.isMeta then some gradient.buffer
      else none⟩
  let passed := outcome.place (.ofSlot tape.sweeps number 0)
  have view : gradient.convert leaf.data.dtype leaf.data.device = .ok outcome := by
    refine (convert_view gradient leaf.data.dtype leaf.data.device).trans ?_
    rw [show TensorData.convert gradient.data leaf.data.dtype leaf.data.device = .ok data from
      converted]
    rfl
  have ruled : node.rule node.context gradient = .ok [some outcome] := by
    rw [returns.rule]
    simp only [Operation.toCopy, returns.saved, view]
    rfl
  have given : tape.graph.passOn number (some gradient) = .ok [some passed] := by
    rw [passOn_eq_rule stored fun outcomes made => ?_]
    · simp only [graph, stored, ruled]
      rfl
    · rw [ruled] at made
      rw [← Except.ok.inj made, returns.edges]
      rfl
  obtain ⟨same, kind⟩ := Dense.convert_kind converted
  have fits : TensorData.kind passed.data = TensorData.kind leaf.data :=
    Dense.kind_eq_iff.mpr ⟨same.trans shape, kind⟩
  obtain ⟨delivered, taken, kept⟩ := accept_kept tape.sweeps (valid.convert converted) fits
  let entered : Sweep View Tensor := { sweep with
    pending := sweep.pending.erase number
    visited := sweep.visited ++ [number] }
  refine ⟨{ entered with delivered := sweep.delivered ++ [(leaf, delivered)] }, delivered, ?_, rfl,
    kept⟩
  rw [Graph.visit, waiting, given, edges_returns stored returns]
  change ((entered.attempt (accept tape.sweeps leaf passed) >>= fun _ => _) >>= fun _ => _) = _
  rw [taken]
  rfl

/-- A sweep that starts at the node of a copy is over after one visit. -/
theorem sweep_returns : ∃ swept delivered, tape.graph.sweep number gradient = (.ok (), swept) ∧
    swept.delivered = [(leaf, delivered)] ∧ delivered.data = data := by
  have none : tape.graph.targets number = [] := by
    rw [Graph.targets, edges_returns stored returns]
    rfl
  have survey : tape.graph.survey number = { stack := [], reached := [number] } := by
    rw [Graph.survey, Graph.explore]
    dsimp only
    rw [none, List.foldl_nil]
    cases number <;> rfl
  have waiting : (tape.graph.start number gradient).pending.get? number = some gradient :=
    (Table.get?_singleton number gradient number).trans (if_pos rfl)
  obtain ⟨swept, delivered, visited, alone, same⟩ := @visit_returns _ _ _ _ _ _ stored returns valid
    shape converted { tape.graph.start number gradient with ready := [] } waiting
  have drained : tape.graph.drain (tape.graph.survey number).reached.length
      (tape.graph.start number gradient) = .ok swept := by
    rw [survey]
    change (tape.graph.visit { tape.graph.start number gradient with ready := [] } number >>= _) = _
    rw [visited]
    rfl
  exact ⟨swept, delivered, by rw [Graph.sweep, drained], alone, same⟩

/-- A pass from the output of such a node brings the leaf the converted gradient. -/
theorem backward_returns (produced : (tape.state root.number).gradFn = some number) :
    (tape.backward root gradient).1 = .ok () ∧ tape.brings root gradient = [(leaf, data)] := by
  obtain ⟨swept, delivered, ran, alone, same⟩ :=
    tape.sweep_returns stored returns valid shape converted
  refine ⟨?_, ?_⟩
  · rw [backward_node produced, ran]
  · rw [brings, produced]
    dsimp only
    rw [ran, alone, ← same]
    rfl

end Returns

/-- A pass from a leaf brings the leaf its gradient. -/
theorem backward_accepts (produced : (tape.state root.number).gradFn = none)
    (valid : gradient.data.Valid)
    (same : TensorData.kind gradient.data = TensorData.kind root.data) :
    (tape.backward root gradient).1 = .ok () ∧
      tape.brings root gradient = [(root, gradient.data)] := by
  obtain ⟨taken, accepted, data⟩ := accept_kept tape.sweeps valid same
  rw [Tape.backward, brings, produced]
  simp only [accepted, data, and_self]

end Tape

namespace Tensor

variable {workspace : Workspace} {root leaf : Tensor} {gradient : Option Tensor} {seed data : Dense}

/-- Data that is there can be converted to the element type and the device of a tensor of its
shape. -/
theorem convert_like {data : Dense} (valid : data.Valid) (tensor : Tensor)
    (shape : data.shape = tensor.shape) (present : data.device ≠ .metadata) :
    ∃ new, data.convert tensor.dtype tensor.device = .ok new ∧
      TensorData.kind new = TensorData.kind tensor.data := by
  have converted := @Dense.Valid.convert_recast data valid (some tensor.dtype) (some tensor.device)
    fun gone => absurd gone present
  obtain ⟨same, kind⟩ := Dense.convert_kind converted
  exact ⟨_, converted, Dense.kind_eq_iff.mpr ⟨same.trans shape, kind⟩⟩

/-- There is a seed for a root that holds data if the gradient is of its shape and holds data, or
is left out for a single element. -/
theorem seedData_ok (valid : ∀ tensor ∈ gradient, tensor.data.Valid)
    (fits : ∀ tensor ∈ gradient, tensor.shape = root.shape ∧ tensor.device ≠ .metadata)
    (single : gradient = none → root.data.count = 1) :
    ∃ seed, root.seedData (gradient.map fun tensor => tensor.data) = .ok seed := by
  cases gradient with
  | none => exact ⟨_, if_neg (not_not.mpr (single rfl))⟩
  | some tensor =>
      obtain ⟨shape, present⟩ := fits tensor rfl
      obtain ⟨seed, converted, _⟩ := convert_like (valid tensor rfl) root shape present
      exact ⟨seed, (if_neg (not_not.mpr shape)).trans converted⟩

/-- A pass that has a seed brings what carrying any view of the seed back brings. -/
theorem backward_brings (tracked : workspace.Tracks root)
    (given : root.seedData (gradient.map fun tensor => tensor.data) = .ok seed)
    (carried : ∀ middle, workspace.Gains middle → ∀ view : View, view.data = seed →
      (middle.tape.backward root view).1 = .ok () ∧
        middle.tape.brings root view = [(leaf, data)]) :
    (∃ last, (root.backward gradient).exec workspace = (.ok (), last)) ∧
      root.brings gradient workspace = [(leaf, data)] := by
  rw [exec_backward_tracked tracked, brings_tracked tracked]
  cases @seed_makes workspace root gradient with
  | failed failed => cases failed.symm.trans given
  | @made tensor middle made ran gains _ =>
      have same : tensor.data = seed := Except.ok.inj (made.symm.trans given)
      obtain ⟨succeeded, brought⟩ := carried middle gains tensor.toView same
      rw [ran]
      exact ⟨⟨_, Prod.ext succeeded rfl⟩, brought⟩

end Tensor

end Atomistic
