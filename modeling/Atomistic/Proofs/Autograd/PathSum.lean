import Atomistic.Proofs.Autograd.Balance
import Atomistic.Proofs.Autograd.Contents

/-!
# Gradients are sums over paths

When sums of the data that can be made are exact and the rules of all nodes that the root
reaches are additive, a backward pass that succeeds adds to the gradient of a tensor what
the paths from the root to the edges that lead to the tensor make of the seed, each path
counted once, and changes nothing that the tape knows about any other tensor
(`Atomistic.Tape.backward_sums_paths`).  The path of a root that is a leaf is empty.
-/

namespace Atomistic

/-- The allowed data of one element type and device as elements of a monoid, in which sums
are exact.  Conversions and sums of allowed data are allowed. -/
structure ExactReading (D : Type) [TensorData D] (allowed : D → Prop) (M : Type)
    [AddCommMonoid M] where
  value : D → M
  closed : TensorData.Closed allowed
  add_value : ∀ x y z : D, allowed x → allowed y → TensorData.dtype x = TensorData.dtype y →
    TensorData.device x = TensorData.device y → TensorData.add x y = .ok z →
      value z = value x + value y
  add_total : ∀ x y : D, allowed x → allowed y → TensorData.kind x = TensorData.kind y →
    ∃ z, TensorData.add x y = .ok z
  convert_value : ∀ x z : D, allowed x →
    TensorData.convert x (TensorData.dtype x) (TensorData.device x) = .ok z → value z = value x

/-- Allowed data of the element type and on the device of other data. -/
structure TensorData.Like {D : Type} [TensorData D] (allowed : D → Prop) (model data : D) :
    Prop where
  allowed : allowed data
  dtype : TensorData.dtype data = TensorData.dtype model
  device : TensorData.device data = TensorData.device model

namespace Tape

private theorem getD_mapIdx {D : Type} (outcomes : List (Option (Outcome D))) (name : Nat → Buffer)
    (slot : Nat) :
    (outcomes.mapIdx fun slot outcome =>
        outcome.map fun outcome => outcome.place (name slot)).getD slot none =
      (outcomes.getD slot none).map fun outcome => outcome.place (name slot) := by
  rw [List.getD_eq_getElem?_getD, List.getElem?_mapIdx, List.getD_eq_getElem?_getD]
  cases outcomes[slot]? <;> rfl

variable {D M : Type} [TensorData D] [AddCommMonoid M] {allowed : D → Prop}

/-- A path from a tensor leads to a node. -/
def Reaches (tape : Tape D) (root : Tensor D) (number : Nat) : Prop :=
  ∃ start, tape.edgeTo root = .node start ∧ tape.graph.Reaches start number

/-- At the nodes that a root reaches all gradients have the element type and the device of the
root, and the rules are additive: the maps say what each slot gets. -/
structure Additive (tape : Tape D) (reading : ExactReading D allowed M) (root : Tensor D) where
  maps : Nat → Nat → M →+ M
  leaf : ∀ (number : Nat) (node : Node D), tape.Reaches root number →
    tape.nodes[number]? = some node → ∀ leaf, .leaf leaf ∈ node.edges →
      TensorData.dtype leaf.data = TensorData.dtype root.data ∧
        TensorData.device leaf.data = TensorData.device root.data
  rule : ∀ (number : Nat) (node : Node D), tape.Reaches root number →
    tape.nodes[number]? = some node → ∀ gradient outcomes,
      TensorData.Like allowed root.data gradient.data →
      node.rule node.context gradient = .ok outcomes → ∀ slot < node.edges.length,
        (∀ outcome, outcomes.getD slot none = some outcome →
          TensorData.Like allowed root.data outcome.data) ∧
        (outcomes.getD slot none).elim 0 (fun outcome => reading.value outcome.data) =
          maps number slot (reading.value gradient.data)

/-- The gradients that a tape has accumulated are allowed. -/
def Accumulates (tape : Tape D) (allowed : D → Prop) : Prop :=
  ∀ tensor grad, (tape.state tensor).grad = some grad → allowed grad.data

/-- The gradient accumulated for a tensor, zero if there is none. -/
def gradientOf (tape : Tape D) (reading : ExactReading D allowed M) (tensor : Nat) : M :=
  (tape.state tensor).grad.elim 0 fun grad => reading.value grad.data

variable {tape : Tape D} {reading : ExactReading D allowed M} {root : Tensor D}

/-- The edges of the graph are those of the nodes. -/
theorem edges_of_node {number : Nat} {node : Node D} (stored : tape.nodes[number]? = some node) :
    tape.graph.edges number = node.edges := by
  simp [graph, stored]

private theorem edges_of_none {number : Nat} (missing : tape.nodes[number]? = none) :
    tape.graph.edges number = [] := by
  simp [graph, missing]

private theorem value_accept {sweep : Nat} {leaf : Tensor D} {raw gradient : View D}
    (fine : allowed raw.data)
    (same_dtype : TensorData.dtype raw.data = TensorData.dtype leaf.data)
    (same_device : TensorData.device raw.data = TensorData.device leaf.data)
    (accepted : accept sweep leaf raw = .ok gradient) :
    reading.value gradient.data = reading.value raw.data := by
  rw [accept] at accepted
  obtain ⟨_, taken⟩ := ok_of_check accepted
  obtain ⟨outcome, converted, placed⟩ := ok_of_bind taken
  obtain ⟨data, cast, made⟩ := ok_of_bind converted
  rw [← same_dtype, ← same_device] at cast
  rw [← Except.ok.inj placed, ← Except.ok.inj made]
  exact reading.convert_value raw.data data fine cast

/-- The gradients of an additive tape, read as elements of the monoid. -/
def Additive.graphReading [LawfulTensorData D] (additive : tape.Additive reading root)
    (descending : tape.graph.Descending) {start : Nat} (produced : tape.edgeTo root = .node start) :
    tape.graph.Reading start M where
  valid view := TensorData.Like allowed root.data view.data
  value view := reading.value view.data
  maps := additive.maps
  rule number reached gradient passed valid ruled slot inside := by
    cases stored : tape.nodes[number]? with
    | none =>
        rw [edges_of_none stored] at inside
        exact absurd inside (Nat.not_lt_zero slot)
    | some node =>
        rw [edges_of_node stored] at inside
        simp only [graph, stored] at ruled
        obtain ⟨outcomes, gave, placed⟩ := ok_of_bind ruled
        have rule := additive.rule number node
          ⟨start, produced, (Graph.mem_reached descending).mp reached⟩ stored gradient outcomes
          valid gave slot inside
        rw [← Except.ok.inj placed, getD_mapIdx outcomes (Buffer.ofSlot tape.sweeps number)]
        cases got : outcomes.getD slot none with
        | none =>
            rw [got] at rule
            exact ⟨fun _ impossible => (nomatch impossible), rule.2⟩
        | some outcome =>
            rw [got] at rule
            refine ⟨fun view same => ?_, rule.2⟩
            rw [← Option.some.inj same]
            exact rule.1 outcome rfl
  meet number old new total old_valid new_valid met := by
    obtain ⟨sum, added, made⟩ := ok_of_bind met
    have kind := LawfulTensorData.kind_add added
    have value := reading.add_value _ _ sum old_valid.allowed new_valid.allowed
      (old_valid.dtype.trans new_valid.dtype.symm)
      (old_valid.device.trans new_valid.device.symm) added
    rw [← Except.ok.inj made]
    simp only [TensorData.kind, Prod.mk.injEq] at kind
    exact ⟨⟨reading.closed.add old_valid.allowed new_valid.allowed added,
      kind.2.1.trans old_valid.dtype, kind.2.2.trans old_valid.device⟩, value⟩
  accept number reached leaf raw taken member valid accepted := by
    cases stored : tape.nodes[number]? with
    | none =>
        rw [edges_of_none stored] at member
        cases member
    | some node =>
        rw [edges_of_node stored] at member
        have kind := additive.leaf number node
          ⟨start, produced, (Graph.mem_reached descending).mp reached⟩ stored leaf member
        have taken_kind := kind_accept accepted
        simp only [TensorData.kind, Prod.mk.injEq] at taken_kind
        exact ⟨⟨accept_allowed reading.closed valid.allowed accepted,
            taken_kind.2.1.trans kind.1, taken_kind.2.2.trans kind.2⟩,
          value_accept valid.allowed (valid.dtype.trans kind.1.symm)
            (valid.device.trans kind.2.symm) accepted⟩

/-- A gradient for one leaf changes nothing that is known about other tensors. -/
theorem deliver_state (tape : Tape D) (leaf : Tensor D) (gradient : View D) {number : Nat}
    (other : number ≠ leaf.number) : (tape.deliver leaf gradient).state number =
      tape.state number := by
  rw [deliver, state_setState, if_neg other]
  rfl

private theorem Accumulates.deliver (held : tape.Accumulates allowed)
    (closed : TensorData.Closed allowed)
    (leaf : Tensor D) {gradient : View D} (fine : allowed gradient.data) :
    (tape.deliver leaf gradient).Accumulates allowed := by
  intro number grad stored
  rw [Tape.deliver, state_setState] at stored
  split at stored
  · rw [← Option.some.inj stored]
    dsimp only [place, Outcome.place]
    split
    · exact fine
    next old present =>
      split
      next data sum => exact closed.add (held leaf.number old present) fine sum
      · exact held leaf.number old present
  · exact held number grad stored

/-- A leaf adds an accepted gradient to the one that it holds. -/
theorem gradientOf_deliver (sound : tape.Sound) (held : tape.Accumulates allowed)
    {leaf : Tensor D} (known : tape.Knows leaf) {gradient : View D} (fine : allowed gradient.data)
    (same : TensorData.kind gradient.data = TensorData.kind leaf.data) :
    (tape.deliver leaf gradient).gradientOf reading leaf.number =
      tape.gradientOf reading leaf.number + reading.value gradient.data := by
  rw [gradientOf, gradientOf, deliver, state_setState, if_pos rfl]
  cases stored : (tape.state leaf.number).grad with
  | none => exact (zero_add _).symm
  | some old =>
      have old_fine := held leaf.number old stored
      have fits := (sound.fits leaf.number old stored).2 _ known
      have equal := fits.trans same.symm
      obtain ⟨sum, added⟩ := reading.add_total old.data gradient.data old_fine fine equal
      simp only [TensorData.kind, Prod.mk.injEq] at equal
      simp only [added]
      exact reading.add_value _ _ sum old_fine fine equal.2.1 equal.2.2 added

/-- What is delivered to a tensor is added to its gradient. -/
theorem gradientOf_deliverAll [LawfulTensorData D] (number : Nat)
    (entries : List (Tensor D × View D)) :
    ∀ {tape : Tape D}, tape.Sound → tape.Accumulates allowed →
      (∀ entry ∈ entries, tape.Knows entry.1 ∧
        TensorData.kind entry.2.data = TensorData.kind entry.1.data) →
      (∀ entry ∈ entries, allowed entry.2.data) →
      (tape.deliverAll entries).gradientOf reading number = tape.gradientOf reading number +
        ((entries.filter fun entry => entry.1.number == number).map
          fun entry => reading.value entry.2.data).sum := by
  induction entries with
  | nil =>
      intro tape _ _ _ _
      exact (add_zero _).symm
  | cons entry rest ih =>
      intro tape sound held fits fine
      obtain ⟨known, same⟩ := fits entry List.mem_cons_self
      have entry_fine := fine entry List.mem_cons_self
      have later := ih (sound.deliver known same) (held.deliver reading.closed entry.1 entry_fine)
        (fun other member => ⟨((fits other (List.mem_cons_of_mem _ member)).1).place _,
          (fits other (List.mem_cons_of_mem _ member)).2⟩)
        fun other member => fine other (List.mem_cons_of_mem _ member)
      refine later.trans ?_
      by_cases chosen : entry.1.number = number
      · subst chosen
        rw [List.filter_cons_of_pos (by simp), List.map_cons, List.sum_cons, ← add_assoc,
          gradientOf_deliver sound held known entry_fine same]
      · rw [List.filter_cons_of_neg (by simpa using chosen), gradientOf, gradientOf,
          deliver_state tape _ _ (Ne.symm chosen)]

/-- Gradients for some leaves change nothing that is known about other tensors. -/
theorem deliverAll_state (number : Nat) (entries : List (Tensor D × View D)) :
    ∀ tape : Tape D, (∀ entry ∈ entries, entry.1.number ≠ number) →
      (tape.deliverAll entries).state number = tape.state number := by
  induction entries with
  | nil =>
      intro tape _
      rfl
  | cons entry rest ih =>
      intro tape others
      refine (ih _ fun other member => others other (List.mem_cons_of_mem _ member)).trans ?_
      exact deliver_state tape _ _ (others entry List.mem_cons_self).symm

/-- A leaf at the end of a path has been made. -/
theorem Sound.leafAt_known (sound : tape.Sound) (path : List Nat) :
    ∀ {edge : Edge (Tensor D)} {leaf : Tensor D}, (∀ start, edge = .leaf start → tape.Knows start) →
      tape.graph.leafAt edge path = some leaf → tape.Knows leaf := by
  induction path with
  | nil =>
      intro edge leaf start ends
      cases edge with
      | untracked => cases ends
      | node node => cases ends
      | leaf other => exact start leaf (by rw [Option.some.inj ends])
  | cons slot rest ih =>
      intro edge leaf start ends
      cases edge with
      | untracked => cases ends
      | leaf other => cases ends
      | node node =>
          refine ih (fun other same => ?_) ends
          by_cases inside : slot < (tape.graph.edges node).length
          · rw [Graph.slotEdge, List.getD_eq_getElem?_getD, List.getElem?_eq_getElem inside,
              Option.getD_some] at same
            exact sound.leaf_known (same ▸ List.getElem_mem inside)
          · rw [Graph.slotEdge_of_length_le (Nat.le_of_not_lt inside)] at same
            cases same

/-- A pass from a leaf that succeeds gives the leaf what it accepts. -/
theorem backward_leaf {root : Tensor D} {seed : View D}
    (produced : (tape.state root.number).gradFn = none)
    (success : (tape.backward root seed).1 = .ok ()) :
    ∃ gradient, accept tape.sweeps root seed = .ok gradient ∧
      (tape.backward root seed).2 =
        ({ tape with sweeps := tape.sweeps + 1 }).deliver root gradient := by
  rw [Tape.backward, produced] at success ⊢
  cases taken : accept tape.sweeps root seed with
  | error fault =>
      rw [taken] at success
      cases success
  | ok gradient => exact ⟨gradient, rfl, rfl⟩

/-- A pass from another tensor delivers what the sweep from its node delivers. -/
theorem backward_node {root : Tensor D} {node : Nat}
    (produced : (tape.state root.number).gradFn = some node) (seed : View D) :
    tape.backward root seed = ((tape.graph.sweep node seed).1,
      ({ tape with sweeps := tape.sweeps + 1 }).deliverAll
        (tape.graph.sweep node seed).2.delivered) := by
  rw [Tape.backward, produced]

/-- A pass adds to the gradient of a tensor what all paths to the tensor bring. -/
theorem Sound.gradientOf_backward [LawfulTensorData D] (sound : tape.Sound)
    (held : tape.Accumulates allowed) (root_known : tape.Knows root)
    (tracked : (tape.state root.number).requiresGrad) {seed : View D}
    (shaped : TensorData.kind seed.data = TensorData.kind root.data) (fine : allowed seed.data)
    (additive : tape.Additive reading root)
    (success : (tape.backward root seed).1 = .ok ()) (number : Nat) :
    (tape.backward root seed).2.gradientOf reading number = tape.gradientOf reading number +
      tape.graph.transfer additive.maps (fun leaf => leaf.number == number) (tape.edgeTo root)
        (reading.value seed.data) := by
  simp only [TensorData.kind, Prod.mk.injEq] at shaped
  cases produced : (tape.state root.number).gradFn with
  | none =>
      obtain ⟨gradient, taken, after⟩ := backward_leaf produced success
      rw [after, edgeTo_eq_leaf_iff.mpr ⟨rfl, tracked, produced⟩, Graph.transfer_leaf]
      by_cases chosen : root.number = number
      · subst chosen
        rw [gradientOf_deliver sound.counted held root_known
            (accept_allowed reading.closed fine taken) (kind_accept taken),
          value_accept fine shaped.2.1 shaped.2.2 taken, if_pos (beq_self_eq_true _)]
        rfl
      · rw [gradientOf, deliver_state _ _ _ (Ne.symm chosen), if_neg (by simpa using chosen),
          AddMonoidHom.zero_apply, add_zero]
        rfl
  | some node =>
      rw [backward_node produced] at success ⊢
      have edge := edgeTo_eq_node_iff.mpr ⟨tracked, produced⟩
      let read := additive.graphReading sound.descending edge
      have valid : read.valid seed := ⟨fine, shaped.2.1, shaped.2.2⟩
      obtain ⟨taken, brought⟩ := @Graph.Reading.sweep_delivers _ _ _ _ _ _ _ read
        (fun leaf => leaf.number == number) sound.descending seed valid success
      rw [edge]
      refine Eq.trans ?_ (congrArg (tape.gradientOf reading number + ·) brought)
      exact gradientOf_deliverAll number _ sound.counted held (sound.delivered_fits node seed)
        fun entry member => (taken entry member).allowed

/-- A pass leaves the tensors alone that no path leads to. -/
theorem Sound.state_backward [LawfulTensorData D] (sound : tape.Sound)
    (tracked : (tape.state root.number).requiresGrad) {seed : View D}
    (success : (tape.backward root seed).1 = .ok ()) {number : Nat}
    (apart : ∀ path leaf, tape.graph.leafAt (tape.edgeTo root) path = some leaf →
      leaf.number ≠ number) : (tape.backward root seed).2.state number = tape.state number := by
  cases produced : (tape.state root.number).gradFn with
  | none =>
      obtain ⟨gradient, _, after⟩ := backward_leaf produced success
      rw [edgeTo_eq_leaf_iff.mpr ⟨rfl, tracked, produced⟩] at apart
      rw [after, deliver_state _ _ _ (apart [] root rfl).symm]
      rfl
  | some node =>
      rw [backward_node produced]
      rw [edgeTo_eq_node_iff.mpr ⟨tracked, produced⟩] at apart
      refine deliverAll_state number _ _ fun entry member => ?_
      obtain ⟨⟨source, reached, edge⟩, _⟩ :=
        sound.descending.sweep_delivered node seed entry member
      obtain ⟨path, ends⟩ :=
        Graph.exists_leafAt ((Graph.mem_reached sound.descending).mp reached) edge
      exact apart path entry.1 ends

/-- **Gradients are sums over paths.** A backward pass that succeeds adds to the
gradient of a tensor what all paths from the root to it make of the seed; what the tape
knows about tensors that no path leads to stays as it is.  Sums are exact for the data that
is allowed, which may be all data or only what can be made. -/
theorem backward_sums_paths [LawfulTensorData D] {tape : Tape D} (steps : Steps {} tape)
    (reading : ExactReading D allowed M) (held : tape.Accumulates allowed)
    {root : Tensor D} (root_known : tape.Knows root)
    (tracked : (tape.state root.number).requiresGrad) {seed : View D}
    (shaped : TensorData.kind seed.data = TensorData.kind root.data) (fine : allowed seed.data)
    (additive : tape.Additive reading root)
    (success : (tape.backward root seed).1 = .ok ()) :
    (∀ tensor, tape.Knows tensor → ∃ paths : Finset (List Nat),
      (∀ path, path ∈ paths ↔ tape.graph.leafAt (tape.edgeTo root) path = some tensor) ∧
      (tape.backward root seed).2.gradientOf reading tensor.number =
        tape.gradientOf reading tensor.number + ∑ path ∈ paths,
          tape.graph.carry additive.maps (tape.edgeTo root) path (reading.value seed.data)) ∧
    ∀ number, (∀ path leaf, tape.graph.leafAt (tape.edgeTo root) path = some leaf →
      leaf.number ≠ number) → (tape.backward root seed).2.state number = tape.state number := by
  have sound := steps.sound .start
  refine ⟨fun tensor known => ?_, fun number apart => sound.state_backward tracked success apart⟩
  refine ⟨tape.graph.pathsTo (fun leaf => leaf.number == tensor.number) (tape.edgeTo root),
    fun path => ?_, ?_⟩
  · rw [Graph.mem_pathsTo sound.descending]
    constructor
    · rintro ⟨leaf, ends, same⟩
      have made := sound.leafAt_known path
        (fun start edge => (edgeTo_eq_leaf_iff.mp edge).1 ▸ root_known) ends
      rw [ends, made.unique known (beq_iff_eq.mp same)]
    · intro ends
      exact ⟨tensor, ends, beq_self_eq_true _⟩
  · have added := sound.gradientOf_backward held root_known tracked shaped fine additive success
      tensor.number
    rw [Graph.transfer, AddMonoidHom.finsetSum_apply] at added
    exact added

end Tape

namespace Diamond

variable {D : Type}

/-- The rule of an addition: both inputs get the gradient. -/
def both : Rule D := fun _ gradient => .ok [some gradient.keep, some gradient.keep]

/-- A rule that is not additive: the input gets the same data whatever the gradient is. -/
def always (data : D) : Rule D := fun _ _ => .ok [some ⟨data, none⟩]

/-- A tape with another tensor, that a node with a rule has as its output. -/
def grow (tape : Tape D) (data : D) (rule : Rule D) (inputs : List (Tensor D)) : Tape D :=
  let (output, placed) := tape.place ⟨data, none⟩
  let node : Node D := ⟨"Node", ⟨[], inputs.map fun _ => true⟩, rule, inputs.map placed.edgeTo⟩
  ({ placed with nodes := placed.nodes.push node }).setState output.number
    { requiresGrad := true, gradFn := some placed.nodes.size }

private theorem grow_steps [TensorData D] {tape : Tape D} (data : D) (rule : Rule D)
    {inputs : List (Tensor D)} (known : ∀ input ∈ inputs, tape.Knows input)
    (fresh : tape.state tape.tensors.size = {}) : Tape.Steps tape (grow tape data rule inputs) := by
  let outcome : Outcome D := ⟨data, none⟩
  let placed := (tape.place outcome).2
  let node : Node D := ⟨"Node", ⟨[], inputs.map fun _ => true⟩, rule, inputs.map placed.edgeTo⟩
  have unmarked : placed.state (tape.place outcome).1.number = {} := fresh
  have attached : placed.attach (tape.place outcome).1 node = .ok (grow tape data rule inputs) := by
    rw [Tape.attach, unmarked]
    rfl
  have inputs_known : ∀ input ∈ inputs, placed.Knows input :=
    fun input member => (known input member).place outcome
  exact .tail (.single (.place tape outcome))
    (.attach inputs_known (tape.place_knows outcome) rfl attached)

private theorem grow_grad {tape : Tape D} (bare : ∀ tensor, (tape.state tensor).grad = none)
    (data : D)
    (rule : Rule D) (inputs : List (Tensor D)) (tensor : Nat) :
    ((grow tape data rule inputs).state tensor).grad = none := by
  dsimp only [grow]
  rw [Tape.state_setState]
  split
  · rfl
  · exact bare tensor

variable (data : Nat → D)

/-- The tensor with a number on the tapes below. -/
def handle (number : Nat) : Tensor D := ⟨⟨data number, .ofTensor number⟩, number⟩

/-- A leaf that requires a gradient. -/
def leafTape : Tape D := ((Tape.place {} ⟨data 0, none⟩).2).setState 0 { requiresGrad := true }

/-- The leaf and its sum with itself. -/
def once : Tape D := grow (leafTape data) (data 1) both [handle data 0, handle data 0]

/-- The leaf, its sum with itself, and the sum of that with the leaf. -/
def twice : Tape D := grow (once data) (data 2) both [handle data 1, handle data 0]

/-- The same with a node that is not additive, which no path from the last sum leads to. -/
def diamond : Tape D := grow (twice data) (data 3) (always (data 3)) [handle data 0]

private theorem diamond_steps [TensorData D] : Tape.Steps {} (diamond data) := by
  let placed := (({} : Tape D).place ⟨data 0, none⟩).2
  have known : placed.Knows (handle data 0) := rfl
  have marked : placed.setRequiresGrad (handle data 0).number true = .ok (leafTape data) := rfl
  have start : Tape.Steps {} (leafTape data) :=
    .tail (.single (.place {} _)) (.setRequiresGrad known marked)
  have leaf_known : (leafTape data).Knows (handle data 0) := rfl
  have first : Tape.Steps (leafTape data) (once data) :=
    grow_steps (data 1) both (by simpa using leaf_known) rfl
  have once_known := first.knows leaf_known
  have sum_known : (once data).Knows (handle data 1) := rfl
  have second : Tape.Steps (once data) (twice data) :=
    grow_steps (data 2) both (by simpa using ⟨sum_known, once_known⟩) rfl
  have last : Tape.Steps (twice data) (diamond data) :=
    grow_steps (data 3) (always (data 3)) (by simpa using second.knows once_known) rfl
  exact ((start.trans first).trans second).trans last

/-- No gradient has been accumulated yet. -/
theorem diamond_grad (tensor : Nat) : ((diamond data).state tensor).grad = none := by
  refine grow_grad (grow_grad (grow_grad (fun number => ?_) _ _ _) _ _ _) _ _ _ tensor
  rw [leafTape, Tape.state_setState]
  split <;> rfl

variable {data} [TensorData D] [LawfulTensorData D] {M : Type} [AddCommMonoid M]
  {allowed : D → Prop}

/-- Only the two sums are reached from the last sum. -/
theorem node_of_reaches {number : Nat} {node : Node D}
    (reached : (diamond data).Reaches (handle data 2) number)
    (stored : (diamond data).nodes[number]? = some node) :
    node.rule = both ∧ node.edges.length = 2 ∧
      ∀ leaf, .leaf leaf ∈ node.edges → leaf = handle data 0 := by
  obtain ⟨start, edge, path⟩ := reached
  cases edge
  have sound := (diamond_steps data).sound .start
  have low : number ≤ 1 := sound.descending.le_of_reaches path
  match number, low, stored with
  | 0, _, stored =>
      have edges : node.edges = [.leaf (handle data 0), .leaf (handle data 0)] := by
        rw [← Option.some.inj stored]
        rfl
      refine ⟨by rw [← Option.some.inj stored]; rfl, by rw [edges]; rfl, ?_⟩
      simp [edges]
  | 1, _, stored =>
      have edges : node.edges = [.node 0, .leaf (handle data 0)] := by
        rw [← Option.some.inj stored]
        rfl
      refine ⟨by rw [← Option.some.inj stored]; rfl, by rw [edges]; rfl, ?_⟩
      simp [edges]

variable (data) in
/-- The maps of a sum are identities. -/
def additive (reading : ExactReading D allowed M)
    (kind : TensorData.kind (data 0) = TensorData.kind (data 2)) :
    (diamond data).Additive reading (handle data 2) where
  maps _ _ := AddMonoidHom.id M
  leaf number node reached stored leaf member := by
    rw [(node_of_reaches reached stored).2.2 leaf member]
    simp only [TensorData.kind, Prod.mk.injEq] at kind
    exact kind.2
  rule number node reached stored gradient outcomes like gave slot inside := by
    obtain ⟨rule, two, _⟩ := node_of_reaches reached stored
    rw [rule] at gave
    rw [two] at inside
    rw [← Except.ok.inj gave]
    match slot, inside with
    | 0, _ => exact ⟨fun outcome same => Option.some.inj same ▸ like, rfl⟩
    | 1, _ => exact ⟨fun outcome same => Option.some.inj same ▸ like, rfl⟩

variable (data) in
/-- A pass from the last sum adds to the gradients the sums over all paths, and changes nothing
else. -/
def SumsPaths (reading : ExactReading D allowed M)
    (kind : TensorData.kind (data 0) = TensorData.kind (data 2)) (seed : View D) : Prop :=
  (∀ tensor, (diamond data).Knows tensor → ∃ paths : Finset (List Nat),
    (∀ path, path ∈ paths ↔
      (diamond data).graph.leafAt ((diamond data).edgeTo (handle data 2)) path = some tensor) ∧
    ((diamond data).backward (handle data 2) seed).2.gradientOf reading tensor.number =
      (diamond data).gradientOf reading tensor.number + ∑ path ∈ paths,
        (diamond data).graph.carry (additive data reading kind).maps
          ((diamond data).edgeTo (handle data 2)) path (reading.value seed.data)) ∧
  ∀ number, (∀ path leaf,
    (diamond data).graph.leafAt ((diamond data).edgeTo (handle data 2)) path = some leaf →
      leaf.number ≠ number) →
    ((diamond data).backward (handle data 2) seed).2.state number = (diamond data).state number

end Diamond

/-- Whole numbers as data with a single element. -/
structure Whole where
  number : Int
deriving DecidableEq

namespace Whole

open Diamond

instance : TensorData Whole where
  shape _ := []
  dtype _ := .float64
  device _ := .cpu
  convert data dtype device :=
    if dtype = .float64 ∧ device = .cpu then .ok data else .error (.copyOutOfMeta device)
  add a b := .ok ⟨a.number + b.number⟩

instance : LawfulTensorData Whole where
  kind_convert {data new dtype device} converted := by
    change (if dtype = .float64 ∧ device = .cpu then _ else _) = _ at converted
    split at converted
    next same =>
      rw [same.1, same.2]
      rfl
    next => cases converted
  kind_add _ := rfl

/-- Whole numbers as themselves. -/
def exact : ExactReading Whole (fun _ => True) Int where
  value data := data.number
  closed := ⟨fun _ _ => trivial, fun _ _ _ => trivial⟩
  add_value x y z _ _ _ _ added := by
    rw [← Except.ok.inj added]
  add_total x y _ _ _ := ⟨⟨x.number + y.number⟩, rfl⟩
  convert_value x z _ converted := by
    change (if _ then _ else _) = _ at converted
    rw [if_pos ⟨rfl, rfl⟩] at converted
    rw [Except.ok.inj converted]

/-- A number, its double, its triple, and another number. -/
def numbers (place : Nat) : Whole := ⟨place + 1⟩

/-- The gradient that a pass starts from. -/
def seven : View Whole := ⟨⟨7⟩, .ofTensor 4⟩

example : ((diamond numbers).backward (handle numbers 2) seven).2.gradientOf exact 0 = 21 := by
  decide

end Whole

/-- Whole numbers as data with a shape. -/
structure Grid where
  shape : Shape
  numbers : List Int
deriving DecidableEq

namespace Grid

open Diamond

/-- There are as many numbers as the shape says. -/
def Full (grid : Grid) : Prop := grid.numbers.length = grid.shape.count

instance : TensorData Grid where
  shape := Grid.shape
  dtype _ := .float64
  device _ := .cpu
  convert data dtype device :=
    if dtype = .float64 ∧ device = .cpu then .ok data else .error (.copyOutOfMeta device)
  add a b :=
    if a.shape = b.shape then .ok ⟨a.shape, List.zipWith (· + ·) a.numbers b.numbers⟩
    else .error (.shapeMismatch a.shape b.shape)

private theorem convert_eq {data new : Grid} {dtype : DType} {device : Device}
    (converted : TensorData.convert data dtype device = .ok new) :
    dtype = .float64 ∧ device = .cpu ∧ new = data := by
  change (if dtype = .float64 ∧ device = .cpu then _ else _) = _ at converted
  split at converted
  next same => exact ⟨same.1, same.2, (Except.ok.inj converted).symm⟩
  next => cases converted

private theorem add_eq {a b total : Grid} (added : TensorData.add a b = .ok total) :
    a.shape = b.shape ∧ total = ⟨a.shape, List.zipWith (· + ·) a.numbers b.numbers⟩ := by
  change (if a.shape = b.shape then _ else _) = _ at added
  split at added
  next same => exact ⟨same, (Except.ok.inj added).symm⟩
  next => cases added

instance : LawfulTensorData Grid where
  kind_convert converted := by
    obtain ⟨rfl, rfl, rfl⟩ := convert_eq converted
    rfl
  kind_add added := by
    obtain ⟨_, rfl⟩ := add_eq added
    rfl

/-- The numbers by their places, zero beyond the last one.  Sums are exact where there are as
many numbers as the shape says. -/
def exact : ExactReading Grid Full (Nat → Int) where
  value grid place := grid.numbers.getD place 0
  closed :=
    { convert := fun full converted => (convert_eq converted).2.2 ▸ full
      add := fun {old new _} old_full new_full added => by
        obtain ⟨same, rfl⟩ := add_eq added
        rw [Full, List.length_zipWith, show old.numbers.length = _ from old_full,
          show new.numbers.length = _ from new_full, same, Nat.min_self] }
  add_value x y z x_full y_full _ _ added := by
    obtain ⟨same, rfl⟩ := add_eq added
    have lengths : x.numbers.length = y.numbers.length :=
      x_full.trans ((congrArg Shape.count same).trans y_full.symm)
    funext place
    rw [Pi.add_apply]
    simp only [List.getD_eq_getElem?_getD, List.getElem?_zipWith]
    by_cases inside : place < x.numbers.length
    · rw [List.getElem?_eq_getElem inside, List.getElem?_eq_getElem (lengths ▸ inside)]
      rfl
    · rw [List.getElem?_eq_none (Nat.le_of_not_lt inside),
        List.getElem?_eq_none (lengths ▸ Nat.le_of_not_lt inside)]
      rfl
  add_total x y _ _ kind :=
    ⟨⟨x.shape, List.zipWith (· + ·) x.numbers y.numbers⟩, if_pos (congrArg Prod.fst kind)⟩
  convert_value x z _ converted := by rw [(convert_eq converted).2.2]

/-- A pair of numbers, its double, its triple, and another pair. -/
def pairs (place : Nat) : Grid := ⟨[2], [place + 1, -(place + 1)]⟩

/-- The gradient that a pass starts from. -/
def seed : View Grid := ⟨⟨[2], [7, 5]⟩, .ofTensor 4⟩

end Grid

namespace Diamond

open Whole (numbers seven)
open Grid (pairs seed)

/-- Three paths lead from the last sum to the leaf, which is a single number, or has a shape. -/
theorem backward_sums_paths_diamond :
    SumsPaths numbers Whole.exact rfl seven ∧ SumsPaths pairs Grid.exact rfl seed := by
  constructor
  · have held : (diamond numbers).Accumulates fun _ => True := fun _ _ _ => trivial
    have known : (diamond numbers).Knows (handle numbers 2) := rfl
    have tracked : ((diamond numbers).state (handle numbers 2).number).requiresGrad = true := rfl
    have shaped : TensorData.kind seven.data = TensorData.kind (handle numbers 2).data := rfl
    have success : ((diamond numbers).backward (handle numbers 2) seven).1 = .ok () := rfl
    exact Tape.backward_sums_paths (diamond_steps numbers) Whole.exact held known tracked shaped
      trivial (additive numbers Whole.exact rfl) success
  · have held : (diamond pairs).Accumulates Grid.Full := fun tensor grad stored => by
      rw [diamond_grad] at stored
      cases stored
    have known : (diamond pairs).Knows (handle pairs 2) := rfl
    have tracked : ((diamond pairs).state (handle pairs 2).number).requiresGrad = true := rfl
    have shaped : TensorData.kind seed.data = TensorData.kind (handle pairs 2).data := rfl
    have full : Grid.Full seed.data := rfl
    have success : ((diamond pairs).backward (handle pairs 2) seed).1 = .ok () := rfl
    exact Tape.backward_sums_paths (diamond_steps pairs) Grid.exact held known tracked shaped
      full (additive pairs Grid.exact rfl) success

end Diamond

end Atomistic
