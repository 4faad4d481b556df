import Atomistic.Proofs.Autograd.Run

/-!
# What an application does

An application of an operation runs the forward half, and then one of four things
(`Atomistic.Operation.Ends`): the forward half failed, no input required a gradient, the
output has its place in a graph already, or a node is attached to the output.  Only the
last changes a tape, and it changes the state of the output alone
(`Atomistic.Tape.Attached`).  So when the forward half leaves the states of the tensors that
existed before it as they are, an application that fails changes none of them, and one
that succeeds none but that of its output.
-/

namespace Atomistic

namespace Tape

variable {D : Type}

/-- A node has been attached to a tensor that had no place in a graph, and nothing else has
changed. -/
structure Attached (before after : Tape D) (output : Tensor D) (node : Node D) : Prop where
  untracked : (before.state output.number).requiresGrad = false
  leaf : (before.state output.number).gradFn = none
  placed : after.state output.number =
    { before.state output.number with requiresGrad := true, gradFn := some before.nodes.size }
  others : ∀ number, number ≠ output.number → after.state number = before.state number
  nodes : after.nodes = before.nodes.push node
  tensors : after.tensors = before.tensors
  sweeps : after.sweeps = before.sweeps

variable {before after : Tape D} {output : Tensor D} {node : Node D}

/-- What it takes to make a tensor the output of a node, and what it changes. -/
theorem attached_of_attach (succeeded : before.attach output node = .ok after) :
    Attached before after output node := by
  rw [attach] at succeeded
  split at succeeded
  · cases succeeded
  next free =>
    obtain ⟨untracked, leaf⟩ := not_or.mp (mt Bool.or_eq_true_iff.mpr free)
    rw [← Except.ok.inj succeeded]
    refine ⟨Bool.eq_false_iff.mpr untracked, Option.not_isSome_iff_eq_none.mp leaf, ?_,
      fun number other => ?_, rfl, rfl, rfl⟩
    · rw [state_setState, if_pos rfl]
    · rw [state_setState, if_neg other]
      rfl

/-- Only a tensor that has its place in a graph is refused. -/
theorem refused_of_attach {fault : TensorError}
    (failed : before.attach output node = .error fault) :
    fault = .alreadyInGraph node.name ∧
      ((before.state output.number).requiresGrad ∨ (before.state output.number).gradFn.isSome) := by
  rw [attach] at failed
  split at failed
  next placed => exact ⟨(Except.error.inj failed).symm, Bool.or_eq_true_iff.mp placed⟩
  next => cases failed

end Tape

/-- The tensors that existed before have the states that they had. -/
def Workspace.Untouched (before after : Workspace) : Prop :=
  ∀ number < before.tape.tensors.size, after.tape.state number = before.tape.state number

/-- Of the tensors that existed before, one has changed its state: it had no place in a graph,
and has become the output of a node. -/
structure Workspace.Records (before after : Workspace) (output : Tensor) : Prop where
  others : ∀ number < before.tape.tensors.size, number ≠ output.number →
    after.tape.state number = before.tape.state number
  output : output.number < before.tape.tensors.size →
    (before.tape.state output.number).requiresGrad = false ∧
    (before.tape.state output.number).gradFn = none ∧
    ∃ node, after.tape.state output.number =
      { before.tape.state output.number with requiresGrad := true, gradFn := some node }

/-- A tensor requires a gradient. -/
def Workspace.Tracks (workspace : Workspace) (tensor : Tensor) : Prop :=
  (workspace.tape.state tensor.number).requiresGrad = true

namespace Operation

variable {Fault : Type}

/-- The node of an application has one edge for each input, and the edges that lead nowhere
are those of the inputs that needed no gradient. -/
structure Links (operation : Operation) (before : Workspace) (inputs : List Tensor)
    (node : Node) : Prop where
  name : node.name = operation.name
  counted : node.edges.length = inputs.length
  needs : ∀ (i : Nat) (input : Tensor), inputs[i]? = some input →
    (node.context.needsGrad i = true ↔ before.Tracks input)
  edges : ∀ i < inputs.length, node.edges[i]? = some .untracked ↔ node.context.needsGrad i = false

/-- The ways in which an application can end. -/
inductive Ends (operation : Operation) (inject : TensorError → Fault) (inputs : List Tensor)
    (forward : Session Fault Forward) (before : Workspace) : Except Fault Tensor × Workspace → Prop
  | failed {fault : Fault} {middle : Workspace}
      (ran : forward.exec before = (.error fault, middle)) :
      Ends operation inject inputs forward before (.error fault, middle)
  | unrecorded {made : Forward} {middle : Workspace}
      (ran : forward.exec before = (.ok made, middle))
      (untracked : ∀ input ∈ inputs, ¬ before.Tracks input) :
      Ends operation inject inputs forward before (.ok made.output, middle)
  | refused {made : Forward} {middle : Workspace}
      (ran : forward.exec before = (.ok made, middle))
      (tracked : ∃ input ∈ inputs, before.Tracks input)
      (placed : middle.Tracks made.output ∨
        (middle.tape.state made.output.number).gradFn.isSome) :
      Ends operation inject inputs forward before
        (.error (inject (.alreadyInGraph operation.name)), middle)
  | recorded {made : Forward} {middle after : Workspace} {node : Node}
      (ran : forward.exec before = (.ok made, middle))
      (tracked : ∃ input ∈ inputs, before.Tracks input)
      (attached : Tape.Attached middle.tape after.tape made.output node)
      (links : operation.Links before inputs node) :
      Ends operation inject inputs forward before (.ok made.output, after)

variable {operation : Operation} {inject : TensorError → Fault} {inputs : List Tensor}
  {forward : Session Fault Forward} {before : Workspace}

/-- The edges are found after the forward half, and still agree with what the inputs needed
before it. -/
theorem node_links {middle : Workspace} (known : ∀ input ∈ inputs, before.tape.Knows input)
    (untouched : before.Untouched middle) (made : Forward) :
    operation.Links before inputs (operation.node middle.tape inputs
      (inputs.map fun input => (before.tape.state input.number).requiresGrad) made) where
  name := rfl
  counted := List.length_map ..
  needs i input listed := by
    simp only [node, Context.needsGrad, List.getD_eq_getElem?_getD, List.getElem?_map, listed,
      Option.map_some, Option.getD_some, Workspace.Tracks]
  edges i inside := by
    have listed : inputs[i]? = some inputs[i] := List.getElem?_eq_getElem inside
    have same := untouched inputs[i].number (known inputs[i] (List.getElem_mem inside)).lt
    simp only [node, Context.needsGrad, List.getD_eq_getElem?_getD, List.getElem?_map, listed,
      Option.map_some, Option.getD_some, Option.some.injEq, Tape.edgeTo_eq_untracked_iff, same]

/-- **Every application ends in one of four ways.** -/
theorem apply_ends (known : ∀ input ∈ inputs, before.tape.Knows input)
    (untouched : before.Untouched (forward.exec before).2) :
    operation.Ends inject inputs forward before
      ((operation.apply inject inputs forward).exec before) := by
  rcases ran : forward.exec before with ⟨fault | made, middle⟩
  · rw [Run.exec_apply_error ran]
    exact .failed ran
  · rw [ran] at untouched
    have any_iff : (inputs.any fun input => (before.tape.state input.number).requiresGrad) = true ↔
        ∃ input ∈ inputs, before.Tracks input := List.any_eq_true
    by_cases tracked : inputs.any fun input => (before.tape.state input.number).requiresGrad
    · cases attached : middle.tape.attach made.output (operation.node middle.tape inputs
          (inputs.map fun input => (before.tape.state input.number).requiresGrad) made) with
      | error fault =>
          obtain ⟨rfl, placed⟩ := Tape.refused_of_attach attached
          rw [Run.exec_apply_refused ran tracked attached]
          exact .refused ran (any_iff.mp tracked) placed
      | ok tape =>
          obtain ⟨after, applied, rfl⟩ : ∃ after,
              (operation.apply inject inputs forward).exec before =
              (.ok made.output, after) ∧ after.tape = tape :=
                Run.exec_apply_tracked ran tracked attached
          rw [applied]
          exact .recorded ran (any_iff.mp tracked) (Tape.attached_of_attach attached)
            (node_links known untouched made)
    · rw [Run.exec_apply_untracked ran tracked]
      exact .unrecorded ran fun input member needed => tracked (any_iff.mpr ⟨input, member, needed⟩)

/-- An application that fails leaves the states that its forward half left. -/
theorem Ends.untouched_of_error {fault : Fault} {after : Workspace}
    (ends : operation.Ends inject inputs forward before (.error fault, after))
    (untouched : before.Untouched (forward.exec before).2) : before.Untouched after := by
  cases ends with
  | failed ran | refused ran => rwa [ran] at untouched

/-- An application that no input asks to be recorded leaves the states that its forward half
left. -/
theorem Ends.untouched_of_ok {output : Tensor} {after : Workspace}
    (ends : operation.Ends inject inputs forward before (.ok output, after))
    (untouched : before.Untouched (forward.exec before).2)
    (untracked : ∀ input ∈ inputs, ¬ before.Tracks input) : before.Untouched after := by
  cases ends with
  | unrecorded ran => rwa [ran] at untouched
  | recorded _ tracked =>
      obtain ⟨input, member, needed⟩ := tracked
      exact absurd needed (untracked input member)

/-- An application that is recorded changes the state of its output and no other. -/
theorem Ends.records_of_ok {output : Tensor} {after : Workspace}
    (ends : operation.Ends inject inputs forward before (.ok output, after))
    (untouched : before.Untouched (forward.exec before).2)
    (tracked : ∃ input ∈ inputs, before.Tracks input) : before.Records after output := by
  cases ends with
  | unrecorded _ untracked =>
      obtain ⟨input, member, needed⟩ := tracked
      exact absurd needed (untracked input member)
  | @recorded made middle _ _ ran _ attached =>
      rw [ran] at untouched
      refine ⟨fun number inside other => ?_, fun inside => ?_⟩
      · exact (attached.others number other).trans (untouched number inside)
      · rw [← untouched made.output.number inside]
        exact ⟨attached.untracked, attached.leaf, _, attached.placed⟩

end Operation

end Atomistic
