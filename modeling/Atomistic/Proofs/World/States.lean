import Atomistic.Proofs.Autograd.Applied
import Atomistic.Proofs.Autograd.Permanence
import Atomistic.Proofs.World.Marks

/-!
# The states of tensors over whole runs

Operations on tensors, labels, blocks and systems take the tape on in steps, so what node
produced a tensor never changes (`Atomistic.World.Reachable.continues`).  In every world that
operations lead to the state of each tensor is consistent, and what marks a tensor fails
without a trace or changes the one tensor that it is about
(`Atomistic.World.Reachable.states_kept`).
-/

namespace Atomistic

/-- Marking a leaf checks the type of the tensor first, and then that no node produced it. -/
theorem Tensor.exec_setRequiresGrad (tensor : Tensor) (requiresGrad : Bool)
    (workspace : Workspace) :
    (tensor.setRequiresGrad requiresGrad).exec workspace =
      if requiresGrad = true ∧ ¬ tensor.dtype.isFloating = true then
        (.error (.nonFloatGrad tensor.dtype), workspace)
      else if (workspace.tape.state tensor.number).gradFn.isSome then (.error .notALeaf, workspace)
      else (.ok (), { workspace with
        tape := workspace.tape.setState tensor.number
          { workspace.tape.state tensor.number with requiresGrad } }) := by
  rw [Tensor.setRequiresGrad]
  by_cases refused : requiresGrad = true ∧ ¬ tensor.dtype.isFloating = true
  · rw [if_pos refused, if_pos (by simpa using refused)]
    rfl
  · rw [if_neg refused, if_neg (by simpa using refused)]
    simp only [Session.exec_bind, Session.exec_tape, Session.exec_ofExcept, Tape.setRequiresGrad]
    by_cases produced : (workspace.tape.state tensor.number).gradFn.isSome
    · simp only [if_pos produced]
    · simp only [if_neg produced, Session.exec_setTape]

namespace World

open Run

variable {world : World}

/-- One operation takes the workspace on. -/
theorem Step.extended {before after : World} (step : Step before after) (sound : before.Sound) :
    Extends Dense.Valid before.workspace after.workspace := by
  have kept {α : Type} {session : Session Error α} {store : α → World → World}
      {ended : α → Workspace → Prop}
      (within : session.Within (Extends Dense.Valid) before.workspace ended)
      (stores : ∀ value world, (store value world).workspace = world.workspace) :
      Extends Dense.Valid before.workspace (before.keep session store).workspace := by
    have moved := within.moved
    rw [keep]
    rcases ran : session.exec before.workspace with ⟨_ | value, workspace⟩
    · rwa [ran] at moved
    · rw [ran] at moved
      exact (stores value { before with workspace }) ▸ moved
  cases step with
  | run run => exact run.extended Dense.kind_valid
  | register present list_present check =>
      exact kept (NeighborList.register_within (sound.systems _ present)
        (sound.blocks _ list_present) check) fun _ _ => rfl
  | labels makes => exact kept (makes.within sound) fun _ _ => rfl
  | block makes => exact kept (makes.within sound) fun _ _ => rfl
  | options makes => exact kept (makes.within sound) fun _ _ => rfl
  | system makes => exact kept (makes.within sound) fun _ _ => rfl
  | @addGradient block gradient _ _ parameter =>
      obtain ⟨left, same, _⟩ := addGradient_eq before block parameter gradient
      exact same ▸ .refl _
  | @setLengthUnit options _ unit =>
      obtain ⟨left, same, _⟩ := setLengthUnit_eq before options unit
      exact same ▸ .refl _
  | @call system present change offers =>
      obtain ⟨left, after, same, rfl, _⟩ := call_eq before system change
      exact same ▸ (offers.gives sound present).moved

/-- Whatever happens later, no node and no output of a node is lost. -/
theorem Reachable.continues (reachable : world.Reachable) {later : World}
    (steps : Relation.ReflTransGen Step world later) :
    world.workspace.tape.Continues later.workspace.tape := by
  induction steps with
  | refl => exact .refl _
  | @tail middle _ earlier step ih =>
      have middle_reachable : middle.Reachable := reachable.trans earlier
      exact ih.trans (step.extended middle_reachable.sound).steps.continues

/-- Tensors that were made stay as they are. -/
theorem Reachable.knows (reachable : world.Reachable) {later : World}
    (steps : Relation.ReflTransGen Step world later) {tensor : Tensor}
    (known : world.workspace.tape.Knows tensor) : later.workspace.tape.Knows tensor := by
  induction steps with
  | refl => exact known
  | @tail middle _ earlier step ih =>
      have middle_reachable : middle.Reachable := reachable.trans earlier
      exact (step.extended middle_reachable.sound).knows ih

/-- **The states of tensors are consistent and change one at a time.**  In every world that
operations lead to, the outputs of nodes require gradients and stay the outputs of their
nodes, and a gradient is of the shape, the type and the device of its tensor.  Whoever marks a
tensor in vain changes nothing.  An application whose forward half leaves the states of the
tensors at hand as they are ends in one of four ways: if it fails, all states are as before, and
if it succeeds, all but that of its output. -/
theorem Reachable.states_kept (reachable : world.Reachable) :
    (∀ tensor node, (world.workspace.tape.state tensor).gradFn = some node →
      (world.workspace.tape.state tensor).requiresGrad = true ∧
      ∀ later, Relation.ReflTransGen Step world later →
        (later.workspace.tape.state tensor).gradFn = some node ∧
          later.workspace.tape.nodes[node]? = world.workspace.tape.nodes[node]?) ∧
    (∀ tensor, world.workspace.tape.Knows tensor →
      ∀ grad, (world.workspace.tape.state tensor.number).grad = some grad →
        grad.shape = tensor.shape ∧ grad.dtype = tensor.dtype ∧ grad.device = tensor.device) ∧
    (∀ (tensor : Tensor) (requiresGrad : Bool),
      ((∃ fault after, (tensor.setRequiresGrad requiresGrad).exec world.workspace =
          (.error fault, after)) ↔
        (requiresGrad = true ∧ ¬ tensor.dtype.isFloating = true) ∨
          (world.workspace.tape.state tensor.number).gradFn.isSome) ∧
      ∀ fault after, (tensor.setRequiresGrad requiresGrad).exec world.workspace =
        (.error fault, after) → after = world.workspace) ∧
    ∀ {Fault : Type} (operation : Operation) (inject : TensorError → Fault) (inputs : List Tensor)
      (forward : Session Fault Forward), (∀ input ∈ inputs, world.workspace.tape.Knows input) →
      world.workspace.Untouched (forward.exec world.workspace).2 →
      operation.Ends inject inputs forward world.workspace
        ((operation.apply inject inputs forward).exec world.workspace) ∧
      (∀ fault after, (operation.apply inject inputs forward).exec world.workspace =
        (.error fault, after) → world.workspace.Untouched after) ∧
      ∀ output after, (operation.apply inject inputs forward).exec world.workspace =
          (.ok output, after) →
        ((∀ input ∈ inputs, ¬ world.workspace.Tracks input) → world.workspace.Untouched after) ∧
        ((∃ input ∈ inputs, world.workspace.Tracks input) →
          world.workspace.Records after output) := by
  have sound := reachable.sound
  refine ⟨fun tensor node produced => ⟨sound.marked.produced tensor node produced, ?_⟩,
    fun tensor known grad stored => ?_, fun tensor requiresGrad => ?_,
    fun operation inject inputs forward known untouched => ?_⟩
  · intro later steps
    have continues := reachable.continues steps
    have made : node < world.workspace.tape.nodes.size := sound.tape.produced tensor node produced
    refine ⟨continues.produced produced, ?_⟩
    rw [Array.getElem?_eq_getElem made]
    exact continues.nodes (Array.getElem?_eq_getElem made)
  · have fits := (sound.tape.fits tensor.number grad stored).2 _ known
    obtain ⟨shape, others⟩ := Prod.ext_iff.mp fits
    obtain ⟨dtype, device⟩ := Prod.ext_iff.mp others
    exact ⟨shape, dtype, device⟩
  · rw [Tensor.exec_setRequiresGrad]
    split
    next refused =>
      exact ⟨⟨fun _ => .inl refused, fun _ => ⟨_, _, rfl⟩⟩, fun _ _ same =>
        (Prod.mk.inj same).2.symm⟩
    next floating =>
      split
      next produced =>
        exact ⟨⟨fun _ => .inr produced, fun _ => ⟨_, _, rfl⟩⟩,
          fun _ _ same => (Prod.mk.inj same).2.symm⟩
      next leaf =>
        exact ⟨⟨fun ⟨_, _, same⟩ => (nomatch same), fun refused =>
            (refused.elim floating leaf).elim⟩,
          fun _ _ same => nomatch same⟩
  · have ends : operation.Ends inject inputs forward world.workspace
        ((operation.apply inject inputs forward).exec world.workspace) :=
      Operation.apply_ends known untouched
    refine ⟨ends, fun fault after failed => ?_, fun output after succeeded => ?_⟩
    · rw [failed] at ends
      exact ends.untouched_of_error untouched
    · rw [succeeded] at ends
      exact ⟨ends.untouched_of_ok untouched, ends.records_of_ok untouched⟩

/-- The integer is given as a function of the number and of itself. -/
theorem Counted.states_kept_made : Reachable { workspace := made } ∧
    made.Untouched ((pure { output := integer } : Session TensorError Forward).exec made).2 ∧
    Counted.count.Ends (id : TensorError → TensorError) [number, integer]
      (pure { output := integer }) made
      ((Counted.count.apply id [number, integer] (pure { output := integer })).exec made) ∧
    made.Records ((Counted.count.apply (id : TensorError → TensorError) [number, integer]
      (pure { output := integer })).exec made).2 integer := by
  have reachable : Reachable { workspace := made } := .single (.run made_run)
  obtain ⟨_, _, _, applies⟩ := reachable.states_kept
  have known : ∀ input ∈ [number, integer], made.tape.Knows input := by
    simp only [List.forall_mem_cons]
    exact ⟨rfl, rfl, List.forall_mem_nil _⟩
  have untouched : made.Untouched
      ((pure { output := integer } : Session TensorError Forward).exec made).2 := fun _ _ => rfl
  obtain ⟨ends, _, succeeds⟩ := applies count (id : TensorError → TensorError) [number, integer]
    (pure { output := integer }) known untouched
  exact ⟨reachable, untouched, ends,
    (succeeds integer _ rfl).2 ⟨number, List.mem_cons_self, rfl⟩⟩

end World

end Atomistic
