import Atomistic.Proofs.Autograd.Run
import Atomistic.Proofs.System.Changes

/-!
# What conversions leave alone

A tensor that is cast or moved gives a tensor that was there or a new one, and only the new
one can become the output of a node.  So nothing changes for the tensors that there were,
whatever is cast or moved: a tensor, labels, a block or a system
(`Atomistic.System.transfer_spares`), and whether it succeeds or fails.
-/

namespace Atomistic

open Session

/-- The tape gains tensors and nodes, and nothing changes for the tensors that there were. -/
structure Workspace.Spares (before after : Workspace) : Prop where
  tensors : before.tape.tensors.size ≤ after.tape.tensors.size
  states : ∀ number < before.tape.tensors.size, after.tape.state number = before.tape.state number
  nodes : ∀ (number : Nat) (node : Node), before.tape.nodes[number]? = some node →
    after.tape.nodes[number]? = some node

open Workspace

namespace Workspace

instance : IsTrans Workspace Spares :=
  ⟨fun _ _ _ first second =>
    { tensors := first.tensors.trans second.tensors
      states := fun number there =>
        (second.states number (there.trans_le first.tensors)).trans (first.states number there)
      nodes := fun number node present =>
        second.nodes number node (first.nodes number node present) }⟩

/-- Whatever is written to the journal, the tape stays. -/
theorem Spares.of_tape {before after : Workspace} (same : after.tape = before.tape) :
    Spares before after := by
  refine ⟨?_, fun number _ => ?_, fun number node present => ?_⟩
  all_goals rw [same]
  exact present

/-- Doing nothing spares every tensor. -/
theorem Spares.refl (workspace : Workspace) : Spares workspace workspace := .of_tape rfl

end Workspace

variable {Fault α : Type} {workspace : Workspace}

/-- What is placed is new. -/
theorem place_spares (outcome : Outcome) :
    (place outcome : Session Fault Tensor).Within Spares workspace fun made _ =>
      workspace.tape.tensors.size ≤ made.number := by
  refine .of_exec (exec_place outcome workspace) ⟨?_, fun _ _ => rfl, fun _ _ present => present⟩
    fun made result => ?_
  · exact (Array.size_push _).symm ▸ Nat.le_succ _
  · rw [← Except.ok.inj result]
    exact Nat.le_refl _

/-- A check spares every tensor. -/
theorem ofExcept_spares (result : Except Fault α) :
    (ofExcept result).Within Spares workspace fun _ _ => True :=
  .of_exec (exec_ofExcept result workspace) (.refl workspace) fun _ _ => trivial

/-- A node that is attached to a new tensor changes nothing for the others. -/
theorem Workspace.Spares.attach {before middle after : Workspace} (spares : Spares before middle)
    {output : Tensor} (new : before.tape.tensors.size ≤ output.number) {node : Node}
    (attached : middle.tape.attach output node = .ok after.tape) : Spares before after := by
  rw [Tape.attach] at attached
  split at attached
  · cases attached
  have same := (Except.ok.inj attached).symm
  refine ⟨?_, fun number there => ?_, fun number other present => ?_⟩
  · rw [same]
    exact spares.tensors
  · rw [same, Tape.state_setState, if_neg (there.trans_le new).ne]
    exact spares.states number there
  · rw [same]
    change (middle.tape.nodes.push node)[number]? = some other
    have kept := spares.nodes number other present
    obtain ⟨inside, _⟩ := Array.getElem?_eq_some_iff.mp kept
    rw [Array.getElem?_push, if_neg inside.ne]
    exact kept

namespace Operation

variable {operation : Operation} {inject : TensorError → Fault} {inputs : List Tensor}
  {forward : Session Fault Forward}

/-- An application whose forward half makes a new tensor attaches its node to that tensor. -/
theorem apply_spares (half : forward.Within Spares workspace fun made _ =>
      workspace.tape.tensors.size ≤ made.output.number) :
    (operation.apply inject inputs forward).Within Spares workspace fun _ _ => True := by
  have moved := half.moved
  have gives := half.gives
  rcases ran : forward.exec workspace with ⟨fault | made, middle⟩
  all_goals rw [ran] at moved gives
  · exact .of_error (Run.exec_apply_error ran) moved
  · by_cases tracked : inputs.any fun input => (workspace.tape.state input.number).requiresGrad
    · cases attached : middle.tape.attach made.output (operation.node middle.tape inputs
          (inputs.map fun input => (workspace.tape.state input.number).requiresGrad) made) with
      | error fault => exact .of_error (Run.exec_apply_refused ran tracked attached) moved
      | ok tape =>
          obtain ⟨after, applied, rfl⟩ := @Run.exec_apply_tracked _ _ operation inject _ _ _ _ ran
            tracked _ attached
          exact .of_exec applied (moved.attach (gives made rfl) attached) fun _ _ => trivial
    · exact .of_exec (Run.exec_apply_untracked ran tracked) moved fun _ _ => trivial

end Operation

namespace Tensor

private theorem convert_spares (tensor : Tensor) (dtype : DType) (device : Device) :
    (tensor.convert dtype device).Within Spares workspace fun made _ =>
      workspace.tape.tensors.size ≤ made.number := by
  have moved := @place_spares TensorError
  rw [convert]
  cases converted : tensor.toView.convert dtype device with
  | error fault => exact .of_error (by rw [exec_bind, exec_ofExcept]) (.refl workspace)
  | ok outcome => exact moved outcome

/-- To move a tensor spares every tensor. -/
theorem transfer_spares (tensor : Tensor) (dtype : Option DType) (device : Option Device) :
    (tensor.transfer dtype device).Within Spares workspace fun _ _ => True := by
  rw [transfer]
  split
  · exact .of_exec rfl (.refl workspace) fun _ _ => trivial
  · refine (Within.look (exec_requiresGrad tensor workspace) (.refl workspace)).bind ?_
    rintro tracked middle _ ⟨_, rfl⟩
    split
    · refine Operation.apply_spares ((convert_spares tensor _ _).bind fun output after _ new => ?_)
      exact .of_exec rfl (.refl after) fun made result => Except.ok.inj result ▸ new
    · exact (convert_spares tensor _ _).weaken fun _ _ _ => trivial

end Tensor

/-- To move labels spares every tensor. -/
theorem Labels.transfer_spares (labels : Labels) (device : Device) :
    (labels.transfer device).Within Spares workspace fun _ _ => True :=
  (Tensor.transfer_spares labels.values none (some device)).bind fun _ after _ _ =>
    .of_exec rfl (.refl after) fun _ _ => trivial

namespace Block

mutual

/-- To move a block spares every tensor. -/
theorem transfer_spares (dtype : Option DType) (device : Option Device) :
    ∀ (block : Block) (workspace : Workspace),
      (transfer dtype device block).Within Spares workspace fun _ _ => True
  | ⟨values, samples, components, properties, gradients⟩, workspace => by
      rw [transfer]
      refine (Tensor.transfer_spares values dtype device).bind fun moved one _ _ => ?_
      refine (transferAll_spares dtype (some moved.device) gradients one).bind fun _ _ _ _ => ?_
      refine (Labels.transfer_spares samples moved.device).bind fun _ three _ _ => ?_
      have each : (components.mapM fun component : Labels => component.transfer moved.device).Within
          Spares three fun made _ => List.Forall₂ (fun _ _ => True) components made :=
        .mapM (fun _ => .refl _) (fun _ holds => holds) fun component _ middle _ =>
          Labels.transfer_spares component moved.device
      refine each.bind fun _ _ _ _ => ?_
      refine (Labels.transfer_spares properties moved.device).bind fun _ last _ _ => ?_
      exact .of_exec rfl (.refl last) fun _ _ => trivial

/-- To move blocks one after the other spares every tensor. -/
theorem transferAll_spares (dtype : Option DType) (device : Option Device) :
    ∀ (entries : List (String × Block)) (workspace : Workspace),
      (transferAll dtype device entries).Within Spares workspace fun _ _ => True
  | [], workspace => by
      rw [transferAll]
      exact .of_exec rfl (.refl workspace) fun _ _ => trivial
  | (parameter, block) :: rest, workspace => by
      rw [transferAll]
      refine (transfer_spares dtype device block workspace).bind fun _ middle _ _ => ?_
      refine (transferAll_spares dtype device rest middle).bind fun _ after _ _ => ?_
      exact .of_exec rfl (.refl after) fun _ _ => trivial

end

end Block

namespace System

private theorem create_spares (types positions cell pbc : Tensor) :
    (create types positions cell pbc).Within Spares workspace fun _ _ => True := by
  rw [create]
  refine .check (.refl _) fun _ => .check (.refl _) fun _ => .check (.refl _) fun _ => ?_
  refine (Tensor.transfer_spares types _ _).adapt.bind fun _ _ _ _ => ?_
  refine (ofExcept_spares _).bind fun _ _ _ _ => .check (.refl _) fun _ => ?_
  refine (ofExcept_spares _).bind fun _ _ _ _ => .check (.refl _) fun _ => ?_
  refine .check (.refl _) fun _ => .check (.refl _) fun _ => .check (.refl _) fun _ => ?_
  refine (ofExcept_spares _).bind fun _ last _ _ => ?_
  exact .of_exec rfl (.refl last) fun _ _ => trivial

private theorem addNeighborList_spares (system : System) (options : NeighborListOptions)
    (list : Block) :
    (system.addNeighborList options list).Within Spares workspace fun _ _ => True := by
  have looks {tensor : Tensor} {middle : Workspace} :
      (requiresGrad tensor : Session Error Bool).Within Spares middle fun _ _ => True :=
    .of_exec rfl (.refl middle) fun _ _ => trivial
  have notes {level : Level} {target text : String} {middle : Workspace} :
      (note level target text : Session Error PUnit).Within Spares middle fun _ _ => True :=
    .of_exec rfl (.of_tape rfl) fun _ _ => trivial
  rw [addNeighborList_steps]
  refine (ofExcept_spares _).bind fun _ _ _ _ => ?_
  refine .check (.refl _) fun _ => .check (.refl _) fun _ => .check (.refl _) fun _ => ?_
  refine looks.bind fun _ _ _ _ => looks.bind fun _ _ _ _ => looks.bind fun _ four _ _ => ?_
  refine .when (.refl four) trivial notes fun _ _ _ => .check (.refl _) fun _ => ?_
  exact notes.bind fun _ last _ _ => .of_exec rfl (.refl last) fun _ _ => trivial

private theorem addConverted_spares (dtype : Option DType) (device : Option Device)
    (system : System)
    (lists : List (NeighborListOptions × Block)) :
    (addConverted dtype device system lists).Within Spares workspace fun _ _ => True :=
  .foldlM (fun _ => .refl _) (fun entry _ state middle _ _ =>
    (Block.transfer_spares dtype device entry.2 middle).adapt.bind fun list _ _ _ =>
      addNeighborList_spares state entry.1 list) trivial

private theorem addConvertedData_spares (dtype : Option DType) (device : Option Device)
    (system : System)
    (data : List (String × Block)) :
    (addConvertedData dtype device system data).Within Spares workspace fun _ _ => True :=
  .foldlM (fun _ => .refl _) (fun entry _ _ middle _ _ =>
    (Block.transfer_spares dtype device entry.2 middle).adapt.bind fun _ _ _ _ =>
      ofExcept_spares _) trivial

/-- **A system that is cast or moved leaves alone all tensors that there were**, also when it
can not be. -/
theorem transfer_spares (system : System) (dtype : Option DType) (device : Option Device) :
    (system.transfer dtype device).Within Spares workspace fun _ _ => True := by
  rw [transfer]
  refine (Tensor.transfer_spares system.types none device).adapt.bind fun types _ _ _ => ?_
  refine (Tensor.transfer_spares system.positions dtype device).adapt.bind fun positions _ _ _ => ?_
  refine (Tensor.transfer_spares system.cell dtype device).adapt.bind fun cell _ _ _ => ?_
  refine (Tensor.transfer_spares system.pbc none device).adapt.bind fun pbc _ _ _ => ?_
  refine (create_spares types positions cell pbc).bind fun created _ _ _ => ?_
  refine (addConverted_spares dtype device created system.neighborLists).bind fun made _ _ _ => ?_
  exact addConvertedData_spares dtype device made system.data

end System

end Atomistic
