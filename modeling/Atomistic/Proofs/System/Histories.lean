import Atomistic.Proofs.Sessions.Quiet
import Atomistic.Proofs.System.Sound

/-!
# Systems that are changed in place

A program holds a system and calls its setters and `add` operations.  A call that fails
leaves the system, and all tensors, as they were.  What the cell has to agree with depends
on the calls that succeeded since the system was constructed: any cell can be set, and
setting the periodicity checks the cell again.
-/

namespace Atomistic

open Run Session

namespace System

namespace Change

/-- Whether the cell was set after the periodicity was last compared with it, for the calls
that succeeded since the construction, the newest first. -/
def cellReplaced : List Change → Bool
  | [] => false
  | set .cell _ :: _ => true
  | set .pbc _ :: _ => false
  | _ :: older => cellReplaced older

end Change

end System

/-- A system that a program holds, and the calls that have succeeded since it was
constructed, the newest first. -/
structure Held where
  system : System
  changes : List System.Change := []

/-- What is held after a call, and the workspace that the call leaves.  The system is what the call
left of it, also if the call failed. -/
def Held.call (held : Held) (change : System.Change) (workspace : Workspace) : Held × Workspace :=
  match change.apply.exec held.system workspace with
  | ((.ok (), system), after) => (⟨system, change :: held.changes⟩, after)
  | ((.error _, system), after) => (⟨system, held.changes⟩, after)

/-- A call leaves what it makes of a copy, or what was held. -/
theorem Held.call_eq (held : Held) (change : System.Change) (workspace : Workspace) :
    held.call change workspace =
      match (change.made held.system).exec workspace with
      | (.ok system, after) => (⟨system, change :: held.changes⟩, after)
      | (.error _, after) => (held, after) := by
  rw [call, change.exec_apply]
  rcases (change.made held.system).exec workspace with ⟨_ | system, after⟩ <;> rfl

namespace System

private theorem convert_reverts (tensor : Tensor) (dtype : DType) (device : Device) :
    (tensor.convert dtype device).Reverts :=
  .bind (quiet_ofExcept _) fun _ _ _ _ failed => nomatch failed

/-- A cast to an integral type is not tracked, so nothing comes after the conversion. -/
theorem transfer_integral_reverts (tensor : Tensor) {dtype : DType}
    (integral : dtype.isFloating = false) : (tensor.transfer (some dtype) none).Reverts := by
  rw [Tensor.transfer]
  split
  · exact (quiet_pure tensor).reverts
  · refine .bind (quiet_requiresGrad tensor) fun tracked => ?_
    rw [show (some dtype).getD tensor.dtype = dtype from rfl, integral, Bool.and_false]
    exact convert_reverts tensor dtype _

private theorem setTypes_reverts (system : System) (types : Tensor) :
    (system.set .types types).Reverts := by
  rw [set_types]
  refine .bind (quiet_ofExcept _) fun _ => .check fun _ => .check fun _ => .check fun _ => ?_
  exact ((transfer_integral_reverts types rfl).adapt Error.tensor).map _

private theorem addNeighborList_reverts (system : System) (options : NeighborListOptions)
    (list : Block) :
    (system.addNeighborList options list).Reverts := by
  rw [addNeighborList_steps]
  refine .bind (quiet_ofExcept _) fun _ => .check fun _ => .check fun _ => .check fun _ => ?_
  refine .bind (quiet_requiresGrad _) fun _ => .bind (quiet_requiresGrad _) fun _ =>
    .bind (quiet_requiresGrad _) fun _ => .when (quiet_note _ _ _) (.check fun _ => ?_)
  exact .bind (quiet_note _ _ _) fun _ => (quiet_pure _).reverts

/-- **A call that fails leaves all tensors as they were.** -/
theorem Change.made_reverts (system : System) (change : Change) : (change.made system).Reverts := by
  cases change with
  | set field tensor =>
      rw [made]
      cases field with
      | types => exact setTypes_reverts system tensor
      | positions => exact set_positions system tensor ▸ (quiet_ofExcept _).reverts
      | cell => exact set_cell system tensor ▸ (quiet_ofExcept _).reverts
      | pbc => exact set_pbc system tensor ▸ (quiet_ofExcept _).reverts
  | addNeighborList options list => exact addNeighborList_reverts system options list
  | addData name block overwrite => exact (quiet_ofExcept _).reverts

/-- **A call that fails leaves the system and all tensors as they were.** -/
theorem Change.fails (change : Change) {system left : System} {workspace after : Workspace}
    {fault : Error} (failed : change.apply.exec system workspace = ((.error fault, left), after)) :
    left = system ∧ after.tape = workspace.tape ∧
      ∀ changes, Held.call ⟨system, changes⟩ change workspace = (⟨system, changes⟩, after) := by
  have same := change.apply_allOrNothing _ _ _ _ _ failed
  subst same
  have ran : (change.made left).exec workspace = (.error fault, after) := by
    rw [← change.apply_copiedIn, InPlace.exec_copiedIn, failed]
  refine ⟨rfl, change.made_reverts _ _ _ _ ran, fun changes => ?_⟩
  rw [Held.call, failed]

/-- What a call gives when it succeeds: a sound system with as many atoms.  Its cell agrees
with its periodicity unless the cell was set after the two were last compared. -/
structure Change.Gives (system : System) (change : Change) (made : System) (after : Workspace) :
    Prop where
  sound : made.Sound after.tape
  size : made.size = system.size
  agrees : ∀ older, (cellReplaced older = false →
      checkCell system.cell.data system.pbc.data = .ok ()) →
    cellReplaced (change :: older) = false → checkCell made.cell.data made.pbc.data = .ok ()

variable {allowed : Dense → Prop} {workspace : Workspace} {system : System}

/-- What setting a tensor gives, and that it extends the tape at most. -/
theorem Change.set_gives (kind : Dense.Kind allowed) (sound : system.Sound workspace.tape)
    {tensor : Tensor} (known : workspace.tape.Knows tensor) (field : Field) :
    (system.set field tensor).Within (Extends allowed) workspace
      (Change.Gives system (.set field tensor)) := by
  apply (set_within kind sound known field).weaken
  intro made after replaced
  refine ⟨replaced.sound, replaced.size, fun older agreed fresh => ?_⟩
  obtain ⟨new, rfl⟩ := replaced.put
  cases field with
  | types => exact agreed fresh
  | positions => exact agreed fresh
  | cell => cases fresh
  | pbc => exact replaced.agrees rfl

/-- What adding a list gives, and that it extends the tape at most. -/
theorem Change.addNeighborList_gives (sound : system.Sound workspace.tape)
    {options : NeighborListOptions} (options_sound : options.Sound) {list : Block}
    (list_sound : list.Sound workspace.tape) :
    (system.addNeighborList options list).Within (Extends allowed) workspace
      (Change.Gives system (.addNeighborList options list)) := by
  apply (addNeighborList_within sound options_sound list_sound).weaken
  rintro made after ⟨made_sound, rfl⟩
  exact ⟨made_sound, rfl, fun older agreed fresh => agreed fresh⟩

/-- What adding a block of data gives. -/
theorem Change.addData_gives (sound : system.Sound workspace.tape) {block : Block}
    (block_sound : block.Sound workspace.tape) (name : String) (overwrite : Bool) :
    (Session.ofExcept (system.addData name block overwrite)).Within (Extends allowed) workspace
      (Change.Gives system (.addData name block overwrite)) := by
  apply (ofExcept_within _).weaken
  rintro made after ⟨added, rfl⟩
  obtain ⟨made_sound, rfl⟩ := addData_sound sound block_sound added
  exact ⟨made_sound, rfl, fun older agreed fresh => agreed fresh⟩

end System

end Atomistic
