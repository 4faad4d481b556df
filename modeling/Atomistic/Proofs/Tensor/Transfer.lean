import Atomistic.Proofs.Autograd.Run

/-!
# What becomes of a tensor that is cast or moved

A tensor that can be converted is converted, tracked or not, with exactly the data of
the conversion (`Atomistic.Tensor.transfer_decides`).  If nothing tracks it, the tape
gains a tensor and nothing else (`Atomistic.Tensor.transfer_untracked`).  Only the meta
device can not be left (`Atomistic.Tensor.transfer_recasts`).
-/

namespace Atomistic

namespace Workspace

/-- The tape knows nothing about tensors that were not made yet. -/
def Clean (workspace : Workspace) : Prop :=
  ∀ number, workspace.tape.tensors.size ≤ number → workspace.tape.states.get? number = none

/-- Clean workspaces stay clean. -/
def Cleanly (before after : Workspace) : Prop := before.Clean → after.Clean

/-- The tape gains tensors and nothing else. -/
structure Grows (before after : Workspace) : Prop where
  tensors : before.tape.tensors.size ≤ after.tape.tensors.size
  states : after.tape.states = before.tape.states

/-- A tensor that the tape knows nothing about. -/
structure Blank (workspace : Workspace) (tensor : Tensor) : Prop where
  made : tensor.number < workspace.tape.tensors.size
  state : workspace.tape.states.get? tensor.number = none

instance : IsTrans Workspace Cleanly := ⟨fun _ _ _ first second clean => second (first clean)⟩

instance : IsTrans Workspace Grows :=
  ⟨fun _ _ _ first second =>
    ⟨first.tensors.trans second.tensors, second.states.trans first.states⟩⟩

variable {before after workspace : Workspace} {tensor : Tensor}

/-- A workspace that stays what it is has grown by nothing. -/
theorem Grows.refl (workspace : Workspace) : Grows workspace workspace := ⟨Nat.le_refl _, rfl⟩

/-- A workspace that grows stays clean. -/
theorem Grows.clean (grows : Grows before after) : Cleanly before after := by
  intro clean number beyond
  rw [grows.states]
  exact clean number (grows.tensors.trans beyond)

/-- A blank tensor stays blank while the workspace grows. -/
theorem Blank.grow (blank : before.Blank tensor) (grows : Grows before after) :
    after.Blank tensor := by
  refine ⟨blank.made.trans_le grows.tensors, ?_⟩
  rw [grows.states]
  exact blank.state

/-- A blank tensor requires no gradient. -/
theorem Blank.untracked (blank : workspace.Blank tensor) :
    (workspace.tape.state tensor.number).requiresGrad = false := by
  rw [Tape.state, blank.state]
  rfl

/-- The tape of a sound workspace is clean. -/
theorem clean_of_sound (sound : workspace.tape.Sound) : workspace.Clean := sound.listed

end Workspace

open Workspace

variable {Fault α : Type} {workspace : Workspace}

namespace Session

variable {condition : Prop}

/-- What is decided while the workspace grows is decided cleanly. -/
theorem Decides.cleanly {session : Session Fault α} {ended : α → Workspace → Prop}
    (decided : session.Decides Grows condition workspace ended) :
    session.Decides Cleanly condition workspace ended := by
  cases decided with
  | gives ran holds moved reached => exact .gives ran holds moved.clean reached
  | refuses ran fails => exact .refuses ran fails

/-- A new tensor has the data that it was made of and is not known to the tape. -/
theorem place_decides (clean : workspace.Clean) (outcome : Outcome) :
    (place outcome : Session Fault Tensor).Decides Grows True workspace fun made after =>
      made.data = outcome.data ∧ after.Blank made := by
  have size : (workspace.tape.place outcome).2.tensors.size = workspace.tape.tensors.size + 1 :=
    Array.size_push _
  refine .gives (exec_place outcome workspace) trivial ⟨?_, rfl⟩ ⟨rfl, ?_, ?_⟩
  · exact size ▸ Nat.le_succ _
  · exact size ▸ Nat.lt_succ_self _
  · exact clean _ (Nat.le_refl _)

/-- A new tensor is always made, holds its data and is blank. -/
theorem create_decides (clean : workspace.Clean) (data : Dense) :
    (create data : Session Fault Tensor).Decides Grows True workspace fun made after =>
      made.data = data ∧ after.Blank made :=
  place_decides clean { data }

end Session

namespace Operation

/-- A new tensor can always be made the output of a node. -/
theorem record_decides {forward : Forward} (blank : workspace.Blank forward.output)
    (operation : Operation) (inputs : List Tensor) (needs : List Bool) :
    (operation.record inputs needs forward).Decides Cleanly True workspace fun _ _ => True := by
  have recorded := @Run.exec_record workspace operation inputs needs forward
  let node := operation.node workspace.tape inputs needs forward
  have empty : workspace.tape.state forward.output.number = {} := by
    rw [Tape.state, blank.state]
    rfl
  cases attached : workspace.tape.attach forward.output node with
  | error fault =>
      rw [Tape.attach, empty] at attached
      cases attached
  | ok tape =>
      rw [attached] at recorded
      refine .gives recorded trivial (fun clean number beyond => ?_) trivial
      rw [Tape.attach, empty] at attached
      cases attached
      change workspace.tape.tensors.size ≤ number at beyond
      have other : number ≠ forward.output.number := (blank.made.trans_le beyond).ne'
      change (workspace.tape.states.set _ _).get? number = none
      rw [Table.get?_set, if_neg other]
      exact clean number beyond

/-- A forward half that makes a new tensor always ends, with that tensor. -/
theorem apply_decides {operation : Operation} {inject : TensorError → Fault} {inputs : List Tensor}
    {forward : Session Fault Forward} {made : Tensor → Prop}
    (half : forward.Decides Grows True workspace fun result after =>
      made result.output ∧ after.Blank result.output) :
    (operation.apply inject inputs forward).Decides Cleanly True workspace
      fun output _ => made output := by
  have needs : (inputs.mapM Session.requiresGrad : Session Fault (List Bool)).Decides Cleanly True
      workspace fun _ after => after = workspace :=
    .gives (Run.exec_needs inputs) trivial id rfl
  apply needs.follow
  intro flags middle _ same
  subst same
  apply half.cleanly.follow
  rintro result after _ ⟨holds, blank⟩
  have ended : (pure result.output : Session Fault Tensor).Decides Cleanly True after
      fun output _ => made output := .gives rfl trivial id holds
  split
  · apply (record_decides blank operation inputs flags).adapt.follow
    intro _ last _ _
    exact .gives rfl trivial id holds
  · exact ended

end Operation

namespace Tensor

variable {tensor : Tensor} {data : Dense}

private theorem convert_decides (clean : workspace.Clean) {dtype : DType} {device : Device}
    (converted : tensor.data.convert dtype device = .ok data) :
    (tensor.convert dtype device).Decides Grows True workspace fun made after =>
      made.data = data ∧ after.Blank made := by
  have view : tensor.toView.convert dtype device = .ok
      ⟨data, if dtype == tensor.dtype && !device.isMeta then some tensor.buffer else none⟩ := by
    rw [tensor.view_convert, converted]
    rfl
  rw [Tensor.convert]
  apply (Session.Decides.ofExcept_ok view (Grows.refl _)).follow
  rintro outcome after _ ⟨rfl, rfl⟩
  exact Session.place_decides clean _

section Conversion

variable (valid : tensor.data.Valid) {dtype : Option DType} {device : Option Device}
  (converted : tensor.data.convert (dtype.getD tensor.dtype) (device.getD tensor.device) = .ok data)

include valid converted

/-- A tensor to which a transfer changes nothing is returned as it is. -/
theorem transfer_self (same : dtype.getD tensor.dtype = tensor.dtype ∧
    device.getD tensor.device = tensor.device) :
    (tensor.transfer dtype device).exec workspace = (.ok tensor, workspace) ∧
      tensor.data = data := by
  refine ⟨?_, ?_⟩
  · rw [Tensor.transfer, if_pos same]
    rfl
  · rw [same.1, same.2] at converted
    exact Except.ok.inj (valid.convert_self.symm.trans converted)

/-- **A tensor that can be converted is converted**, tracked or not. -/
theorem transfer_decides (clean : workspace.Clean) :
    (tensor.transfer dtype device).Decides Cleanly True workspace fun made _ =>
      made.data = data := by
  by_cases same : dtype.getD tensor.dtype = tensor.dtype ∧ device.getD tensor.device = tensor.device
  · obtain ⟨ran, held⟩ := @transfer_self workspace tensor data valid dtype device converted same
    exact .gives ran trivial id held
  · have made := @convert_decides workspace tensor data clean _ _ converted
    rw [Tensor.transfer, if_neg same]
    have tracked : (Session.requiresGrad tensor : Session TensorError Bool).Decides Cleanly True
        workspace fun _ after => after = workspace := .gives rfl trivial id rfl
    apply tracked.follow
    intro flag middle _ stays
    subst stays
    split
    · refine @Operation.apply_decides _ _ _ _ _ _ (fun output => output.data = data) ?_
      apply made.follow
      rintro output after _ ⟨held, blank⟩
      exact .gives rfl trivial (Grows.refl _) ⟨held, blank⟩
    · exact made.cleanly.weaken fun _ _ _ held => held.1

/-- What is made of a tensor that nothing tracks is not tracked either. -/
theorem transfer_untracked (clean : workspace.Clean) (blank : workspace.Blank tensor) :
    (tensor.transfer dtype device).Decides Grows True workspace fun made after =>
      made.data = data ∧ after.Blank made := by
  by_cases same : dtype.getD tensor.dtype = tensor.dtype ∧ device.getD tensor.device = tensor.device
  · obtain ⟨ran, held⟩ := @transfer_self workspace tensor data valid dtype device converted same
    exact .gives ran trivial (Grows.refl _) ⟨held, blank⟩
  · rw [Tensor.transfer, if_neg same]
    have tracked : (Session.requiresGrad tensor : Session TensorError Bool).Decides Grows True
        workspace fun flag after => flag = false ∧ after = workspace :=
      .gives rfl trivial (Grows.refl _) ⟨blank.untracked, rfl⟩
    apply tracked.follow
    rintro flag middle _ ⟨off, stays⟩
    subst off
    subst stays
    exact convert_decides clean converted

end Conversion

end Tensor

/-- Whether data on a device can be moved to another.  Only the meta device can not be left. -/
def Device.Reaches (home target : Device) : Prop := home = .metadata → target = .metadata

namespace Dense

/-- Data cast to an element type and moved to a device, where given.  Data that can not be
moved stays as it is. -/
def recast (dtype : Option DType) (device : Option Device) (d : Dense) : Dense :=
  match d.convert (dtype.getD d.dtype) (device.getD d.device) with
  | .ok new => new
  | .error _ => d

/-- A conversion that succeeds is a recast. -/
theorem recast_of_convert {old new : Dense} {dtype : Option DType} {device : Option Device}
    (converted : old.convert (dtype.getD old.dtype) (device.getD old.device) = .ok new) :
    old.recast dtype device = new := by
  rw [recast, converted]

namespace Valid

variable {d : Dense} (valid : d.Valid) {dtype : Option DType} {device : Option Device}

include valid

/-- A conversion succeeds where the values can go. -/
theorem convert_recast (reaches : d.device.Reaches (device.getD d.device)) :
    d.convert (dtype.getD d.dtype) (device.getD d.device) = .ok (d.recast dtype device) := by
  rw [recast]
  cases converted : d.convert (dtype.getD d.dtype) (device.getD d.device) with
  | ok new => rfl
  | error fault =>
      rw [Dense.convert] at converted
      split at converted
      · cases converted
      next present =>
        split at converted
        next absent =>
          have gone := reaches (valid.absent_iff.mp absent)
          rw [gone] at present
          exact absurd rfl present
        · cases converted

/-- A conversion fails where the values cannot go. -/
theorem convert_stuck (stuck : ¬ d.device.Reaches (device.getD d.device)) :
    d.convert (dtype.getD d.dtype) (device.getD d.device) =
      .error (.copyOutOfMeta (device.getD d.device)) := by
  obtain ⟨home, away⟩ := Classical.not_imp.mp stuck
  rw [Dense.convert, if_neg (by simpa [Device.isMeta] using away),
    if_pos (valid.absent_iff.mpr home)]

variable (reaches : d.device.Reaches (device.getD d.device))

include reaches

/-- Valid data stays valid when it is recast. -/
theorem recast : (d.recast dtype device).Valid := valid.convert (valid.convert_recast reaches)

/-- A recast keeps the shape, and has the element type and the device it was asked for. -/
theorem recast_kind : (d.recast dtype device).shape = d.shape ∧
    (d.recast dtype device).dtype = dtype.getD d.dtype ∧
    (d.recast dtype device).device = device.getD d.device :=
  convert_kind (valid.convert_recast reaches)

/-- A move leaves the values as they are, except that there are none on the meta device. -/
theorem recast_values : (d.recast none device).values =
    if (device.getD d.device).isMeta then .absent else d.values := by
  have converted := @convert_recast d valid none device reaches
  rw [Dense.convert] at converted
  split at converted
  next absent =>
    rw [if_pos absent, ← Except.ok.inj converted]
    rfl
  next present =>
    rw [if_neg present]
    split at converted
    · cases converted
    · rw [← Except.ok.inj converted]
      exact if_pos rfl

end Valid

end Dense

namespace Tensor

/-- **A tensor is cast and moved wherever its device allows**, tracked or not. -/
theorem transfer_recasts {tensor : Tensor} (clean : workspace.Clean) (valid : tensor.data.Valid)
    (dtype : Option DType) (device : Option Device) :
    (tensor.transfer dtype device).Decides Cleanly
        (tensor.device.Reaches (device.getD tensor.device))
      workspace fun made _ => made.data = tensor.data.recast dtype device := by
  by_cases reaches : tensor.device.Reaches (device.getD tensor.device)
  · exact (transfer_decides valid (valid.convert_recast reaches) clean).congr
      (iff_of_true reaches trivial)
  · have stuck : ∀ dtype, (tensor.convert dtype (device.getD tensor.device)).exec workspace =
        (.error (.copyOutOfMeta (device.getD tensor.device)), workspace) := by
      intro dtype
      have failed : tensor.data.convert dtype (device.getD tensor.device) = .error _ :=
        @Dense.Valid.convert_stuck tensor.data valid (some dtype) device reaches
      have view : tensor.toView.convert dtype (device.getD tensor.device) =
          .error (.copyOutOfMeta (device.getD tensor.device)) := by
        rw [tensor.view_convert, failed]
        rfl
      rw [Tensor.convert, view]
      rfl
    have other : ¬ (dtype.getD tensor.dtype = tensor.dtype ∧
        device.getD tensor.device = tensor.device) := by
      rintro ⟨_, same⟩
      exact reaches fun home => same.trans home
    rw [Tensor.transfer, if_neg other]
    have tracked : (Session.requiresGrad tensor : Session TensorError Bool).Decides Cleanly True
        workspace fun _ after => after = workspace := .gives rfl trivial id rfl
    apply tracked.follow
    intro flag middle _ stays
    subst stays
    split
    · have half : (do
            let output ← tensor.convert (dtype.getD tensor.dtype) (device.getD tensor.device)
            return { output, saved := [tensor] } : Session TensorError Forward).exec middle =
          (.error (.copyOutOfMeta (device.getD tensor.device)), middle) := by
        rw [Session.exec_bind, stuck]
      exact .refuses (Run.exec_apply_error half) reaches
    · exact .refuses (stuck _) reaches

end Tensor

end Atomistic
