import Atomistic.Proofs.Autograd.Applied
import Atomistic.Proofs.Autograd.Copies

/-!
# How a tensor is cast or moved

A tensor that is cast or moved ends up in one of four ways (`Atomistic.Tensor.Transfers`): there
is nothing to do, it can not leave the meta device, it is copied outside of any graph, or it is
copied and a node is attached to the copy.  A copy that keeps its element type is in the same
buffer, except on the meta device (`Atomistic.Tensor.Copied`), so a tensor that was moved around
has the data of one that was moved once (`Atomistic.Tensor.moves_data`).
-/

namespace Atomistic

open Session Workspace

namespace Tensor

variable {before after : Workspace} {tensor made : Tensor} {data : Dense} {dtype : DType}
  {device : Device}

/-- The workspace gained a tensor with the data of another, cast and moved. -/
structure Copied (tensor : Tensor) (dtype : DType) (device : Device) (before : Workspace)
    (made : Tensor) (after : Workspace) : Prop where
  converted : tensor.data.convert dtype device = .ok made.data
  buffer : dtype = tensor.dtype → device ≠ .metadata → made.buffer = tensor.buffer
  number : made.number = before.tape.tensors.size
  known : after.tape.Knows made
  gains : before.Gains after

private theorem convert_copies (converted : tensor.data.convert dtype device = .ok data) :
    ∃ made after, (tensor.convert dtype device).exec before = (.ok made, after) ∧
      tensor.Copied dtype device before made after := by
  let outcome : Outcome :=
    ⟨data, if dtype == tensor.dtype && !device.isMeta then some tensor.buffer else none⟩
  have view : tensor.toView.convert dtype device = .ok outcome := by
    rw [tensor.view_convert, converted]
    rfl
  refine ⟨(before.tape.place outcome).1, { before with tape := (before.tape.place outcome).2 }, ?_,
    ?_⟩
  · rw [Tensor.convert, view, exec_bind, exec_ofExcept]
    exact exec_place outcome before
  · refine ⟨converted, fun same off => ?_, rfl, before.tape.place_knows outcome, ⟨#[_], rfl⟩⟩
    have shared : (dtype == tensor.dtype && !device.isMeta) = true := by
      simp [same, Device.isMeta, off]
    change (if dtype == tensor.dtype && !device.isMeta then some tensor.buffer else none).getD _ = _
    rw [if_pos shared]
    rfl

private theorem convert_stops {fault : TensorError}
    (failed : tensor.data.convert dtype device = .error fault) :
    (tensor.convert dtype device).exec before = (.error fault, before) := by
  rw [Tensor.convert, tensor.view_convert, failed]
  rfl

/-- The node of a copy. -/
def copyNode (tensor made : Tensor) (workspace : Workspace) : Node :=
  Operation.toCopy.node workspace.tape [tensor] [true] { output := made, saved := [tensor] }

/-- The ways in which a cast or a move can end, with the element type and the device that are
asked for. -/
inductive Transfers (tensor : Tensor) (dtype : DType) (device : Device) (before : Workspace) :
    Except TensorError Tensor × Workspace → Prop
  | same (unchanged : dtype = tensor.dtype ∧ device = tensor.device) :
      Transfers tensor dtype device before (.ok tensor, before)
  | stuck {fault : TensorError} (changed : ¬ (dtype = tensor.dtype ∧ device = tensor.device))
      (failed : tensor.data.convert dtype device = .error fault) :
      Transfers tensor dtype device before (.error fault, before)
  | plain {made : Tensor} {after : Workspace}
      (changed : ¬ (dtype = tensor.dtype ∧ device = tensor.device))
      (untracked : ¬ (before.Tracks tensor ∧ dtype.isFloating))
      (copied : tensor.Copied dtype device before made after) :
      Transfers tensor dtype device before (.ok made, after)
  | recorded {made : Tensor} {middle after : Workspace}
      (changed : ¬ (dtype = tensor.dtype ∧ device = tensor.device))
      (tracked : before.Tracks tensor) (floating : dtype.isFloating)
      (copied : tensor.Copied dtype device before made middle)
      (attached : middle.tape.Attached after.tape made (tensor.copyNode made middle)) :
      Transfers tensor dtype device before (.ok made, after)

/-- A copy has no state yet. -/
theorem Copied.blank (copied : tensor.Copied dtype device before made after)
    (clean : before.Clean) : after.tape.state made.number = {} := by
  rw [copied.gains.state, Tape.state, clean made.number copied.number.ge]
  rfl

/-- **Every cast or move ends in one of four ways.** -/
theorem transfer_ends (clean : before.Clean) (dtype : Option DType) (device : Option Device) :
    tensor.Transfers (dtype.getD tensor.dtype) (device.getD tensor.device) before
      ((tensor.transfer dtype device).exec before) := by
  rw [Tensor.transfer]
  generalize dtype.getD tensor.dtype = dtype
  generalize device.getD tensor.device = device
  split
  next unchanged => exact .same unchanged
  next changed =>
    rw [exec_bind, exec_requiresGrad]
    dsimp only
    let half : Session TensorError Forward := do
      return { output := ← tensor.convert dtype device, saved := [tensor] }
    cases converted : tensor.data.convert dtype device with
    | error fault =>
        have stopped := @convert_stops before tensor dtype device fault converted
        have half_stopped : half.exec before = (.error fault, before) := by
          rw [exec_bind, stopped]
        split
        · rw [Run.exec_apply_error half_stopped]
          exact .stuck changed converted
        · rw [stopped]
          exact .stuck changed converted
    | ok data =>
        obtain ⟨made, middle, ran, copied⟩ :=
          @convert_copies before tensor data dtype device converted
        split
        next both =>
          obtain ⟨tracked, floating⟩ := Bool.and_eq_true_iff.mp both
          have half_ran :
              half.exec before = (.ok { output := made, saved := [tensor] }, middle) := by
            rw [exec_bind, ran]
            rfl
          obtain ⟨tape, attached⟩ : ∃ tape,
              middle.tape.attach made (tensor.copyNode made middle) = .ok tape := by
            rw [Tape.attach, copied.blank clean]
            exact ⟨_, rfl⟩
          have needs : ([tensor].map fun input => (before.tape.state input.number).requiresGrad) =
              [true] := congrArg (fun flag => [flag]) tracked
          obtain ⟨after, applied, rfl⟩ :=
              @Run.exec_apply_tracked _ before Operation.toCopy id [tensor]
            half _ middle half_ran (by simpa using tracked) tape (by rw [needs]; exact attached)
          rw [applied]
          exact .recorded changed tracked floating copied (Tape.attached_of_attach attached)
        next either =>
          rw [ran]
          exact .plain changed (mt Bool.and_eq_true_iff.mpr either) copied

/-- What a cast or a move gives, with the element type and the device that are asked for. -/
structure Transferred (tensor : Tensor) (dtype : DType) (device : Device) (before : Workspace)
    (made : Tensor) (after : Workspace) : Prop where
  shape : made.shape = tensor.shape
  cast : made.dtype = dtype
  moved : made.device = device
  same : made.sameAs tensor ↔ dtype = tensor.dtype ∧ device = tensor.device
  /-- A tensor to which nothing has to be done is given back. -/
  handle : made.sameAs tensor → made = tensor ∧ after = before
  /-- A move between devices that hold data makes no new data. -/
  shares : dtype = tensor.dtype → tensor.device ≠ .metadata → device ≠ .metadata →
    made.sharesStorage tensor
  tracked : after.Tracks made ↔ before.Tracks tensor ∧ (made.sameAs tensor ∨ dtype.isFloating)
  made_known : after.tape.Knows made
  known : after.tape.Knows tensor
  /-- No tensor that was there changes its state. -/
  untouched : before.Untouched after

/-- A copy is another tensor. -/
theorem Copied.other (copied : tensor.Copied dtype device before made after)
    (known : before.tape.Knows tensor) : made.number ≠ tensor.number := by
  rw [copied.number]
  exact known.lt.ne'

private theorem Copied.shares (copied : tensor.Copied dtype device before made after)
    (same : dtype = tensor.dtype) (off : device ≠ .metadata) : made.sharesStorage tensor :=
  beq_iff_eq.mpr (copied.buffer same off)

section Ends

variable (known : before.tape.Knows tensor) (clean : before.Clean) (valid : tensor.data.Valid)

include known clean in
/-- A transfer that succeeded has transferred the tensor. -/
theorem Transfers.transferred
    (ends : tensor.Transfers dtype device before (.ok made, after)) :
    tensor.Transferred dtype device before made after := by
  have apart {made : Tensor} {middle : Workspace}
      (copied : tensor.Copied dtype device before made middle) : made.sameAs tensor = false :=
    beq_eq_false_iff_ne.mpr (copied.other known)
  cases ends with
  | same unchanged =>
      have self : tensor.sameAs tensor := beq_self_eq_true tensor.number
      exact
        { shape := rfl
          cast := unchanged.1.symm
          moved := unchanged.2.symm
          same := iff_of_true self unchanged
          handle := fun _ => ⟨rfl, rfl⟩
          shares := fun _ _ _ => beq_self_eq_true tensor.buffer
          tracked := (and_iff_left (.inl self)).symm
          made_known := known
          known := known
          untouched := fun _ _ => rfl }
  | plain changed untracked copied =>
      obtain ⟨shape, cast, moved⟩ := Dense.convert_kind copied.converted
      refine
        { shape
          cast
          moved
          same := by simpa [apart copied] using changed
          handle := by simp [apart copied]
          shares := fun same _ off => copied.shares same off
          tracked := ?_
          made_known := copied.known
          known := copied.gains.knows known
          untouched := fun number _ => copied.gains.state number }
      rw [Tracks, copied.blank clean, apart copied]
      simpa using untracked
  | @recorded _ middle _ changed tracked floating copied attached =>
      obtain ⟨shape, cast, moved⟩ := Dense.convert_kind copied.converted
      have knows {other : Tensor} (there : middle.tape.Knows other) : after.tape.Knows other := by
        rwa [Tape.Knows, attached.tensors]
      refine
        { shape
          cast
          moved
          same := by simpa [apart copied] using changed
          handle := by simp [apart copied]
          shares := fun same _ off => copied.shares same off
          tracked := iff_of_true ?_ ⟨tracked, .inr floating⟩
          made_known := knows copied.known
          known := knows (copied.gains.knows known)
          untouched := fun number there => ?_ }
      · rw [Tracks, attached.placed]
      · have other : number ≠ made.number := copied.number ▸ there.ne
        exact (attached.others number other).trans (copied.gains.state number)

/-- A leaf that is tracked is given back, or what is made of it by a cast to a floating point type
or by a move is the output of a node that returns gradients to the leaf. -/
theorem Transfers.returns (leaf : (before.tape.state tensor.number).gradFn = none)
    (tracked : before.Tracks tensor) (floating : dtype.isFloating)
    (ends : tensor.Transfers dtype device before (.ok made, after)) :
    (made = tensor ∧ after = before) ∨ ∃ maker node,
      (after.tape.state made.number).gradFn = some maker ∧
        after.tape.nodes[maker]? = some node ∧ node.Returns tensor := by
  cases ends with
  | same => exact .inl ⟨rfl, rfl⟩
  | plain _ untracked => exact absurd ⟨tracked, floating⟩ untracked
  | @recorded _ middle _ _ _ _ copied attached =>
      have edge : middle.tape.edgeTo tensor = .leaf tensor := by
        rw [Tape.edgeTo_eq_leaf_iff, copied.gains.state]
        exact ⟨rfl, tracked, leaf⟩
      refine .inr ⟨middle.tape.nodes.size, tensor.copyNode made middle, ?_, ?_, rfl, rfl, ?_⟩
      · rw [attached.placed]
      · rw [attached.nodes, Array.getElem?_push_size]
      · exact congrArg (fun edge => [edge]) edge

include valid in
/-- Only a tensor that should leave the meta device is refused, and then nothing happens. -/
theorem Transfers.fails {fault : TensorError}
    (ends : tensor.Transfers dtype device before (.error fault, after)) :
    tensor.device = .metadata ∧ device ≠ .metadata ∧ fault = .copyOutOfMeta device ∧
      after = before := by
  cases ends with
  | stuck changed failed =>
      by_cases reaches : tensor.device.Reaches device
      · have converted := @Dense.Valid.convert_recast tensor.data valid (some dtype)
            (some device) reaches
        cases failed.symm.trans converted
      · have stopped := @Dense.Valid.convert_stuck tensor.data valid (some dtype)
            (some device) reaches
        obtain ⟨home, away⟩ := Classical.not_imp.mp reaches
        exact ⟨home, away, Except.error.inj (failed.symm.trans stopped), rfl⟩

include valid in
/-- A tensor is transferred only where its values can go. -/
theorem Transfers.reaches (ends : tensor.Transfers dtype device before (.ok made, after)) :
    tensor.device.Reaches device := by
  have copied {made : Tensor} {middle : Workspace}
      (copied : tensor.Copied dtype device before made middle) : tensor.device.Reaches device := by
    by_contra stuck
    have stopped := @Dense.Valid.convert_stuck tensor.data valid (some dtype) (some device) stuck
    cases copied.converted.symm.trans stopped
  cases ends with
  | same unchanged => exact fun home => unchanged.2.trans home
  | plain _ _ made => exact copied made
  | recorded _ _ _ made => exact copied made

end Ends

/-- Move a tensor from device to device. -/
def moves (tensor : Tensor) (devices : List Device) : Session TensorError Tensor :=
  devices.foldlM (fun current device => current.transfer none (some device)) tensor

section Moves

variable {workspace : Workspace} (clean : workspace.Clean) (valid : tensor.data.Valid)
  (home : tensor.device ≠ .metadata)

include clean valid home

/-- A move between devices that hold data changes nothing but the device. -/
theorem move_data (real : device ≠ .metadata) :
    ∃ made after, (tensor.transfer none (some device)).exec workspace = (.ok made, after) ∧
      made.data = { tensor.data with device } ∧ made.data.Valid ∧ after.Clean := by
  have reaches : tensor.device.Reaches device := fun gone => absurd gone home
  have off : ¬ device.isMeta = true := by simpa [Device.isMeta] using real
  have present : tensor.data.values ≠ .absent := mt valid.absent_iff.mp home
  cases transfer_recasts clean valid none (some device) with
  | refuses _ stuck => exact absurd reaches stuck
  | @gives made after ran _ moved data =>
      refine ⟨made, after, ran, data.trans ?_, data ▸ valid.recast reaches, moved clean⟩
      rw [Dense.recast, Option.getD_none, Option.getD_some, Dense.convert, if_neg off,
        if_neg present, if_pos rfl]

/-- **A tensor that is moved around is moved to the last device.** -/
theorem moves_data {devices : List Device} (real : ∀ device ∈ devices, device ≠ .metadata) :
    ∃ made after, (tensor.moves devices).exec workspace = (.ok made, after) ∧
      made.data = { tensor.data with device := devices.getLastD tensor.device } := by
  induction devices generalizing tensor workspace with
  | nil => exact ⟨tensor, workspace, rfl, rfl⟩
  | cons device rest ih =>
      obtain ⟨first, later⟩ := List.forall_mem_cons.mp real
      obtain ⟨next, middle, ran, data, next_valid, next_clean⟩ := move_data clean valid home first
      have next_device : next.device = device := by rw [Tensor.device, data]
      obtain ⟨made, after, further, last⟩ := ih next_clean next_valid (next_device ▸ first) later
      rw [moves, List.foldlM_cons, exec_bind, ran]
      refine ⟨made, after, further, last.trans ?_⟩
      rw [List.getLastD_cons, next_device, data]

/-- Moves around devices that hold data end with the data of one move. -/
theorem moves_bitEqual {devices : List Device} (real : ∀ device ∈ devices, device ≠ .metadata) :
    ∃ around first direct second, (tensor.moves devices).exec workspace = (.ok around, first) ∧
      (tensor.transfer none (some (devices.getLastD tensor.device))).exec workspace =
        (.ok direct, second) ∧ around.bitEqual direct := by
  have target : devices.getLastD tensor.device ≠ .metadata := by
    have one : devices.getLastD tensor.device ∈ tensor.device :: devices := List.getLastD_mem_cons
    rcases List.mem_cons.mp one with same | member
    · rwa [same]
    · exact real _ member
  obtain ⟨around, first, moved, data⟩ := moves_data clean valid home real
  obtain ⟨direct, second, ran, direct_data, _⟩ := move_data clean valid home target
  refine ⟨around, first, direct, second, moved, ran, beq_iff_eq.mpr ?_⟩
  rw [data, direct_data]

end Moves

end Tensor

end Atomistic
