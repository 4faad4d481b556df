import Atomistic.Proofs.Autograd.Frames

/-!
# How a pass starts

A pass is refused, for one of four reasons (`Atomistic.Tensor.Refuses`), or it makes a seed
and carries that back (`Atomistic.Tensor.backward_starts`).  Until a gradient is carried back
the workspace gains tensors and nothing else (`Atomistic.Workspace.Gains`).
-/

namespace Atomistic

open Session

/-- The workspace gains tensors, and nothing else changes. -/
def Workspace.Gains (before after : Workspace) : Prop :=
  ∃ made : Array View, after = { before with
    tape := { before.tape with tensors := before.tape.tensors ++ made } }

namespace Workspace

variable {before after : Workspace}

private theorem Gains.refl (workspace : Workspace) : Gains workspace workspace :=
  ⟨#[], by rw [Array.append_empty]⟩

instance : IsTrans Workspace Gains where
  trans first second third := by
    rintro ⟨made, rfl⟩ ⟨more, rfl⟩
    exact ⟨made ++ more, by simp only [Array.append_assoc]⟩

/-- Tensors are made one at a time. -/
theorem steps_append (made : List View) :
    ∀ tape : Tape, tape.Steps { tape with tensors := tape.tensors ++ made.toArray } := by
  induction made with
  | nil =>
      intro tape
      rw [Array.append_empty]
      exact .refl
  | cons view made ih =>
      intro tape
      have first : tape.Step { tape with tensors := tape.tensors.push view } :=
        .place tape ⟨view.data, some view.buffer⟩
      have joined :
          tape.tensors ++ (view :: made).toArray = tape.tensors.push view ++ made.toArray :=
        Array.ext' (by simp)
      rw [joined]
      exact .head first (ih _)

/-- New tensors are made in steps. -/
theorem Gains.steps (gains : Gains before after) : before.tape.Steps after.tape := by
  obtain ⟨made, rfl⟩ := gains
  exact steps_append made.toList before.tape

/-- No tensor is lost when others are made. -/
theorem Gains.knows (gains : Gains before after) {tensor : Tensor}
    (known : before.tape.Knows tensor) : after.tape.Knows tensor :=
  gains.steps.knows known

/-- New tensors bring no nodes. -/
theorem Gains.nodes (gains : Gains before after) : after.tape.nodes = before.tape.nodes := by
  obtain ⟨made, rfl⟩ := gains
  rfl

private theorem Gains.marks (gains : Gains before after) :
    after.tape.marks = before.tape.marks := by
  obtain ⟨made, rfl⟩ := gains
  rfl

/-- New tensors change nothing that is known about others. -/
theorem Gains.state (gains : Gains before after) (number : Nat) :
    after.tape.state number = before.tape.state number := by
  obtain ⟨made, rfl⟩ := gains
  rfl

end Workspace

/-- What a leaf takes depends only on the data of the gradient. -/
theorem Tape.accept_data {D : Type} [TensorData D] (sweep : Nat) (leaf : Tensor D)
    (gradient : View D) : (accept sweep leaf gradient).map (fun view => view.data) =
      if TensorData.shape gradient.data ≠ TensorData.shape leaf.data then
        .error (.shapeMismatch (TensorData.shape leaf.data) (TensorData.shape gradient.data))
      else TensorData.convert gradient.data (TensorData.dtype leaf.data)
        (TensorData.device leaf.data) := by
  rw [accept, convert_view]
  split
  · rfl
  · cases TensorData.convert gradient.data (TensorData.dtype leaf.data)
      (TensorData.device leaf.data) <;> rfl

/-- A leaf takes data that fits it as it is. -/
theorem Tape.accept_kept (sweep : Nat) {leaf : Tensor} {gradient : View}
    (valid : gradient.data.Valid)
    (same : TensorData.kind gradient.data = TensorData.kind leaf.data) :
    ∃ taken, accept sweep leaf gradient = .ok taken ∧ taken.data = gradient.data := by
  obtain ⟨shape, dtype, device⟩ := Dense.kind_eq_iff.mp same
  have converted : TensorData.convert gradient.data leaf.data.dtype leaf.data.device =
      .ok gradient.data := by
    rw [← dtype, ← device]
    exact valid.convert_self
  have accepted := (accept_data sweep leaf gradient).trans (if_neg (not_not.mpr shape))
  cases taken : accept sweep leaf gradient with
  | error fault =>
      rw [taken] at accepted
      cases accepted.trans converted
  | ok view =>
      rw [taken] at accepted
      exact ⟨view, rfl, Except.ok.inj (accepted.trans converted)⟩

open Workspace

variable {Fault : Type} {workspace : Workspace}

/-- A session makes a tensor of the data that a computation gives, or it fails as that fails;
the workspace gains tensors in both cases. -/
inductive Session.Makes (result : Except Fault Dense) (session : Session Fault Tensor)
    (workspace : Workspace) : Prop
  | made {tensor : Tensor} {after : Workspace} (given : result = .ok tensor.data)
      (ran : session.exec workspace = (.ok tensor, after)) (gains : workspace.Gains after)
      (known : after.tape.Knows tensor) : Makes result session workspace
  | failed {fault : Fault} {after : Workspace} (given : result = .error fault)
      (ran : session.exec workspace = (.error fault, after)) (gains : workspace.Gains after) :
      Makes result session workspace

private theorem Session.Makes.of_exec {result : Except Fault Dense}
    {session other : Session Fault Tensor}
    (makes : other.Makes result workspace) (same : session.exec workspace = other.exec workspace) :
    session.Makes result workspace := by
  cases makes with
  | made given ran gains known => exact .made given (same.trans ran) gains known
  | failed given ran gains => exact .failed given (same.trans ran) gains

/-- What is made of a tensor that was made. -/
theorem Session.Makes.bind {first : Session Fault Tensor} {data : Dense}
    {next : Tensor → Session Fault Tensor} {result : Except Fault Dense}
    (makes : first.Makes (.ok data) workspace)
    (rest : ∀ tensor after, tensor.data = data → (next tensor).Makes result after) :
    (first >>= next).Makes result workspace := by
  cases makes with
  | failed given => cases given
  | @made tensor after given ran gains _ =>
      have continued : (first >>= next).exec workspace = (next tensor).exec after := by
        rw [exec_bind, ran]
      cases rest tensor after (Except.ok.inj given).symm with
      | made given rested more known =>
          exact .made given (continued.trans rested) (IsTrans.trans _ _ _ gains more) known
      | failed given rested more =>
          exact .failed given (continued.trans rested) (IsTrans.trans _ _ _ gains more)

private theorem place_makes (outcome : Outcome) :
    (place outcome : Session Fault Tensor).Makes (.ok outcome.data) workspace :=
  .made rfl (exec_place outcome workspace) ⟨#[_], rfl⟩ (workspace.tape.place_knows outcome)

namespace Tensor

/-- Why a pass from a root is refused before it starts. -/
inductive Refuses (workspace : Workspace) (root : Tensor) : Option Tensor → TensorError → Prop
  | untracked {gradient : Option Tensor} (untracked : ¬ workspace.Tracks root) :
      Refuses workspace root gradient .noGrad
  | shape {gradient : Tensor} (tracked : workspace.Tracks root)
      (other : gradient.shape ≠ root.shape) :
      Refuses workspace root (some gradient) (.shapeMismatch root.shape gradient.shape)
  | conversion {gradient : Tensor} {fault : TensorError} (tracked : workspace.Tracks root)
      (same : gradient.shape = root.shape)
      (failed : gradient.data.convert root.dtype root.device = .error fault) :
      Refuses workspace root (some gradient) fault
  | count (tracked : workspace.Tracks root) (several : root.data.count ≠ 1) :
      Refuses workspace root none (.implicitGradient root.shape)

/-- The data that a pass starts from, if there is any. -/
def seedData (root : Tensor) : Option Dense → Except TensorError Dense
  | some gradient =>
    if gradient.shape ≠ root.shape then .error (.shapeMismatch root.shape gradient.shape)
    else gradient.convert root.dtype root.device
  | none =>
    if root.data.count ≠ 1 then .error (.implicitGradient root.shape)
    else .ok (.full root.shape .one root.dtype root.device)

variable {root : Tensor} {gradient : Option Tensor}

private theorem refuses_iff {fault : TensorError} : Refuses workspace root gradient fault ↔
    (¬ workspace.Tracks root ∧ fault = .noGrad) ∨
      (workspace.Tracks root ∧ root.seedData (gradient.map fun tensor => tensor.data) =
        .error fault) := by
  constructor
  · rintro (untracked | ⟨tracked, other⟩ | ⟨tracked, same, failed⟩ | ⟨tracked, several⟩)
    · exact .inl ⟨untracked, rfl⟩
    · exact .inr ⟨tracked, if_pos other⟩
    · exact .inr ⟨tracked, (if_neg (not_not.mpr same)).trans failed⟩
    · exact .inr ⟨tracked, if_pos several⟩
  · rintro (⟨untracked, rfl⟩ | ⟨tracked, failed⟩)
    · exact .untracked untracked
    · cases gradient with
      | none =>
          rw [Option.map_none, seedData] at failed
          split at failed
          next several =>
            cases failed
            exact .count tracked several
          next => cases failed
      | some gradient =>
          rw [Option.map_some, seedData] at failed
          split at failed
          next other =>
            cases failed
            exact .shape tracked other
          next same => exact .conversion tracked (not_not.mp same) failed

/-- The data that a pass starts from fits the root. -/
theorem seedData_fits {given : Option Dense} {data : Dense} (root_valid : root.data.Valid)
    (given_valid : ∀ gradient ∈ given, gradient.Valid) (made : root.seedData given = .ok data) :
    data.Valid ∧ data.shape = root.shape ∧ data.dtype = root.dtype ∧ data.device = root.device := by
  cases given with
  | none =>
      rw [seedData] at made
      split at made
      · cases made
      · obtain ⟨count, counted⟩ := root_valid.counted
        rw [← Except.ok.inj made]
        exact ⟨Dense.full_valid counted .one root.dtype root.device, rfl, rfl, rfl⟩
  | some gradient =>
      rw [seedData] at made
      split at made
      · cases made
      next same =>
        obtain ⟨shape, dtype, device⟩ := Dense.convert_kind made
        exact ⟨(given_valid gradient rfl).convert made, shape.trans (not_not.mp same), dtype,
          device⟩

/-- A leaf takes data that fits it. -/
theorem accept_fits {sweep : Nat} {view : View} (fits : view.data.Valid ∧
    view.data.shape = root.shape ∧ view.data.dtype = root.dtype ∧ view.data.device = root.device) :
    ∃ gradient, Tape.accept sweep root view = .ok gradient := by
  obtain ⟨gradient, taken, _⟩ := Tape.accept_kept sweep fits.1 (Dense.kind_eq_iff.mpr fits.2)
  exact ⟨gradient, taken⟩

private theorem convert_makes (tensor : Tensor) (dtype : DType) (device : Device) :
    (tensor.convert dtype device).Makes (tensor.data.convert dtype device) workspace := by
  rw [convert, tensor.view_convert]
  cases tensor.data.convert dtype device with
  | error fault => exact .failed rfl rfl (.refl workspace)
  | ok data =>
      have placed := @place_makes TensorError workspace ⟨data,
        if dtype == tensor.dtype && !device.isMeta then some tensor.buffer else none⟩
      exact placed.of_exec rfl

/-- The seed of a pass is made as its data is. -/
theorem seed_makes (root : Tensor) (gradient : Option Tensor) :
    (root.seed gradient).Makes (root.seedData (gradient.map fun tensor => tensor.data))
      workspace := by
  cases gradient with
  | none =>
      rw [seed, Option.map_none, seedData]
      split
      · exact .failed rfl rfl (.refl workspace)
      · exact place_makes { data := .full root.shape .one root.dtype root.device }
  | some gradient =>
      by_cases other : gradient.shape ≠ root.shape
      · rw [seed, if_pos other, Option.map_some, seedData]
        exact .failed (if_pos other) rfl (.refl workspace)
      · have given : root.seedData (some gradient.data) =
            gradient.data.convert root.dtype root.device :=
          if_neg other
        rw [seed, if_neg other, Option.map_some, given]
        refine (place_makes gradient.keep).bind fun detached after same => ?_
        rw [← show detached.data = gradient.data from same]
        exact convert_makes detached root.dtype root.device

/-- A pass from a root that requires no gradient is refused. -/
theorem exec_backward_untracked (untracked : ¬ workspace.Tracks root) :
    (root.backward gradient).exec workspace = (.error .noGrad, workspace) := by
  have off : (workspace.tape.state root.number).requiresGrad = false :=
    Bool.eq_false_iff.mpr untracked
  rw [backward, exec_bind, exec_requiresGrad, off]
  rfl

/-- A pass from a tracked root makes a seed and carries it back. -/
theorem exec_backward_tracked (tracked : workspace.Tracks root) :
    (root.backward gradient).exec workspace =
      match (root.seed gradient).exec workspace with
      | (.error fault, middle) => (.error fault, middle)
      | (.ok seed, middle) => ((middle.tape.backward root seed.toView).1,
          { middle with tape := (middle.tape.backward root seed.toView).2 }) := by
  rw [backward, exec_bind, exec_requiresGrad, show (workspace.tape.state root.number).requiresGrad =
    true from tracked]
  simp only [Bool.not_true, Bool.false_eq_true, if_false]
  rw [exec_bind]
  rcases (root.seed gradient).exec workspace with ⟨fault | seed, middle⟩
  · rfl
  · rfl

/-- A pass that is refused fails for that reason, and the workspace only gains tensors. -/
theorem backward_refused {fault : TensorError} (refuses : Refuses workspace root gradient fault) :
    ∃ after, (root.backward gradient).exec workspace = (.error fault, after) ∧
      workspace.Gains after := by
  rcases refuses_iff.mp refuses with ⟨untracked, rfl⟩ | ⟨tracked, failed⟩
  · exact ⟨workspace, exec_backward_untracked untracked, .refl workspace⟩
  · rw [exec_backward_tracked tracked]
    cases @seed_makes workspace root gradient with
    | made given => cases failed.symm.trans given
    | @failed other after given ran gains =>
        cases failed.symm.trans given
        rw [ran]
        exact ⟨after, rfl, gains⟩

/-- **How a pass starts.** A pass that is not refused makes a seed and carries it back. -/
theorem backward_starts (accepted : ∀ fault, ¬ Refuses workspace root gradient fault) :
    ∃ (seed : Tensor) (middle : Workspace),
      root.seedData (gradient.map fun tensor => tensor.data) = .ok seed.data ∧
      workspace.Gains middle ∧ middle.tape.Knows seed ∧
      (root.backward gradient).exec workspace = ((middle.tape.backward root seed.toView).1,
        { middle with tape := (middle.tape.backward root seed.toView).2 }) := by
  by_cases tracked : workspace.Tracks root
  · rw [exec_backward_tracked tracked]
    cases @seed_makes workspace root gradient with
    | failed given => exact absurd (refuses_iff.mpr (.inr ⟨tracked, given⟩)) (accepted _)
    | @made seed middle given ran gains known =>
        rw [ran]
        exact ⟨seed, middle, given, gains, known, rfl⟩
  · exact absurd (.untracked tracked) (accepted .noGrad)

/-- A pass makes no nodes and leaves all marks. -/
theorem backward_kept (root : Tensor) (gradient : Option Tensor) (workspace : Workspace) :
    ((root.backward gradient).exec workspace).2.tape.nodes = workspace.tape.nodes ∧
      ((root.backward gradient).exec workspace).2.tape.marks = workspace.tape.marks := by
  by_cases refuses : ∃ fault, Refuses workspace root gradient fault
  · obtain ⟨after, ran, gains⟩ := backward_refused refuses.choose_spec
    rw [ran]
    exact ⟨gains.nodes, gains.marks⟩
  · obtain ⟨seed, middle, _, gains, _, ran⟩ := backward_starts (not_exists.mp refuses)
    rw [ran]
    exact ⟨(middle.tape.nodes_backward root seed.toView).trans gains.nodes,
      (middle.tape.marks_backward root seed.toView).trans gains.marks⟩

end Tensor

end Atomistic
