import Atomistic.Proofs.Autograd.Contents
import Atomistic.Proofs.Autograd.Marks
import Atomistic.Proofs.Sessions
import Atomistic.Proofs.Tensor.Valid

/-!
# Runs of tensor operations

`Atomistic.Run` relates two workspaces when operations on tensors take one to the
other: tensors are made, converted, summed and detached, marked as requiring a
gradient or not, cleared of gradients, passed to `backward`, and given to
differentiable operations.  The forward half of such an operation is itself any
run, and its output is any tensor that exists when it ends, so a tensor that has
been in use for long can be attached to the graph.

A run takes the tape through steps, keeps to the allowed data and marks only leaves of a
floating point type (`Atomistic.Run.extended`), so the tape that it leaves is sound
(`Atomistic.Run.sound`).
-/

namespace Atomistic

/-- Workspaces that operations on tensors lead to, when only allowed data is made.
A backward rule passes on allowed data if it is given allowed data. -/
inductive Run (allowed : Dense → Prop) : Workspace → Workspace → Prop
  | refl (workspace : Workspace) : Run allowed workspace workspace
  | trans {start middle after : Workspace} (first : Run allowed start middle)
      (second : Run allowed middle after) : Run allowed start after
  | note (workspace : Workspace) (level : Level) (target text : String) :
      Run allowed workspace
        ((Session.note level target text : Session TensorError Unit).exec workspace).2
  | create (workspace : Workspace) {data : Dense} (permitted : allowed data) :
      Run allowed workspace ((Session.create data : Session TensorError Tensor).exec workspace).2
  | detach {workspace : Workspace} {tensor : Tensor} (known : workspace.tape.Knows tensor) :
      Run allowed workspace ((tensor.detach : Session TensorError Tensor).exec workspace).2
  | transfer {workspace : Workspace} {tensor : Tensor} (known : workspace.tape.Knows tensor)
      (dtype : Option DType) (device : Option Device) :
      Run allowed workspace ((tensor.transfer dtype device).exec workspace).2
  | sum {workspace : Workspace} {tensor : Tensor} (known : workspace.tape.Knows tensor) :
      Run allowed workspace (tensor.sum.exec workspace).2
  | setRequiresGrad {workspace : Workspace} {tensor : Tensor}
      (known : workspace.tape.Knows tensor) (requiresGrad : Bool) :
      Run allowed workspace ((tensor.setRequiresGrad requiresGrad).exec workspace).2
  | zeroGrad {workspace : Workspace} {tensor : Tensor} (known : workspace.tape.Knows tensor) :
      Run allowed workspace ((tensor.zeroGrad : Session TensorError Unit).exec workspace).2
  | backward {workspace : Workspace} {root : Tensor} {gradient : Option Tensor}
      (root_known : workspace.tape.Knows root)
      (gradient_known : ∀ tensor ∈ gradient, workspace.tape.Knows tensor) :
      Run allowed workspace ((root.backward gradient).exec workspace).2
  | apply {Fault : Type} {workspace : Workspace} {operation : Operation}
      {inject : TensorError → Fault} {inputs : List Tensor} {forward : Session Fault Forward}
      (rule : ∀ context gradient outcomes, (∀ view ∈ context.saved, allowed view.data) →
        allowed gradient.data → operation.rule context gradient = .ok outcomes →
        ∀ outcome : Outcome, some outcome ∈ outcomes → allowed outcome.data)
      (inputs_known : ∀ input ∈ inputs, workspace.tape.Knows input)
      (nested : Run allowed workspace (forward.exec workspace).2)
      (results_known : ∀ made, (forward.exec workspace).1 = .ok made →
        ∀ tensor ∈ made.output :: made.saved, (forward.exec workspace).2.tape.Knows tensor) :
      Run allowed workspace ((operation.apply inject inputs forward).exec workspace).2

instance : LawfulTensorData Dense where
  kind_convert converted := by
    obtain ⟨shape, dtype, device⟩ := Dense.convert_kind converted
    exact Prod.ext shape (Prod.ext dtype device)
  kind_add added := by
    obtain ⟨shape, dtype, device⟩ := Dense.add_kind added
    exact Prod.ext shape (Prod.ext dtype device)

/-- Data of one kind has one shape, one element type and one device. -/
theorem Dense.kind_eq_iff {d e : Dense} : TensorData.kind d = TensorData.kind e ↔
    d.shape = e.shape ∧ d.dtype = e.dtype ∧ d.device = e.device := by
  rw [TensorData.kind, TensorData.kind, Prod.mk.injEq, Prod.mk.injEq]
  rfl

/-- A tensor is converted as its data is. -/
theorem Tensor.view_convert (tensor : Tensor) (dtype : DType) (device : Device) :
    tensor.toView.convert dtype device = (tensor.data.convert dtype device).map fun data =>
      ⟨data, if dtype == tensor.dtype && !device.isMeta then some tensor.buffer else none⟩ :=
  Tape.convert_view tensor.toView dtype device

/-- A kind of data that the operations on tensors stay in. -/
structure Dense.Kind (allowed : Dense → Prop) : Prop extends TensorData.Closed allowed where
  sum : ∀ {data : Dense}, allowed data → allowed data.sum
  full : ∀ {data : Dense} (value : Binary64), allowed data →
    allowed (.full data.shape value data.dtype data.device)

/-- All data is of a kind. -/
theorem Dense.kind_any : Dense.Kind fun _ => True where
  convert _ _ := trivial
  add _ _ _ := trivial
  sum _ := trivial
  full _ _ := trivial

/-- Valid data is closed under conversions and sums. -/
theorem Dense.kind_valid : Dense.Kind Dense.Valid where
  convert valid converted := valid.convert converted
  add left right added := left.add right added
  sum valid := valid.sum
  full {data} value valid := by
    obtain ⟨_, counted⟩ := valid.counted
    exact Dense.full_valid counted value data.dtype data.device

namespace Operation

/-- The node that an application of an operation records on a tape. -/
def node (operation : Operation) (tape : Tape) (inputs : List Tensor) (needs : List Bool)
    (forward : Forward) : Node where
  name := operation.name
  context := ⟨forward.saved.map Tensor.toView, needs⟩
  rule := operation.rule
  edges := inputs.map tape.edgeTo

/-- The rule of an operation stays in a kind of data. -/
def Lawful (allowed : Dense → Prop) (operation : Operation) : Prop :=
  ∀ context gradient outcomes, (∀ view ∈ context.saved, allowed view.data) →
    allowed gradient.data → operation.rule context gradient = .ok outcomes →
    ∀ outcome : Outcome, some outcome ∈ outcomes → allowed outcome.data

variable {allowed : Dense → Prop}

private theorem sum_lawful (kind : Dense.Kind allowed) : sum.Lawful allowed := by
  intro context gradient outcomes saved fine ruled outcome member
  simp only [sum] at ruled
  cases kept : context.saved with
  | nil =>
      rw [kept] at ruled
      cases ruled
      cases member
  | cons input rest =>
      rw [kept] at ruled
      have input_fine : allowed input.data := saved input (by rw [kept]; exact List.mem_cons_self)
      simp only at ruled
      split at ruled
      next empty =>
        cases ruled
        cases List.mem_singleton.mp member
        have filled := kind.full .zero input_fine
        rwa [Dense.full, if_pos empty, eq_of_beq empty] at filled
      next =>
        obtain ⟨value, _, made⟩ := ok_of_bind ruled
        cases made
        cases List.mem_singleton.mp member
        exact kind.full value input_fine

private theorem toCopy_lawful (kind : Dense.Kind allowed) : toCopy.Lawful allowed := by
  intro context gradient outcomes saved fine ruled outcome member
  simp only [toCopy] at ruled
  cases kept : context.saved with
  | nil =>
      rw [kept] at ruled
      cases ruled
      cases member
  | cons input rest =>
      rw [kept] at ruled
      obtain ⟨converted, cast, made⟩ := ok_of_bind ruled
      cases made
      cases List.mem_singleton.mp member
      exact Tape.convert_allowed kind.toClosed fine cast

end Operation

namespace Run

/-- Tensors can be made one after another. -/
theorem creates {allowed : Dense → Prop} (data : List Dense) :
    ∀ workspace : Workspace, (∀ each ∈ data, allowed each) →
      Run allowed workspace (data.foldl (fun workspace data =>
        ((Session.create data : Session TensorError Tensor).exec workspace).2) workspace) := by
  induction data with
  | nil => exact fun workspace _ => .refl workspace
  | cons each rest ih =>
      intro workspace permitted
      obtain ⟨first, later⟩ := List.forall_mem_cons.mp permitted
      exact .trans (.create workspace first) (ih _ later)

/-- Steps from the tape of one workspace to the tape of another, which keep to a kind
of data and mark only leaves of a floating point type. -/
structure Extends (allowed : Dense → Prop) (before after : Workspace) : Prop where
  steps : Tape.Steps before.tape after.tape
  holds : before.tape.Holds allowed → after.tape.Holds allowed
  marked : before.tape.Sound → before.tape.Marked → after.tape.Marked

variable {allowed : Dense → Prop}

instance : IsTrans Workspace (Extends allowed) where
  trans _ _ _ first second :=
    { steps := first.steps.trans second.steps
      holds := fun holds => second.holds (first.holds holds)
      marked := fun sound marked =>
        second.marked (first.steps.sound sound) (first.marked sound marked) }

/-- One step that changes no marks. -/
theorem Extends.single {before after : Workspace} (step : Tape.Step before.tape after.tape)
    (same : after.tape.marks = before.tape.marks)
    (holds : before.tape.Holds allowed → after.tape.Holds allowed) :
    Extends allowed before after :=
  ⟨.single step, holds, fun sound marked => marked.of_marks sound (.single step) same⟩

/-- Whatever is written to the journal, the tape stays. -/
theorem Extends.of_tape {before after : Workspace} (same : after.tape = before.tape) :
    Extends allowed before after := by
  refine ⟨?_, ?_, ?_⟩
  all_goals rw [same]
  · exact .refl
  · exact id
  · exact fun _ => id

/-- Every workspace extends itself. -/
theorem Extends.refl (workspace : Workspace) : Extends allowed workspace workspace :=
  .of_tape rfl

/-- No tensor is lost. -/
theorem Extends.knows {before after : Workspace} (extended : Extends allowed before after)
    {tensor : Tensor} (known : before.tape.Knows tensor) : after.tape.Knows tensor :=
  extended.steps.knows known

variable {Fault α : Type} {workspace : Workspace}

/-- A tensor with allowed data can be made. -/
theorem place_within {outcome : Outcome}
    (permitted : workspace.tape.Holds allowed → allowed outcome.data) :
    (Session.place outcome : Session Fault Tensor).Within (Extends allowed) workspace
      fun made after => after.tape.Knows made ∧ made.data = outcome.data :=
  .of_exec rfl (.single (.place _ _) rfl fun holds => holds.place (permitted holds))
    fun _ made => by
      rw [← Except.ok.inj made]
      exact ⟨workspace.tape.place_knows outcome, rfl⟩

/-- A computation without state leaves the workspace as it is. -/
theorem ofExcept_within (result : Except Fault α) :
    (Session.ofExcept result).Within (Extends allowed) workspace fun value after =>
      result = .ok value ∧ after = workspace :=
  .look (Session.exec_ofExcept result workspace) (.refl workspace)

private theorem convert_within (kind : Dense.Kind allowed) {tensor : Tensor}
    (known : workspace.tape.Knows tensor) (dtype : DType) (device : Device) :
    (tensor.convert dtype device).Within (Extends allowed) workspace fun made after =>
      after.tape.Knows made ∧ TensorData.kind made.data = (tensor.shape, dtype, device) := by
  apply (ofExcept_within _).bind
  rintro outcome middle _ ⟨converted, rfl⟩
  have permitted : middle.tape.Holds allowed → allowed outcome.data := fun holds =>
    Tape.convert_allowed kind.toClosed (holds.knows known) converted
  refine (place_within permitted).weaken fun made _ placed => ⟨placed.1, ?_⟩
  rw [placed.2]
  exact Tape.kind_convert_view converted

/-- Whether inputs require gradients can be looked up without any change. -/
theorem exec_needs (inputs : List Tensor) :
    (inputs.mapM Session.requiresGrad : Session Fault (List Bool)).exec workspace =
      (.ok (inputs.map fun input => (workspace.tape.state input.number).requiresGrad),
        workspace) := by
  induction inputs with
  | nil => rfl
  | cons input rest ih =>
      rw [List.mapM_cons, Session.exec_bind]
      simp only [Session.exec_requiresGrad]
      rw [Session.exec_bind, ih]
      rfl

/-- A node is recorded exactly if it can be attached to its output. -/
theorem exec_record (operation : Operation) (inputs : List Tensor) (needs : List Bool)
    (forward : Forward) :
    (operation.record inputs needs forward).exec workspace =
      match workspace.tape.attach forward.output
        (operation.node workspace.tape inputs needs forward) with
      | .ok tape => (.ok (), { workspace with
          tape
          journal := workspace.journal ++ [⟨.trace, "mlsys_tensor::autograd",
            "registered " ++ operation.name ++ " in the graph"⟩] })
      | .error fault => (.error fault, workspace) := by
  cases attached : workspace.tape.attach forward.output
      (operation.node workspace.tape inputs needs forward)
  all_goals
    rw [Operation.node] at attached
    simp only [Operation.record, Session.exec_bind, Session.exec_tape, Session.exec_ofExcept,
      attached, Session.exec_setTape, Session.exec_note]

section Apply

variable {operation : Operation} {inject : TensorError → Fault} {inputs : List Tensor}
  {forward : Session Fault Forward} {made : Forward} {middle : Workspace}

/-- An application fails if its forward half fails. -/
theorem exec_apply_error {fault : Fault} (ran : forward.exec workspace = (.error fault, middle)) :
    (operation.apply inject inputs forward).exec workspace = (.error fault, middle) := by
  rw [Operation.apply, Session.exec_bind, exec_needs]
  dsimp only
  rw [Session.exec_bind, ran]

/-- An application does nothing but its forward half if no input requires a gradient. -/
theorem exec_apply_untracked (ran : forward.exec workspace = (.ok made, middle))
    (untracked : ¬ inputs.any fun input => (workspace.tape.state input.number).requiresGrad) :
    (operation.apply inject inputs forward).exec workspace = (.ok made.output, middle) := by
  rw [Operation.apply, Session.exec_bind, exec_needs]
  dsimp only
  rw [Session.exec_bind, ran]
  dsimp only
  rw [List.any_map, Function.id_comp, if_neg untracked]
  rfl

/-- An application attaches a node to its output if an input requires a gradient. -/
theorem exec_apply_tracked (ran : forward.exec workspace = (.ok made, middle))
    (tracked : inputs.any fun input => (workspace.tape.state input.number).requiresGrad)
    {tape : Tape} (attached : middle.tape.attach made.output (operation.node middle.tape inputs
      (inputs.map fun input => (workspace.tape.state input.number).requiresGrad) made) = .ok tape) :
    ∃ after, (operation.apply inject inputs forward).exec workspace = (.ok made.output, after) ∧
      after.tape = tape := by
  have recorded := @exec_record middle operation inputs
    (inputs.map fun input => (workspace.tape.state input.number).requiresGrad) made
  rw [attached] at recorded
  rw [Operation.apply, Session.exec_bind, exec_needs]
  dsimp only
  rw [Session.exec_bind, ran]
  dsimp only
  rw [List.any_map, Function.id_comp, if_pos tracked, Session.exec_bind, Session.exec_adapt,
    recorded]
  exact ⟨_, rfl, rfl⟩

/-- An application fails if its node can not be attached. -/
theorem exec_apply_refused (ran : forward.exec workspace = (.ok made, middle))
    (tracked : inputs.any fun input => (workspace.tape.state input.number).requiresGrad)
    {fault : TensorError}
    (refused : middle.tape.attach made.output (operation.node middle.tape inputs
      (inputs.map fun input => (workspace.tape.state input.number).requiresGrad) made) =
        .error fault) :
    (operation.apply inject inputs forward).exec workspace = (.error (inject fault), middle) := by
  have recorded := @exec_record middle operation inputs
    (inputs.map fun input => (workspace.tape.state input.number).requiresGrad) made
  rw [refused] at recorded
  rw [Operation.apply, Session.exec_bind, exec_needs]
  dsimp only
  rw [Session.exec_bind, ran]
  dsimp only
  rw [List.any_map, Function.id_comp, if_pos tracked, Session.exec_bind, Session.exec_adapt,
    recorded]
  rfl

end Apply

private theorem record_within {operation : Operation} (lawful : operation.Lawful allowed)
    {inputs : List Tensor} {needs : List Bool} {forward : Forward}
    (inputs_known : ∀ input ∈ inputs, workspace.tape.Knows input)
    (output_known : workspace.tape.Knows forward.output)
    (saved_known : ∀ tensor ∈ forward.saved, workspace.tape.Knows tensor) :
    (operation.record inputs needs forward).Within (Extends allowed) workspace
      fun _ after => after.tape.Knows forward.output := by
  have recorded := @exec_record workspace operation inputs needs forward
  let node := operation.node workspace.tape inputs needs forward
  have keeps (holds : workspace.tape.Holds allowed) : node.Keeps allowed := by
    refine fun gradient outcomes fine => lawful _ gradient outcomes (fun view member => ?_) fine
    obtain ⟨tensor, listed, same⟩ := List.mem_map.mp member
    rw [← same]
    exact holds.knows (saved_known tensor listed)
  cases attached : workspace.tape.attach forward.output node with
  | error fault =>
      rw [attached] at recorded
      exact .of_error recorded (.refl workspace)
  | ok tape =>
      rw [attached] at recorded
      have step : Tape.Step workspace.tape tape := .attach inputs_known output_known rfl attached
      refine .of_exec recorded ?_ fun _ _ => step.knows output_known
      exact ⟨.single step, fun holds => holds.attach (keeps holds) attached,
        fun _ marked => marked.attach output_known attached⟩

/-- A lawful operation extends the workspace, and its output is what its forward computation
gives. -/
theorem apply_within {operation : Operation} (lawful : operation.Lawful allowed)
    {inject : TensorError → Fault} {inputs : List Tensor} {forward : Session Fault Forward}
    (inputs_known : ∀ input ∈ inputs, workspace.tape.Knows input)
    {further : Tensor → Prop} (nested : forward.Within (Extends allowed) workspace fun made after =>
      (∀ tensor ∈ made.output :: made.saved, after.tape.Knows tensor) ∧ further made.output) :
    (operation.apply inject inputs forward).Within (Extends allowed) workspace
      fun output after => after.tape.Knows output ∧ further output := by
  have needs : (inputs.mapM Session.requiresGrad : Session Fault (List Bool)).Within
      (Extends allowed) workspace fun _ after => after = workspace :=
    .of_exec (exec_needs inputs) (.refl _) fun _ _ => rfl
  apply needs.bind
  intro flags middle _ same
  subst same
  apply nested.bind
  rintro made after moved ⟨known, holds⟩
  have output_known := known made.output List.mem_cons_self
  by_cases needed : flags.any id
  · rw [if_pos needed]
    have recorded : (operation.record inputs flags made).Within (Extends allowed) after
        fun _ last => last.tape.Knows made.output :=
      record_within lawful (fun input member => moved.knows (inputs_known input member))
        output_known fun tensor member => known tensor (List.mem_cons_of_mem _ member)
    exact recorded.adapt.bind fun _ last _ present =>
      .of_exec rfl (.refl last) fun _ output => Except.ok.inj output ▸ ⟨present, holds⟩
  · rw [if_neg needed]
    exact .of_exec rfl (.refl after) fun _ output => Except.ok.inj output ▸ ⟨output_known, holds⟩

/-- Whether a tensor requires a gradient can be looked up without any change. -/
theorem tracked_within (tensor : Tensor) :
    (Session.requiresGrad tensor : Session Fault Bool).Within (Extends allowed) workspace
      fun _ after => after = workspace :=
  .of_exec rfl (.refl workspace) fun _ _ => rfl

/-- A tensor that was cast or moved has the shape that it had. -/
theorem transfer_within (kind : Dense.Kind allowed) {tensor : Tensor}
    (known : workspace.tape.Knows tensor) (dtype : Option DType) (device : Option Device) :
    (tensor.transfer dtype device).Within (Extends allowed) workspace fun made after =>
      after.tape.Knows made ∧ TensorData.kind made.data =
        (tensor.shape, dtype.getD tensor.dtype, device.getD tensor.device) := by
  rw [Tensor.transfer]
  split
  next same =>
    refine .of_exec rfl (.refl _) fun _ output => ?_
    rw [← Except.ok.inj output, same.1, same.2]
    exact ⟨known, rfl⟩
  next =>
    apply (tracked_within tensor).bind
    intro flag middle _ same
    subst same
    split
    · refine apply_within (Operation.toCopy_lawful kind) (by simpa using known) ?_
      apply (convert_within kind known _ _).bind
      rintro made after moved ⟨present, fits⟩
      refine .of_exec rfl (.refl after) fun _ output => ?_
      rw [← Except.ok.inj output]
      exact ⟨by simpa using ⟨present, moved.knows known⟩, fits⟩
    · exact convert_within kind known _ _

private theorem sum_within (kind : Dense.Kind allowed) {tensor : Tensor}
    (known : workspace.tape.Knows tensor) :
    tensor.sum.Within (Extends allowed) workspace
      fun made after => after.tape.Knows made ∧ made.data = tensor.data.sum := by
  have created : (Session.create tensor.data.sum : Session TensorError Tensor).Within
      (Extends allowed) workspace
        fun made after => after.tape.Knows made ∧ made.data = tensor.data.sum :=
    place_within fun holds => kind.sum (holds.knows known)
  apply (tracked_within tensor).bind
  intro flag middle _ same
  subst same
  split
  · refine apply_within (Operation.sum_lawful kind) (by simpa using known) ?_
    apply created.bind
    rintro made after moved ⟨present, total⟩
    refine .of_exec rfl (.refl after) fun _ output => ?_
    rw [← Except.ok.inj output]
    exact ⟨by simpa using ⟨present, moved.knows known⟩, total⟩
  · exact created

private theorem setRequiresGrad_within {tensor : Tensor} (known : workspace.tape.Knows tensor)
    (requiresGrad : Bool) :
    (tensor.setRequiresGrad requiresGrad).Within (Extends allowed) workspace fun _ _ => True := by
  rw [Tensor.setRequiresGrad]
  refine .check (Extends.refl _) fun passed => ?_
  have floating : requiresGrad → tensor.dtype.isFloating := by simpa using passed
  apply (Session.Within.look (Session.exec_tape workspace) (Extends.refl _)).bind
  rintro tape middle _ ⟨found, rfl⟩
  cases found
  apply (ofExcept_within _).bind
  rintro changed last _ ⟨changes, rfl⟩
  have moved : Extends allowed last { last with tape := changed } :=
    ⟨.single (.setRequiresGrad known changes), fun holds => holds.setRequiresGrad changes,
      fun _ marked => marked.setRequiresGrad known floating changes⟩
  exact .of_exec rfl moved fun _ _ => trivial

/-- The seed of a pass is an allowed tensor. -/
theorem seed_within (kind : Dense.Kind allowed) {root : Tensor} {gradient : Option Tensor}
    (root_fine : workspace.tape.Holds allowed → allowed root.data)
    (gradient_fine : workspace.tape.Holds allowed → ∀ tensor ∈ gradient, allowed tensor.data) :
    (root.seed gradient).Within (Extends allowed) workspace
      fun made after => after.tape.Knows made := by
  cases gradient with
  | none =>
      rw [Tensor.seed]
      refine .check (Extends.refl _) fun _ => ?_
      exact (place_within fun holds => kind.full .one (root_fine holds)).weaken
        fun _ _ placed => placed.1
  | some gradient =>
      rw [Tensor.seed]
      refine .check (Extends.refl _) fun _ => ?_
      have permitted (holds : workspace.tape.Holds allowed) : allowed gradient.keep.data :=
        gradient_fine holds gradient rfl
      exact (place_within permitted).bind fun detached _ _ placed =>
        (convert_within kind placed.1 _ _).weaken fun _ _ made => made.1

private theorem backward_within (kind : Dense.Kind allowed) {root : Tensor}
    {gradient : Option Tensor}
    (root_known : workspace.tape.Knows root)
    (gradient_known : ∀ tensor ∈ gradient, workspace.tape.Knows tensor) :
    (root.backward gradient).Within (Extends allowed) workspace fun _ _ => True := by
  apply (tracked_within root).bind
  intro flag middle _ same
  subst same
  refine .check (Extends.refl _) fun _ => ?_
  have seeded := @seed_within allowed middle kind root gradient
    (fun holds => holds.knows root_known)
    fun holds tensor member => holds.knows (gradient_known tensor member)
  apply seeded.bind
  intro seed middle moved known
  have carried : Extends allowed middle
      { middle with tape := (middle.tape.backward root seed.toView).2 } :=
    .single (.backward (moved.knows root_known) seed.toView)
      (middle.tape.marks_backward root seed.toView)
      fun holds => holds.backward kind.toClosed root (holds.knows known)
  exact .of_exec rfl carried fun _ _ => trivial

/-- Every run takes the tape through steps and keeps to the allowed data. -/
theorem extended (kind : Dense.Kind allowed) {before after : Workspace}
    (run : Run allowed before after) : Extends allowed before after := by
  induction run with
  | refl workspace => exact .refl workspace
  | trans _ _ first second => exact IsTrans.trans _ _ _ first second
  | note workspace level target text => exact .of_tape rfl
  | create workspace permitted => exact (place_within fun _ => permitted).moved
  | detach known => exact (place_within fun holds => holds.knows known).moved
  | transfer known dtype device => exact (transfer_within kind known dtype device).moved
  | sum known => exact (sum_within kind known).moved
  | setRequiresGrad known requiresGrad => exact (setRequiresGrad_within known requiresGrad).moved
  | zeroGrad known =>
      exact .single (.zeroGrad known) (Tape.marks_setGrad _ _ _) fun holds => holds.zeroGrad _
  | backward root_known gradient_known =>
      exact (backward_within kind root_known gradient_known).moved
  | apply rule inputs_known _ results_known nested =>
      exact (@apply_within _ _ _ _ rule _ _ _ inputs_known (fun _ => True)
        ⟨nested, fun made ran => ⟨results_known made ran, trivial⟩⟩).moved

/-- Whatever data is allowed, a run is one in which any data is. -/
theorem any {before after : Workspace} (run : Run allowed before after) :
    Run (fun _ => True) before after := by
  induction run with
  | refl workspace => exact .refl workspace
  | trans _ _ first second => exact .trans first second
  | note workspace level target text => exact .note workspace level target text
  | create workspace _ => exact .create workspace trivial
  | detach known => exact .detach known
  | transfer known dtype device => exact .transfer known dtype device
  | sum known => exact .sum known
  | setRequiresGrad known requiresGrad => exact .setRequiresGrad known requiresGrad
  | zeroGrad known => exact .zeroGrad known
  | backward root_known gradient_known => exact .backward root_known gradient_known
  | apply _ inputs_known _ results_known nested =>
      exact .apply (fun _ _ _ _ _ _ _ _ => trivial) inputs_known nested results_known

/-- Every run takes the tape through steps. -/
theorem stepped {before after : Workspace} (run : Run allowed before after) :
    Tape.Steps before.tape after.tape :=
  (run.any.extended Dense.kind_any).steps

/-- The tape that a run leaves is sound. -/
theorem sound (run : Run allowed {} workspace) : workspace.tape.Sound :=
  run.stepped.sound .start

end Run

end Atomistic
