import Atomistic.NeighborList.Bridge
import Atomistic.Proofs.Autograd.Contributions
import Atomistic.Proofs.World.Passes

/-!
# Passes again

A pass does not use anything up, and it does not look at what other passes leave.  Between two
passes from one root with equal seeds there may be any number of other passes, and gradients may
be forgotten and leaves marked: both passes end alike and add the same gradients to the same
leaves in the same order (`Atomistic.World.Reachable.backward_repeats`).
-/

namespace Atomistic

open Session

namespace Operation

/-- The rule of an operation does not look at where its gradient is stored. -/
def Blind (operation : Operation) : Prop :=
  ∀ (context : Context) (first second : View), first.data = second.data →
    (operation.rule context first).map (List.map (Option.map fun outcome => outcome.data)) =
      (operation.rule context second).map (List.map (Option.map fun outcome => outcome.data))

private theorem sum_blind : sum.Blind := fun context first second same => by
  simp only [sum, same]

/-- The rule of a conversion does not look at where its gradient is stored. -/
theorem toCopy_blind : toCopy.Blind := fun context first second same => by
  simp only [toCopy]
  cases context.saved with
  | nil => rfl
  | cons input rest =>
      simp only [Tape.convert_view, same]
      cases TensorData.convert second.data input.data.dtype input.data.device <;> rfl

/-- The rule of a registered list does not look at where its gradient is stored. -/
theorem bridge_blind : NeighborList.bridge.Blind := fun context first second same => by
  simp only [NeighborList.bridge, same]

end Operation

namespace Workspace

/-- What can come between two passes. -/
inductive Pause : Workspace → Workspace → Prop
  | create (workspace : Workspace) {data : Dense} (valid : data.Valid) :
      Pause workspace ((Session.create data : Session TensorError Tensor).exec workspace).2
  | zeroGrad {workspace : Workspace} {tensor : Tensor} (known : workspace.tape.Knows tensor) :
      Pause workspace ((tensor.zeroGrad : Session TensorError Unit).exec workspace).2
  | setRequiresGrad {workspace : Workspace} {tensor : Tensor}
      (known : workspace.tape.Knows tensor) (requiresGrad : Bool) :
      Pause workspace ((tensor.setRequiresGrad requiresGrad).exec workspace).2
  | backward {workspace : Workspace} {root : Tensor} {gradient : Option Tensor}
      (root_known : workspace.tape.Knows root)
      (gradient_known : ∀ tensor ∈ gradient, workspace.tape.Knows tensor) :
      Pause workspace ((root.backward gradient).exec workspace).2

/-- Any number of tensors that are made, gradients that are forgotten, leaves that are marked
or not and passes, whether they succeed or fail. -/
def Interlude : Workspace → Workspace → Prop := Relation.ReflTransGen Pause

variable {before after : Workspace}

private theorem Pause.run (pause : Pause before after) : Run Dense.Valid before after := by
  cases pause with
  | create valid => exact .create before valid
  | zeroGrad known => exact .zeroGrad known
  | setRequiresGrad known requiresGrad => exact .setRequiresGrad known requiresGrad
  | backward root_known gradient_known => exact .backward root_known gradient_known

/-- Nothing that comes between two passes makes a node. -/
theorem Pause.kept (pause : Pause before after) : after.tape.nodes = before.tape.nodes ∧
    ∀ number, (after.tape.state number).gradFn = (before.tape.state number).gradFn := by
  cases pause with
  | create valid => exact ⟨rfl, fun _ => rfl⟩
  | zeroGrad known => exact ⟨rfl, Tape.gradFn_of_marks (before.tape.marks_setGrad _ none)⟩
  | @setRequiresGrad tensor known requiresGrad =>
      rw [Tensor.exec_setRequiresGrad]
      split
      · exact ⟨rfl, fun _ => rfl⟩
      · split
        · exact ⟨rfl, fun _ => rfl⟩
        · exact ⟨rfl, before.tape.gradFn_setFlag _ _⟩
  | @backward root gradient root_known gradient_known =>
      obtain ⟨nodes, marks⟩ := root.backward_kept gradient before
      exact ⟨nodes, Tape.gradFn_of_marks marks⟩

private theorem Interlude.run (interlude : Interlude before after) :
    Run Dense.Valid before after := by
  induction interlude with
  | refl => exact .refl before
  | tail _ pause ih => exact .trans ih pause.run

private theorem Interlude.kept (interlude : Interlude before after) :
    after.tape.nodes = before.tape.nodes ∧
    ∀ number, (after.tape.state number).gradFn = (before.tape.state number).gradFn := by
  induction interlude with
  | refl => exact ⟨rfl, fun _ => rfl⟩
  | tail _ pause ih =>
      exact ⟨pause.kept.1.trans ih.1, fun number => (pause.kept.2 number).trans (ih.2 number)⟩

end Workspace

namespace World

variable {world : World} {root : Tensor} {gradient again : Option Tensor}

/-- **Passes can be run again.** Whatever comes between two passes from one root with equal
seeds, if the root requires a gradient at both, they end alike and add the same gradients to the
same leaves in the same order.  If nothing comes between them, each leaf gets its gradients
twice. -/
theorem Reachable.backward_repeats (reachable : world.Reachable)
    (blind : world.workspace.tape.Blind) (root_known : world.workspace.tape.Knows root)
    (gradient_known : ∀ tensor ∈ gradient, world.workspace.tape.Knows tensor)
    (tracked : world.workspace.Tracks root) {result : Except TensorError Unit}
    {after later last : Workspace}
    (ran : (root.backward gradient).exec world.workspace = (result, after))
    (interlude : after.Interlude later)
    (again_known : ∀ tensor ∈ again, later.tape.Knows tensor)
    (equal : (again.map fun tensor => tensor.data) = gradient.map fun tensor => tensor.data)
    (still : later.Tracks root) {second : Except TensorError Unit}
    (reran : (root.backward again).exec later = (second, last)) :
    second = result ∧
    root.brings again later = root.brings gradient world.workspace ∧
    world.workspace.tape.Adds after.tape (root.brings gradient world.workspace) ∧
    later.tape.Adds last.tape (root.brings gradient world.workspace) ∧
    (later = after → world.workspace.tape.Adds last.tape
      (root.brings gradient world.workspace ++ root.brings gradient world.workspace)) := by
  have sound := reachable.sound
  have pass : world.workspace.Pause after := by
    have pause := Workspace.Pause.backward root_known gradient_known
    rwa [ran] at pause
  have between : world.workspace.Interlude later := interlude.head pass
  have extended := between.run.extended Dense.kind_valid
  obtain ⟨nodes, gradFn⟩ := between.kept
  obtain ⟨same, brings⟩ :=
    Tensor.backward_again blind nodes (gradFn root.number) tracked still equal
  have first := Tensor.backward_adds sound.tape sound.holds root_known gradient_known
  have next := Tensor.backward_adds (extended.steps.sound sound.tape) (extended.holds sound.holds)
    (extended.knows root_known) again_known
  rw [ran] at first same
  rw [reran] at next same
  rw [brings] at next
  refine ⟨same, brings, first, next, ?_⟩
  rintro rfl
  exact first.trans next

namespace Rejoined

/-- After a pass from the sum. -/
def passed : Workspace := ((total.backward none).exec made).2

/-- After the gradient of the first leaf was forgotten, the leaf was marked again, and another
pass was run. -/
def paused : Workspace :=
  let cleared := ((first.zeroGrad : Session TensorError Unit).exec passed).2
  let marked := ((first.setRequiresGrad true).exec cleared).2
  ((total.backward none).exec marked).2

private theorem made_blind : made.tape.Blind := by
  intro number node stored
  cases number with
  | zero =>
      have same :
          ⟨Operation.sum.name, ⟨[first.toView], [true]⟩, Operation.sum.rule, [.leaf first]⟩ =
            node := Option.some.inj stored
      exact same ▸ Operation.sum_blind ⟨[first.toView], [true]⟩
  | succ number => cases stored

private theorem paused_interlude : passed.Interlude paused := by
  have none_given (workspace : Workspace) :
      ∀ tensor ∈ (none : Option Tensor), workspace.tape.Knows tensor := fun _ given => nomatch given
  refine .tail (.tail (.single (.zeroGrad ?_)) (.setRequiresGrad ?_ true))
    (.backward ?_ (none_given _))
  · rfl
  · rfl
  · rfl

/-- A pass is repeated after a gradient was forgotten, its leaf marked again, and another pass
run. -/
theorem backward_repeats_paused : Reachable { workspace := made } ∧ made.tape.Blind ∧
    passed.Interlude paused ∧ ((total.backward none).exec paused).1 = .ok () ∧
    total.brings none paused = [(first, .full [] .one .float64 .cpu)] ∧
    paused.tape.Adds ((total.backward none).exec paused).2.tape (total.brings none made) := by
  have reachable : Reachable { workspace := made } := .single (.run made_run)
  have total_known : made.tape.Knows total := rfl
  have none_given (workspace : Workspace) :
      ∀ tensor ∈ (none : Option Tensor), workspace.tape.Knows tensor := fun _ given => nomatch given
  have ran : (total.backward none).exec made = (.ok (), passed) := rfl
  obtain ⟨same, brings, _, adds, _⟩ := reachable.backward_repeats made_blind total_known
    (none_given made) rfl ran paused_interlude (none_given paused) rfl rfl rfl
  exact ⟨reachable, made_blind, paused_interlude, same, brings, adds⟩

end Rejoined

end World

end Atomistic
