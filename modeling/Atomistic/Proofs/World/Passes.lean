import Atomistic.Proofs.Autograd.Passes
import Atomistic.Proofs.World.States

/-!
# What a pass changes

A pass from a root changes nothing but the gradients of the leaves that the root feeds, whether
it succeeds or fails, and one that is refused changes nothing at all
(`Atomistic.World.Reachable.backward_framed`).  A leaf can become the output of a node after an
edge to it was made, and such a leaf still gets its gradients
(`Atomistic.World.Rejoined.backward_reaches_outputs`).
-/

namespace Atomistic

/-- What a pass from a root leaves as it was. -/
structure Workspace.Framed (before after : Workspace) (root : Tensor) : Prop where
  /-- Every tensor keeps its data, and with it its shape, element type and device. -/
  knows : ∀ tensor, before.tape.Knows tensor → after.tape.Knows tensor
  /-- Every tensor keeps its flag and the node that produced it. -/
  marks : after.tape.marks = before.tape.marks
  nodes : after.tape.nodes = before.tape.nodes
  journal : after.journal = before.journal
  /-- Only leaves that the root feeds get gradients. -/
  others : ∀ number, (∀ leaf, before.tape.Feeds root leaf → leaf.number ≠ number) →
    after.tape.state number = before.tape.state number
  /-- The output of a node gets a gradient only as a leaf of an older node. -/
  outputs : ∀ tensor, before.tape.Knows tensor →
    ∀ maker, (before.tape.state tensor.number).gradFn = some maker →
      (after.tape.state tensor.number).grad ≠ (before.tape.state tensor.number).grad →
        ∃ first number, (before.tape.state root.number).gradFn = some first ∧
          before.tape.graph.Reaches first number ∧
          .leaf tensor ∈ before.tape.graph.edges number ∧ number < maker

open Workspace

variable {before middle after : Workspace} {root : Tensor}

private theorem Workspace.Gains.feeds (gains : Gains before after) {leaf : Tensor}
    (feeds : after.tape.Feeds root leaf) : before.tape.Feeds root leaf := by
  obtain ⟨made, rfl⟩ := gains
  cases feeds with
  | root none => exact .root none
  | edge produced path edge => exact .edge produced path edge

private theorem Workspace.Framed.refl (workspace : Workspace) (root : Tensor) :
    Framed workspace workspace root :=
  ⟨fun _ known => known, rfl, rfl, rfl, fun _ _ => rfl, fun _ _ _ _ changed => absurd rfl changed⟩

/-- Tensors that are made first do not count. -/
theorem Workspace.Gains.framed (gains : Gains before middle) (framed : Framed middle after root) :
    Framed before after root := by
  have knows := fun (tensor : Tensor) (known : before.tape.Knows tensor) =>
    framed.knows tensor (gains.knows known)
  have others := fun (number : Nat)
      (apart : ∀ leaf, before.tape.Feeds root leaf → leaf.number ≠ number) =>
    framed.others number fun leaf feeds => apart leaf (gains.feeds feeds)
  have outputs := fun (tensor : Tensor) (known : before.tape.Knows tensor) =>
    framed.outputs tensor (gains.knows known)
  obtain ⟨made, rfl⟩ := gains
  exact ⟨knows, framed.marks, framed.nodes, framed.journal, others, outputs⟩

namespace Tape

variable {workspace : Workspace}

/-- A leaf that is fed is a tensor that has been made. -/
theorem Feeds.known (sound : workspace.tape.Sound) (root_known : workspace.tape.Knows root)
    {leaf : Tensor} (feeds : workspace.tape.Feeds root leaf) : workspace.tape.Knows leaf := by
  cases feeds with
  | root => exact root_known
  | edge _ _ edge => exact sound.leaf_known edge

/-- Carrying a gradient back changes only leaves that the root feeds. -/
theorem Sound.frames (sound : workspace.tape.Sound) (aged : workspace.tape.Aged)
    (root_known : workspace.tape.Knows root) (seed : View) :
    Framed workspace { workspace with tape := (workspace.tape.backward root seed).2 } root := by
  have others : ∀ number, (∀ leaf, workspace.tape.Feeds root leaf → leaf.number ≠ number) →
      (workspace.tape.backward root seed).2.state number = workspace.tape.state number :=
    fun number apart => sound.state_of_not_feeds seed apart
  refine ⟨fun tensor known => ?_, workspace.tape.marks_backward root seed,
    workspace.tape.nodes_backward root seed, rfl, others, ?_⟩
  · exact (Step.backward root_known seed).knows known
  · intro tensor known maker made changed
    have fed : workspace.tape.Feeds root tensor := by
      by_contra none
      refine changed (congrArg GradState.grad (others tensor.number fun leaf feeds same => none ?_))
      rw [← (feeds.known sound root_known).unique known same]
      exact feeds
    exact fed.older aged made

end Tape

namespace World

variable {world : World} {gradient : Option Tensor}

private theorem Reachable.aged (reachable : world.Reachable) : world.workspace.tape.Aged := by
  induction reachable with
  | refl => exact Tape.Aged.start
  | tail reached step ih =>
      have earlier : Reachable _ := reached
      exact (step.extended earlier.sound).steps.aged ih

/-- **What a pass changes.** Whether it succeeds or fails, a pass changes only the gradients of
leaves that its root feeds.  A pass that is refused fails without a trace, and one that is not
can only fail if a node produced its root. -/
theorem Reachable.backward_framed (reachable : world.Reachable)
    (root_known : world.workspace.tape.Knows root)
    (gradient_known : ∀ tensor ∈ gradient, world.workspace.tape.Knows tensor)
    {result : Except TensorError Unit} {after : Workspace}
    (ran : (root.backward gradient).exec world.workspace = (result, after)) :
    world.workspace.Framed after root ∧
    (∀ fault, root.Refuses world.workspace gradient fault →
      result = .error fault ∧ world.workspace.Gains after) ∧
    ((∀ fault, ¬ root.Refuses world.workspace gradient fault) →
      (world.workspace.tape.state root.number).gradFn = none → result = .ok ()) := by
  have sound := reachable.sound
  have refused : ∀ fault, root.Refuses world.workspace gradient fault →
      result = .error fault ∧ world.workspace.Gains after := by
    intro fault refuses
    obtain ⟨last, failed, gains⟩ := Tensor.backward_refused refuses
    cases ran.symm.trans failed
    exact ⟨rfl, gains⟩
  by_cases refuses : ∃ fault, root.Refuses world.workspace gradient fault
  · obtain ⟨fault, refuses⟩ := refuses
    exact ⟨(refused fault refuses).2.framed (.refl after root), refused,
      fun accepted => absurd refuses (accepted fault)⟩
  · have accepted := not_exists.mp refuses
    obtain ⟨seed, middle, given, gains, seed_known, started⟩ := Tensor.backward_starts accepted
    cases ran.symm.trans started
    have middle_sound := gains.steps.sound sound.tape
    refine ⟨?_, refused, fun _ leaf => ?_⟩
    · exact gains.framed (middle_sound.frames (gains.steps.aged reachable.aged)
        (gains.knows root_known) seed.toView)
    · have valid : ∀ data ∈ gradient.map fun tensor => tensor.data, data.Valid := by
        rintro _ member
        obtain ⟨tensor, given, rfl⟩ := Option.mem_map.mp member
        exact sound.holds.knows (gradient_known tensor given)
      have fits := Tensor.seedData_fits (sound.holds.knows root_known) valid given
      obtain ⟨accepted, taken⟩ :
          ∃ view, Tape.accept middle.tape.sweeps root seed.toView = .ok view :=
        Tensor.accept_fits fits
      rw [Tape.backward, gains.state, leaf]
      simp only [taken]

namespace Rejoined

/-- An operation that passes the gradient of its output on to its only input. -/
def echo : Operation where
  name := "EchoBackward"
  rule := fun _ gradient => return [some gradient.keep]

/-- A leaf. -/
def first : Tensor := ⟨⟨.full [] .one .float64 .cpu, .ofTensor 0⟩, 0⟩

/-- The sum of the leaf. -/
def total : Tensor := ⟨⟨first.data.sum, .ofTensor 1⟩, 1⟩

/-- Another leaf. -/
def second : Tensor := ⟨⟨.full [] .one .float64 .cpu, .ofTensor 2⟩, 2⟩

/-- A leaf with a sum, no longer marked, and another leaf. -/
def made : Workspace :=
  let created := ((Session.create first.data : Session TensorError Tensor).exec {}).2
  let marked := ((first.setRequiresGrad true).exec created).2
  let summed := (first.sum.exec marked).2
  let unmarked := ((first.setRequiresGrad false).exec summed).2
  let other := ((Session.create second.data : Session TensorError Tensor).exec unmarked).2
  ((second.setRequiresGrad true).exec other).2

/-- The first leaf has become a function of the second. -/
def rejoined : World where
  workspace := ((echo.apply (id : TensorError → TensorError) [second]
    (pure { output := first })).exec made).2

/-- The tensors of the example are made in a run. -/
theorem made_run : Run Dense.Valid {} made := by
  have one : (Dense.full [] .one .float64 .cpu).Valid := .floats rfl (by decide) rfl fun _ _ => rfl
  refine .trans (.create {} one) (.trans (.setRequiresGrad ?_ true) (.trans (.sum ?_)
    (.trans (.setRequiresGrad ?_ false) (.trans (.create _ one) (.setRequiresGrad ?_ true)))))
  · rfl
  · rfl
  · rfl
  · rfl

private theorem rejoined_reachable : rejoined.Reachable := by
  have applied : Run Dense.Valid made rejoined.workspace := by
    refine .apply (fun _ gradient outcomes _ valid ruled outcome member => ?_) ?_ (.refl made) ?_
    · cases ruled
      cases List.mem_singleton.mp member
      exact valid
    · exact List.forall_mem_singleton.mpr rfl
    · intro forward gave
      cases gave
      exact List.forall_mem_singleton.mpr rfl
  exact .single (.run (.trans made_run applied))

/-- A pass can change the gradient of a tensor that a node produced. -/
theorem backward_reaches_outputs :
    ¬ ∀ world : World, world.Reachable → ∀ (root : Tensor) (gradient : Option Tensor),
      world.workspace.tape.Knows root →
      (∀ tensor ∈ gradient, world.workspace.tape.Knows tensor) →
      ∀ tensor, world.workspace.tape.Knows tensor →
        (world.workspace.tape.state tensor.number).gradFn.isSome →
        (((root.backward gradient).exec world.workspace).2.tape.state tensor.number).grad =
          (world.workspace.tape.state tensor.number).grad := by
  intro kept
  have none_given : ∀ tensor ∈ (none : Option Tensor), rejoined.workspace.tape.Knows tensor :=
    fun _ given => nomatch given
  exact absurd (kept rejoined rejoined_reachable total none rfl none_given first rfl rfl) nofun

/-- The first leaf gets its gradient, over the edge that was there before it became an output. -/
theorem backward_framed_rejoined : rejoined.Reachable ∧
    rejoined.workspace.Framed ((total.backward none).exec rejoined.workspace).2 total ∧
    (∃ maker, (rejoined.workspace.tape.state first.number).gradFn = some maker ∧
      rejoined.workspace.tape.Feeds total first) ∧
    ∀ fault, ¬ total.Refuses rejoined.workspace none fault := by
  have total_known : rejoined.workspace.tape.Knows total := rfl
  have none_given : ∀ tensor ∈ (none : Option Tensor), rejoined.workspace.tape.Knows tensor :=
    fun _ given => nomatch given
  obtain ⟨framed, _, _⟩ := rejoined_reachable.backward_framed total_known none_given rfl
  refine ⟨rejoined_reachable, framed, ⟨1, rfl, ?_⟩, fun fault refuses => ?_⟩
  · exact .edge rfl .refl (List.mem_singleton_self _)
  · cases refuses with
    | untracked untracked => exact untracked rfl
    | count _ several => exact several rfl

end Rejoined

end World

end Atomistic
