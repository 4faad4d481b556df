import Atomistic.Proofs.Autograd.Permanence
import Atomistic.Proofs.NeighborList.Indexed

/-!
# Gradients that come to a registered list

What happens to a gradient that comes to the values of a registered list, in all sweeps of all
later tapes (`Atomistic.World.Reachable.upstream_gradient`).  Gradients go on to the positions
and the cell exactly if the list and the gradient allow it, which they do whenever the list was
checked and the gradient has the right amount of data.  Otherwise the sweep stops there, before
any gradient has been changed.
-/

namespace Atomistic

namespace NeighborList

/-- What the backward rule of a registration makes of a gradient. -/
structure Ruled (tape : Tape) (system : System) (list : Block) (gradient : View)
    (result : Except TensorError (List (Option Outcome))) : Prop where
  /-- It gives gradients exactly if it is given what it needs. -/
  gives_iff : (∃ outcomes, result = .ok outcomes) ↔ Feeds tape system list gradient.data
  /-- It gives one for the positions and one for the cell, of the kinds of these. -/
  fits : ∀ outcomes, result = .ok outcomes → ∃ forPositions forCell,
    outcomes = [forPositions, forCell] ∧ Fits tape system.positions forPositions ∧
      Fits tape system.cell forCell
  /-- No index is ever out of bounds. -/
  safe : Flat.rule (linkNode tape system list).context gradient = result.mapError .refused

/-- A gradient with which the node of a list fails stops every sweep that brings it there. -/
structure Stopped (tape : Tape) (list : Block) (number : Nat) (gradient : View)
    (fault : TensorError) : Prop where
  /-- A sweep that starts at the list changes no tensor. -/
  backward : tape.backward list.values gradient =
    (.error fault, { tape with sweeps := tape.sweeps + 1 })
  /-- Any other sweep ends with what had reached the leaves before. -/
  visit : ∀ sweep : Sweep View Tensor, sweep.pending.get? number = some gradient →
    ∃ stopped, tape.graph.visit sweep number = .error (fault, stopped) ∧
      stopped.delivered = sweep.delivered

variable {tape after later : Tape} {system : System} {list : Block} {gradient : View}

/-- A list that agrees with a system can do with any gradient of the right size. -/
theorem Consistent.feeds (consistent : Consistent tape system list) (list_sound : list.Sound tape)
    (holds : tape.Holds Dense.Valid) (count : gradient.data.count = 3 * list.samples.count)
    (present : gradient.data.values ≠ .absent) : Feeds tape system list gradient.data := by
  have shape := (shapes_of_layout list_sound consistent.layout).1
  obtain ⟨samples_sound, together⟩ := list_sound.samples
  have samples_present : list.samples.values.data.values ≠ .absent := fun absent => by
    have gone : list.samples.device = .metadata :=
      (holds.knows samples_sound.known).absent_iff.mp absent
    exact consistent.present (consistent.device.trans (together.symm.trans gone))
  exact fun _ => ⟨list.samples.count, ⟨shape, samples_present, count, present⟩,
    fun _ row inside => (consistent.pairs row inside).inRange⟩

/-- A node of a registration keeps its place, whatever happens later. -/
theorem Linked.lasts (linked : Linked tape after system list) (steps : after.Steps later) :
    later.nodes[tape.nodes.size]? = some (linkNode tape system list) ∧
      (later.state list.values.number).gradFn = some tape.nodes.size := by
  have stored : after.nodes[tape.nodes.size]? = some (linkNode tape system list) := by
    rw [linked.nodes]
    exact Array.getElem?_push_size
  have produced : (after.state list.values.number).gradFn = some tape.nodes.size := by
    rw [linked.linked]
  exact ⟨steps.continues.nodes stored, steps.continues.produced produced⟩

private theorem Linked.stopped (linked : Linked tape after system list) (steps : after.Steps later)
    (sound : later.Sound) {fault : TensorError}
    (failed : (linkNode tape system list).rule (linkNode tape system list).context gradient =
      .error fault) : Stopped later list tape.nodes.size gradient fault := by
  obtain ⟨stored, produced⟩ := linked.lasts steps
  exact ⟨Tape.backward_fails sound produced stored failed,
    fun sweep waiting => Graph.visit_fails waiting (Tape.graph_rule_fails stored failed)⟩

/-- The node of a registration passes on what its rule gives. -/
theorem Linked.passOn (linked : Linked tape after system list) (steps : after.Steps later)
    (gradient : View) : later.graph.passOn tape.nodes.size (some gradient) =
      later.graph.rule tape.nodes.size gradient := by
  refine Tape.passOn_eq_rule (linked.lasts steps).1 fun outcomes ruled => ?_
  obtain ⟨forPositions, forCell, pair, _⟩ := bridge_gives ruled
  rw [pair]
  rfl

end NeighborList

namespace World

open NeighborList

/-- **What happens to gradients that come to a registered list.** -/
theorem Reachable.upstream_gradient {world : World} (reachable : world.Reachable)
    {system : System} (present : system ∈ world.systems) (placed : system.device ≠ .metadata)
    {list : Block} (list_present : list ∈ world.blocks) {check : Bool} {after : Workspace}
    (ran : (register system list check).exec world.workspace = (.ok (), after)) :
    let before := world.workspace.tape
    let node := linkNode before system list
    let number := before.nodes.size
    Registered before after.tape system list ∧
    (∀ gradient : View, gradient.data.Valid →
      Ruled before system list gradient (node.rule node.context gradient)) ∧
    (check → ∀ gradient : View, gradient.data.Valid →
      gradient.data.count = 3 * list.samples.count → gradient.data.values ≠ .absent →
        ∃ outcomes, node.rule node.context gradient = .ok outcomes) ∧
    ((before.state system.positions.number).requiresGrad ∨
        (before.state system.cell.number).requiresGrad → ∀ later, after.tape.Steps later →
      later.nodes[number]? = some node ∧
      (later.state list.values.number).gradFn = some number ∧
      ∀ gradient : View,
        later.graph.passOn number (some gradient) = later.graph.rule number gradient ∧
        ∀ fault, node.rule node.context gradient = .error fault →
          Stopped later list number gradient fault) := by
  intro before node number
  have sound := reachable.sound
  have system_sound := sound.systems system present
  have list_sound := sound.blocks list list_present
  have answers : Answers world.workspace system list (refusals before system list check)
      ((register system list check).exec world.workspace) :=
    register_answers system_sound list_sound sound.holds sound.marked check
  rw [ran] at answers
  have feeds_iff {gradient : View} (valid : gradient.data.Valid) :=
    bridge_iff system_sound list_sound sound.holds placed valid
  have registered := answers.done rfl
  refine ⟨registered, fun gradient valid => ⟨feeds_iff valid, fun outcomes => bridge_gives,
    Flat.rule_eq system_sound list_sound sound.holds valid⟩, ?_, ?_⟩
  · rintro rfl gradient valid count held
    have consistent : Consistent before system list :=
      objections_eq_nil.mp (firstOf_ok_iff.mp answers.result_eq.symm)
    exact (feeds_iff valid).mpr (consistent.feeds list_sound sound.holds count held)
  · intro tracked later steps
    rw [Registered, if_pos tracked] at registered
    have step := register_within system_sound list_sound check
    have moved := step.moved
    rw [ran] at moved
    have later_sound : later.Sound := steps.sound (moved.steps.sound sound.tape)
    obtain ⟨stored, produced⟩ := registered.lasts steps
    exact ⟨stored, produced, fun gradient => ⟨registered.passOn steps gradient,
      fun fault failed => registered.stopped steps later_sound failed⟩⟩

namespace Paired

/-- A gradient for the distance vector of the pair. -/
def whole : View := ⟨⟨[1, 3, 1], .float64, .cpu, .floats [.one, .zero, .zero]⟩, .ofTensor 8⟩

/-- A gradient that is too short for a distance vector. -/
def short : View := ⟨⟨[2], .float64, .cpu, .floats [.one, .zero]⟩, .ofTensor 8⟩

private theorem registers : ∃ after, (register system list true).exec assembled.workspace =
    (.ok (), after) := by
  have sound := assembled_reachable.sound
  have answers := register_answers (sound.systems system (List.mem_singleton_self _))
    (sound.blocks list (List.mem_singleton_self _)) sound.holds sound.marked true
  rw [show refusals assembled.workspace.tape system list true = [] by decide +kernel] at answers
  cases ran : (register system list true).exec assembled.workspace with
  | mk result after =>
      rw [ran] at answers
      cases answers
      exact ⟨after, rfl⟩

/-- The rule of a list with one pair takes a gradient with three entries, and stops at a shorter
one. -/
theorem upstream_gradient_paired : assembled.Reachable ∧ system ∈ assembled.systems ∧
    system.device ≠ .metadata ∧ list ∈ assembled.blocks ∧
    ∃ after, (register system list true).exec assembled.workspace = (.ok (), after) ∧
      (∃ outcomes, bridge.rule (linkNode assembled.workspace.tape system list).context whole =
        .ok outcomes) ∧
      ∃ fault, Stopped after.tape list assembled.workspace.tape.nodes.size short fault := by
  have present : system ∈ assembled.systems := List.mem_singleton_self _
  have list_present : list ∈ assembled.blocks := List.mem_singleton_self _
  have placed : system.device ≠ .metadata := by decide
  obtain ⟨after, ran⟩ := registers
  obtain ⟨_, ruled, agreeing, tracked⟩ :=
    assembled_reachable.upstream_gradient present placed list_present ran
  have gives := agreeing rfl whole (.floats rfl (by decide) rfl fun _ _ => rfl) rfl (by decide)
  obtain ⟨_, _, ends⟩ := tracked (.inl rfl) after.tape .refl
  exact ⟨assembled_reachable, present, placed, list_present, after, ran, gives,
    _, (ends short).2 _ rfl⟩

end Paired

end World

end Atomistic
