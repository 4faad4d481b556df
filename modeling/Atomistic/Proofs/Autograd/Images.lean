import Atomistic.Proofs.Autograd.Survey

/-!
# Images of sweeps

A reading of gradients takes one graph to another if the two have the same edges, and if rules,
meetings and leaves of the second do with what is read what those of the first do.  It then
takes every sweep of the first graph to the sweep of the second, also when a rule fails
(`Atomistic.Graph.Image.sweep`): what a sweep does with gradients does not depend on what can
not be read.
-/

namespace Atomistic

namespace Table

variable {α β : Type}

/-- The table with every value read. -/
def map (read : α → β) (table : Table α) : Table β :=
  ⟨table.entries.map fun entry => (entry.1, read entry.2)⟩

private theorem get?_map (read : α → β) (table : Table α) (number : Nat) :
    (table.map read).get? number = (table.get? number).map read := by
  obtain ⟨entries⟩ := table
  simp only [get?, map]
  induction entries with
  | nil => rfl
  | cons entry rest ih =>
      rw [List.map_cons, List.lookup_cons, List.lookup_cons]
      cases number == entry.1 with
      | true => rfl
      | false => exact ih

private theorem map_erase (read : α → β) (table : Table α) (number : Nat) :
    (table.erase number).map read = (table.map read).erase number := by
  simp only [erase, map, List.filter_map]
  rfl

private theorem map_set (read : α → β) (table : Table α) (number : Nat) (value : α) :
    (table.set number value).map read = (table.map read).set number (read value) := by
  have erased := congrArg entries (table.map_erase read number)
  exact congrArg (fun entries => Table.mk ((number, read value) :: entries)) erased

end Table

variable {Gradient Reading Leaf Fault α β γ δ : Type} {read : Gradient → Reading}

namespace Sweep

/-- A sweep as far as its gradients can be read. -/
def map (read : Gradient → Reading) (sweep : Sweep Gradient Leaf) : Sweep Reading Leaf where
  ready := sweep.ready
  pending := sweep.pending.map read
  dependencies := sweep.dependencies
  visited := sweep.visited
  delivered := sweep.delivered.map fun entry => (entry.1, read entry.2)

/-- The result of a part of a sweep, as far as it can be read. -/
def Result.map (read : Gradient → Reading) (value : α → β) :
    Result Gradient Leaf Fault α → Result Reading Leaf Fault β
  | .ok result => .ok (value result)
  | .error (fault, sweep) => .error (fault, sweep.map read)

private theorem Result.map_bind {value : α → β} {last : γ → δ}
    (result : Result Gradient Leaf Fault α)
    {next : α → Result Gradient Leaf Fault γ} {image : β → Result Reading Leaf Fault δ}
    (rest : ∀ made, (next made).map read last = image (value made)) :
    (result >>= next).map read last = result.map read value >>= image := by
  cases result with
  | error _ => rfl
  | ok made => exact rest made

private theorem map_attempt (sweep : Sweep Gradient Leaf) (value : α → β)
    (result : Except Fault α) :
    (sweep.attempt result).map read value = (sweep.map read).attempt (result.map value) := by
  cases result <;> rfl

private theorem map_arrive (sweep : Sweep Gradient Leaf) (node : Nat) :
    (sweep.arrive node).map read = (sweep.map read).arrive node := by
  simp only [arrive, map]
  cases sweep.dependencies.get? node <;> rfl

end Sweep

/-- A reading of gradients that takes one graph to another. -/
structure Graph.Image (read : Gradient → Reading) (graph : Graph Gradient Leaf Fault)
    (image : Graph Reading Leaf Fault) : Prop where
  edges : ∀ node, image.edges node = graph.edges node
  rule : ∀ node gradient, (graph.rule node gradient).map (List.map (Option.map read)) =
    image.rule node (read gradient)
  meet : ∀ node old new, (graph.meet node old new).map read =
    image.meet node (read old) (read new)
  accept : ∀ leaf gradient, (graph.accept leaf gradient).map read =
    image.accept leaf (read gradient)
  miscount : ∀ node expected actual,
    image.miscount node expected actual = graph.miscount node expected actual

namespace Graph

open Sweep

variable {graph : Graph Gradient Leaf Fault} {image : Graph Reading Leaf Fault}

private theorem Image.targets (reads : graph.Image read image) (node : Nat) :
    image.targets node = graph.targets node := by
  rw [Graph.targets, Graph.targets, reads.edges]

private theorem Image.explore (reads : graph.Image read image) (fuel : Nat) :
    ∀ survey, image.explore fuel survey = graph.explore fuel survey := by
  induction fuel with
  | zero => exact fun _ => rfl
  | succ fuel ih =>
      intro survey
      rw [Graph.explore, Graph.explore]
      cases survey.stack with
      | nil => rfl
      | cons node rest =>
          dsimp only
          rw [ih, reads.targets]

private theorem Image.survey (reads : graph.Image read image) (root : Nat) :
    image.survey root = graph.survey root := reads.explore _ _

private theorem Image.gather (reads : graph.Image read image) (sweep : Sweep Gradient Leaf)
    (node : Nat)
    (gradient : Gradient) : (graph.gather sweep node gradient).map read (Sweep.map read) =
      image.gather (sweep.map read) node (read gradient) := by
  have stored (total : Gradient) :
      ({ sweep with pending := sweep.pending.set node total } : Sweep Gradient Leaf).map read =
        { sweep.map read with pending := (sweep.map read).pending.set node (read total) } := by
    rw [Sweep.map, Table.map_set]
    rfl
  have waiting : (sweep.map read).pending.get? node = (sweep.pending.get? node).map read :=
    Table.get?_map read sweep.pending node
  rw [Graph.gather, Graph.gather, waiting]
  cases sweep.pending.get? node with
  | none => exact congrArg Except.ok (stored gradient)
  | some old =>
      dsimp only [Option.map_some]
      rw [← reads.meet, ← map_attempt]
      exact Result.map_bind _ fun total => congrArg Except.ok (stored total)

private theorem Image.follow (reads : graph.Image read image) (sweep : Sweep Gradient Leaf)
    (edge : Edge Leaf) (gradient : Option Gradient) :
    (graph.follow sweep edge gradient).map read (Sweep.map read) =
      image.follow (sweep.map read) edge (gradient.map read) := by
  cases edge with
  | untracked => rfl
  | leaf leaf =>
      cases gradient with
      | none => rfl
      | some gradient =>
          rw [Graph.follow, Option.map_some, Graph.follow, ← reads.accept, ← map_attempt]
          refine Result.map_bind _ fun accepted => congrArg Except.ok ?_
          simp only [Sweep.map, List.map_append, List.map_cons, List.map_nil]
  | node target =>
      cases gradient with
      | none => exact congrArg Except.ok (sweep.map_arrive target)
      | some gradient =>
          rw [Graph.follow, Option.map_some, Graph.follow, ← reads.gather]
          exact Result.map_bind _ fun after => congrArg Except.ok (after.map_arrive target)

private theorem Image.followAll (reads : graph.Image read image) (edges : List (Edge Leaf)) :
    ∀ (gradients : List (Option Gradient)) (sweep : Sweep Gradient Leaf),
      (graph.followAll edges gradients sweep).map read (Sweep.map read) =
        image.followAll edges (gradients.map (Option.map read)) (sweep.map read) := by
  induction edges with
  | nil => exact fun _ _ => rfl
  | cons edge rest ih =>
      intro gradients sweep
      have head : (gradients.map (Option.map read)).head?.join = gradients.head?.join.map read := by
        cases gradients <;> rfl
      rw [Graph.followAll, Graph.followAll, head, ← reads.follow, ← List.map_tail]
      exact Result.map_bind _ fun after => ih gradients.tail after

private theorem Image.passOn (reads : graph.Image read image) (node : Nat)
    (gradient : Option Gradient) :
    (graph.passOn node gradient).map (List.map (Option.map read)) =
      image.passOn node (gradient.map read) := by
  cases gradient with
  | none => rfl
  | some gradient =>
      rw [Graph.passOn, Option.map_some, Graph.passOn, ← reads.rule]
      cases graph.rule node gradient with
      | error fault => rfl
      | ok gradients =>
          have complained : gradients.map (Option.map read) ≠ [] ∧
              (gradients.map (Option.map read)).length ≠ (image.edges node).length ↔
              gradients ≠ [] ∧ gradients.length ≠ (graph.edges node).length := by
            rw [ne_eq, List.map_eq_nil_iff, List.length_map, reads.edges]
          simp only [bind, Except.bind, Except.map]
          by_cases mismatch : gradients ≠ [] ∧ gradients.length ≠ (graph.edges node).length
          · rw [if_pos mismatch, if_pos (complained.mpr mismatch), List.length_map, reads.edges,
              reads.miscount]
            rfl
          · rw [if_neg mismatch, if_neg (complained.not.mpr mismatch)]
            rfl

private theorem Image.visit (reads : graph.Image read image) (sweep : Sweep Gradient Leaf)
    (node : Nat) :
    (graph.visit sweep node).map read (Sweep.map read) = image.visit (sweep.map read) node := by
  have waiting : (sweep.map read).pending.get? node = (sweep.pending.get? node).map read :=
    Table.get?_map read sweep.pending node
  have entered : ({ sweep with
      pending := sweep.pending.erase node
      visited := sweep.visited ++ [node] } : Sweep Gradient Leaf).map read =
      { sweep.map read with
        pending := (sweep.map read).pending.erase node
        visited := (sweep.map read).visited ++ [node] } := by
    rw [Sweep.map, Table.map_erase]
    rfl
  rw [Graph.visit, Graph.visit, waiting, ← reads.passOn, ← entered, ← map_attempt, reads.edges]
  exact Result.map_bind _ fun gradients => reads.followAll _ gradients _

private theorem Image.drain (reads : graph.Image read image) (fuel : Nat) :
    ∀ sweep : Sweep Gradient Leaf, (graph.drain fuel sweep).map read (Sweep.map read) =
      image.drain fuel (sweep.map read) := by
  induction fuel with
  | zero => exact fun _ => rfl
  | succ fuel ih =>
      intro sweep
      have ready : (sweep.map read).ready = sweep.ready := rfl
      rw [Graph.drain, Graph.drain, ready]
      cases sweep.ready with
      | nil => rfl
      | cons node rest =>
          dsimp only
          rw [show { sweep.map read with ready := rest } =
            ({ sweep with ready := rest } : Sweep Gradient Leaf).map read from rfl, ← reads.visit]
          exact Result.map_bind _ ih

/-- **A reading takes sweeps to sweeps.** -/
theorem Image.sweep (reads : graph.Image read image) (root : Nat) (seed : Gradient) :
    image.sweep root (read seed) =
      ((graph.sweep root seed).1, (graph.sweep root seed).2.map read) := by
  have started : image.start root (read seed) = (graph.start root seed).map read := by
    rw [Graph.start, reads.survey]
    rfl
  rw [Graph.sweep, Graph.sweep, started, reads.survey, ← reads.drain]
  rcases graph.drain (graph.survey root).reached.length (graph.start root seed) with
    ⟨fault, stopped⟩ | after
  · rfl
  · rfl

end Graph

end Atomistic
