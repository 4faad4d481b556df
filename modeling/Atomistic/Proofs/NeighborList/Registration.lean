import Atomistic.Proofs.NeighborList.Consistency
import Atomistic.Proofs.World

/-!
# What a registration does

A registration fails with the first objection to the list, and then it leaves the workspace
as it was.  When it succeeds, a node is attached to the values of the list if the positions
or the cell require gradients, and nothing else about any tensor changes
(`Atomistic.World.Reachable.register_outcome`).
-/

namespace Atomistic

open Run

namespace NeighborList

/-- The node that a registration makes. -/
def linkNode (tape : Tape) (system : System) (list : Block) : Node where
  name := bridgeName
  context :=
    { saved := [system.positions.toView, system.cell.toView, list.values.toView,
        list.samples.values.toView]
      needs := [(tape.state system.positions.number).requiresGrad,
        (tape.state system.cell.number).requiresGrad] }
  rule := bridge.rule
  edges := [tape.edgeTo system.positions, tape.edgeTo system.cell]

/-- The values of a list, which were outside of any graph, have become the output of a new
node.  All other tensors are as they were, also those in the same buffer. -/
structure Linked (before after : Tape) (system : System) (list : Block) : Prop where
  fresh : (before.state list.values.number).requiresGrad = false
  linked : after.state list.values.number =
    { before.state list.values.number with
      requiresGrad := true, gradFn := some before.nodes.size }
  others : ∀ number, number ≠ list.values.number → after.state number = before.state number
  nodes : after.nodes = before.nodes.push (linkNode before system list)
  tensors : after.tensors = before.tensors
  sweeps : after.sweeps = before.sweeps

/-- What a registration that succeeds does to a tape: nothing if neither the positions nor
the cell require gradients. -/
def Registered (before after : Tape) (system : System) (list : Block) : Prop :=
  if (before.state system.positions.number).requiresGrad ∨
      (before.state system.cell.number).requiresGrad then Linked before after system list
  else after = before

/-- What can be objected to a registration, with the list looked at or not. -/
def refusals (tape : Tape) (system : System) (list : Block) (check : Bool) : List Error :=
  faultIf (tape.state list.values.number).requiresGrad .alreadyInGraph ++
    if check then layoutObjections system list ++ pairObjections system list else []

/-- What a registration comes to when some things can be objected to it: it fails with the
first of them and nothing has changed, or it succeeds. -/
inductive Answers (workspace : Workspace) (system : System) (list : Block) :
    List Error → Except Error Unit × Workspace → Prop
  | refused {fault : Error} {rest : List Error} :
      Answers workspace system list (fault :: rest) (.error fault, workspace)
  | registered {after : Workspace} (done : Registered workspace.tape after.tape system list) :
      Answers workspace system list [] (.ok (), after)

variable {workspace : Workspace} {system : System} {list : Block}

/-- A tensor outside of any graph can be attached. -/
theorem attach_linkNode (marked : workspace.tape.Marked)
    (fresh : (workspace.tape.state list.values.number).requiresGrad = false) :
    ∃ tape, workspace.tape.attach list.values (linkNode workspace.tape system list) = .ok tape ∧
      Linked workspace.tape tape system list := by
  have leaf : (workspace.tape.state list.values.number).gradFn = none := by
    cases produced : (workspace.tape.state list.values.number).gradFn with
    | none => rfl
    | some node =>
        have tracked := marked.produced _ node produced
        rw [fresh] at tracked
        cases tracked
  rw [Tape.attach, fresh, leaf]
  refine ⟨_, rfl, fresh, ?_, fun number other => ?_, rfl, rfl, rfl⟩
  · rw [Tape.state_setState, if_pos rfl]
  · rw [Tape.state_setState, if_neg other]
    rfl

/-- The tensors that a registration gives to the graph. -/
def forwardOf (system : System) (list : Block) : Forward where
  output := list.values
  saved := [system.positions, system.cell, list.values, list.samples.values]

/-- The last part of a registration always succeeds. -/
theorem apply_bridge (marked : workspace.tape.Marked)
    (fresh : (workspace.tape.state list.values.number).requiresGrad = false)
    {forward : Session Error Forward} {middle : Workspace}
    (ran : forward.exec workspace = (.ok (forwardOf system list), middle))
    (same : middle.tape = workspace.tape) :
    ∃ after, (bridge.apply Error.tensor [system.positions, system.cell] forward).exec workspace =
        (.ok list.values, after) ∧ Registered workspace.tape after.tape system list := by
  by_cases tracked : (workspace.tape.state system.positions.number).requiresGrad ∨
      (workspace.tape.state system.cell.number).requiresGrad
  · obtain ⟨tape, attached, linked⟩ := @attach_linkNode _ system list marked fresh
    have needed : [system.positions, system.cell].any fun input =>
        (workspace.tape.state input.number).requiresGrad := by simpa using tracked
    have recorded : middle.tape.attach list.values (bridge.node middle.tape
        [system.positions, system.cell] ([system.positions, system.cell].map fun input =>
          (workspace.tape.state input.number).requiresGrad) (forwardOf system list)) =
        .ok tape := by
      rw [same]
      exact attached
    obtain ⟨after, applied, ends⟩ := exec_apply_tracked ran needed recorded
    refine ⟨after, applied, ?_⟩
    rw [Registered, if_pos tracked, ends]
    exact linked
  · have unneeded : ¬ [system.positions, system.cell].any fun input =>
        (workspace.tape.state input.number).requiresGrad := by simpa using tracked
    refine ⟨middle, exec_apply_untracked ran unneeded, ?_⟩
    rw [Registered, if_neg tracked]
    exact same

/-- The forward half of a registration that looks at the pairs. -/
def checkedForward (system : System) (list : Block) : Session Error Forward := do
  let pairs ← Session.ofExcept (checkPairs system.positions.data system.cell.data list)
  Session.note .trace "mlsys_system::neighbors"
    (toString pairs ++ " neighbor pairs are consistent with the system")
  return forwardOf system list

private theorem apply_checkedForward (marked : workspace.tape.Marked)
    (fresh : (workspace.tape.state list.values.number).requiresGrad = false)
    (pairs : checkPairs system.positions.data system.cell.data list =
      (firstOf (pairObjections system list) >>= fun _ => .ok list.samples.count)) :
    Answers workspace system list (pairObjections system list)
      (Session.exec (do
        let _ ← bridge.apply Error.tensor [system.positions, system.cell]
          (checkedForward system list)
        return ()) workspace) := by
  have looked : (checkedForward system list).exec workspace =
      match checkPairs system.positions.data system.cell.data list with
      | .ok count => (.ok (forwardOf system list), { workspace with
          journal := workspace.journal ++ [⟨.trace, "mlsys_system::neighbors",
            toString count ++ " neighbor pairs are consistent with the system"⟩] })
      | .error fault => (.error fault, workspace) := by
    rw [checkedForward, Session.exec_bind, Session.exec_ofExcept]
    cases checkPairs system.positions.data system.cell.data list <;> rfl
  rw [pairs] at looked
  rw [Session.exec_bind]
  cases found : pairObjections system list with
  | cons fault rest =>
      rw [found] at looked
      rw [exec_apply_error looked]
      exact .refused
  | nil =>
      rw [found] at looked
      obtain ⟨after, applied, done⟩ := apply_bridge marked fresh looked rfl
      rw [applied]
      exact .registered done

/-- **A registration answers to the objections.** -/
theorem register_answers (sound : system.Sound workspace.tape)
    (list_sound : list.Sound workspace.tape) (holds : workspace.tape.Holds Dense.Valid)
    (marked : workspace.tape.Marked) (check : Bool) :
    Answers workspace system list (refusals workspace.tape system list check)
      ((register system list check).exec workspace) := by
  rw [register, Session.exec_bind, Session.exec_requiresGrad, refusals, faultIf]
  dsimp only
  by_cases tracked : (workspace.tape.state list.values.number).requiresGrad
  · rw [if_pos tracked, if_pos tracked, Session.exec_bind, Session.exec_throw]
    exact .refused
  · have fresh : (workspace.tape.state list.values.number).requiresGrad = false := by
      simpa using tracked
    rw [if_neg tracked, if_neg tracked, List.nil_append]
    cases check with
    | false =>
        obtain ⟨after, applied, done⟩ := @apply_bridge _ system list marked fresh
          (pure (forwardOf system list)) workspace rfl rfl
        rw [forwardOf] at applied
        rw [if_neg Bool.false_ne_true, if_neg Bool.false_ne_true, Session.exec_bind,
          if_neg Bool.false_ne_true, applied]
        exact .registered done
    | true =>
        rw [if_pos rfl, if_pos rfl, Session.exec_bind, Session.exec_ofExcept, checkAgainst_eq]
        cases found : layoutObjections system list with
        | cons fault rest => exact .refused
        | nil =>
            obtain ⟨device, _, layout⟩ := layoutObjections_eq_nil.mp found
            exact apply_checkedForward marked fresh
              (checkPairs_eq sound list_sound holds device layout)

namespace Answers

variable {found : List Error} {result : Except Error Unit × Workspace}

/-- The answer is the first objection, if there is one. -/
theorem result_eq (answers : Answers workspace system list found result) :
    result.1 = firstOf found := by
  cases answers <;> rfl

private theorem unchanged (answers : Answers workspace system list found result) {fault : Error}
    (failed : result.1 = .error fault) : result.2 = workspace := by
  cases answers with
  | refused => rfl
  | registered => cases failed

/-- A list without objections is registered. -/
theorem done (answers : Answers workspace system list found result)
    (succeeded : result.1 = .ok ()) : Registered workspace.tape result.2.tape system list := by
  cases answers with
  | refused => cases succeeded
  | registered done => exact done

end Answers

end NeighborList

namespace World

open NeighborList

/-- **What a registration does.**  Without a check it fails exactly if the values of the list
require gradients already.  With a check it fails with the first objection to the list, and
succeeds exactly if the list agrees with the system.  A registration that fails changes
nothing, and one that succeeds changes nothing but the values of the list, and these only if
the positions or the cell require gradients. -/
theorem Reachable.register_outcome {world : World} (reachable : world.Reachable) {system : System}
    (present : system ∈ world.systems) {list : Block} (list_present : list ∈ world.blocks) :
    let tape := world.workspace.tape
    let run := fun check => (register system list check).exec world.workspace
    ((∃ fault, (run false).1 = .error fault) ↔ (tape.state list.values.number).requiresGrad) ∧
    ((run true).1 = .ok () ↔ Consistent tape system list) ∧
    (run true).1 = firstOf (objections tape system list) ∧
    (∀ columns values, (run true).1 ≠ .error (.pairData columns values)) ∧
    ∀ check, ((run check).1 = .ok () → Registered tape (run check).2.tape system list) ∧
      ∀ fault, (run check).1 = .error fault → (run check).2 = world.workspace := by
  intro tape run
  have sound := reachable.sound
  have list_sound := sound.blocks list list_present
  have answers (check : Bool) :
      Answers world.workspace system list (refusals tape system list check) (run check) :=
    register_answers (sound.systems system present) list_sound sound.holds sound.marked check
  have unchecked : (run false).1 =
      firstOf (faultIf (tape.state list.values.number).requiresGrad .alreadyInGraph) := by
    rw [(answers false).result_eq, refusals, if_neg Bool.false_ne_true, List.append_nil]
  have checked : (run true).1 = firstOf (objections tape system list) := (answers true).result_eq
  refine ⟨?_, ?_, checked, fun columns values => ?_, fun check =>
    ⟨(answers check).done, fun fault => (answers check).unchanged⟩⟩
  · rw [unchecked, faultIf]
    split <;> simp [firstOf, *]
  · rw [checked, firstOf_ok_iff, objections_eq_nil]
  · rw [checked]
    intro same
    have absent := @pairData_not_mem tape system list list_sound sound.holds columns values
    exact absent (mem_of_firstOf same)

namespace Paired

/-- The data of one atom in a cubic cell with edges of length one, and of its pair with its
next image. -/
def contents : List Dense :=
  [ ⟨[1], .int32, .cpu, .integers [1]⟩,
    ⟨[1, 3], .float64, .cpu, .floats [.one, .zero, .zero]⟩,
    ⟨[3, 3], .float64, .cpu,
      .floats [.one, .zero, .zero, .zero, .one, .zero, .zero, .zero, .one]⟩,
    ⟨[3], .bool, .cpu, .integers [1, 1, 1]⟩,
    ⟨[1, 5], .int32, .cpu, .integers [0, 0, 1, 0, 0]⟩,
    ⟨[1, 3, 1], .float64, .cpu, .floats [.one, .zero, .zero]⟩,
    Labels.column .cpu [0, 1, 2],
    Labels.column .cpu [0] ]

/-- The tensor that is made of the data in some place. -/
def tensor (number : Nat) : Tensor :=
  ⟨⟨contents.getD number (.onMeta [] .bool), .ofTensor number⟩, number⟩

/-- The atom in its cell. -/
def system : System := ⟨tensor 0, tensor 1, tensor 2, tensor 3, [], []⟩

/-- The pair of the atom with its image. -/
def list : Block :=
  ⟨tensor 5, ⟨sampleNames, tensor 4⟩, [⟨["xyz"], tensor 6⟩], ⟨["distance"], tensor 7⟩, []⟩

/-- Only tensors, of which the positions require gradients. -/
def made : World where
  workspace :=
    (((tensor 1).setRequiresGrad true).exec ((contents.take 6).foldl (fun workspace data =>
      ((Session.create data : Session TensorError Tensor).exec workspace).2) {})).2

/-- The atom as a system. -/
def created : World :=
  made.keep (System.create (tensor 0) (tensor 1) (tensor 2) (tensor 3)) fun made after =>
    { after with systems := made :: after.systems }

/-- The system, and the pair as a list. -/
def assembled : World :=
  created.keep (assemble (tensor 4) (tensor 5)) fun made after =>
    { after with blocks := made :: after.blocks }

private theorem made_run : Run Dense.Valid {} made.workspace := by
  have valid : ∀ each ∈ contents.take 6, each.Valid := by
    simp only [contents, List.take, List.forall_mem_cons]
    exact ⟨.integers rfl (by decide) rfl (by decide), .floats rfl (by decide) rfl fun _ _ => rfl,
      .floats rfl (by decide) rfl fun _ _ => rfl, .integers rfl (by decide) rfl (by decide),
      .integers rfl (by decide) rfl (by decide), .floats rfl (by decide) rfl fun _ _ => rfl,
      List.forall_mem_nil _⟩
  have known : ((contents.take 6).foldl (fun workspace data =>
      ((Session.create data : Session TensorError Tensor).exec workspace).2) {}).tape.Knows
        (tensor 1) := rfl
  exact .trans (.creates (contents.take 6) {} valid) (.setRequiresGrad known true)

/-- A program can make what the example holds. -/
theorem assembled_reachable : assembled.Reachable := by
  have tensors : ∀ part ∈ [tensor 0, tensor 1, tensor 2, tensor 3],
      made.workspace.tape.Knows part := by
    simp only [List.forall_mem_cons]
    exact ⟨rfl, rfl, rfl, rfl, List.forall_mem_nil _⟩
  have first : Reachable made := .single (.run made_run)
  have second : Reachable created := .tail first (.system (.create tensors))
  exact .tail second (.block (.assemble rfl rfl))

/-- A list with one pair is consistent with its system and is registered. -/
theorem register_outcome_paired : assembled.Reachable ∧ system ∈ assembled.systems ∧
    list ∈ assembled.blocks ∧ Consistent assembled.workspace.tape system list ∧
    ∃ after, (register system list true).exec assembled.workspace = (.ok (), after) ∧
      Linked assembled.workspace.tape after.tape system list := by
  have systems : assembled.systems = [system] := rfl
  have blocks : assembled.blocks = [list] := rfl
  have present : system ∈ assembled.systems := by
    rw [systems]
    exact List.mem_singleton_self _
  have list_present : list ∈ assembled.blocks := by
    rw [blocks]
    exact List.mem_singleton_self _
  have outcome := assembled_reachable.register_outcome present list_present
  dsimp only at outcome
  obtain ⟨_, succeeds, _, _, frame⟩ := outcome
  have consistent : Consistent assembled.workspace.tape system list :=
    objections_eq_nil.mp (by decide +kernel)
  have succeeded := succeeds.mpr consistent
  have registered := (frame true).1 succeeded
  rw [Registered, if_pos (.inl rfl)] at registered
  rcases ran : (register system list true).exec assembled.workspace with ⟨result, after⟩
  rw [ran] at succeeded registered
  rw [show result = .ok () from succeeded]
  exact ⟨assembled_reachable, present, list_present, consistent, after, rfl, registered⟩

end Paired

end World

end Atomistic
