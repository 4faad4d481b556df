import Atomistic.NeighborList.Bridge
import Atomistic.Proofs.System.Sound

/-!
# Registrations are runs

The backward rule of a neighbor list makes valid data of valid data
(`Atomistic.NeighborList.bridge_lawful`), so a registration keeps to valid data and to the
steps of a tape like every other operation (`Atomistic.NeighborList.register_within`).
-/

namespace Atomistic

open Run

namespace NeighborList

variable {data samples gradient : Dense} {outcome : Outcome}

private theorem valuesLike_valid {values : List (Vec3 Binary64)}
    (made : valuesLike data values = .ok outcome) : outcome.data.Valid := by
  obtain ⟨raw, built, made⟩ := ok_of_bind made
  obtain ⟨moved, converted, same⟩ := ok_of_bind made
  rw [← Except.ok.inj same]
  exact (Dense.ofFloats_valid built).convert converted

private theorem onMeta_valid (valid : data.Valid) : (Dense.onMeta data.shape data.dtype).Valid := by
  obtain ⟨_, counted⟩ := valid.counted
  exact .absent counted

private theorem positionsBackward_valid (valid : data.Valid)
    (made : positionsBackward data samples gradient = .ok outcome) : outcome.data.Valid := by
  rw [positionsBackward] at made
  split at made
  · cases made
    exact onMeta_valid valid
  · obtain ⟨pairs, _, made⟩ := ok_of_bind made
    obtain ⟨table, _, made⟩ := ok_of_bind made
    exact valuesLike_valid made

private theorem cellBackward_valid (valid : data.Valid)
    (made : cellBackward data samples gradient = .ok outcome) : outcome.data.Valid := by
  rw [cellBackward] at made
  split at made
  · cases made
    exact onMeta_valid valid
  · obtain ⟨pairs, _, made⟩ := ok_of_bind made
    exact valuesLike_valid made

/-- A gradient that is made if it is needed. -/
def onNeed (need : Bool) (made : Except TensorError Outcome) :
    Except TensorError (Option Outcome) :=
  if need then some <$> made else .ok none

/-- A gradient is made exactly if it is needed. -/
theorem onNeed_gives {need : Bool} {made : Except TensorError Outcome} {given : Option Outcome}
    (gave : onNeed need made = .ok given) :
    (given.isSome ↔ need) ∧ ∀ outcome ∈ given, made = .ok outcome := by
  cases need with
  | false =>
      cases gave
      exact ⟨Iff.rfl, fun _ impossible => nomatch impossible⟩
  | true =>
      cases made with
      | error fault => cases gave
      | ok outcome =>
          cases gave
          exact ⟨iff_of_true rfl rfl, fun other same => congrArg Except.ok (Option.some.inj same)⟩

/-- The rule for the tensors that a registration keeps. -/
theorem bridge_rule (needs : List Bool) (positions cell distances samples gradient : View) :
    bridge.rule ⟨[positions, cell, distances, samples], needs⟩ gradient = (do
      let forPositions ← onNeed (needs.getD 0 false)
        (positionsBackward positions.data samples.data gradient.data)
      let forCell ← onNeed (needs.getD 1 false)
        (cellBackward cell.data samples.data gradient.data)
      return [forPositions, forCell]) := by
  simp only [bridge, Context.needsGrad, onNeed]
  by_cases first : needs.getD 0 false <;> by_cases second : needs.getD 1 false <;>
    simp only [first, second, ↓reduceIte, Bool.false_eq_true] <;> rfl

private theorem bridge_lawful : bridge.Lawful Dense.Valid := by
  rintro ⟨kept, needs⟩ gradient outcomes saved _ ruled outcome member
  match kept with
  | [positions, cell, distances, samples] =>
      have known (view : View) (present : view ∈ [positions, cell, distances, samples]) :
          view.data.Valid := saved view present
      rw [bridge_rule] at ruled
      obtain ⟨forPositions, positions_gave, ruled⟩ := ok_of_bind ruled
      obtain ⟨forCell, cell_gave, ruled⟩ := ok_of_bind ruled
      cases ruled
      rcases List.mem_cons.mp member with same | later
      · exact positionsBackward_valid (known positions (by simp))
          ((onNeed_gives positions_gave).2 outcome same.symm)
      · have same := List.mem_singleton.mp later
        exact cellBackward_valid (known cell (by simp))
          ((onNeed_gives cell_gave).2 outcome same.symm)
  | [] | [_] | [_, _] | [_, _, _] | _ :: _ :: _ :: _ :: _ :: _ =>
      cases ruled
      cases member

variable {workspace : Workspace}

/-- A registration keeps to valid data. -/
theorem register_within {system : System} {list : Block} (sound : system.Sound workspace.tape)
    (list_sound : list.Sound workspace.tape) (check : Bool) :
    (register system list check).Within (Extends Dense.Valid) workspace fun _ _ => True := by
  have parts : ∀ tensor ∈ [list.values, system.positions, system.cell, list.values,
      list.samples.values], workspace.tape.Knows tensor := by
    have samples_known := list_sound.samples.1.known
    cases list_sound with
    | mk known _ _ _ _ _ =>
        simp only [List.forall_mem_cons]
        exact ⟨known, sound.known .positions, sound.known .cell, known, samples_known,
          List.forall_mem_nil _⟩
  have forward {middle : Workspace} (moved : Extends Dense.Valid workspace middle) :
      (pure ⟨list.values, [system.positions, system.cell, list.values, list.samples.values]⟩ :
        Session Error Forward).Within (Extends Dense.Valid) middle fun made after =>
          (∀ tensor ∈ made.output :: made.saved, after.tape.Knows tensor) ∧ True :=
    .of_exec rfl (.refl _) fun made same => by
      rw [← Except.ok.inj same]
      exact ⟨fun tensor member => moved.knows (parts tensor member), trivial⟩
  have inputs : ∀ input ∈ [system.positions, system.cell], workspace.tape.Knows input := by
    simp only [List.forall_mem_cons]
    exact ⟨sound.known .positions, sound.known .cell, List.forall_mem_nil _⟩
  have last {middle : Workspace} (output : Tensor) :
      (pure () : Session Error Unit).Within (Extends Dense.Valid) middle fun _ _ => True :=
    .of_exec rfl (.refl _) fun _ _ => trivial
  rw [register]
  apply (tracked_within list.values).bind
  intro flag one _ same
  subst same
  refine .check (Extends.refl _) fun _ => ?_
  cases check with
  | false =>
      have applied := @apply_within _ Error one _ bridge_lawful Error.tensor _ _ inputs
        (fun _ => True) (forward (Extends.refl one))
      exact applied.bind fun output _ _ _ => last output
  | true =>
      apply (ofExcept_within _).bind
      rintro _ two _ ⟨_, rfl⟩
      refine (@apply_within _ Error two _ bridge_lawful Error.tensor _ _ inputs
        (fun _ => True) ?_).bind fun output _ _ _ => last output
      apply (ofExcept_within _).bind
      rintro pairs three _ ⟨_, rfl⟩
      exact (System.note_within _ _ _).bind fun _ _ moved _ => forward moved

end NeighborList

end Atomistic
