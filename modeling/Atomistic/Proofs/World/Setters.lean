import Atomistic.Proofs.System.Setters
import Atomistic.Proofs.World.Lists

/-!
# Setters and the constructor

The setters of a system at hand accept the tensors that the constructor accepts next to the
other tensors of the system (`Atomistic.World.Reachable.set_iff_rebuild`).
-/

namespace Atomistic

namespace World

variable {world : World}

/-- **Setters and the constructor accept the same systems.**  A tensor can be set in a field
of a system at hand exactly if a system can be constructed of the four tensors with that one
in the field, and for another field than the periodicity with all three directions periodic.
Both succeed or fail whatever happens in between.  When both succeed they store equal data,
the types cast to `int32`, and in the same workspace the same tensor; nothing else about the
system changes. -/
theorem Reachable.set_iff_rebuild (reachable : world.Reachable) {system : System}
    (present : system ∈ world.systems) {tensor : Tensor} (known : world.workspace.tape.Knows tensor)
    (field : Field) {periodic : Tensor} (all : periodic.data = System.everywhere system.device)
    (here there : Workspace) :
    ((∃ changed after, (system.set field tensor).exec here = (.ok changed, after)) ↔
      ∃ made after, (system.revised field tensor periodic).rebuild.exec there = (.ok made, after)) ∧
    ∀ changed after made other, (system.set field tensor).exec here = (.ok changed, after) →
      (system.revised field tensor periodic).rebuild.exec there = (.ok made, other) →
      system.Matches changed made field tensor ∧
        (here = there → changed.get field = made.get field ∧ after = other) :=
  (reachable.sound.systems system present).set_agrees reachable.sound.holds known all field here
    there

namespace Alone

/-- The types of the atoms as `int64`. -/
def wideType : Tensor := ⟨⟨⟨[2], .int64, .cpu, .integers [7, 6]⟩, .ofTensor 8⟩, 8⟩

/-- The system is at hand with other types for it. -/
def retyped : World :=
  { attached with
    workspace := ((Session.create wideType.data : Session TensorError Tensor).exec
      attached.workspace).2 }

/-- A periodicity along all directions. -/
def periodic : Tensor := ⟨⟨System.everywhere .cpu, .ofTensor 9⟩, 9⟩

/-- Types of another integral type can be set, and are stored as `int32`. -/
theorem set_iff_rebuild_wide : retyped.Reachable ∧ listed ∈ retyped.systems ∧
    retyped.workspace.tape.Knows wideType ∧ periodic.data = System.everywhere listed.device ∧
    ∃ changed after made other,
      (listed.set .types wideType).exec retyped.workspace = (.ok changed, after) ∧
      (listed.revised .types wideType periodic).rebuild.exec after = (.ok made, other) ∧
      listed.Matches changed made .types wideType ∧ changed.types.dtype = .int32 := by
  have valid : wideType.data.Valid := .integers rfl nofun rfl (by decide)
  have reachable : retyped.Reachable :=
    .tail attached_reachable (.run (.create attached.workspace valid))
  have present : listed ∈ retyped.systems := by
    rw [show retyped.systems = [listed, system] from rfl]
    exact List.mem_cons_self
  have known : retyped.workspace.tape.Knows wideType := rfl
  have set : ∃ changed after, (listed.set .types wideType).exec retyped.workspace =
      (.ok changed, after) ∧ changed.types.dtype = .int32 := ⟨_, _, rfl, rfl⟩
  obtain ⟨changed, after, ran, dtype⟩ := set
  obtain ⟨accepts, agree⟩ := reachable.set_iff_rebuild present known .types
    (rfl : periodic.data = System.everywhere listed.device) retyped.workspace after
  obtain ⟨made, other, rebuilt⟩ := accepts.mp ⟨changed, after, ran⟩
  exact ⟨reachable, present, known, rfl, changed, after, made, other, ran, rebuilt,
    (agree changed after made other ran rebuilt).1, dtype⟩

end Alone

end World

end Atomistic
