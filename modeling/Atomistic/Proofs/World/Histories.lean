import Atomistic.Proofs.Document.RoundTrip
import Atomistic.Proofs.System.Histories

/-!
# Systems over whole runs

A program constructs a system, holds it, and calls its setters and `add` operations while
everything else goes on.  Whatever the calls, and whether they succeed or fail, the system
that is held stays sound, no call changes how many atoms there are, a call that fails
changes nothing, and the cell vectors of directions that are not periodic are zero until
the cell itself is set (`Atomistic.Held.In.stays_sound`).
-/

namespace Atomistic

open Run

namespace World

/-- The world after a system is constructed. -/
def keepSystem (world : World) (session : Session Error System) : World :=
  world.keep session fun made after => { after with systems := made :: after.systems }

end World

/-- The worlds in which a system is held, with the calls since it was constructed.  While
it is held, any operations can take place. -/
inductive Held.In : Held → World → Prop
  | constructed {world : World} (reachable : world.Reachable) {session : Session Error System}
      (makes : world.MakesSystem session) {system : System} {after : Workspace}
      (ran : session.exec world.workspace = (.ok system, after)) :
      Held.In ⟨system, []⟩ (world.keepSystem session)
  | called {held : Held} {world : World} (older : held.In world) {change : System.Change}
      (offers : world.Offers change) :
      Held.In (held.call change world.workspace).1 (world.call held.system change)
  | meanwhile {held : Held} {world after : World} (older : held.In world)
      (step : World.Step world after) : Held.In held after

namespace World

variable {world : World} {session : Session Error System}

/-- Systems at hand stay at hand. -/
theorem Step.systems_subset {before after : World} (step : Step before after) :
    before.systems ⊆ after.systems := by
  have kept {α : Type} {session : Session Error α} {store : α → World → World}
      (stores : ∀ value world, world.systems ⊆ (store value world).systems) :
      before.systems ⊆ (before.keep session store).systems := by
    rw [keep]
    rcases session.exec before.workspace with ⟨_ | value, workspace⟩
    · exact List.Subset.refl _
    · exact stores value { before with workspace }
  cases step with
  | run => exact List.Subset.refl _
  | system => exact kept fun value world => List.subset_cons_self value world.systems
  | register | labels | block | options => exact kept fun _ _ => List.Subset.refl _
  | @addGradient block gradient _ _ parameter =>
      obtain ⟨left, same, _⟩ := addGradient_eq before block parameter gradient
      exact same ▸ List.Subset.refl _
  | @setLengthUnit options _ unit =>
      obtain ⟨left, same, _⟩ := setLengthUnit_eq before options unit
      exact same ▸ List.Subset.refl _
  | @call system _ change _ =>
      obtain ⟨left, after, same, _⟩ := call_eq before system change
      exact same ▸ List.subset_cons_self left _

/-- What was constructed is at hand. -/
theorem mem_keepSystem {system : System} {after : Workspace}
    (ran : session.exec world.workspace = (.ok system, after)) :
    system ∈ (world.keepSystem session).systems := by
  rw [keepSystem, keep, ran]
  exact List.mem_cons_self

/-- What a call left is at hand. -/
theorem mem_call (held : Held) (change : System.Change) :
    (held.call change world.workspace).1.system ∈ (world.call held.system change).systems := by
  rw [Held.call, call, World.change]
  rcases change.apply.exec held.system world.workspace with ⟨⟨_ | _, left⟩, after⟩
  all_goals exact List.mem_cons_self

end World

namespace Held

variable {held : Held} {world : World}

/-- What is held is at hand, in a world that operations lead to. -/
theorem In.present (held_in : held.In world) : world.Reachable ∧ held.system ∈ world.systems := by
  induction held_in with
  | constructed reachable makes ran =>
      exact ⟨.tail reachable (.system makes), World.mem_keepSystem ran⟩
  | @called held world older change offers ih =>
      exact ⟨.tail ih.1 (.call ih.2 offers), World.mem_call held change⟩
  | meanwhile older step ih => exact ⟨.tail ih.1 step, step.systems_subset ih.2⟩

/-- The cell agrees with the periodicity until it is set itself. -/
theorem In.agrees (held_in : held.In world) : System.Change.cellReplaced held.changes = false →
    System.checkCell held.system.cell.data held.system.pbc.data = .ok () := by
  induction held_in with
  | constructed reachable makes ran =>
      exact fun _ => ((makes.within reachable.sound).of_success ran).2.agrees
  | @called held world older change offers ih =>
      obtain ⟨reachable, present⟩ := older.present
      rw [call_eq]
      rcases ran : (change.made held.system).exec world.workspace with ⟨_ | made, after⟩
      · exact ih
      · exact ((offers.gives reachable.sound present).of_success ran).2.agrees held.changes ih
  | meanwhile older step ih => exact ih

/-- **A system that is held stays sound**, whatever is called and whatever happens
meanwhile.  No call changes the number of atoms, and a call that fails leaves the system, which
it was to change in place, and all tensors as they were.
Off the meta device the cell vectors of directions that are not periodic are zero unless
the cell was set since the system was constructed or its periodicity was set. -/
theorem In.stays_sound (held_in : held.In world) :
    held.system.Sound world.workspace.tape ∧
    (∀ change, world.Offers change →
      (held.call change world.workspace).1.system.size = held.system.size ∧
      ∀ fault left after,
        change.apply.exec held.system world.workspace = ((.error fault, left), after) →
          left = held.system ∧ held.call change world.workspace = (held, after) ∧
            after.tape = world.workspace.tape) ∧
    (held.system.device ≠ .metadata → System.Change.cellReplaced held.changes = false →
      ∃ periodic vectors, held.system.pbc.data.toBooleans = .ok periodic ∧ periodic.length = 3 ∧
        held.system.cell.data.toFloats = .ok vectors ∧ vectors.length = 9 ∧
        ∀ direction, periodic[direction]? = some false → System.ZeroRow vectors direction) := by
  obtain ⟨reachable, present⟩ := held_in.present
  have sound := reachable.sound.systems held.system present
  refine ⟨sound, fun change offers => ⟨?_, fun fault left after failed => ?_⟩,
    fun placed fresh => ?_⟩
  · rw [call_eq]
    rcases ran : (change.made held.system).exec world.workspace with ⟨_ | made, after⟩
    · rfl
    · exact ((offers.gives reachable.sound present).of_success ran).2.size
  · obtain ⟨same, reverted, unchanged⟩ := change.fails failed
    exact ⟨same, unchanged held.changes, reverted⟩
  · have holds := reachable.sound.holds
    obtain ⟨periodic, vectors, pbc_read, three, cell_read, nine⟩ := sound.readings holds placed
    have agrees := (sound.checkCell_iff holds placed).mp (held_in.agrees fresh)
    exact ⟨periodic, vectors, pbc_read, three, cell_read, nine, agrees _ _ pbc_read cell_read⟩

/-- A system whose positions have been set again. -/
def moved : Held := ⟨World.Alone.system, [.set .positions (World.Alone.tensor 1)]⟩

/-- The world in which the positions have been set again. -/
def movedWorld : World :=
  World.Alone.created.call World.Alone.system (.set .positions (World.Alone.tensor 1))

private theorem moved_in : moved.In movedWorld := by
  have tensors : ∀ part ∈ [World.Alone.tensor 0, World.Alone.tensor 1, World.Alone.tensor 2,
      World.Alone.tensor 3], World.Alone.made.workspace.tape.Knows part := by
    simp only [List.forall_mem_cons]
    exact ⟨rfl, rfl, rfl, rfl, List.forall_mem_nil _⟩
  have created : Held.In ⟨World.Alone.system, []⟩ World.Alone.created :=
    .constructed (.single (.run World.Alone.made_run)) (.create tensors) rfl
  exact @In.called _ _ created (.set .positions (World.Alone.tensor 1)) rfl

/-- A cell can not be set as the positions, and the system stays as it is. -/
theorem stays_sound_moved : moved.In movedWorld ∧
    moved.system.Sound movedWorld.workspace.tape ∧
    (∃ fault after, (System.Change.set .positions (World.Alone.tensor 2)).apply.exec moved.system
      movedWorld.workspace = ((.error fault, moved.system), after)) ∧
    moved.system.device ≠ .metadata ∧ System.Change.cellReplaced moved.changes = false ∧
      ∃ periodic vectors, moved.system.pbc.data.toBooleans = .ok periodic ∧ periodic.length = 3 ∧
        moved.system.cell.data.toFloats = .ok vectors ∧ vectors.length = 9 ∧
        ∀ direction, periodic[direction]? = some false → System.ZeroRow vectors direction := by
  obtain ⟨sound, calls, zero⟩ := moved_in.stays_sound
  have placed : moved.system.device ≠ .metadata := by decide
  refine ⟨moved_in, sound, ?_, placed, rfl, zero placed rfl⟩
  have offers : movedWorld.Offers (.set .positions (World.Alone.tensor 2)) := rfl
  have fails : ∃ fault left after, (System.Change.set .positions (World.Alone.tensor 2)).apply.exec
      moved.system movedWorld.workspace = ((.error fault, left), after) := ⟨_, _, _, rfl⟩
  obtain ⟨fault, left, after, failed⟩ := fails
  obtain ⟨same, _⟩ := (calls _ offers).2 fault left after failed
  exact ⟨fault, after, same ▸ failed⟩

end Held

end Atomistic
