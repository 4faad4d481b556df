import Atomistic.Inspect.Report
import Atomistic.Proofs.NeighborList.Assembly
import Atomistic.Proofs.NeighborList.Registration
import Atomistic.Proofs.World.Tensors

/-!
# What the check of a neighbor list comes to

The check of a stored list registers a copy of it, which it puts together from the same pairs
and vectors.  It comes to the first objection to the pairs, whatever is in the workspace
(`Atomistic.Inspect.verdict`), and changes nothing for the tensors that there were
(`Atomistic.World.Sound.checkList`).  So lists can be checked again and again, in any order
(`Atomistic.World.Reachable.checks_repeat`).
-/

namespace Atomistic

open Session Workspace

variable {workspace : Workspace}

/-! ### Copies -/

private theorem Labels.ofFlat_spares (names : List String) (entries : List Int) :
    (ofFlat names entries).Within Spares workspace fun _ _ => True := by
  rw [ofFlat]
  refine .check (.refl _) fun _ => .check (.refl _) fun _ => ?_
  refine (ofExcept_spares _).bind fun data _ _ _ => ?_
  refine (@place_spares Error _ { data }).bind fun values _ _ _ => ?_
  exact ofExcept_spares _

namespace NeighborList

private theorem assemble_spares (samples distances : Tensor) :
    (assemble samples distances).Within Spares workspace fun _ _ => True := by
  rw [assemble]
  refine (ofExcept_spares _).bind fun table _ _ _ => ?_
  refine (Labels.ofFlat_spares _ _).bind fun xyz _ _ _ => ?_
  refine (Labels.transfer_spares xyz _).adapt.bind fun _ _ _ _ => ?_
  refine (Labels.ofFlat_spares _ _).bind fun distance _ _ _ => ?_
  refine (Labels.transfer_spares distance _).adapt.bind fun _ _ _ _ => ?_
  exact ofExcept_spares _

/-- A list with the pairs and the vectors of another, whose values are new and outside of any
graph. -/
structure Copy (before after : Workspace) (list copy : Block) : Prop where
  samples : copy.samples = list.samples
  values : copy.values.data = list.values.data
  layout : checkLayout copy = .ok ()
  sound : copy.Sound after.tape
  new : before.tape.tensors.size ≤ copy.values.number
  untracked : (after.tape.state copy.values.number).requiresGrad = false

/-- A list with the right layout can be copied, wherever it is and whatever tracks it. -/
theorem copies {list : Block} (tape_sound : workspace.tape.Sound)
    (list_sound : list.Sound workspace.tape) (layout : checkLayout list = .ok ())
    (valid : list.values.data.Valid) :
    ∃ copy after, (do
        let distances ← list.values.detach
        assemble list.samples.values distances : Session Error Block).exec workspace =
          (.ok copy, after) ∧ Copy workspace after list copy ∧
        Spares workspace after ∧ Run.Extends Dense.Valid workspace after := by
  obtain ⟨pairs, vectors⟩ := shapes_of_layout list_sound layout
  obtain ⟨samples_sound, together⟩ := list_sound.samples
  have clean := clean_of_sound tape_sound
  obtain ⟨distances, one, detached, held, blank⟩ :=
    (@place_decides Error _ clean list.values.keep).succeeds
  have first := (@place_spares Error _ list.values.keep).of_success detached
  have extended := (@Run.place_within _ Error _ list.values.keep fun _ => valid).of_success detached
  have grown := (@place_decides Error _ clean list.values.keep).of_success detached
  have samples_known := extended.1.knows samples_sound.known
  have tables : Tables list.samples.values distances := by
    have same : distances.data = list.values.data := held
    refine ⟨pairs, samples_sound.dtype, ?_, ?_⟩
    · rw [Tensor.shape, same]
      exact vectors
    · rw [show distances.device = list.values.device from congrArg Dense.device same]
      exact together
  have assembles := @assemble_fits one (grown.1.clean clean) _ distances samples_known
  obtain ⟨copy, after, assembled⟩ := assembles.success_iff.mpr tables
  obtain ⟨further, made⟩ := assembles.of_success assembled
  have last := (assemble_within samples_known extended.2.1).of_success assembled
  have spared := (assemble_spares list.samples.values distances).of_success assembled
  have ran : (do
      let distances ← list.values.detach
      assemble list.samples.values distances : Session Error Block).exec workspace =
        (.ok copy, after) := by
    rw [Tensor.detach, exec_bind, detached]
    exact assembled
  have names : list.samples.names = sampleNames := (checkLayout_ok layout).1
  refine ⟨copy, after, ran, ⟨?_, ?_, made.layout, last.2.1, ?_, ?_⟩,
    IsTrans.trans _ _ _ first.1 spared.1, IsTrans.trans _ _ _ extended.1 last.1⟩
  · rw [made.samples, ← names]
  · rw [made.values]
    exact held
  · rw [made.values]
    exact first.2
  · rw [made.values]
    exact (blank.grow further).untracked

section Objections

variable {system : System} {list copy : Block}

/-- What is objected to the pairs of a list is read off its pairs and its vectors. -/
theorem pairObjections_congr (samples : copy.samples = list.samples)
    (values : copy.values.data = list.values.data) :
    pairObjections system copy = pairObjections system list := by
  have rows : rowObjections system copy = rowObjections system list := by
    funext row
    have vectors : expectedAt system copy row = expectedAt system list row := by
      funext coordinate
      rw [expectedAt, expectedAt, pairAt, pairAt, samples]
    rw [rowObjections, rowObjections, discrepancy, discrepancy, expected, expected, vectors, pairAt,
      pairAt, Tensor.dtype, Tensor.dtype, samples, values]
  rw [pairObjections, pairObjections, rows, samples]

/-- A registration of a new list changes nothing for the tensors that there were before. -/
theorem Answers.spares {before middle : Workspace} {found : List Error}
    {result : Except Error Unit × Workspace} (answers : Answers middle system list found result)
    (spares : Spares before middle) (new : before.tape.tensors.size ≤ list.values.number) :
    Spares before result.2 := by
  cases answers with
  | refused => exact spares
  | @registered after done =>
      rw [Registered] at done
      split at done
      · refine ⟨?_, fun number there => ?_, fun number node present => ?_⟩
        · rw [done.tensors]
          exact spares.tensors
        · rw [done.others number (there.trans_le new).ne]
          exact spares.states number there
        · rw [done.nodes]
          have kept := spares.nodes number node present
          obtain ⟨inside, _⟩ := Array.getElem?_eq_some_iff.mp kept
          rw [Array.getElem?_push, if_neg inside.ne]
          exact kept
      · exact IsTrans.trans _ _ _ spares (.of_tape done)

end Objections

end NeighborList

/-- The tensors that a system and the blocks that it stores are made of. -/
inductive System.Has (system : System) : Tensor → Prop
  | field (field : Field) : Has system (system.get field)
  | list {entry : NeighborListOptions × Block} (member : entry ∈ system.neighborLists)
      {tensor : Tensor} (inside : entry.2.Has tensor) : Has system tensor
  | data {entry : String × Block} (member : entry ∈ system.data) {tensor : Tensor}
      (inside : entry.2.Has tensor) : Has system tensor

private theorem System.Sound.knows {tape : Tape} {system : System} (sound : system.Sound tape)
    {tensor : Tensor} (inside : system.Has tensor) : tape.Knows tensor := by
  cases inside with
  | field field => exact sound.known field
  | list member inside => exact (sound.lists _ member).2.sound.knows inside
  | data member inside => exact (sound.data _ member).sound.knows inside

/-! ### Checks -/

namespace Inspect

open NeighborList

/-- What the check of a stored list comes to: the first objection to its pairs. -/
def verdict (system : System) (options : NeighborListOptions) : Except Error Unit := do
  let list ← system.neighborList options
  firstOf (pairObjections system list)

/-- Check some lists one after the other, also after one that was objected to. -/
def checkLists (system : System) :
    List NeighborListOptions → Workspace → List (Except Error Unit) × Workspace
  | [], workspace => ([], workspace)
  | options :: rest, workspace =>
      let (result, middle) := (checkList system options).exec workspace
      let (results, after) := checkLists system rest middle
      (result :: results, after)

/-- Every pair of a list on a device that holds data agrees with the system exactly if a check
has nothing to object. -/
theorem verdict_ok_iff {tape : Tape} {system : System} (sound : system.Sound tape)
    {options : NeighborListOptions} {list : Block}
    (found : system.neighborList options = .ok list) :
    verdict system options = .ok () ↔
      system.device ≠ .metadata ∧ ∀ row < list.samples.count, PairAgrees system list row := by
  have place : system.positions.device = system.device := sound.together .positions
  rw [verdict, found, ok_bind, firstOf_ok_iff, pairObjections_eq_nil, place]

end Inspect

namespace World

open Inspect NeighborList

section Runs

variable {world : World} {system : System}

/-- The stored list with some options is attached to its system. -/
theorem listed_of_found {tape : Tape} (sound : system.Sound tape) {options : NeighborListOptions}
    {list : Block} (found : system.neighborList options = .ok list) : system.Listed tape list := by
  rw [System.neighborList] at found
  split at found
  next stored =>
    cases found
    obtain ⟨entry, member, same⟩ := Registry.mem_of_find? stored
    exact same ▸ (sound.lists entry member).2
  next => cases found

/-- A copy of a stored list is registered exactly if nothing can be objected to the pairs of the
list itself: its place, its element type and its layout are those of the list. -/
theorem Sound.registerCopy (sound : world.Sound) (present : system ∈ world.systems) {list : Block}
    (listed : system.Listed world.workspace.tape list) :
    ∃ after, Session.exec (do
        let distances ← list.values.detach
        let copy ← assemble list.samples.values distances
        register system copy true) world.workspace =
          (firstOf (pairObjections system list), after) ∧
      Spares world.workspace after ∧ Run.Extends Dense.Valid world.workspace after := by
  have system_sound := sound.systems system present
  have list_sound := listed.sound
  have valid : list.values.data.Valid := by
    cases list_sound with
    | mk known _ _ _ _ _ => exact sound.holds.knows known
  obtain ⟨copy, middle, copied, made, spared, extended⟩ :=
    copies sound.tape list_sound listed.layout valid
  have fine : layoutObjections system copy = [] := by
    have kept : copy.values.data = list.values.data := made.values
    refine layoutObjections_eq_nil.mpr ⟨?_, ?_, made.layout⟩
    · rw [show copy.values.device = list.values.device from congrArg Dense.device kept]
      exact (system_sound.together .positions).trans listed.device.symm
    · rw [show copy.values.dtype = list.values.dtype from congrArg Dense.dtype kept]
      exact listed.dtype.symm
  have objections : refusals middle.tape system copy true = pairObjections system list := by
    rw [refusals, faultIf, if_neg (by simp [made.untracked]), if_pos rfl, fine,
      pairObjections_congr made.samples made.values]
    rfl
  have answers := register_answers (system_sound.mono extended) made.sound
    (extended.holds sound.holds) (extended.marked sound.tape sound.marked) true
  rw [objections] at answers
  have moved := (register_within (system_sound.mono extended) made.sound true).moved
  refine ⟨((register system copy true).exec middle).2, ?_, answers.spares spared made.new,
    IsTrans.trans _ _ _ extended moved⟩
  rw [← bind_assoc, exec_bind, copied]
  exact Prod.ext answers.result_eq rfl

/-- **A check of a stored list comes to its verdict**, and changes nothing for the tensors that
there were. -/
theorem Sound.checkList (sound : world.Sound) (present : system ∈ world.systems)
    (options : NeighborListOptions) :
    ∃ after,
      (Inspect.checkList system options).exec world.workspace = (verdict system options, after) ∧
      Spares world.workspace after ∧ Run.Extends Dense.Valid world.workspace after := by
  rw [Inspect.checkList, exec_bind, exec_ofExcept, verdict]
  cases found : system.neighborList options with
  | error fault => exact ⟨world.workspace, rfl, .refl _, .refl _⟩
  | ok list =>
      have listed := listed_of_found (sound.systems system present) found
      obtain ⟨after, registered, spares, extended⟩ := sound.registerCopy present listed
      simp only [← bind_assoc] at registered ⊢
      rw [ok_bind, exec_bind, registered]
      cases firstOf (pairObjections system list) with
      | error fault => exact ⟨after, rfl, spares, extended⟩
      | ok =>
          -- What is left is a record in the journal.
          exact ⟨_, rfl, IsTrans.trans _ _ _ spares (.of_tape rfl),
            IsTrans.trans _ _ _ extended (.of_tape rfl)⟩

/-- Every check comes to its verdict, whatever the checks before it came to. -/
theorem Sound.checkLists (keys : List NeighborListOptions) (sound : world.Sound)
    (present : system ∈ world.systems) :
    ∃ after, Inspect.checkLists system keys world.workspace = (keys.map (verdict system), after) ∧
      Spares world.workspace after ∧ Run.Extends Dense.Valid world.workspace after := by
  induction keys generalizing world with
  | nil => exact ⟨world.workspace, rfl, .refl _, .refl _⟩
  | cons key rest ih =>
      obtain ⟨middle, checked, spares, extended⟩ := sound.checkList present key
      obtain ⟨after, others, further, moved⟩ := ih (sound.extend extended) present
      refine ⟨after, ?_, IsTrans.trans _ _ _ spares further, IsTrans.trans _ _ _ extended moved⟩
      rw [Inspect.checkLists, checked]
      dsimp only at others ⊢
      rw [others]
      rfl

/-- **Checks can be repeated and leave no trace.**  However often and in whatever order the lists
of a system are checked, each check comes to the verdict on its list; that is a success exactly if
the system is not on the meta device and every pair agrees with it; and afterwards every tensor
of the system and of the blocks that it stores is tracked, was produced and has a gradient as
before. -/
theorem Reachable.checks_repeat (reachable : world.Reachable) (present : system ∈ world.systems)
    (keys : List NeighborListOptions) :
    ∃ after, Inspect.checkLists system keys world.workspace = (keys.map (verdict system), after) ∧
      (∀ entry ∈ system.neighborLists, system.neighborList entry.1 = .ok entry.2 ∧
        (verdict system entry.1 = .ok () ↔ system.device ≠ .metadata ∧
          ∀ row < entry.2.samples.count, PairAgrees system entry.2 row)) ∧
      (∀ tensor, system.Has tensor →
        after.tape.state tensor.number = world.workspace.tape.state tensor.number) ∧
      Spares world.workspace after := by
  have sound := reachable.sound
  have system_sound := sound.systems system present
  obtain ⟨after, checked, spares, _⟩ := sound.checkLists keys present
  refine ⟨after, checked, fun entry member => ?_, fun tensor inside => ?_, spares⟩
  · have found : system.neighborList entry.1 = .ok entry.2 := by
      rw [System.neighborList, system_sound.sorted.find?_mem member]
    exact ⟨found, verdict_ok_iff system_sound found⟩
  · exact spares.states tensor.number (system_sound.knows inside).lt

end Runs

namespace Paired

/-- The options of the list. -/
def options : NeighborListOptions := .create .one true "test"

/-- The system and the pair, and options for a list. -/
def asked : World :=
  assembled.keep (pure options) fun made after => { after with options := made :: after.options }

/-- The system with the list attached. -/
def attached : World := asked.call system (.addNeighborList options list)

/-- The system with the list. -/
def listed : System := { system with neighborLists := [(options, list)] }

private theorem attached_reachable : attached.Reachable := by
  have fourth : Reachable asked := .tail assembled_reachable (.options (.create _ _ _))
  have systems : asked.systems = [system] := rfl
  have blocks : asked.blocks = [list] := rfl
  have known : asked.options = [options] := rfl
  have offers : asked.Offers (.addNeighborList options list) := by
    rw [Offers, known, blocks]
    exact ⟨List.mem_singleton_self _, List.mem_singleton_self _⟩
  exact .tail fourth (.call (by rw [systems]; exact List.mem_singleton_self _) offers)

/-- The list of a system whose positions require a gradient is checked twice. -/
theorem checks_repeat_paired : attached.Reachable ∧ listed ∈ attached.systems ∧
    (attached.workspace.tape.state listed.positions.number).requiresGrad ∧
    ∃ after, Inspect.checkLists listed [options, options] attached.workspace =
        ([.ok (), .ok ()], after) ∧
      ∀ tensor, listed.Has tensor →
        after.tape.state tensor.number = attached.workspace.tape.state tensor.number := by
  have systems : attached.systems = [listed, system] := rfl
  have present : listed ∈ attached.systems := by
    rw [systems]
    exact List.mem_cons_self
  obtain ⟨after, checked, verdicts, kept, _⟩ :=
    attached_reachable.checks_repeat present [options, options]
  have agrees : pairObjections listed list = [] := by decide +kernel
  have passed : verdict listed options = .ok () :=
    (verdicts (options, list) (List.mem_singleton_self _)).2.mpr (pairObjections_eq_nil.mp agrees)
  refine ⟨attached_reachable, present, rfl, after, ?_, kept⟩
  rw [checked, List.map_cons, List.map_singleton, passed]

end Paired

end World

end Atomistic
