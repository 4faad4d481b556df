import Atomistic.Proofs.Document.Stability
import Atomistic.Proofs.Inspect.Checks

/-!
# What is examined

A text is examined with success exactly if a system is read from it, the conversion that is asked
for succeeds, the check of every list has nothing to object, if checks are asked for, and the system
has data, if it is to be stored (`Atomistic.Inspect.examine_decides`).  What is reported then, and
what is to be stored, are told by the system alone.
-/

namespace Atomistic

open Session Run

namespace Inspect

/-- A workspace with the record that a system was read. -/
def announced (arguments : Arguments) (system : System) (workspace : Workspace) : Workspace :=
  { workspace with journal := workspace.journal ++
      [⟨.info, target, "read " ++ system.display ++ " from " ++ arguments.input⟩] }

/-- The system that a text gives, converted if that is asked for. -/
inductive Loaded (arguments : Arguments) (text : String) : System → Workspace → Prop
  | unconverted {system : System} {middle : Workspace}
      (unasked : arguments.dtype = none ∧ arguments.device = none)
      (parsed : (System.ofJson text).exec {} = (.ok system, middle)) :
      Loaded arguments text system (announced arguments system middle)
  | converted {stored system : System} {middle after : Workspace}
      (asked : ¬ (arguments.dtype = none ∧ arguments.device = none))
      (parsed : (System.ofJson text).exec {} = (.ok stored, middle))
      (moved : (stored.transfer arguments.dtype arguments.device).exec
        (announced arguments stored middle) = (.ok system, after)) :
      Loaded arguments text system after

variable {arguments : Arguments} {text : String} {system : System}

/-- What is loaded, as the system that a session gives. -/
theorem load_iff {after : Workspace} :
    (load arguments text).exec {} = (.ok system, after) ↔ Loaded arguments text system after := by
  rw [load, exec_bind, exec_adapt]
  rcases parsed : (System.ofJson text).exec {} with ⟨fault | stored, middle⟩
  · refine iff_of_false nofun ?_
    rintro (⟨_, again⟩ | ⟨_, again, _⟩)
    all_goals
      rw [parsed] at again
      cases again
  · have noted (next : PUnit → Session Failure System) :
        (note .info target ("read " ++ stored.display ++ " from " ++ arguments.input) >>= next).exec
          middle = (next ⟨⟩).exec (announced arguments stored middle) := exec_bind _ _ _
    dsimp only [Except.mapError]
    rw [noted]
    by_cases unasked : arguments.dtype = none ∧ arguments.device = none
    · rw [if_pos (by simpa using unasked)]
      constructor
      · intro given
        cases given
        exact .unconverted unasked parsed
      · rintro (⟨_, again⟩ | ⟨asked, _, _⟩)
        · cases parsed.symm.trans again
          rfl
        · exact absurd unasked asked
    · rw [if_neg (by simpa using unasked)]
      have lifted (session : Session Error System) (workspace : Workspace) :
          exec (liftM session : Session Failure System) workspace =
            ((session.exec workspace).1.mapError Failure.system, (session.exec workspace).2) := rfl
      rw [lifted]
      constructor
      · intro given
        obtain ⟨made, same⟩ := Prod.mk.inj given
        exact .converted unasked parsed (Prod.ext (ok_of_mapError made) same)
      · rintro (⟨unasked', _⟩ | ⟨_, again, moved⟩)
        · exact absurd unasked' unasked
        · cases parsed.symm.trans again
          rw [moved]
          rfl

/-- What is loaded is sound, and so is all that was made before. -/
theorem Loaded.sound {after : Workspace} (loaded : Loaded arguments text system after) :
    World.Sound { workspace := after, systems := [system] } := by
  have start : World.Sound {} := .start
  cases loaded with
  | @unconverted _ middle _ parsed =>
      obtain ⟨moved, decoded, _⟩ := (System.ofJson_decoded text).of_success parsed
      have announcing : Extends Dense.Valid middle (announced arguments system middle) :=
        .of_tape rfl
      exact { start.extend (IsTrans.trans _ _ _ moved announcing) with
        systems := List.forall_mem_singleton.mpr (decoded.toSound.mono announcing) }
  | @converted stored _ middle _ _ parsed converts =>
      obtain ⟨moved, decoded, _⟩ := (System.ofJson_decoded text).of_success parsed
      have announcing : Extends Dense.Valid middle (announced arguments stored middle) :=
        .of_tape rfl
      obtain ⟨further, made⟩ := (System.transfer_within Dense.kind_valid
        (decoded.toSound.mono announcing) arguments.dtype arguments.device).of_success converts
      exact { start.extend (IsTrans.trans _ _ _ (IsTrans.trans _ _ _ moved announcing) further) with
        systems := List.forall_mem_singleton.mpr made.toSound }

/-- The lines about the neighbor lists of a system, in the order of their options. -/
def listLines (system : System) : List String :=
  system.neighborLists.map fun entry => describeList entry.1 entry.2

/-- The lists are reported exactly if no check is asked for or none has an objection. -/
theorem reportLists_decides {world : World} (sound : world.Sound) (present : system ∈ world.systems)
    (check : Bool) :
    (reportLists system check).Decides (Extends Dense.Valid)
      (check → ∀ entry ∈ system.neighborLists, verdict system entry.1 = .ok ()) world.workspace
      fun lines _ => lines = listLines system := by
  have found : ∀ entry ∈ system.neighborLists, system.neighborList entry.1 = .ok entry.2 := by
    intro entry member
    rw [System.neighborList, (sound.systems system present).sorted.find?_mem member]
  have each : ∀ options ∈ system.knownNeighborLists, ∀ middle,
      Extends Dense.Valid world.workspace middle →
      Decides (Extends Dense.Valid) (check → verdict system options = .ok ()) (do
        let list ← ofExcept (system.neighborList options)
        if check then checkList system options
        return describeList options list) middle fun line _ =>
          ∃ list, system.neighborList options = .ok list ∧ line = describeList options list := by
    intro options listed middle moved
    obtain ⟨entry, member, rfl⟩ := List.mem_map.mp listed
    refine (Decides.ofExcept_ok (found entry member) (.refl _)).follow ?_
    rintro list _ _ ⟨rfl, rfl⟩
    cases check with
    | false =>
        refine .gives rfl (fun asked => ?_) (.refl _) ⟨entry.2, found entry member, rfl⟩
        cases asked
    | true =>
        obtain ⟨after, checked, _, further⟩ := (sound.extend moved).checkList present entry.1
        cases passed : verdict system entry.1 with
        | error fault =>
            rw [passed] at checked
            refine .refuses (by rw [if_pos rfl, exec_bind, checked]) fun holds => ?_
            cases holds rfl
        | ok =>
            rw [passed] at checked
            refine .gives ?_ (fun _ => rfl) further ⟨entry.2, found entry member, rfl⟩
            rw [if_pos rfl, exec_bind, checked]
            rfl
  refine ((Decides.mapM_forall (fun _ => .refl _) each).congr ?_).weaken ?_
  · simp only [System.knownNeighborLists, List.forall_mem_map]
    exact ⟨fun all entry member asked => all asked entry member,
      fun all asked entry member => all entry member asked⟩
  · intro lines _ _ described
    rw [System.knownNeighborLists, List.forall₂_map_left_iff] at described
    have known := (List.forall₂_and_left _ _).mpr ⟨found, described⟩
    have same := @map_eq_of_forall₂ _ _ _ _ (fun entry => describeList entry.1 entry.2) id _ _ known
        ?_
    · rwa [List.map_id] at same
    · rintro entry line ⟨stored, list, again, rfl⟩
      cases stored.symm.trans again
      rfl

/-- A text gives a system, with which everything goes well that is asked for before something is
written. -/
structure Passes (arguments : Arguments) (text : String) (system : System) : Prop where
  loaded : ∃ after, Loaded arguments text system after
  consistent : arguments.checkConsistency → ∀ entry ∈ system.neighborLists,
    verdict system entry.1 = .ok ()
  present : arguments.output.isSome → system.device ≠ .metadata

/-- What an inspection tells of a system, and what it is to store. -/
structure Told (arguments : Arguments) (system : System) (inspection : Inspection) : Prop where
  report : inspection.report = describeSystem system ++ String.join (listLines system)
  path : inspection.output.map Prod.fst = arguments.output
  document : ∀ pair ∈ inspection.output, system.toJson = .ok pair.2

/-- The same text is loaded in one way only. -/
theorem Loaded.unique {after last : Workspace} {other : System}
    (loaded : Loaded arguments text system after) (also : Loaded arguments text other last) :
    other = system ∧ last = after := by
  cases (load_iff.mpr loaded).symm.trans (load_iff.mpr also)
  exact ⟨rfl, rfl⟩

/-- **A text is examined with success exactly if everything passes.** -/
theorem examine_decides (arguments : Arguments) (text : String) :
    (examine arguments text).Decides Anywhere (∃ system, Passes arguments text system) {}
      fun inspection _ => ∃ system after, Loaded arguments text system after ∧
        Told arguments system inspection := by
  rw [examine]
  rcases ran : (load arguments text).exec {} with ⟨fault | system, middle⟩
  · refine .refuses (by rw [exec_bind, ran]) ?_
    rintro ⟨system, ⟨after, loaded⟩, _, _⟩
    rw [load_iff.mpr loaded] at ran
    cases ran
  have loaded := load_iff.mp ran
  have sound := loaded.sound
  have present : system ∈ [system] := List.mem_singleton_self _
  have storing := System.toJson_ok_iff (sound.systems system present) sound.holds
  have passes_iff : (∃ made, Passes arguments text made) ↔
      (arguments.checkConsistency →
          ∀ entry ∈ system.neighborLists, verdict system entry.1 = .ok ()) ∧
        (arguments.output.isSome → system.device ≠ .metadata) := by
    constructor
    · rintro ⟨made, ⟨_, again⟩, consistent, stays⟩
      cases (loaded.unique again).1
      exact ⟨consistent, stays⟩
    · exact fun both => ⟨system, ⟨middle, loaded⟩, both.1, both.2⟩
  have given : (load arguments text).Decides Anywhere True {} fun made after =>
      system = made ∧ middle = after := .gives ran trivial trivial ⟨rfl, rfl⟩
  refine given.follow ?_
  rintro _ _ _ ⟨rfl, rfl⟩
  have reports := (reportLists_decides sound present arguments.checkConsistency).anywhere
  refine (reports.adapt.bind fun lines last _ same => ?_).congr passes_iff
  subst same
  cases asked : arguments.output with
  | none => exact .gives rfl nofun trivial ⟨system, middle, loaded, rfl, asked.symm, nofun⟩
  | some path =>
      cases stored : system.toJson with
      | error fault =>
          refine .refuses (by rw [Option.mapM_some]; rfl) fun stays => ?_
          obtain ⟨document, written⟩ := storing.mpr (stays rfl)
          cases stored.symm.trans written
      | ok document =>
          refine .gives (by rw [Option.mapM_some]; rfl)
            (fun _ => storing.mp ⟨document, stored⟩) trivial ?_
          refine ⟨system, middle, loaded, rfl, asked.symm, fun pair member => ?_⟩
          cases member
          exact stored

/-- An examination that succeeds has passed every check, and tells what it found. -/
theorem examine_passes {inspection : Inspection} {last : Workspace}
    (examined : (examine arguments text).exec {} = (.ok inspection, last)) :
    ∃ system, Passes arguments text system ∧ Told arguments system inspection := by
  have decided := examine_decides arguments text
  obtain ⟨system, passes⟩ := decided.success_iff.mp ⟨inspection, last, examined⟩
  obtain ⟨_, made, after, loaded, told⟩ := decided.of_success examined
  obtain ⟨_, again⟩ := passes.loaded
  obtain ⟨rfl, _⟩ := loaded.unique again
  exact ⟨_, passes, told⟩

/-- The line about a list of some pairs names its cutoff to six places, its flag and its unit, if
it has one, and says how many pairs there are. -/
inductive ListLine (options : NeighborListOptions) (pairs : Nat) : String → Prop
  | bare (unit : options.lengthUnit = "") : ListLine options pairs
      ("  - NeighborListOptions(cutoff=" ++ fixedPlaces 6 options.cutoff ++ ", full_list=" ++
        (if options.fullList then "True" else "False") ++ "): " ++ toString pairs ++ " pairs\n")
  | measured (unit : options.lengthUnit ≠ "") : ListLine options pairs
      ("  - NeighborListOptions(cutoff=" ++ fixedPlaces 6 options.cutoff ++ ", full_list=" ++
        (if options.fullList then "True" else "False") ++ ") [" ++ options.lengthUnit ++ "]: " ++
          toString pairs ++ " pairs\n")

/-- Options are described by their cutoff and their flag. -/
theorem display_eq (options : NeighborListOptions) : options.display =
    "NeighborListOptions(cutoff=" ++ fixedPlaces 6 options.cutoff ++ ", full_list=" ++
      (if options.fullList then "True" else "False") ++ ")" := rfl

/-- The line about a list with the right layout counts its pairs. -/
theorem describeList_line {tape : Tape} {list : Block} (sound : list.Sound tape)
    (layout : NeighborList.checkLayout list = .ok ()) (options : NeighborListOptions) :
    ListLine options list.samples.count (describeList options list) := by
  have shape : list.values.data.shape = [list.samples.count, 3, 1] :=
    (NeighborList.shapes_of_layout sound layout).2
  have pairs : list.values.size 0 = list.samples.count := by
    rw [Tensor.size, Dense.size, shape]
    rfl
  rw [describeList, pairs, display_eq]
  by_cases unit : options.lengthUnit = ""
  · have bare := @ListLine.bare options list.samples.count unit
    rw [show "): " = ")" ++ ": " from rfl] at bare
    simp only [if_pos unit, String.append_empty, String.append_assoc] at bare ⊢
    exact bare
  · have measured := @ListLine.measured options list.samples.count unit
    rw [show ") [" = ")" ++ " [" from rfl, show "]: " = "]" ++ ": " from rfl] at measured
    simp only [if_neg unit, String.append_assoc] at measured ⊢
    exact measured

/-- What a report tells of a system: what it is, its element type, its device and the number of its
neighbor lists, and then one line for every list, in the order of the options. -/
structure Reported (system : System) (report : String) : Prop where
  text : ∃ lines, List.Forall₂ (fun entry line => ListLine entry.1 entry.2.samples.count line)
    system.neighborLists lines ∧ report = system.display ++ "\ndtype: " ++ system.dtype.name ++
      ", device: " ++ system.device.name ++ "\n" ++ toString system.neighborLists.length ++
        " neighbor list(s)\n" ++ String.join lines
  order : Registry.Sorted system.neighborLists

/-- What an examination tells is a report on the system it has read. -/
theorem Passes.reported (passes : Passes arguments text system) {inspection : Inspection}
    (told : Told arguments system inspection) : Reported system inspection.report := by
  obtain ⟨_, loaded⟩ := passes.loaded
  have sound := loaded.sound.systems system (List.mem_singleton_self _)
  refine ⟨⟨listLines system, ?_, by rw [told.report, describeSystem]⟩, sound.sorted⟩
  rw [listLines, List.forall₂_map_right_iff]
  refine List.forall₂_same.mpr fun entry member => ?_
  have listed := (sound.lists entry member).2
  exact describeList_line listed.sound listed.layout entry.1

/-- An examination does not fail in the way in which writing fails. -/
theorem examine_unwritten (arguments : Arguments) (text : String) :
    (examine arguments text).FailsWith fun failure =>
      ∀ path cause, failure ≠ .writing path cause := by
  rw [examine, load]
  refine .bind
    (.bind (.adapt _ fun _ => nofun) fun stored => .bind (.note _ _ _) fun _ => ?_)
    fun system => .bind (.adapt _ fun _ => nofun) fun lines => .bind ?_ fun _ => .pure _
  · split
    · exact .pure _
    · exact .adapt _ fun _ => nofun
  · cases arguments.output with
    | none => exact .pure none
    | some path =>
        rw [Option.mapM_some]
        refine .bind (.bind (.ofExcept fun failure failed => ?_) fun _ => .pure _) fun _ => .pure _
        cases stored : system.toJson with
        | error fault =>
            rw [stored] at failed
            cases failed
            exact nofun
        | ok document =>
            rw [stored] at failed
            cases failed

end Inspect

end Atomistic
