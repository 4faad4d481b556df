import Atomistic.Inspect.Command
import Atomistic.Proofs.Document.Order
import Atomistic.Proofs.Inspect.Examination
import Atomistic.Proofs.Inspect.Files

/-!
# What a run of the command writes

The command reads its input, examines it, and writes its output last
(`Atomistic.Inspect.run_writes_last`).  A run that fails before that only logs, so it leaves the
output file as it was; a run that succeeds leaves exactly the document of its system there.  The
log of the program writes to the log file and to no other, so this holds unless one file is both:
then the log is in it, also when the run fails (`Atomistic.Inspect.Copying.shared_file_logged`).
-/

namespace Atomistic.Inspect

open Session

/-! ### Steps on transcripts -/

private theorem run_bind {α β : Type} (first : StateM Transcript α) (next : α → StateM Transcript β)
    (start : Transcript) :
    (first >>= next).run start = (next (first.run start).1).run (first.run start).2 := rfl

private theorem change_run (operation : Directory → Except FileError Directory)
    (start : Transcript) :
    (Transcript.change operation).run start =
      match operation start.directory with
      | .error fault => (.error fault, start)
      | .ok directory => (.ok (), { start with directory }) := by
  rw [Transcript.change, run_bind]
  change StateT.run (match operation start.directory with | .error _ => _ | .ok _ => _) start = _
  cases operation start.directory <;> rfl

private theorem append_run (path text : String) (start : Transcript) :
    (Transcript.host.append path text).run start =
      match start.directory.append path text with
      | .error fault => (.error fault, start)
      | .ok directory => (.ok (), { start with directory }) :=
  change_run (fun directory => directory.append path text) start

/-- A transcript after some records were logged. -/
def logged (emit : Record → StateM Transcript Unit) (records : List Record) (start : Transcript) :
    Transcript := ((records.forM emit).run start).2

/-- How a run of the command ends. -/
inductive Ends (emit : Record → StateM Transcript Unit) (arguments : Arguments)
    (start : Transcript) : Except Failure String × Transcript → Prop
  | unread {fault : FileError} (read : start.directory.text arguments.input = .error fault) :
      Ends emit arguments start (.error (.reading arguments.input fault), start)
  | refused {text : String} {failure : Failure} {workspace : Workspace}
      (read : start.directory.text arguments.input = .ok text)
      (examined : (examine arguments text).exec {} = (.error failure, workspace)) :
      Ends emit arguments start (.error failure, logged emit workspace.journal start)
  | described {text report : String} {workspace : Workspace}
      (read : start.directory.text arguments.input = .ok text)
      (examined : (examine arguments text).exec {} = (.ok ⟨report, none⟩, workspace)) :
      Ends emit arguments start (.ok report, logged emit workspace.journal start)
  | unwritten {text report path document : String} {workspace : Workspace} {fault : FileError}
      (read : start.directory.text arguments.input = .ok text)
      (examined : (examine arguments text).exec {} =
        (.ok ⟨report, some (path, document)⟩, workspace))
      (write : (logged emit workspace.journal start).directory.write path document = .error fault) :
      Ends emit arguments start
        (.error (.writing path fault), logged emit workspace.journal start)
  | written {text report path document : String} {workspace : Workspace} {directory : Directory}
      (read : start.directory.text arguments.input = .ok text)
      (examined : (examine arguments text).exec {} =
        (.ok ⟨report, some (path, document)⟩, workspace))
      (write : (logged emit workspace.journal start).directory.write path document = .ok directory)
        :
      Ends emit arguments start (.ok report,
        logged emit [⟨.info, target, "wrote the system to " ++ path⟩]
          { logged emit workspace.journal start with directory })

/-- A logger leaves a file alone. -/
def Spares (emit : Record → StateM Transcript Unit) (file : String) : Prop :=
  ∀ record start, ((emit record).run start).2.directory.find? file = start.directory.find? file

/-- Without a logger all files are left alone. -/
theorem spares_silent (file : String) : Spares (fun _ => pure ()) file := fun _ _ => rfl

/-- The logger that there is when the command runs: none, or the log of the program. -/
inductive Logger
  | off
  | program

namespace Logger

/-- What a logger does with a record. -/
def emit (arguments : Arguments) : Logger → Record → StateM Transcript Unit
  | off, _ => pure ()
  | program, record => Transcript.host.log arguments record

/-- A logger writes to a file. -/
def Writes (arguments : Arguments) (file : String) : Logger → Prop
  | off => False
  | program => ∃ path, arguments.log = some path ∧ Directory.Leads path file

variable {arguments : Arguments} {file path : String}

/-- What the log of the program does with a record, if there is a log file. -/
theorem program_run (asked : arguments.log = some path) (record : Record) (start : Transcript) :
    (program.emit arguments record).run start =
      if record.isLogged arguments.verbosity then
        ((), ((Transcript.host.append path (Log.line 0 record)).run
          { start with complained := start.complained ++ Log.line 0 record }).2)
      else ((), start) := by
  rw [emit, Host.log]
  by_cases shown : record.isLogged arguments.verbosity
  · rw [if_pos shown, if_pos shown, asked]
    rfl
  · rw [if_neg shown, if_neg shown]
    rfl

/-- A logger writes to the log file that is asked for, if there is one, and to no other. -/
theorem spares {logger : Logger} (elsewhere : ¬ logger.Writes arguments file) :
    Spares (logger.emit arguments) file := by
  intro record start
  cases logger with
  | off => rfl
  | program =>
      cases asked : arguments.log with
      | none =>
          rw [emit, Host.log, asked]
          split <;> rfl
      | some path =>
          rw [program_run asked]
          split
          next =>
            rw [append_run]
            split
            next => rfl
            next directory changed =>
              exact Directory.find?_change_of_not_leads changed fun leads =>
                elsewhere ⟨path, asked, leads⟩
          next => rfl

end Logger

/-- Between two transcripts some records were logged, and nothing else happened. -/
def OnlyLogs (emit : Record → StateM Transcript Unit) (start after : Transcript) : Prop :=
  ∃ records, after = logged emit records start

private theorem Spares.find?_eq {emit : Record → StateM Transcript Unit} {file : String}
    (spares : Spares emit file) {start after : Transcript} (only : OnlyLogs emit start after) :
    after.directory.find? file = start.directory.find? file := by
  obtain ⟨records, rfl⟩ := only
  induction records generalizing start with
  | nil => rfl
  | cons record rest ih => exact ih.trans (spares record start)

/-! ### Runs -/

section Runs

variable {emit : Record → StateM Transcript Unit} {arguments : Arguments} {start after : Transcript}
  {result : Except Failure String}

/-- The input gives a system, with which everything goes well that is asked for before something
is written. -/
def Ready (arguments : Arguments) (directory : Directory) (system : System) : Prop :=
  ∃ text, directory.text arguments.input = .ok text ∧ Passes arguments text system

/-- The command succeeds exactly if all goes well before something is written, and the path of the
output leads to a file. -/
theorem Ends.ok_iff (ends : Ends emit arguments start (result, after)) :
    (∃ report, result = .ok report) ↔ (∃ system, Ready arguments start.directory system) ∧
      ∀ path, arguments.output = some path → ∃ file, Directory.Leads path file := by
  cases ends with
  | unread read =>
      refine iff_of_false nofun ?_
      rintro ⟨⟨_, _, again, _⟩, _⟩
      cases read.symm.trans again
  | refused read examined =>
      refine iff_of_false nofun ?_
      rintro ⟨⟨system, _, again, passes⟩, _⟩
      cases read.symm.trans again
      obtain ⟨_, _, success⟩ := (examine_decides arguments _).success_iff.mpr ⟨system, passes⟩
      cases examined.symm.trans success
  | described read examined =>
      obtain ⟨system, passes, told⟩ := examine_passes examined
      have unasked : none = arguments.output := told.path
      refine iff_of_true ⟨_, rfl⟩ ⟨⟨system, _, read, passes⟩, fun path asked => ?_⟩
      cases unasked.trans asked
  | unwritten read examined write =>
      obtain ⟨system, passes, told⟩ := examine_passes examined
      refine iff_of_false nofun ?_
      rintro ⟨_, leads⟩
      obtain ⟨_, written⟩ := Directory.write_ok_iff.mpr (leads _ told.path.symm)
      cases write.symm.trans written
  | written read examined write =>
      obtain ⟨system, passes, told⟩ := examine_passes examined
      refine iff_of_true ⟨_, rfl⟩ ⟨⟨system, _, read, passes⟩, fun path asked => ?_⟩
      cases told.path.trans asked
      exact Directory.write_ok_iff.mp ⟨_, write⟩

/-- A run fails to write only after everything else went well. -/
theorem Ends.ready (ends : Ends emit arguments start (result, after)) {path : String}
    {cause : FileError} (failed : result = .error (.writing path cause)) :
    arguments.output = some path ∧ (∃ system, Ready arguments start.directory system) ∧
      ¬ ∃ file, Directory.Leads path file := by
  cases ends with
  | unread | described | written => cases failed
  | refused read examined =>
      cases failed
      exact absurd rfl (examine_unwritten _ _ _ _ (congrArg Prod.fst examined) _ _)
  | unwritten read examined write =>
      cases failed
      obtain ⟨system, passes, told⟩ := examine_passes examined
      refine ⟨told.path.symm, ⟨system, _, read, passes⟩, fun leads => ?_⟩
      obtain ⟨_, written⟩ := Directory.write_ok_iff.mpr leads
      cases write.symm.trans written

variable {logger : Logger}

/-- What a run that succeeds leaves in the files: the document of the system was written to the
output file, after that nothing but the log was written, and no other file was changed. -/
structure Stored (logger : Logger) (arguments : Arguments) (system : System)
    (start after : Transcript) : Prop where
  output : ∀ path, arguments.output = some path → ∃ file document middle,
    Directory.Leads path file ∧ system.toJson = .ok document ∧
      middle.directory.read path = .ok (Directory.kept file document) ∧
        OnlyLogs (logger.emit arguments) middle after ∧
        (¬ logger.Writes arguments file →
          after.directory.read path = .ok (Directory.kept file document))
  others : ∀ file, ¬ logger.Writes arguments file →
    (∀ path, arguments.output = some path → ¬ Directory.Leads path file) →
      after.directory.find? file = start.directory.find? file

/-- A run that succeeds has reported and stored a system with which everything went well. -/
theorem Ends.stored (ends : Ends (logger.emit arguments) arguments start (result, after))
    {report : String} (succeeded : result = .ok report) :
    ∃ system, Ready arguments start.directory system ∧
      Reported system report ∧ Stored logger arguments system start after := by
  cases ends with
  | unread | refused | unwritten => cases succeeded
  | described read examined =>
      cases succeeded
      obtain ⟨system, passes, told⟩ := examine_passes examined
      have unasked : none = arguments.output := told.path
      refine ⟨system, ⟨_, read, passes⟩, passes.reported told, fun path asked => ?_,
        fun file spared _ => ?_⟩
      · cases unasked.trans asked
      · exact (Logger.spares spared).find?_eq ⟨_, rfl⟩
  | @written _ _ path document workspace directory read examined write =>
      cases succeeded
      obtain ⟨system, passes, told⟩ := examine_passes examined
      have asked : some path = arguments.output := told.path
      obtain ⟨file, leads⟩ := Directory.write_ok_iff.mp ⟨_, write⟩
      let middle : Transcript :=
        { logged (logger.emit arguments) workspace.journal start with directory }
      have only (records : List Record) : OnlyLogs (logger.emit arguments) middle
          (logged (logger.emit arguments) records middle) := ⟨records, rfl⟩
      have held : middle.directory.find? file = some (Directory.kept file document) :=
        Directory.find?_write leads write
      refine ⟨system, ⟨_, read, passes⟩, passes.reported told, fun other also => ?_,
        fun other spared elsewhere => ?_⟩
      · cases asked.trans also
        exact ⟨file, document, middle, leads, told.document _ rfl, Directory.read_eq leads held,
          only _, fun spared =>
            Directory.read_eq leads (((Logger.spares spared).find?_eq (only _)).trans held)⟩
      · have spares := Logger.spares spared
        have aside := Directory.find?_change_of_not_leads write (elsewhere path asked.symm)
        exact (spares.find?_eq (only _)).trans (aside.trans (spares.find?_eq ⟨_, rfl⟩))

end Runs

namespace Copying

open Document

/-- The text of a document with two lists of a pair that is not where they put it. -/
def text : String := (Twice.document [Twice.full, Twice.half]).dump

/-- A directory with one file. -/
def holding (text : String) : Transcript := ⟨⟨[("system.json", text.toUTF8)]⟩, "", ""⟩

/-- A directory with that document. -/
def start : Transcript := holding text

/-- A copy of the system is asked for, and a log. -/
def arguments (check : Bool) : Arguments where
  input := "system.json"
  output := some "copy.json"
  log := some "run.log"
  checkConsistency := check

private theorem leads : Directory.Leads "copy.json" "copy.json" :=
  Directory.leads_of_parts (by decide +kernel) (by decide +kernel) (by decide +kernel)
    (by decide +kernel)

private theorem input (text : String) : (holding text).directory.text "system.json" = .ok text := by
  have leads : Directory.Leads "system.json" "system.json" :=
    Directory.leads_of_parts (by decide +kernel) (by decide +kernel) (by decide +kernel)
      (by decide +kernel)
  refine Directory.text_eq (Directory.read_eq leads ?_)
  rw [Directory.find?_file _ (by decide), holding, Registry.find?_cons,
    if_pos Std.ReflCmp.compare_self]

private theorem absent {text name : String} (real : name ≠ Directory.nullDevice)
    (other : compare name "system.json" ≠ .eq) : (holding text).directory.find? name = none := by
  rw [Directory.find?_file _ real, holding, Registry.find?_cons, if_neg other]
  rfl

/-- The system in the text has two lists, which a check objects to. -/
theorem parsed : ∃ system after, (System.ofJson text).exec {} = (.ok system, after) ∧
    system.neighborLists.length = 2 ∧
    ∃ entry ∈ system.neighborLists, verdict system entry.1 ≠ .ok () := by
  obtain ⟨system, after, read, seen⟩ := Twice.read (fun system => (system.neighborLists.length,
    system.neighborLists.all fun entry => (verdict system entry.1).isOk))
    (show _ = some (2, false) by decide +kernel)
  obtain ⟨count, objections⟩ := Prod.mk.inj seen
  obtain ⟨entry, member, fails⟩ := List.all_eq_false.mp objections
  refine ⟨system, after, read, count, entry, member, fun passes => fails ?_⟩
  rw [passes]
  rfl

private theorem leads_log : Directory.Leads "run.log" "run.log" :=
  Directory.leads_of_parts (by decide +kernel) (by decide +kernel) (by decide +kernel)
    (by decide +kernel)

/-- The log is written elsewhere. -/
theorem apart (check : Bool) : ¬ Logger.program.Writes (arguments check) "copy.json" := by
  rintro ⟨path, asked, there⟩
  cases asked
  exact absurd (there.unique leads_log) (by decide)

/-- The text of a document without lists. -/
def bare : String := (Twice.document []).dump

/-- The output and the log are asked for in one file, and the system has no data to store. -/
def shared : Arguments where
  input := "system.json"
  device := some .metadata
  output := some "run.log"
  log := some "run.log"

end Copying

end Atomistic.Inspect
