import Atomistic.Inspect.Log
import Atomistic.Inspect.Report

/-!
# The command

The command is written over what it needs from its surroundings, a `Host`.  It
can be run on real files, and also on a `Transcript`, a directory as a value
that keeps what was printed.

The output is written after everything else has succeeded.
-/

namespace Atomistic.Inspect

/-- What the command needs from its surroundings. -/
structure Host (m : Type → Type) where
  read : (path : String) → m (Except FileError ByteArray)
  write : (path text : String) → m (Except FileError Unit)
  /-- Write at the end of a file, which is made if it is not there. -/
  append : (path text : String) → m (Except FileError Unit)
  /-- Write to the standard output. -/
  print : String → m Unit
  /-- Write to the standard error. -/
  complain : String → m Unit
  /-- The time since the start in milliseconds. -/
  elapsed : m Nat

variable {m : Type → Type} [Monad m]

namespace Host

/-- The text of a file. -/
def readText (host : Host m) (path : String) : m (Except FileError String) := do
  match ← host.read path with
  | .error fault => return .error fault
  | .ok content =>
    match String.fromUTF8? content with
    | some text => return .ok text
    | none => return .error .notText

/-- Log a record, also to a file if there is one. -/
def log (host : Host m) (arguments : Arguments) (record : Record) : m Unit := do
  if record.isLogged arguments.verbosity then
    let line := Log.line (← host.elapsed) record
    host.complain line
    if let some path := arguments.log then
      let _ ← host.append path line

end Host

/-- Store an inspected system where that is asked for. -/
def store (host : Host m) (emit : Record → m Unit) (inspection : Inspection) :
    m (Except Failure Unit) := do
  match inspection.output with
  | none => return .ok ()
  | some (path, document) =>
    match ← host.write path document with
    | .error fault => return .error (.writing path fault)
    | .ok () =>
      emit ⟨.info, target, "wrote the system to " ++ path⟩
      return .ok ()

/-- Inspect the system in the input file.  The result is a report. -/
def run (host : Host m) (emit : Record → m Unit) (arguments : Arguments) :
    m (Except Failure String) := do
  match ← host.readText arguments.input with
  | .error fault => return .error (.reading arguments.input fault)
  | .ok text =>
    let (outcome, workspace) := (examine arguments text).run.run {}
    workspace.journal.forM emit
    match outcome with
    | .error failure => return .error failure
    | .ok inspection =>
      match ← store host emit inspection with
      | .error failure => return .error failure
      | .ok () => return .ok inspection.report

/-- The name and the version of the program. -/
def banner : String := "mlsys-inspect 0.1.0\n"

/-- What the program does and which arguments it takes. -/
def helpText : String := banner ++
  "Reads a system stored as JSON, and describes it and its neighbor lists.\n\n" ++
  "USAGE:\n" ++
  "    mlsys-inspect [FLAGS] [OPTIONS] <INPUT>\n\n" ++
  "FLAGS:\n" ++
  "        --check-consistency    recompute every neighbor pair from the positions and cell\n" ++
  "    -h, --help                 Prints help information\n" ++
  "    -V, --version              Prints version information\n" ++
  "    -v                         more logging; can be repeated\n\n" ++
  "OPTIONS:\n" ++
  "        --device <DEVICE>    move the system to this device (cpu, cuda:N, meta)\n" ++
  "        --dtype <DTYPE>      convert positions, cell and neighbor lists to this floating " ++
  "point dtype\n" ++
  "        --log <FILE>         also write the log to this file\n" ++
  "    -o, --output <FILE>      write the (converted) system to this JSON file\n\n" ++
  "ARGS:\n" ++
  "    <INPUT>    System JSON file\n"

/-- Make the log file, if there is one, before anything is logged. -/
def openLog (host : Host m) (arguments : Arguments) : m (Except FileError Unit) :=
  match arguments.log with
  | some path => host.append path ""
  | none => pure (.ok ())

/-- Inspect a system and print the report; a failure is logged, one record for
each of its messages.  The result is an exit code. -/
def runLogged (host : Host m) (arguments : Arguments) : m UInt32 := do
  match ← run host (host.log arguments) arguments with
  | .ok report =>
    host.print report
    return 0
  | .error failure =>
    failure.messages.forM fun message =>
      host.log arguments ⟨.error, "mlsys::entry_points", message⟩
    return 1

/-- The whole command, from its arguments to its exit code.  What goes wrong
before there is a log is not logged. -/
def command (host : Host m) (arguments : List String) : m UInt32 := do
  match Arguments.parse arguments with
  | .error (.usage .help) =>
    host.print helpText
    return 0
  | .error (.usage .version) =>
    host.print banner
    return 0
  | .error (.usage fault) =>
    host.complain ("error: " ++ fault.text ++ "\n")
    return 1
  | .error _ => return 1
  | .ok arguments =>
    match ← openLog host arguments with
    | .error _ => return 1
    | .ok () => runLogged host arguments

/-- What a run of the command starts from and leaves behind. -/
structure Transcript where
  directory : Directory
  printed : String := ""
  complained : String := ""

namespace Transcript

/-- Change the directory, if that is possible. -/
def change (operation : Directory → Except FileError Directory) :
    StateM Transcript (Except FileError Unit) := do
  match operation (← get).directory with
  | .error fault => return .error fault
  | .ok directory =>
    modify fun transcript => { transcript with directory }
    return .ok ()

/-- The surroundings that a transcript makes.  No time passes in them. -/
def host : Host (StateM Transcript) where
  read path := return (← get).directory.read path
  write path text := change fun directory => directory.write path text
  append path text := change fun directory => directory.append path text
  print text := modify fun transcript => { transcript with printed := transcript.printed ++ text }
  complain text :=
    modify fun transcript => { transcript with complained := transcript.complained ++ text }
  elapsed := pure 0

end Transcript

end Atomistic.Inspect
