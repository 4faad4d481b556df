import Atomistic.Inspect.Command

/-!
# The program

The command on real files.
-/

namespace Atomistic.Inspect

/-- The reason why the system refused a file. -/
def FileError.ofSystem (fault : IO.Error) : FileError :=
  match fault with
  | .noFileOrDirectory .. => .notFound
  | .inappropriateType _ code _ => if code = 21 then .isDirectory else .notDirectory
  | _ => .other (toString fault)

/-- Carry out an action on files, with its error as a value. -/
def attempt {α : Type} (action : IO α) : IO (Except FileError α) := do
  match ← action.toBaseIO with
  | .ok value => return .ok value
  | .error fault => return .error (.ofSystem fault)

/-- Write at the end of a file. -/
def appendText (path text : String) : IO Unit := do
  let handle ← IO.FS.Handle.mk path .append
  handle.putStr text
  handle.flush

/-- The surroundings of a program that was started at a time. -/
def realHost (start : Nat) : Host IO where
  read path := attempt (IO.FS.readBinFile path)
  write path text := attempt (IO.FS.writeFile path text)
  append path text := attempt (appendText path text)
  print := IO.print
  complain := IO.eprint
  elapsed := return (← IO.monoMsNow) - start

end Atomistic.Inspect

/-- Inspect a system stored in a file. -/
def main (arguments : List String) : IO UInt32 := do
  let start ← IO.monoMsNow
  Atomistic.Inspect.command (Atomistic.Inspect.realHost start) arguments
