import Atomistic.Registry

/-!
# Files

What can go wrong when a file is read or written, and a directory as a value:
named files without directories among them.  A path is followed from the
directory or from the root.  The directories above it, the root and those that
every system has below the root are known to be there; they hold no files at
first, apart from the null device.
-/

namespace Atomistic.Inspect

/-- Why a file was not read or written. -/
inductive FileError
  | notFound
  | isDirectory
  | notDirectory
  | nameTooLong
  | nulCharacter
  | notText
  | other (text : String)
deriving DecidableEq

namespace FileError

/-- The message of an error. -/
def message : FileError → String
  | notFound => "No such file or directory (os error 2)"
  | isDirectory => "Is a directory (os error 21)"
  | notDirectory => "Not a directory (os error 20)"
  | nameTooLong => "File name too long (os error 36)"
  | nulCharacter => "file name contained an unexpected NUL byte"
  | notText => "stream did not contain valid UTF-8"
  | other text => text

end FileError

/-- A directory that a path can pass through. -/
inductive Folder
  /-- The directory itself, or the one that many steps above it. -/
  | above (steps : Nat)
  | root
  /-- A directory below the root that every system has. -/
  | system (name : String)

namespace Folder

/-- The directories below the root that every system has. -/
def systemNames : List String := ["dev", "tmp"]

/-- The directory that contains a directory.  The root contains itself. -/
def parent : Folder → Folder
  | above steps => above (steps + 1)
  | root | system _ => root

/-- The directory with a name in a directory, if it is known to be one. -/
def child? : Folder → String → Option Folder
  | root, name => if systemNames.contains name then some (system name) else none
  | _, _ => none

/-- The shortest path to a name in a directory. -/
def path (folder : Folder) (name : String) : String :=
  match folder with
  | above steps => String.join (List.replicate steps "../") ++ name
  | root => "/" ++ name
  | system directory => "/" ++ directory ++ "/" ++ name

end Folder

/-- The files that a directory leads to, in the order of the shortest paths to
them.  A file in the directory itself has its name as its path. -/
structure Directory where
  files : List (String × ByteArray) := []

/-- Where a path leads to. -/
inductive Place
  | directory
  /-- A file, whether it is there or not. -/
  | file (path : String)
  /-- The last part of a path with slashes after it, which only a directory can
  have, and the shortest path to it. -/
  | slashed (name path : String)

namespace Directory

/-- The null device, which is empty and keeps nothing. -/
def nullDevice : String := "/dev/null"

/-- The content of the file at a shortest path. -/
def find? (directory : Directory) (path : String) : Option ByteArray :=
  if path = nullDevice then some .empty else Registry.find? directory.files path

/-- The longest name that a file can have, in bytes. -/
def longestName : Nat := 255

/-- The longest path, in bytes. -/
def longestPath : Nat := 4095

/-- Check that a file can have a name. -/
def checkName (name : String) : Except FileError Unit :=
  if longestName < name.utf8ByteSize then .error .nameTooLong else .ok ()

/-- The error at a file, or at no file, where a directory is needed. -/
def noDirectory (directory : Directory) (path : String) : FileError :=
  if (directory.find? path).isSome then .notDirectory else .notFound

/-- Follow the parts of a path between its slashes from a folder on.  A name is
looked at when the path gets to it. -/
def follow (directory : Directory) (folder : Folder) : List String → Except FileError Place
  | [] => .ok .directory
  | part :: rest =>
    if part = "" ∨ part = "." then directory.follow folder rest
    else if part = ".." then directory.follow folder.parent rest
    else
      match folder.child? part with
      | some child => directory.follow child rest
      | none => do
        let path := folder.path part
        if rest ≠ [] ∧ rest.all fun part => part == "" then return .slashed part path
        checkName part
        if rest = [] then return .file path
        throw (directory.noDirectory path)

/-- The parts of a path between its slashes. -/
def parts (path : String) : List String := (path.toList.splitOn '/').map String.ofList

/-- Find out where a path leads to. -/
def locate (directory : Directory) (path : String) : Except FileError Place :=
  if path.toList.contains '\x00' then .error .nulCharacter
  else if path = "" then .error .notFound
  else if longestPath < path.utf8ByteSize then .error .nameTooLong
  else directory.follow (if path.startsWith "/" then .root else .above 0) (parts path)

/-- The content of the file that a path leads to. -/
def read (directory : Directory) (path : String) : Except FileError ByteArray := do
  match ← directory.locate path with
  | .directory => throw .isDirectory
  | .slashed name path =>
    checkName name
    throw (directory.noDirectory path)
  | .file path =>
    let some content := directory.find? path | throw .notFound
    return content

/-- Change the content of the file that a path leads to.  A file that is not there
is made, from no content.  Slashes after the name are refused before the name is
looked at. -/
def change (directory : Directory) (path : String) (content : ByteArray → ByteArray) :
    Except FileError Directory := do
  match ← directory.locate path with
  | .directory | .slashed .. => throw .isDirectory
  | .file path =>
    if path = nullDevice then return directory
    let old := (directory.find? path).getD .empty
    return ⟨Registry.insert path (content old) directory.files⟩

/-- Replace the content of a file. -/
def write (directory : Directory) (path text : String) : Except FileError Directory :=
  directory.change path fun _ => text.toUTF8

/-- Write at the end of a file. -/
def append (directory : Directory) (path text : String) : Except FileError Directory :=
  directory.change path fun old => old ++ text.toUTF8

end Directory

end Atomistic.Inspect
