import Atomistic.Inspect.Files
import Atomistic.Proofs.Registries
import Atomistic.Proofs.Results

/-!
# Files that are written

The file that a path leads to does not depend on what the files hold
(`Atomistic.Inspect.Directory.leads_iff`).  What was written to a file can be read by every path
that leads to it, and all other files stay as they are; only the null device keeps nothing.
-/

namespace Atomistic.Inspect

namespace Directory

variable {directory after : Directory}

/-- Whether the parts of a path lead to a place does not depend on what the files hold; the error
does, if they lead to none. -/
theorem follow_toOption (other : Directory) (parts : List String) : ∀ folder,
    (directory.follow folder parts).toOption = (other.follow folder parts).toOption := by
  induction parts with
  | nil => exact fun _ => rfl
  | cons part rest ih =>
      intro folder
      rw [follow, follow]
      by_cases here : part = "" ∨ part = "."
      · rw [if_pos here, if_pos here]
        exact ih folder
      rw [if_neg here, if_neg here]
      by_cases up : part = ".."
      · rw [if_pos up, if_pos up]
        exact ih folder.parent
      rw [if_neg up, if_neg up]
      cases folder.child? part with
      | some child => exact ih child
      | none =>
          dsimp only
          split_ifs
          · rfl
          · rfl
          · cases checkName part <;> rfl

/-- A path leads to a file, whether that is there or not. -/
def Leads (path file : String) : Prop := locate {} path = .ok (.file file)

private theorem leads_iff (directory : Directory) {path file : String} :
    Leads path file ↔ directory.locate path = .ok (.file file) := by
  have same : (locate {} path).toOption = (directory.locate path).toOption := by
    rw [locate, locate]
    by_cases nul : path.toList.contains '\x00'
    · rw [if_pos nul, if_pos nul]
    rw [if_neg nul, if_neg nul]
    by_cases empty : path = ""
    · rw [if_pos empty, if_pos empty]
    rw [if_neg empty, if_neg empty]
    by_cases long : longestPath < path.utf8ByteSize
    · rw [if_pos long, if_pos long]
    rw [if_neg long, if_neg long]
    exact follow_toOption directory _ _
  have ok_iff {result : Except FileError Place} {place : Place} :
      result = .ok place ↔ result.toOption = some place := by
    cases result <;> simp [Except.toOption]
  rw [Leads, ok_iff, ok_iff, same]

/-- A path leads to one file only. -/
theorem Leads.unique {path file other : String} (leads : Leads path file)
    (also : Leads path other) : file = other := by
  cases leads.symm.trans also
  rfl

/-- The null device is always there and always empty. -/
theorem find?_null (directory : Directory) : directory.find? nullDevice = some .empty := if_pos rfl

/-- Every other file is what the directory has under its name. -/
theorem find?_file (directory : Directory) {file : String} (real : file ≠ nullDevice) :
    directory.find? file = Registry.find? directory.files file := if_neg real

/-- The name of a file in the directory is a path to it. -/
theorem leads_of_parts {name : String} (alone : parts name = [name])
    (plain : name.toList.contains '\x00' = false ∧ name.startsWith "/" = false)
    (named : name ≠ "" ∧ name ≠ "." ∧ name ≠ "..") (short : name.utf8ByteSize ≤ longestName) :
    Leads name name := by
  have within : ¬ longestPath < name.utf8ByteSize := by
    rw [longestName] at short
    rw [longestPath]
    omega
  have bare : (Folder.above 0).path name = name := by simp [Folder.path, String.join]
  have fits : checkName name = .ok () := if_neg (Nat.not_lt.mpr short)
  rw [Leads, locate, plain.1, plain.2, if_neg Bool.false_ne_true, if_neg named.1, if_neg within,
    if_neg Bool.false_ne_true, alone, follow, if_neg (not_or.mpr ⟨named.1, named.2.1⟩),
    if_neg named.2.2]
  simp only [Folder.child?, bare, fits]
  rfl

/-- What a file holds after a text was written to it. -/
def kept (file text : String) : ByteArray := if file = nullDevice then .empty else text.toUTF8

/-- A path that leads to a file changes that file, and nothing if it is the null device. -/
theorem change_eq {path file : String} (leads : Leads path file) (content : ByteArray → ByteArray) :
    directory.change path content = .ok (if file = nullDevice then directory
      else ⟨Registry.insert file (content ((directory.find? file).getD .empty))
        directory.files⟩) := by
  rw [change, (leads_iff directory).mp leads, ok_bind]
  dsimp only
  split_ifs <;> rfl

private theorem change_ok {path : String} {content : ByteArray → ByteArray}
    (changed : directory.change path content = .ok after) : ∃ file, Leads path file := by
  obtain ⟨place, located, changed⟩ := ok_of_bind changed
  cases place with
  | file file => exact ⟨file, (leads_iff directory).mpr located⟩
  | _ => cases changed

/-- After a change the other files are what they were. -/
theorem find?_change {path file : String} (leads : Leads path file)
    {content : ByteArray → ByteArray}
    (changed : directory.change path content = .ok after) (other : String) :
    after.find? other =
      if other = file ∧ file ≠ nullDevice then some (content ((directory.find? file).getD .empty))
      else directory.find? other := by
  rw [change_eq leads] at changed
  cases changed
  by_cases null : file = nullDevice
  · rw [if_pos null, if_neg fun both => both.2 null]
  · rw [if_neg null]
    by_cases same : other = file
    · subst same
      rw [find?_file _ null, if_pos ⟨rfl, null⟩, Registry.find?_insert,
        if_pos Std.ReflCmp.compare_self]
    rw [if_neg fun both => same both.1]
    by_cases device : other = nullDevice
    · rw [device, find?_null, find?_null]
    · rw [find?_file _ device, find?_file _ device, Registry.find?_insert,
        if_neg fun equal => same (Std.LawfulEqCmp.eq_of_compare equal)]

/-- A text is written exactly along the paths that lead to a file. -/
theorem write_ok_iff {path text : String} :
    (∃ after, directory.write path text = .ok after) ↔ ∃ file, Leads path file :=
  ⟨fun ⟨_, written⟩ => change_ok written, fun ⟨_, leads⟩ => ⟨_, change_eq leads _⟩⟩

/-- **A file holds what was written to it.** -/
theorem find?_write {path file text : String} (leads : Leads path file)
    (written : directory.write path text = .ok after) :
    after.find? file = some (kept file text) := by
  rw [find?_change leads written, kept]
  by_cases null : file = nullDevice
  · rw [if_neg fun both => both.2 null, if_pos null, null, find?_null]
  · rw [if_pos ⟨rfl, null⟩, if_neg null]

/-- A file is not changed by a change of another one. -/
theorem find?_change_of_not_leads {path other : String} {content : ByteArray → ByteArray}
    (changed : directory.change path content = .ok after) (elsewhere : ¬ Leads path other) :
    after.find? other = directory.find? other := by
  obtain ⟨file, leads⟩ := change_ok changed
  rw [find?_change leads changed, if_neg]
  rintro ⟨rfl, _⟩
  exact elsewhere leads

/-- What is read along a path is the content of the file it leads to. -/
theorem read_eq {path file : String} (leads : Leads path file) {content : ByteArray}
    (found : directory.find? file = some content) : directory.read path = .ok content := by
  rw [read, (leads_iff directory).mp leads, ok_bind]
  dsimp only
  rw [found]
  rfl

/-- The text of the file that a path leads to. -/
def text (directory : Directory) (path : String) : Except FileError String :=
  match directory.read path with
  | .error fault => .error fault
  | .ok content =>
    match String.fromUTF8? content with
    | some text => .ok text
    | none => .error .notText

/-- A file that holds the bytes of a text has that text. -/
theorem text_eq {directory : Directory} {path text : String}
    (holds : directory.read path = .ok text.toUTF8) : directory.text path = .ok text := by
  have decoded : String.fromUTF8? text.toUTF8 = some text := by
    rw [String.fromUTF8?, dif_pos (show text.toUTF8.IsValidUTF8 from text.isValidUTF8)]
    rfl
  rw [Directory.text, holds]
  dsimp only
  rw [decoded]

end Directory

end Atomistic.Inspect
