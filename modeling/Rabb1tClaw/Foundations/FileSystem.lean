import Mathlib.Logic.Function.Basic

namespace Foundations

/-!
# Files by path

A path is the list of its components, and a file system says what is at each
path.  The operations are those of a program that stages a file: making
directories, creating, writing and removing a file, changing its permissions,
and renaming it.  Every operation on a file leaves the other paths alone.
-/

/-- A component of a path; the name of a file is any bytes. -/
inductive Component where
  | root
  | current
  | up
  | normal (name : List UInt8)
  deriving DecidableEq, Repr

abbrev FilePath := List Component

namespace FilePath

/-- `path.parent()`. -/
def parent (path : FilePath) : Option FilePath :=
  match path.getLast? with
  | none => none
  | some .root => none
  | some _ => some path.dropLast

/-- `path.file_name()`. -/
def fileName (path : FilePath) : Option (List UInt8) :=
  match path.getLast? with
  | some (.normal name) => some name
  | _ => none

/-- `path.join(name)`. -/
def join (path : FilePath) (name : List UInt8) : FilePath := path ++ [.normal name]

theorem fileName_join (path : FilePath) (name : List UInt8) : fileName (join path name) = some name := by
  rw [fileName, join, List.getLast?_concat]

theorem parent_join (path : FilePath) (name : List UInt8) : parent (join path name) = some path := by
  rw [parent, join, List.getLast?_concat]
  exact congrArg some List.dropLast_concat

theorem name_eq_of_join_eq {path path' : FilePath} {name name' : List UInt8} (same : join path name = join path' name') :
    name = name' := by
  have last := congrArg fileName same
  rw [fileName_join, fileName_join] at last
  exact Option.some.inj last

theorem dir_eq_of_join_eq {path path' : FilePath} {name name' : List UInt8} (same : join path name = join path' name') :
    path = path' := by
  have parents := congrArg parent same
  rw [parent_join, parent_join] at parents
  exact Option.some.inj parents

/-- A path is not a part of its parent. -/
theorem not_prefix_parent {path dir : FilePath} (isParent : parent path = some dir) : ¬ path <+: dir := by
  intro within
  rw [parent] at isParent
  split at isParent
  · cases isParent
  · cases isParent
  · rename_i last ends
    rcases List.getLast?_eq_some_iff.mp ends with ⟨front, rfl⟩
    rcases Option.some.inj isParent with rfl
    have long := within.length_le
    rw [List.dropLast_concat, List.length_append, List.length_singleton] at long
    omega

end FilePath

inductive Node where
  | directory
  | file (content : List UInt8) (mode : Nat)
  deriving DecidableEq, Repr

/-- What is at each path. -/
abbrev FileSystem := FilePath → Option Node

namespace FileSystem

/-- Make the directories on the way to a directory, so many components deep. -/
def makeDirectories (files : FileSystem) (dir : FilePath) (depth : Nat) : FileSystem := fun path =>
  if path ≠ [] ∧ path <+: dir ∧ path.length ≤ depth ∧ files path = none then some .directory else files path

/-- Change what is at a path. -/
def change (files : FileSystem) (path : FilePath) (transform : Option Node → Option Node) : FileSystem :=
  Function.update files path (transform (files path))

/-- Open a file to write it from the start.  A file that exists keeps its mode. -/
def create (files : FileSystem) (path : FilePath) (mode : Nat) : FileSystem :=
  files.change path fun
    | some (.file _ kept) => some (.file [] kept)
    | _ => some (.file [] mode)

def setMode (files : FileSystem) (path : FilePath) (mode : Nat) : FileSystem :=
  files.change path fun
    | some (.file content _) => some (.file content mode)
    | other => other

/-- The file has the content. -/
def write (files : FileSystem) (path : FilePath) (content : List UInt8) : FileSystem :=
  files.change path fun
    | some (.file _ mode) => some (.file content mode)
    | other => other

/-- Remove a file, if there is one. -/
def remove (files : FileSystem) (path : FilePath) : FileSystem :=
  files.change path fun
    | some (.file _ _) => none
    | other => other

/-- The target is replaced. -/
def rename (files : FileSystem) (source target : FilePath) : FileSystem :=
  Function.update (Function.update files source none) target (files source)

/-- The content and the mode of a file. -/
def fileAt (files : FileSystem) (path : FilePath) : Option (List UInt8 × Nat) :=
  match files path with
  | some (.file content mode) => some (content, mode)
  | _ => none

/-! ## What an operation does -/

section

variable {files : FileSystem} {path other : FilePath}

theorem change_other (differs : other ≠ path) (transform : Option Node → Option Node) :
    files.change path transform other = files other :=
  Function.update_of_ne differs _ _

theorem change_self (files : FileSystem) (path : FilePath) (transform : Option Node → Option Node) :
    files.change path transform path = transform (files path) :=
  Function.update_self _ _ _

theorem create_other (differs : other ≠ path) (mode : Nat) : files.create path mode other = files other :=
  change_other differs _

theorem setMode_other (differs : other ≠ path) (mode : Nat) : files.setMode path mode other = files other :=
  change_other differs _

theorem write_other (differs : other ≠ path) (content : List UInt8) :
    files.write path content other = files other :=
  change_other differs _

theorem remove_other (differs : other ≠ path) : files.remove path other = files other :=
  change_other differs _

theorem create_self (files : FileSystem) (path : FilePath) (mode : Nat) :
    ∃ kept, files.create path mode path = some (.file [] kept) := by
  rw [create, change_self]
  rcases files path with _ | _ | ⟨content, kept⟩
  · exact ⟨mode, rfl⟩
  · exact ⟨mode, rfl⟩
  · exact ⟨kept, rfl⟩

theorem setMode_self {content : List UInt8} {old : Nat} (isFile : files path = some (.file content old))
    (mode : Nat) : files.setMode path mode path = some (.file content mode) := by
  rw [setMode, change_self, isFile]

theorem write_self {old : List UInt8} {mode : Nat} (isFile : files path = some (.file old mode))
    (content : List UInt8) : files.write path content path = some (.file content mode) := by
  rw [write, change_self, isFile]

theorem remove_self (files : FileSystem) (path : FilePath) (content : List UInt8) (mode : Nat) :
    files.remove path path ≠ some (.file content mode) := by
  rw [remove, change_self]
  rcases files path with _ | _ | ⟨content, kept⟩ <;> rintro ⟨⟩

theorem rename_other {source target : FilePath} (fromSource : other ≠ source) (fromTarget : other ≠ target) :
    files.rename source target other = files other := by
  rw [rename, Function.update_of_ne fromTarget, Function.update_of_ne fromSource]

theorem rename_target (files : FileSystem) (source target : FilePath) :
    files.rename source target target = files source :=
  Function.update_self _ _ _

theorem rename_source {source target : FilePath} (differs : source ≠ target) :
    files.rename source target source = none := by
  rw [rename, Function.update_of_ne differs, Function.update_self]

/-- Directories are made only where nothing was. -/
theorem makeDirectories_file (files : FileSystem) (dir : FilePath) (depth : Nat) (content : List UInt8)
    (mode : Nat) :
    files.makeDirectories dir depth other = some (.file content mode) ↔ files other = some (.file content mode) := by
  rw [makeDirectories]
  split
  · rename_i made
    rw [made.2.2.2]
    simp
  · exact Iff.rfl

/-- What is there stays. -/
theorem makeDirectories_of_ne_none {dir : FilePath} (present : files path ≠ none) (depth : Nat) :
    files.makeDirectories dir depth path = files path :=
  if_neg fun made => present made.2.2.2

theorem fileAt_congr {other : FileSystem} (same : files path = other path) :
    files.fileAt path = other.fileAt path := by
  rw [fileAt, same, ← fileAt]

theorem fileAt_makeDirectories (files : FileSystem) (dir : FilePath) (depth : Nat) (path : FilePath) :
    (files.makeDirectories dir depth).fileAt path = files.fileAt path := by
  by_cases made : path ≠ [] ∧ path <+: dir ∧ path.length ≤ depth ∧ files path = none
  · have directory : files.makeDirectories dir depth path = some .directory := if_pos made
    rw [fileAt, fileAt, directory, made.2.2.2]
  · exact fileAt_congr (if_neg made)

theorem fileAt_of_eq {content : List UInt8} {mode : Nat} (isFile : files path = some (.file content mode)) :
    files.fileAt path = some (content, mode) := by
  rw [fileAt, isFile]

theorem makeDirectories_other {dir : FilePath} (outside : ¬ path <+: dir) (depth : Nat) :
    files.makeDirectories dir depth path = files path :=
  if_neg fun made => outside made.2.1

end

end FileSystem

end Foundations
