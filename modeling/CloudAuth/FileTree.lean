import CloudAuth.FileSystem

/-!
# File trees

The file system that consists of some files below the working directory. A name is walked component by
component, as the operating system does it. Outside the working directory there are directories, but no
files.
-/

namespace CloudAuth

namespace ReadFailure

/-- There is nothing of that name. -/
def missing : ReadFailure := ⟨2, ⟨"No such file or directory", by decide⟩, true⟩

/-- Something on the way is no directory. -/
def notDirectory : ReadFailure := ⟨20, ⟨"Not a directory", by decide⟩, true⟩

/-- The name leads to a directory. -/
def isDirectory : ReadFailure := ⟨21, ⟨"Is a directory", by decide⟩, true⟩

/-- A component of the name, or the whole name, is too long. -/
def nameTooLong : ReadFailure := ⟨36, ⟨"File name too long", by decide⟩, true⟩

end ReadFailure

/-- The files below the working directory. A directory is there when a file is below it. -/
structure FileTree where
  /-- Each file with the names that lead to it. -/
  files : List (List Bytes × Bytes)
  deriving DecidableEq, Repr

namespace FileTree

/-- The byte between the components of a name. -/
def slashByte : UInt8 := 0x2F

/-- The component for the directory above. -/
def parent : Bytes := [0x2E, 0x2E]

/-- The components of a name, but for those that lead nowhere else. -/
def componentsOf (name : Bytes) : List Bytes :=
  (Path.piecesFrom slashByte [] name).filter fun piece => piece ≠ [] ∧ piece ≠ [0x2E]

/-- The tree of files given by their paths. -/
def ofFiles (files : List (Text × Bytes)) : FileTree :=
  ⟨files.filterMap fun (path, bytes) =>
    (Path.ofText path).fileName.toOption.map fun name => (componentsOf name, bytes)⟩

/-- Where a walk has come to. -/
inductive Place where
  /-- The directory below the working directory that these names lead to. -/
  | directory (names : List Bytes)
  /-- A file. -/
  | file (bytes : Bytes)
  /-- A directory that is not below the working directory. -/
  | outside
  deriving DecidableEq, Repr

/-- What is at the end of some names. -/
def at? (tree : FileTree) (names : List Bytes) : Option Place :=
  match tree.files.find? fun file => file.1 == names with
  | some (_, bytes) => some (.file bytes)
  | none =>
    if names.isEmpty ∨ tree.files.any (fun file => names.isPrefixOf file.1) then
      some (.directory names)
    else none

/-- The most bytes that a component can have. -/
def maxComponent : Nat := 255

/-- The most bytes that a name can have. -/
def maxName : Nat := 4095

/-- Goes on from a place by one component. -/
def enter (tree : FileTree) (place : Place) (component : Bytes) : Except ReadFailure Place :=
  match place with
  | .file _ => .error .notDirectory
  | .outside =>
    if component = parent then .ok .outside
    else .error (if maxComponent < component.length then .nameTooLong else .missing)
  | .directory names =>
    if component = parent then .ok (if names.isEmpty then .outside else .directory names.dropLast)
    else if maxComponent < component.length then .error .nameTooLong
    else
      match tree.at? (names ++ [component]) with
      | some place => .ok place
      | none => .error .missing

/-- The bytes at a place. -/
def contentAt : Place → Except ReadFailure Bytes
  | .file bytes => .ok bytes
  | _ => .error .isDirectory

/-- The place where a name starts. -/
def start (name : Bytes) : Place := if name.head? = some slashByte then .outside else .directory []

/-- Reads the file of a name. -/
def read (tree : FileTree) : FileSystem := fun name =>
  if maxName < name.length then .error .nameTooLong
  else ((componentsOf name).foldlM tree.enter (start name)).bind contentAt

end FileTree

end CloudAuth
