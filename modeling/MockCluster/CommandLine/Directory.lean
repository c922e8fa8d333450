import MockCluster.Bytes

/-!
# Files by paths

A directory maps relative paths to contents. A path is followed part by part: empty parts and `.` stay, `..` goes to
the folder above, and a name goes to the file or folder of that name. Every part but the first needs a folder to start
from. Above the directory there are folders, but nothing else is known of them.
-/

namespace MockCluster.CommandLine

/-- What was found at a path. -/
inductive FileState where
  /-- Nothing, for a reason. -/
  | absent (reason : String)
  /-- Something that cannot be read. -/
  | unreadable (reason : String)
  /-- A file. -/
  | content (bytes : Bytes)
  deriving DecidableEq, Repr

namespace FileState

/-- Whether nothing was found. -/
def isAbsent : FileState → Bool
  | absent _ => true
  | _ => false

/-- Nothing has the name. -/
def missing : FileState := .absent "No such file or directory (os error 2)"

/-- The path goes on from a file. -/
def throughFile : FileState := .absent "Not a directory (os error 20)"

/-- The path is too long. -/
def tooLong : FileState := .absent "File name too long (os error 36)"

/-- The path holds a NUL, which no path can. -/
def malformed : FileState := .absent "file name contained an unexpected NUL byte"

/-- There is a folder at the path. -/
def folder : FileState := .unreadable "Is a directory (os error 21)"

/-- The length in bytes from which on a path is too long. -/
def pathLimit : Nat := 4096

/-- What is at a path, as far as its text alone shows that nothing can be there. -/
def ofText? (path : String) : Option FileState :=
  if path.toList.contains '\x00' then some malformed
  else if path = "" then some missing
  else if pathLimit ≤ path.utf8ByteSize then some tooLong
  else none

end FileState

/-- Files with the parts of their paths. -/
structure Directory where
  files : List (List String × Bytes)

/-- A point that following a path leads to. -/
inductive Place where
  /-- A folder above the directory. -/
  | above
  /-- A folder in the directory, or the directory itself. -/
  | folder (parts : List String)
  /-- A file. -/
  | file (content : Bytes)
  deriving DecidableEq, Repr

namespace Directory

/-- The directory with the given files. -/
def ofList (files : List (String × Bytes)) : Directory :=
  ⟨files.map fun (path, content) => ((path.splitOn "/").filter fun part => part ≠ "" ∧ part ≠ ".", content)⟩

/-- Goes on by one part of a path. -/
def step (d : Directory) (place : Place) (part : String) : Except FileState Place :=
  match place with
  | .file _ => .error .throughFile
  | .above => if part = "" ∨ part = "." ∨ part = ".." then .ok .above else .error .missing
  | .folder parts =>
    if part = "" ∨ part = "." then .ok place
    else if part = ".." then .ok (if parts.isEmpty then .above else .folder parts.dropLast)
    else
      let parts := parts ++ [part]
      match d.files.lookup parts with
      | some content => .ok (.file content)
      | none => if d.files.any (parts.isPrefixOf ·.1) then .ok (.folder parts) else .error .missing

/-- What is at a path. -/
def find (d : Directory) (path : String) : FileState :=
  match FileState.ofText? path with
  | some found => found
  | none =>
    match (path.splitOn "/").foldlM d.step (if path.startsWith "/" then .above else .folder []) with
    | .error found => found
    | .ok (.file content) => .content content
    | .ok _ => .folder

end Directory

end MockCluster.CommandLine
