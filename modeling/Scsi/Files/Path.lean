/-!
# Paths

A path is a text whose steps stand between slashes.

## Main definitions

* `Path.steps`: the steps of a path, empty ones included
* `Path.joined`: a path as seen from a directory
* `Path.isName`: whether a file can have a name
* `Path.fileName?`, `Path.directory`: the last step if it names a file, and the path before it
-/

namespace Scsi.Path

/-- Whether a path starts at the root. -/
def isAbsolute (path : String) : Bool := path.toList.head? = some '/'

/-- The pieces of a text between slashes. -/
def pieces : List Char → List (List Char)
  | [] => [[]]
  | c :: rest =>
    if c = '/' then [] :: pieces rest
    else
      match pieces rest with
      | [] => [[c]]
      | piece :: more => (c :: piece) :: more

/-- The steps of a path, in order. A slash at its start or its end and two slashes in a row leave
empty steps. -/
def steps (path : String) : List String := (pieces path.toList).map String.ofList

/-- A path as seen from a directory. -/
def joined (directory path : String) : String :=
  if isAbsolute path then path
  else if directory.toList.getLast? = some '/' then directory ++ path
  else directory ++ "/" ++ path

/-- The steps that lead somewhere else than to where they start. -/
def moves (path : String) : List String := (steps path).filter fun s => s ≠ "" ∧ s ≠ "."

/-- Whether a file or a directory can have the name: it takes at most 255 bytes and has no NUL. -/
def isName (name : String) : Bool := name.utf8ByteSize ≤ 255 && !name.toList.contains '\x00'

/-- The last step of a path, if it is the name of a file. -/
def fileName? (path : String) : Option String :=
  match (moves path).getLast? with
  | some name => if name = ".." then none else some name
  | none => none

/-- The path before the last step. -/
def directory (path : String) : String :=
  (if isAbsolute path then "/" else "") ++ "/".intercalate (moves path).dropLast

end Scsi.Path
