import Scsi.Files.Path

/-!
# File trees

The files below a working directory, and the walk from the root along the steps of a path.

## Main definitions

* `FileTree`: a working directory and its files
* `FileTree.resolve?`: the path of what a path leads to, without detours
* `FileTree.read?`: the text of a file
* `FileTree.destination?`, `FileTree.append`: where a file is made, and text put at its end
* `FileTree.listing`: the files of a directory
-/

namespace Scsi

/-- A working directory, as the steps from the root to it, and the texts of the files below it, each
with the steps from the working directory. -/
structure FileTree where
  home : List String
  files : List (List String × String)

namespace FileTree

/-- The files with the steps from the root. -/
def located (t : FileTree) : List (List String × String) :=
  t.files.map fun (steps, text) => (t.home ++ steps, text)

/-- Whether the steps lead from the root to a directory. -/
def isDirectory (t : FileTree) (steps : List String) : Bool :=
  steps.isPrefixOf t.home ||
    t.located.any fun (file, _) => steps.isPrefixOf file && steps.length < file.length

/-- Whether the steps lead from the root to a file or a directory. -/
def contains (t : FileTree) (steps : List String) : Bool :=
  t.isDirectory steps || t.located.any fun (file, _) => file = steps

/-- Where one step leads. It can only be taken from a directory. -/
def step? (t : FileTree) (place : List String) (name : String) : Option (List String) :=
  if !t.isDirectory place then none
  else if name = "" || name = "." then some place
  else if name = ".." then some place.dropLast
  else if t.contains (place ++ [name]) then some (place ++ [name])
  else none

/-- Where the steps lead. -/
def walk? (t : FileTree) (place : List String) (steps : List String) : Option (List String) :=
  steps.foldlM t.step? place

/-- The path of a place. -/
def path (place : List String) : String := "/" ++ "/".intercalate place

/-- The path of the working directory. -/
def homePath (t : FileTree) : String := path t.home

/-- The place that an absolute path leads to. -/
def find? (t : FileTree) (p : String) : Option (List String) := t.walk? [] (Path.steps p)

/-- The path of what an absolute path leads to, without detours. -/
def resolve? (t : FileTree) (p : String) : Option String := (t.find? p).map path

/-- The text of the file that an absolute path leads to. -/
def read? (t : FileTree) (p : String) : Option String := do
  t.located.lookup (← t.find? p)

/-- The place of the file at a path once the directories on its way are made. There is none if the
way leads through a file, if a name is not possible, or if a directory is at the place. -/
def destination? (t : FileTree) (p : String) : Option (List String) := do
  let isFile (place : List String) : Bool := t.located.any fun (file, _) => file = place
  let move (place : List String) (name : String) : Option (List String) :=
    if isFile place || !Path.isName name then none
    else some (if name = ".." then place.dropLast else place ++ [name])
  let place ← (Path.moves p).foldlM move (if Path.isAbsolute p then [] else t.home)
  if t.isDirectory place then none else return place

/-- The tree with text at the end of the file at a place, which is made if it is not there. A place
that is not below the working directory is not looked after. -/
def append (t : FileTree) (place : List String) (text : String) : FileTree :=
  if t.home.isPrefixOf place then
    let steps := place.drop t.home.length
    let old := (t.files.lookup steps).getD ""
    { t with files := (steps, old ++ text) :: t.files.filter (·.1 ≠ steps) }
  else t

/-- The names and texts of the files of a directory below the working directory, by name. -/
def listing (t : FileTree) (directory : List String) : List (String × String) :=
  let named := t.files.filterMap fun (steps, text) =>
    if steps.dropLast = directory then steps.getLast?.map fun name => (name, text) else none
  named.mergeSort fun a b => a.1 ≤ b.1

end FileTree

end Scsi
