import Scsi.Files.Tree

/-!
# Look-ups

What the file system holds at a path, as a value.

## Main definitions

* `Lookup`: what was found at a path
* `FileTree.look`: a look-up in a file tree

## Main results

* `FileTree.resolved_look_isSome`: whatever has a text leads somewhere
-/

namespace Scsi

/-- What the file system holds at a path: the absolute path that was looked up, the same path
without detours if it leads anywhere, and the text if it leads to a file that can be read. -/
structure Lookup where
  asked : String
  resolved : Option String
  text : Option String

/-- What a file tree holds at a path, as seen from its working directory. -/
def FileTree.look (t : FileTree) (path : String) : Lookup :=
  let asked := Path.joined t.homePath path
  { asked, resolved := t.resolve? asked, text := t.read? asked }

theorem FileTree.resolved_look_isSome {t : FileTree} {path : String}
    (h : (t.look path).text.isSome = true) : (t.look path).resolved.isSome = true := by
  simp only [look, read?, resolve?] at *
  cases hFind : t.find? (Path.joined t.homePath path) with
  | none => simp [hFind] at h
  | some place => simp

end Scsi
