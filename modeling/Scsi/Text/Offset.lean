/-!
# Byte offsets

Texts cut at byte offsets. A character takes one to four bytes, so an offset may lie inside of a
character; there a text cannot be cut.

## Main definitions

* `Offset.size`: how many bytes characters take
* `Offset.drop?`, `Offset.take?`: the characters from an offset on, and those before it
* `Offset.between?`: the characters between two offsets
-/

namespace Scsi.Offset

/-- How many bytes characters take. -/
def size : List Char → Nat
  | [] => 0
  | c :: cs => c.utf8Size + size cs

/-- The characters from an offset on. -/
def drop? : Nat → List Char → Option (List Char)
  | 0, cs => some cs
  | _ + 1, [] => none
  | n + 1, c :: cs => if c.utf8Size ≤ n + 1 then drop? (n + 1 - c.utf8Size) cs else none

/-- The characters before an offset. -/
def take? : Nat → List Char → Option (List Char)
  | 0, _ => some []
  | _ + 1, [] => none
  | n + 1, c :: cs =>
    if c.utf8Size ≤ n + 1 then (take? (n + 1 - c.utf8Size) cs).map (c :: ·) else none

/-- The characters between two offsets. -/
def between? (first last : Nat) (cs : List Char) : Option (List Char) :=
  (drop? first cs).bind (take? (last - first))

end Scsi.Offset
