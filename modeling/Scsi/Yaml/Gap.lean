import Scsi.Yaml.Place

/-!
# Gaps

The blanks and line breaks between two words of a scalar, and what they stand for. Blanks inside a
line stand for themselves. A line break takes the blanks around it away: a single line feed stands
for a space, and of several the first one stands for nothing.

## Main definitions

* `Gap`: a gap, built up by `Gap.adding` from its characters
* `Gap.text`: the text that a gap stands for
-/

namespace Scsi.Yaml

/-- The blanks and line breaks between two words. -/
inductive Gap
  /-- Blanks inside a line, the last one first. -/
  | blanks (cs : List Char)
  /-- The first line break, none if it is escaped, and the further ones, the last one first. -/
  | broken (first : Option Char) (more : List Char)
deriving DecidableEq

namespace Gap

/-- No gap at all. -/
def empty : Gap := .blanks []

/-- Whether a line break is in the gap. -/
def isBroken : Gap → Bool
  | blanks _ => false
  | broken _ _ => true

/-- The gap with a further blank or line break. -/
def adding (g : Gap) (c : Char) : Gap :=
  match g with
  | blanks cs => if isBreak c then broken (some c) [] else blanks (c :: cs)
  | broken first more => if isBreak c then broken first (c :: more) else broken first more

/-- The text that a gap stands for. -/
def text : Gap → List Char
  | blanks cs => cs.reverse
  | broken (some '\n') [] => [' ']
  | broken (some '\n') more => more.reverse
  | broken (some c) more => c :: more.reverse
  | broken none more => more.reverse

theorem text_empty : empty.text = [] := rfl

end Gap

end Scsi.Yaml
