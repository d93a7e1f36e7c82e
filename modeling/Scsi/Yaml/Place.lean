/-!
# Places in a document

The characters of a YAML document and where they stand. The column of a character carries the
structure of a document without brackets; its line and its offset bound how long a key may be.

## Main definitions

* `isBlank`, `isBreak`, `isAllowed`: kinds of characters
* `atGap`, `atMark`: whether a gap, or a mark around the document, comes next
* `withLineFeeds`: the characters of a document with equal line breaks
* `Place`: where a character stands, and `Place.after` it
-/

namespace Scsi.Yaml

/-- A blank inside a line. -/
def isBlank (c : Char) : Bool := c = ' ' || c = '\t'

/-- A line break. The line separator and the paragraph separator are breaks of their own. -/
def isBreak (c : Char) : Bool := c = '\n' || c = '\u2028' || c = '\u2029'

/-- The characters that a document may hold. -/
def isAllowed (c : Char) : Bool :=
  c = '\t' || c = '\n' || c = '\r' || c = '\u0085' || ' ' ≤ c && c ≤ '~' ||
    '\u00a0' ≤ c && c ≤ '\ufffd' || 0x10000 ≤ c.toNat

/-- The characters with every line break written as a line feed, but for the two separators. -/
def withLineFeeds : List Char → List Char
  | [] => []
  | '\r' :: '\n' :: rest => '\n' :: withLineFeeds rest
  | c :: rest => (if c = '\r' || c = '\u0085' then '\n' else c) :: withLineFeeds rest

/-- Whether a blank, a line break or the end comes next. -/
def atGap : List Char → Bool
  | [] => true
  | c :: _ => isBlank c || isBreak c

/-- The marks around a document: three dashes before it, three dots behind it. -/
def documentMarks : List (List Char) := [['-', '-', '-'], ['.', '.', '.']]

/-- Whether a mark around a document comes next. It counts as one at the start of a line only. -/
def atMark (cs : List Char) : Bool := documentMarks.contains (cs.take 3) && atGap (cs.drop 3)

/-- Where a character stands: how many lines are before it, how many characters in its line, and
how many bytes in the document. -/
structure Place where
  line : Nat
  column : Nat
  offset : Nat
deriving DecidableEq

namespace Place

/-- The place of the first character. -/
def start : Place := ⟨0, 0, 0⟩

/-- The place behind a character. -/
def after (p : Place) (c : Char) : Place :=
  if isBreak c then ⟨p.line + 1, 0, p.offset + c.utf8Size⟩
  else ⟨p.line, p.column + 1, p.offset + c.utf8Size⟩

/-- The place behind characters. -/
def past (p : Place) (cs : List Char) : Place := cs.foldl after p

end Place

end Scsi.Yaml
