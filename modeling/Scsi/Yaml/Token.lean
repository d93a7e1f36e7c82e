import Scsi.Yaml.Plain
import Scsi.Yaml.Tag

/-!
# Tokens

A YAML document as the row of its tokens. Between brackets the tokens are those that are written;
outside of them the columns give the structure, so the starts and ends of blocks are tokens, too.
A key need not have a sign of its own: the token for it is put in front of what was read when its
colon comes. Anchors, aliases, block scalars and directives are not read.

## Main definitions

* `Token`: a token
* `Token.Reader`: the state of reading, and `Token.Reader.next?` of one more token
* `Token.ofText?`: the tokens of a document

## Main results

* `Token.ofText?_empty`: an empty document has no tokens
-/

namespace Scsi.Yaml

/-- A token of a document. -/
inductive Token
  | scalar (plain : Bool) (text : String)
  | tag (tag : Tag)
  | documentStart
  | documentEnd
  /-- The start of a list whose items stand in one column. -/
  | listStart
  /-- The start of a map whose keys stand in one column. -/
  | mapStart
  | blockEnd
  | listOpen
  | listClose
  | mapOpen
  | mapClose
  | comma
  | dash
  | key
  | value
deriving DecidableEq

namespace Token

/-- A place where a key may have begun: how many tokens are before it, where it is, and whether
nothing but a key may stand there. -/
structure Candidate where
  before : Nat
  place : Place
  required : Bool

/-- Whether the colon can no longer follow: it has to come in the same line and within 1024
bytes. -/
def Candidate.isLost (k : Candidate) (p : Place) : Bool :=
  k.place.line < p.line || k.place.offset + 1024 < p.offset

/-- The state of reading. -/
structure Reader where
  place : Place
  /-- The characters that are still to be read. -/
  rest : List Char
  tokens : Array Token
  /-- The columns of the blocks that are open, the innermost first. -/
  columns : List Nat
  /-- Where a key may have begun between the innermost brackets. -/
  candidate : Option Candidate
  /-- Where keys may have begun around the open brackets, the innermost first. -/
  around : List (Option Candidate)
  /-- Whether a key may begin at the next token. -/
  mayStartKey : Bool

namespace Reader

/-- The state before the first character. -/
def start (cs : List Char) : Reader := ⟨.start, cs, #[], [], none, [], true⟩

/-- Whether a bracket is open. -/
def inside (r : Reader) : Bool := !r.around.isEmpty

/-- What decides where a plain scalar ends. -/
def surroundings (r : Reader) : Plain.Surroundings :=
  ⟨r.inside, match r.columns with
    | [] => 0
    | column :: _ => column + 1⟩

/-- The state behind characters and the token that they are. -/
def push (r : Reader) (t : Token) (cs rest : List Char) : Reader :=
  { r with place := r.place.past cs, rest, tokens := r.tokens.push t }

/-- The state behind a scalar. -/
def pushScalar (r : Reader) (plain : Bool) (s : Scalar) : Reader :=
  { r with
    place := s.place
    rest := s.rest
    tokens := r.tokens.push (.scalar plain (String.ofList s.text)) }

/-- Opens a block at a column, unless the innermost one stands there already. Its start is put in
front of all but the first tokens. -/
def openBlock (r : Reader) (column before : Nat) (t : Token) : Reader :=
  if r.inside || r.columns.head?.any (column ≤ ·) then r
  else
    { r with
      columns := column :: r.columns
      tokens := r.tokens.insertIdxIfInBounds before t }

/-- Closes the blocks whose columns are not wanted any more. -/
def closeBlocks (r : Reader) (isWanted : Nat → Bool) : Reader :=
  if r.inside then r
  else
    let kept := r.columns.dropWhile (!isWanted ·)
    let closed := r.columns.length - kept.length
    { r with columns := kept, tokens := r.tokens ++ Array.replicate closed .blockEnd }

/-- Gives up the candidate for a key; none if a key was required. -/
def dropCandidate? (r : Reader) : Option Reader :=
  if r.candidate.any (·.required) then none else some { r with candidate := none }

/-- Gives up the candidate for a key if its colon can no longer follow. -/
def review? (r : Reader) : Option Reader :=
  if r.candidate.any (·.isLost r.place) then r.dropCandidate? else some r

/-- Makes the next token the candidate for a key if one may begin there. Where the keys of a block
stand, nothing else may. -/
def propose? (r : Reader) : Option Reader := do
  if !r.mayStartKey then return r
  let r ← r.dropCandidate?
  let required := !r.inside && r.columns.head? = some r.place.column
  return { r with candidate := some ⟨r.tokens.size, r.place, required⟩ }

/-! ## Gaps and comments -/

/-- The place of the next token, whether a key may begin there, and the characters from there on;
`inComment` tells whether a comment was begun. A tab must not stand where a key may begin, and a
byte order mark only at the start of a line. -/
def gapFrom (inside : Bool) (p : Place) (mayStartKey inComment : Bool) :
    List Char → Place × Bool × List Char
  | [] => (p, mayStartKey, [])
  | c :: rest =>
    if isBreak c then gapFrom inside (p.after c) (mayStartKey || !inside) false rest
    else if inComment || c = '#' then gapFrom inside (p.after c) mayStartKey true rest
    else if c = ' ' || c = '\t' && (inside || !mayStartKey) || c = '\ufeff' && p.column = 0 then
      gapFrom inside (p.after c) mayStartKey false rest
    else (p, mayStartKey, c :: rest)

/-- The state in front of the next token. -/
def afterGap (r : Reader) : Reader :=
  let (place, mayStartKey, rest) := gapFrom r.inside r.place r.mayStartKey false r.rest
  { r with place, mayStartKey, rest }

/-! ## The kinds of tokens -/

/-- Reads a mark around a document. -/
def mark? (r : Reader) (t : Token) : Option Reader := do
  let r ← (r.closeBlocks fun _ => false).dropCandidate?
  return { r with mayStartKey := false }.push t (r.rest.take 3) (r.rest.drop 3)

/-- Reads an opening bracket. A key may begin with it, and behind it. -/
def openBracket? (r : Reader) (t : Token) (c : Char) (rest : List Char) : Option Reader := do
  let r ← r.propose?
  let r := { r with candidate := none, around := r.candidate :: r.around, mayStartKey := true }
  return r.push t [c] rest

/-- Reads a closing bracket. -/
def closeBracket? (r : Reader) (t : Token) (c : Char) (rest : List Char) : Option Reader := do
  let r ← r.dropCandidate?
  let r := { r with
    candidate := r.around.head?.getD none
    around := r.around.tail
    mayStartKey := false }
  return r.push t [c] rest

/-- Reads the comma between two items. -/
def comma? (r : Reader) (rest : List Char) : Option Reader := do
  let r ← r.dropCandidate?
  return { r with mayStartKey := true }.push .comma [','] rest

/-- Reads the dash before an item. -/
def dash? (r : Reader) (rest : List Char) : Option Reader := do
  if !r.inside && !r.mayStartKey then none
  let r ← (r.openBlock r.place.column r.tokens.size .listStart).dropCandidate?
  return { r with mayStartKey := true }.push .dash ['-'] rest

/-- Reads the sign of a key. -/
def key? (r : Reader) (rest : List Char) : Option Reader := do
  if !r.inside && !r.mayStartKey then none
  let r ← (r.openBlock r.place.column r.tokens.size .mapStart).dropCandidate?
  return { r with mayStartKey := !r.inside }.push .key ['?'] rest

/-- Reads the colon before a value. If there is a candidate, it was the key. -/
def value? (r : Reader) (rest : List Char) : Option Reader :=
  match r.candidate with
  | some k =>
    let r := { r with
      tokens := r.tokens.insertIdxIfInBounds k.before .key
      candidate := none
      mayStartKey := false }
    some ((r.openBlock k.place.column k.before .mapStart).push .value [':'] rest)
  | none =>
    if !r.inside && !r.mayStartKey then none
    else
      let r := r.openBlock r.place.column r.tokens.size .mapStart
      some ({ r with mayStartKey := !r.inside }.push .value [':'] rest)

/-- Reads a tag from behind its first character. -/
def tag? (r : Reader) (rest : List Char) : Option Reader := do
  let r ← r.propose?
  let (found, after) ← Tag.read? rest
  if !(atGap after || r.inside && after.head? = some ',') then none
  let read := '!' :: rest.take (rest.length - after.length)
  return { r with mayStartKey := false }.push (.tag found) read after

/-- Reads a quoted scalar from behind its first quote. -/
def quoted? (r : Reader) (quote : Char) (rest : List Char) : Option Reader := do
  let r ← r.propose?
  let p := r.place.after quote
  let s ← if quote = '"' then Quotation.double? p rest else Quotation.single? p rest
  return { r with mayStartKey := false }.pushScalar false s

/-- Reads a plain scalar. Behind a line break a key may begin. -/
def plain? (r : Reader) : Option Reader := do
  let r ← r.propose?
  let (s, broken) ← Plain.read? r.surroundings r.place r.rest
  return { r with mayStartKey := broken }.pushScalar true s

/-- The characters that no token starts with, though they are not blank: the signs of anchors,
aliases, block scalars and directives, and the two that are reserved. -/
def unreadSigns : List Char := ['&', '*', '|', '>', '%', '@', '`']

/-- Reads the next token, whose first character is `c`. -/
def token? (r : Reader) (c : Char) (rest : List Char) : Option Reader :=
  if r.place.column = 0 && atMark (c :: rest) then
    r.mark? (if c = '-' then .documentStart else .documentEnd)
  else
    match c with
    | '[' => r.openBracket? .listOpen c rest
    | '{' => r.openBracket? .mapOpen c rest
    | ']' => r.closeBracket? .listClose c rest
    | '}' => r.closeBracket? .mapClose c rest
    | ',' => r.comma? rest
    | '!' => r.tag? rest
    | '\'' | '"' => r.quoted? c rest
    | '-' => if atGap rest then r.dash? rest else r.plain?
    | '?' => if r.inside || atGap rest then r.key? rest else r.plain?
    | ':' => if r.inside || atGap rest then r.value? rest else r.plain?
    | _ => if isBlank c || unreadSigns.contains c then none else r.plain?

/-- Reads all tokens from a state on. The number bounds the count of tokens that have
characters. -/
def tokens? : Nat → Reader → Option (List Token)
  | 0, _ => none
  | steps + 1, r => do
    let r ← r.afterGap.review?
    let r := r.closeBlocks (· ≤ r.place.column)
    match r.rest with
    | [] => do
      let r ← (r.closeBlocks fun _ => false).dropCandidate?
      return r.tokens.toList
    | c :: rest => tokens? steps (← r.token? c rest)

end Reader

/-- The tokens of a document; none if a character or a token of it is refused. -/
def ofText? (document : String) : Option (List Token) :=
  let cs := document.toList
  if cs.all isAllowed then (Reader.start (withLineFeeds cs)).tokens? (cs.length + 1) else none

theorem ofText?_empty : ofText? "" = some [] := by decide +kernel

end Token

end Scsi.Yaml
