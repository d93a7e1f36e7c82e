import Scsi.Text.Hex

/-!
# Tags

A tag says what a node is. Behind its exclamation mark there is a name of one's own, also in angle
brackets, or a second mark and a name that everyone shares. In a name a percent sign and two digits
stand for a byte.

## Main definitions

* `Tag`: a tag, and `Tag.null`, the shared one of what stands for nothing
* `Tag.read?`: the tag behind its mark, and what follows it
-/

namespace Scsi.Yaml

/-- A tag. -/
inductive Tag
  | own (name : String)
  | shared (name : String)
deriving DecidableEq

namespace Tag

/-- The tag of what stands for nothing. -/
def null : Tag := shared "null"

/-- The characters of words. -/
def isWordChar (c : Char) : Bool := c.isAlphanum || c = '-' || c = '_'

/-- The characters of names. -/
def isNameChar (bracketed : Bool) (c : Char) : Bool :=
  isWordChar c || ";/?:@&=+$.!~*'()".toList.contains c || bracketed && [',', '[', ']'].contains c

/-- The bytes of a name, and what follows it. -/
def bytesFrom? (bracketed : Bool) : List Char → Option (Bytes × List Char)
  | [] => some ([], [])
  | '%' :: a :: b :: rest => do
    let byte := 16 * (← Hex.value? a) + (← Hex.value? b)
    let (bytes, rest) ← bytesFrom? bracketed rest
    return (UInt8.ofNat byte :: bytes, rest)
  | c :: rest =>
    if isNameChar bracketed c then do
      let (bytes, rest) ← bytesFrom? bracketed rest
      return (UInt8.ofNat c.toNat :: bytes, rest)
    else if c = '%' then none
    else some ([], c :: rest)

/-- A name, and what follows it. -/
def name? (bracketed : Bool) (cs : List Char) : Option (String × List Char) := do
  let (bytes, rest) ← bytesFrom? bracketed cs
  return (← String.fromUTF8? ⟨bytes.toArray⟩, rest)

/-- A name that is not empty, and what follows it. -/
def someName? (bracketed : Bool) (cs : List Char) : Option (String × List Char) := do
  let (name, rest) ← name? bracketed cs
  if name.isEmpty then none
  return (name, rest)

/-- The tag with a name in angle brackets, whose mark is not a part of it. -/
def ofWhole (name : String) : Tag :=
  match name.toList with
  | '!' :: rest => own (String.ofList rest)
  | _ => own name

/-- The tag from behind its mark on, and what follows it. A word between two marks would have to be
declared. -/
def read? (cs : List Char) : Option (Tag × List Char) :=
  match cs with
  | '<' :: rest => do
    let (name, rest) ← someName? true rest
    match rest with
    | '>' :: rest => return (ofWhole name, rest)
    | _ => none
  | '!' :: rest => (someName? false rest).map fun (name, rest) => (shared name, rest)
  | cs =>
    match cs.dropWhile isWordChar with
    | '!' :: _ => none
    | _ => (name? false cs).map fun (name, rest) => (own name, rest)

example : read? "Code 7".toList = some (own "Code", " 7".toList) := by decide +kernel
example : read? "!null ~".toList = some (null, " ~".toList) := by decide +kernel
example : read? "<!C%6fde>".toList = some (own "Code", []) := by decide +kernel
example : read? "a!b".toList = none := by decide +kernel

end Tag

end Scsi.Yaml
