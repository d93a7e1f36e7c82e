import Scsi.Text.Hex

/-!
# JSON strings

## Main definitions

* `JsonString.escape`: the written form of one character
* `JsonString.text`: a text as a JSON string
-/

namespace Scsi.JsonString

/-- The characters that have a short escape. -/
def shortEscapes : List (Char × Char) :=
  [('"', '"'), ('\\', '\\'), ('\x08', 'b'), ('\t', 't'), ('\n', 'n'), ('\x0c', 'f'), ('\r', 'r')]

/-- The written form of one character. -/
def escape (c : Char) : List Char :=
  match shortEscapes.lookup c with
  | some letter => ['\\', letter]
  | none => if c < ' ' then ['\\', 'u'] ++ Hex.padded 4 c.toNat else [c]

/-- A text as a JSON string. -/
def text (s : String) : String :=
  String.ofList (['"'] ++ s.toList.flatMap escape ++ ['"'])

end Scsi.JsonString
