import Scsi.Text.Invisible

/-!
# Quoted text

A text inside double quotes, as record texts and error messages show it. The double quote, the
backslash and every character that would not show are written as an escape.

## Main definitions

* `Quoted.escape`: the written form of one character
* `Quoted.text`: a quoted text
-/

namespace Scsi.Quoted

/-- The written form of one character. -/
def escape (c : Char) : List Char :=
  if c = '\x00' then ['\\', '0']
  else if c = '\t' then ['\\', 't']
  else if c = '\r' then ['\\', 'r']
  else if c = '\n' then ['\\', 'n']
  else if c = '\\' || c = '"' then ['\\', c]
  else if Invisible.hides c then
    ['\\', 'u', '\x7b'] ++ Nat.toDigits 16 c.toNat ++ ['\x7d']
  else [c]

/-- A quoted text. -/
def text (s : String) : String := String.ofList (['"'] ++ s.toList.flatMap escape ++ ['"'])

example : text "SCSI \"a\"\n" = "\"SCSI \\\"a\\\"\\n\"" := by decide +kernel
example : text "it's" = "\"it's\"" := by decide +kernel

end Scsi.Quoted
