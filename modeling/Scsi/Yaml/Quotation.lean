import Scsi.Text.Hex
import Scsi.Yaml.Gap

/-!
# Quoted scalars

How the characters between two quotes stand for a text. Between single quotes only the quote itself
is written in a special way, twice; between double quotes a backslash starts an escape, and a line
break behind a backslash stands for nothing. No mark around a document may stand inside.

## Main definitions

* `Scalar`: a scalar that was read, and what follows it
* `Quotation.single?`, `Quotation.double?`: the scalar from behind its opening quote on
-/

namespace Scsi.Yaml

/-- A scalar that was read: its text, the place behind it and the characters from there on. -/
structure Scalar where
  text : List Char
  place : Place
  rest : List Char
deriving DecidableEq

/-- The scalar with characters before its text. -/
def Scalar.prepend (cs : List Char) (s : Scalar) : Scalar := { s with text := cs ++ s.text }

namespace Quotation

/-- The characters that a backslash and one character stand for. -/
def escapes : List (Char × Char) :=
  [('0', '\x00'), ('a', '\x07'), ('b', '\x08'), ('t', '\t'), ('\t', '\t'), ('n', '\n'),
    ('v', '\x0b'), ('f', '\x0c'), ('r', '\r'), ('e', '\x1b'), (' ', ' '), ('"', '"'), ('/', '/'),
    ('\\', '\\'), ('N', '\u0085'), ('_', '\u00a0'), ('L', '\u2028'), ('P', '\u2029')]

/-- A single-quoted scalar, behind whose last word there is a gap. -/
def singleFrom (p : Place) (g : Gap) : List Char → Option Scalar
  | [] => none
  | '\'' :: '\'' :: rest =>
    (singleFrom (p.past ['\'', '\'']) .empty rest).map (·.prepend (g.text ++ ['\'']))
  | c :: rest =>
    if isBlank c || isBreak c then singleFrom (p.after c) (g.adding c) rest
    else if c = '\'' then some ⟨g.text, p.after c, rest⟩
    else if p.column = 0 && atMark (c :: rest) then none
    else (singleFrom (p.after c) .empty rest).map (·.prepend (g.text ++ [c]))

/-- A double-quoted scalar, behind whose last word there is a gap. -/
def doubleFrom (p : Place) (g : Gap) : List Char → Option Scalar
  | [] => none
  | '\\' :: 'x' :: a :: b :: rest => do
    let c ← Hex.char? [a, b]
    (doubleFrom (p.past ['\\', 'x', a, b]) .empty rest).map (·.prepend (g.text ++ [c]))
  | '\\' :: 'u' :: a :: b :: c :: d :: rest => do
    let digits := [a, b, c, d]
    let c ← Hex.char? digits
    (doubleFrom (p.past ('\\' :: 'u' :: digits)) .empty rest).map (·.prepend (g.text ++ [c]))
  | '\\' :: 'U' :: a :: b :: c :: d :: e :: f :: g' :: h :: rest => do
    let digits := [a, b, c, d, e, f, g', h]
    let c ← Hex.char? digits
    (doubleFrom (p.past ('\\' :: 'U' :: digits)) .empty rest).map (·.prepend (g.text ++ [c]))
  | '\\' :: c :: rest => do
    if isBreak c then
      (doubleFrom (p.past ['\\', c]) (.broken none []) rest).map (·.prepend g.text)
    else
      let meant ← escapes.lookup c
      (doubleFrom (p.past ['\\', c]) .empty rest).map (·.prepend (g.text ++ [meant]))
  | c :: rest =>
    if isBlank c || isBreak c then doubleFrom (p.after c) (g.adding c) rest
    else if c = '"' then some ⟨g.text, p.after c, rest⟩
    else if c = '\\' || p.column = 0 && atMark (c :: rest) then none
    else (doubleFrom (p.after c) .empty rest).map (·.prepend (g.text ++ [c]))

/-- The single-quoted scalar from behind its opening quote on. -/
def single? (p : Place) (cs : List Char) : Option Scalar := singleFrom p .empty cs

/-- The double-quoted scalar from behind its opening quote on. -/
def double? (p : Place) (cs : List Char) : Option Scalar := doubleFrom p .empty cs

/-- The written form of a text between single quotes, with the closing quote. -/
def written : List Char → List Char
  | [] => ['\'']
  | c :: rest => if c = '\'' then '\'' :: '\'' :: written rest else c :: written rest

end Quotation

end Scsi.Yaml
