import Scsi.Yaml.Node

/-!
# Values of nodes

The numbers, truth values, choices and records that nodes stand for. Only plain scalars stand for
numbers, truth values and nothing; a text or a choice may be quoted.

## Main definitions

* `Node.text?`, `Node.natural?`, `Node.truth?`: the value of a scalar
* `Node.choice?`: the choice that a scalar's text or its tag names
* `Node.given?`: a value that may be left empty
* `Node.listOf?`, `Node.entries?`: the items of a list, the entries of a map
* `Entries.required?`, `Entries.defaulted?`: the value of a key that must not come twice

## Main results

* `Entries.value?_eq_some_iff`: a key has a value exactly if one entry has that key
-/

namespace Scsi.Yaml

/-- The number whose digits in a base are `digits`; none if there is no digit or another
character. -/
def numeral? (base : Nat) (digits : List Char) : Option Nat :=
  if digits.isEmpty then none
  else digits.foldlM (fun n c =>
    (Hex.value? c).bind fun d => if d < base then some (base * n + d) else none) 0

/-- The number that a plain text stands for: decimal digits without a zero in front, or `0x`, `0o`
or `0b` and digits of that base; a `+` may stand before it. -/
def natural? (text : List Char) : Option Nat :=
  let unsigned := if text.head? = some '+' then text.tail else text
  match unsigned with
  | ['0'] => some 0
  | '0' :: 'x' :: digits => numeral? 16 digits
  | '0' :: 'o' :: digits => numeral? 8 digits
  | '0' :: 'b' :: digits => numeral? 2 digits
  | '0' :: _ => none
  | digits => numeral? 10 digits

/-- The plain texts that stand for nothing. -/
def nullTexts : List String := ["", "null", "Null", "NULL", "~"]

/-- The plain texts that stand for truth values. -/
def truthTexts : List (String × Bool) :=
  [("true", true), ("True", true), ("TRUE", true), ("false", false), ("False", false),
    ("FALSE", false)]

namespace Node

/-- The text of a scalar. -/
def text? : Node → Option String
  | scalar _ _ text => some text
  | _ => none

/-- The text of a plain scalar. -/
def plainText? : Node → Option String
  | scalar _ true text => some text
  | _ => none

/-- The number of a plain scalar, if it is not above the limit. -/
def natural? (limit : Nat) (node : Node) : Option Nat := do
  let n ← Yaml.natural? (← node.plainText?).toList
  if n ≤ limit then some n else none

/-- The truth value of a plain scalar. -/
def truth? (node : Node) : Option Bool := do truthTexts.lookup (← node.plainText?)

/-- Whether the node is a plain scalar that stands for nothing. -/
def isNull (node : Node) : Bool := node.plainText?.any nullTexts.contains

/-- The tag of a node. -/
def tag? : Node → Option Tag
  | scalar tag _ _ | list tag _ | map tag _ => tag

/-- The choice that a scalar's text names; a choice that a tag names has nothing as its value. -/
def choice? {α : Type} (names : List (String × α)) (node : Node) : Option α :=
  match node.tag? with
  | some (.own name) => if node.isNull then names.lookup name else none
  | some (.shared _) => none
  | none => do names.lookup (← node.text?)

/-- A value, or none of it. A plain scalar without a tag is none if its text stands for nothing;
with the tag of nothing its text has to be one of those that do, and not empty. -/
def given? {α : Type} (read : Node → Option α) (node : Node) : Option (Option α) :=
  match node.plainText?, node.tag? with
  | some text, none => if nullTexts.contains text then some none else (read node).map some
  | some text, some tag =>
    if tag ≠ Tag.null then (read node).map some
    else if text ≠ "" && nullTexts.contains text then some none
    else none
  | none, _ => (read node).map some

/-- The items of a list; a plain scalar without text is an empty list. -/
def listOf? {α : Type} (read : Node → Option α) : Node → Option (List α)
  | list _ items => items.mapM read
  | scalar _ true "" => some []
  | _ => none

/-- The entries of a map whose keys are scalars, by their texts; a plain scalar without text is an
empty map. -/
def entries? : Node → Option (List (String × Node))
  | map _ entries => entries.mapM fun (key, value) => key.text?.map fun text => (text, value)
  | scalar _ true "" => some []
  | _ => none

end Node

namespace Entries

variable {α : Type}

/-- The value of a key that may be missing; it must not come twice. -/
def value? (entries : List (String × Node)) (key : String) : Option (Option Node) :=
  match entries.filter (·.1 = key) with
  | [] => some none
  | [entry] => some (some entry.2)
  | _ => none

/-- The value of a key that must be there. -/
def required? (entries : List (String × Node)) (key : String) (read : Node → Option α) :
    Option α := do
  read (← (← value? entries key))

/-- The value of a key, or `default` if it is missing. -/
def defaulted? (entries : List (String × Node)) (key : String) (default : α)
    (read : Node → Option α) : Option α := do
  match ← value? entries key with
  | none => some default
  | some node => read node

theorem value?_eq_some_iff {entries : List (String × Node)} {key : String} {node : Node} :
    value? entries key = some (some node) ↔
      (entries.filter (·.1 = key)).map (·.2) = [node] := by
  unfold value?
  split
  next h => simp only [h]; simp
  next entry h => simp only [h]; simp
  next h =>
    constructor
    · intro hEq
      cases hEq
    · intro hEq
      obtain ⟨entry, hEntry, _⟩ := List.map_eq_singleton_iff.mp hEq
      exact absurd hEntry (h entry)

end Entries

end Scsi.Yaml
