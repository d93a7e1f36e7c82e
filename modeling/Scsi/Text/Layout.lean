/-!
# Record texts

The one-line text of a record, as logs and diagnostics show it: the record's name and its fields
in braces, or its name and its parts in parentheses.

## Main definitions

* `Layout.record`: `Name \x7b field: value, field: value \x7d`
* `Layout.openRecord`: the same for a record that shows only some of its fields
* `Layout.applied`: `Name(part, part)`
-/

namespace Scsi.Layout

/-- One field of a record and the text of its value. -/
abbrev Field := String × String

/-- The fields in order, each as its name, a colon and its value. -/
def fields (fs : List Field) : String :=
  ", ".intercalate (fs.map fun f => f.1 ++ ": " ++ f.2)

/-- The text of a record that shows all its fields. -/
def record (name : String) (fs : List Field) : String :=
  name ++ " \x7b " ++ fields fs ++ " \x7d"

/-- The text of a record that hides some of its fields, which two points stand for. -/
def openRecord (name : String) (fs : List Field) : String :=
  name ++ " \x7b " ++ fields fs ++ ", .. \x7d"

/-- The text of a name with its parts in parentheses. -/
def applied (name : String) (parts : List String) (separator : String) : String :=
  name ++ "(" ++ separator.intercalate parts ++ ")"

/-- The text of a truth value. -/
def truth (b : Bool) : String := if b then "true" else "false"

/-- The text of a value that may be missing. -/
def optional (text : Option String) : String :=
  match text with
  | some text => applied "Some" [text] ""
  | none => "None"

end Scsi.Layout
