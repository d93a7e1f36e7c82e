import Scsi.Log.Event
import Scsi.Log.Pattern
import Scsi.Text.Offset

/-!
# Log filters

A filter decides which events are logged. It is a row of directives, each with the least severe
level that it lets pass. A directive is about the events of the parts whose paths start with its
target, and may ask for a field, as in `target[{field}]=level`. A directive may also name a span of
activity, or ask for the value of a field of one; no event is reported inside of a span, so such a
directive decides nothing. For an event the closest directive decides.

The signs of a directive are sought behind the white space in front of it, but its parts are cut
out at the offsets of the signs from there, counted from the very start. Without white space in
front these are the parts between the signs; otherwise they are shifted, and a cut may even fall
inside of a character.

## Main definitions

* `Log.Threshold`: what a directive lets pass
* `Log.Directive`, `Log.Filter`: a directive, and the directives of a filter
* `Log.Filter.passes`: whether an event is logged
* `Log.Filter.ofText`: the filter that a text stands for
-/

namespace Scsi.Log

/-- The least severe level that passes; none passes nothing. -/
abbrev Threshold := Option Level

/-- Whether a level passes. -/
def Threshold.admits (t : Threshold) (level : Level) : Bool := t.any (level.rank ≤ ·.rank)

/-- The words for thresholds; each may also be given by its place in the list. -/
def Threshold.words : List (String × Threshold) :=
  [("off", none), ("error", some .error), ("warn", some .warn), ("info", some .info),
    ("debug", some .debug), ("trace", some .trace)]

/-- The number that decimal digits stand for, with or without a `+` in front of them. -/
def decimal? (cs : List Char) : Option Nat :=
  let digits := if cs.head? = some '+' then cs.tail else cs
  if digits.isEmpty || !digits.all Char.isDigit then none
  else some (digits.foldl (fun n c => 10 * n + (c.toNat - '0'.toNat)) 0)

/-- The threshold that a text stands for. -/
def Threshold.ofText? (cs : List Char) : Option Threshold :=
  match decimal? cs with
  | some n => (words[n]?).map (·.2)
  | none => words.lookup (String.ofList (cs.map Char.toLower))

/-- What a directive is about. -/
inductive Scope
  /-- The events of the parts whose paths start with the target, and that have the field, if the
  directive asks for one. -/
  | events (target : List Char) (field : Option String)
  /-- What happens in spans. -/
  | spans
deriving DecidableEq

/-- What passes of what a directive is about. -/
structure Directive where
  scope : Scope
  threshold : Threshold

namespace Scope

/-- Whether an event has a field. The message is one, too. -/
def hasField (e : Event) (name : String) : Bool :=
  name = "message" || e.fields.any (·.1 = name)

/-- Whether a directive is about an event. -/
def concerns (s : Scope) (e : Event) : Bool :=
  match s with
  | events target field => target.isPrefixOf e.source.path.toList && field.all (hasField e)
  | spans => false

/-- Whether a scope is at least as close to the events of both as another: its target is longer, or
is equally long and its field does not come before that of the other. -/
def isAsClose : Scope → Scope → Bool
  | events target field, events otherTarget otherField =>
    otherTarget.length < target.length || otherTarget.length = target.length &&
      match field, otherField with
      | some name, some otherName => otherName ≤ name
      | none, some _ => false
      | _, none => true
  | spans, events _ _ => false
  | _, spans => true

end Scope

/-- Why a text gives no filter: it is malformed, or a cut falls inside of a character. -/
inductive FilterError
  | malformed
  | splitsCharacter
deriving DecidableEq

namespace Directive

/-- The characters of a directive between two offsets. -/
def cut (cs : List Char) (first last : Nat) : Except FilterError (List Char) :=
  match Offset.between? first last cs with
  | some part => .ok part
  | none => .error .splitsCharacter

/-- The threshold from an offset on. Nothing there lets everything pass. -/
def thresholdFrom (cs : List Char) (first : Nat) : Except FilterError Threshold := do
  let level ← cut cs first (Offset.size cs)
  if level.isEmpty then return some .trace
  match Threshold.ofText? level with
  | some threshold => return threshold
  | none => .error .malformed

/-- A number without the sign in front of it. -/
def unsigned (cs : List Char) : List Char :=
  if cs.head? = some '+' || cs.head? = some '-' then cs.tail else cs

/-- Whether a text is a number: digits with or without a point, a sign and an exponent, or one of
the words for what is none. -/
def isNumber (cs : List Char) : Bool :=
  let digits := unsigned cs
  let whole := digits.takeWhile Char.isDigit
  let (fraction, rest) :=
    match digits.dropWhile Char.isDigit with
    | '.' :: rest => (rest.takeWhile Char.isDigit, rest.dropWhile Char.isDigit)
    | rest => ([], rest)
  let isDecimal :=
    !(whole ++ fraction).isEmpty &&
      match rest with
      | [] => true
      | c :: exponent =>
        (c = 'e' || c = 'E') && !(unsigned exponent).isEmpty &&
          (unsigned exponent).all Char.isDigit
  isDecimal || ["inf", "infinity", "nan"].contains (String.ofList (digits.map Char.toLower))

/-- The scope that a field gives, without a span or with one: whoever asks for its value, which is
a number or a pattern, asks a span. What follows a second sign `=` is passed over. -/
def fieldScope? (target : List Char) (ofSpan : Bool) (field : List Char) : Option Scope :=
  match field.dropWhile (· ≠ '=') with
  | [] => some (if ofSpan then .spans else .events target (some (String.ofList field)))
  | _ :: rest =>
    let value := rest.takeWhile (· ≠ '=')
    if isNumber value || Pattern.isWellFormed value then some .spans else none

/-- The threshold behind brackets. -/
def afterBrackets (cs : List Char) (offset : Nat) : List Char → Except FilterError Threshold
  | [] => .ok (some .trace)
  | '=' :: _ => thresholdFrom cs (offset + 1)
  | _ => .error .malformed

/-- The directive whose bracket ends at an offset, with the characters from there on: a span's
name, a field in braces, or both. -/
def bracketed (cs target : List Char) (first : Nat) (rest : List Char) :
    Except FilterError Directive := do
  let span := rest.takeWhile fun c => c ≠ ']' && c ≠ '\x7b'
  let last := first + Offset.size span
  match rest.dropWhile fun c => c ≠ ']' && c ≠ '\x7b' with
  | ']' :: rest =>
    let _ ← cut cs first last
    return ⟨.spans, ← afterBrackets cs (last + 1) rest⟩
  | '\x7b' :: rest =>
    let _ ← cut cs first last
    let field := rest.takeWhile (· ≠ '\x7d')
    match rest.dropWhile (· ≠ '\x7d') with
    | [] => .error .malformed
    | _ :: rest =>
      let fieldLast := last + 1 + Offset.size field
      let field ← cut cs (last + 1) fieldLast
      if field.isEmpty then .error .malformed
      let some scope := fieldScope? target (!span.isEmpty) field | .error .malformed
      match rest with
      | ']' :: rest => return ⟨scope, ← afterBrackets cs (fieldLast + 2) rest⟩
      | _ => .error .malformed
  | _ => .error .malformed

/-- The directive that a text stands for: a threshold for every part, a target of which everything
passes, or a scope and its threshold. -/
def ofText (cs : List Char) : Except FilterError Directive := do
  match Word.trimmed cs with
  | [] => .error .malformed
  | '[' :: rest => bracketed cs [] 1 rest
  | c :: rest =>
    if !(Word.isPart c || ['-', ':', '_'].contains c) then .error .malformed
    let last := Offset.size ((c :: rest).takeWhile fun c => c ≠ '=' && c ≠ '[')
    match (c :: rest).dropWhile fun c => c ≠ '=' && c ≠ '[' with
    | [] =>
      match Threshold.ofText? cs with
      | some threshold => return ⟨.events [] none, threshold⟩
      | none => return ⟨.events cs none, some .trace⟩
    | '[' :: rest => bracketed cs (← cut cs 0 last) (last + 1) rest
    | _ =>
      let target ← cut cs 0 last
      return ⟨.events target none, ← thresholdFrom cs (last + 1)⟩

end Directive

/-- The directives of a filter, in the order in which they were given. -/
abbrev Filter := List Directive

namespace Filter

/-- Of two directives the closer one; the later one, if they are equally close. -/
def closer (d : Option Directive) (later : Directive) : Option Directive :=
  match d with
  | none => some later
  | some d => if later.scope.isAsClose d.scope then some later else some d

/-- The directive that decides about an event. -/
def deciding? (f : Filter) (e : Event) : Option Directive :=
  (f.filter (·.scope.concerns e)).foldl closer none

/-- Whether an event is logged. -/
def passes (f : Filter) (e : Event) : Bool :=
  (f.deciding? e).any (·.threshold.admits e.level)

/-- The parts of a text between commas. -/
def parts : List Char → List (List Char)
  | [] => [[]]
  | c :: rest =>
    if c = ',' then [] :: parts rest
    else
      match parts rest with
      | [] => [[c]]
      | part :: more => (c :: part) :: more

/-- The filter that a text stands for; parts without a character are passed over. -/
def ofText (text : String) : Except FilterError Filter :=
  ((parts text.toList).filter (!·.isEmpty)).mapM Directive.ofText

end Filter

end Scsi.Log
