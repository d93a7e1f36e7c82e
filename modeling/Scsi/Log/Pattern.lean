import Scsi.Text.Hex
import Scsi.Text.Word

/-!
# Patterns

A directive may ask that the value of a span's field matches a pattern, which is a regular
expression. No event is reported inside of a span, so patterns are never matched; but a directive
with a pattern that is not well-formed is refused.

Patterns know no classes of letters beyond ASCII. What would need one is refused as long as the
flag `u` is on, which it is at first: `\d`, `\s` and `\w`, the borders of words, and letters
without regard to case. With the flag off these are about ASCII, and what might match a part of a
character's bytes is refused. A value of a directive holds no closing brace. So what needs one is
never complete: a counted repetition, a class with a long name, a code in braces.

## Main definitions

* `Pattern.Mode`: the flags that decide what is allowed
* `Pattern.isWellFormed`: whether a text is a pattern

## Main results

* `Pattern.isWellFormed_ofPlain`: a text of characters without a meaning is a pattern
-/

namespace Scsi.Log

namespace Pattern

/-- The flags that decide what is allowed: whether upper and lower case are the same, whether all
characters count and not only ASCII, and whether white space and comments are passed over. -/
structure Mode where
  caseless : Bool
  wide : Bool
  spaced : Bool
deriving DecidableEq

namespace Mode

/-- The flags at the start of a pattern. -/
def usual : Mode := ⟨false, true, false⟩

/-- The letters of the flags; four of them change only what is matched. -/
def letters : List Char := ['i', 'm', 's', 'U', 'u', 'R', 'x']

/-- The mode with a flag switched on or off. -/
def set (m : Mode) (flag : Char) (on : Bool) : Mode :=
  match flag with
  | 'i' => { m with caseless := on }
  | 'u' => { m with wide := on }
  | 'x' => { m with spaced := on }
  | _ => m

/-- Whether a character may be asked for; `isByte` if it is written as the code of a byte. -/
def admits (m : Mode) (inClass isByte : Bool) (c : Char) : Bool :=
  if m.wide then !m.caseless else c ≤ '\x7f' || !(inClass || isByte)

/-- Whether a class of ASCII with a name in brackets is allowed. -/
def admitsNamed (m : Mode) (negated : Bool) : Bool := if m.wide then !m.caseless else !negated

/-- The characters behind white space and comments. -/
def pastSpace (inComment : Bool) : List Char → List Char
  | [] => []
  | c :: rest =>
    if inComment then pastSpace (c ≠ '\n') rest
    else if Word.isSpace c then pastSpace false rest
    else if c = '#' then pastSpace true rest
    else c :: rest

/-- The characters from the next one on that counts. -/
def skip (m : Mode) (cs : List Char) : List Char := if m.spaced then pastSpace false cs else cs

/-- The character that decides whether a dash before it stands for itself. Of a comment only the
sign is passed over. -/
def peek (m : Mode) (cs : List Char) : Option Char :=
  if m.spaced then
    match cs.dropWhile Word.isSpace with
    | '#' :: rest => (rest.dropWhile Word.isSpace).head?
    | rest => rest.head?
  else cs.head?

end Mode

/-! ## Escapes -/

/-- What an escape stands for: a character, one of the classes `\d`, `\s` and `\w`, or a border of
the text or of a word. -/
inductive Escape
  | char (c : Char) (isByte : Bool)
  | shorthand (negated : Bool)
  | border (ofWord : Bool)
deriving DecidableEq

/-- The first hexadecimal digits, as many as are asked for, and the rest. -/
def hexDigits? (m : Mode) : Nat → List Char → Option (List Char × List Char)
  | 0, cs => some ([], cs)
  | n + 1, cs =>
    match m.skip cs with
    | [] => none
    | c :: rest => do
      let _ ← Hex.value? c
      let (digits, rest) ← hexDigits? m n rest
      return (c :: digits, rest)

/-- How many digits a code has behind its letter. -/
def codeLengths : List (Char × Nat) := [('x', 2), ('u', 4), ('U', 8)]

/-- The letters that stand for characters without a sign of their own. -/
def controls : List (Char × Char) :=
  [('a', '\x07'), ('f', '\x0c'), ('t', '\t'), ('n', '\n'), ('r', '\r'), ('v', '\x0b')]

/-- The escape behind a backslash. Signs of ASCII stand for themselves. -/
def escape? (m : Mode) : List Char → Option (Escape × List Char)
  | [] => none
  | c :: rest =>
    match codeLengths.lookup c with
    | some length => do
      let (digits, rest) ← hexDigits? m length rest
      return (.char (← Hex.char? digits) (c = 'x'), rest)
    | none =>
      match controls.lookup c with
      | some control => some (.char control false, rest)
      | none =>
        if ['d', 's', 'w', 'D', 'S', 'W'].contains c then some (.shorthand c.isUpper, rest)
        else if ['b', 'B', '<', '>'].contains c then some (.border true, rest)
        else if ['A', 'z'].contains c then some (.border false, rest)
        else if c ≤ '\x7f' && !c.isAlphanum then some (.char c false, rest)
        else none

/-- Whether an escape is allowed outside of classes. -/
def Escape.isAllowed (m : Mode) : Escape → Bool
  | char c isByte => m.admits false isByte c
  | shorthand negated => !m.wide && !negated
  | border ofWord => !(ofWord && m.wide)

/-- Whether an escape is allowed as an item of a class. -/
def Escape.isItem (m : Mode) : Escape → Bool
  | char c isByte => m.admits true isByte c
  | shorthand negated => !m.wide && !negated
  | border _ => false

/-! ## Classes -/

/-- The names of classes in brackets and colons. -/
def classNames : List String :=
  ["alnum", "alpha", "ascii", "blank", "cntrl", "digit", "graph", "lower", "print", "punct",
    "space", "upper", "word", "xdigit"]

/-- The class with a name behind its bracket, and whether it is negated. -/
def named? : List Char → Option (Bool × List Char)
  | ':' :: cs =>
    let negated := cs.head? = some '^'
    let cs := if negated then cs.tail else cs
    match cs.dropWhile (· ≠ ':') with
    | ':' :: ']' :: rest =>
      if classNames.contains (String.ofList (cs.takeWhile (· ≠ ':'))) then some (negated, rest)
      else none
    | _ => none
  | _ => none

/-- The rest behind dashes that start a class, and whether there is one. -/
def leadingDashes (m : Mode) (found : Bool) : Nat → List Char → Bool × List Char
  | steps + 1, '-' :: rest => leadingDashes m true steps (m.skip rest)
  | _, cs => (found, cs)

/-- The start of a class behind its bracket. There dashes, and a bracket that would close it, stand
for themselves. -/
def classStart? (m : Mode) (cs : List Char) : Option (List Char) :=
  let cs := m.skip cs
  let negated := cs.head? = some '^'
  let cs := if negated then m.skip cs.tail else cs
  let (dashed, cs) := leadingDashes m false cs.length cs
  let bracketed := !dashed && cs.head? = some ']'
  let cs := if bracketed then m.skip cs.tail else cs
  if cs.isEmpty || negated && !m.wide || (dashed || bracketed) && !m.admits true false '-' then none
  else some cs

/-- An item of a class or an end of a range. -/
def item? (m : Mode) : List Char → Option (Escape × List Char)
  | [] => none
  | '\\' :: rest => escape? m rest
  | c :: rest => some (.char c false, rest)

/-- The end of a range behind its dash. -/
def rangeEnd? (m : Mode) (first : Escape) (cs : List Char) : Option (List Char) := do
  let (last, rest) ← item? m (m.skip cs)
  match first, last with
  | .char a _, .char b _ =>
    if a ≤ b && first.isItem m && last.isItem m then return rest
    none
  | _, _ => none

/-- An item or a range of a class. -/
def range? (m : Mode) (cs : List Char) : Option (List Char) := do
  let (first, rest) ← item? m cs
  match m.skip rest with
  | '-' :: after =>
    if m.peek after = some ']' || m.peek after = some '-' then
      if first.isItem m then return '-' :: after
      none
    else rangeEnd? m first after
  | rest => if first.isItem m then return rest else none

/-- The rest behind a class that is inside of `depth` others. -/
def classFrom? (m : Mode) (depth : Nat) : Nat → List Char → Option (List Char)
  | 0, _ => none
  | steps + 1, cs =>
    match m.skip cs with
    | [] => none
    | ']' :: rest =>
      match depth with
      | 0 => some rest
      | depth + 1 => classFrom? m depth steps rest
    | '[' :: rest =>
      match named? rest with
      | some (negated, rest) =>
        if m.admitsNamed negated then classFrom? m depth steps rest else none
      | none => do classFrom? m (depth + 1) steps (← classStart? m rest)
    | '&' :: '&' :: rest | '-' :: '-' :: rest | '~' :: '~' :: rest => classFrom? m depth steps rest
    | cs => do classFrom? m depth steps (← range? m cs)

/-- The rest behind a class whose first bracket was read. -/
def class? (m : Mode) (cs : List Char) : Option (List Char) := do
  classFrom? m 0 (cs.length + 1) (← classStart? m cs)

/-! ## Groups -/

/-- What an opening bracket starts: flags for what follows, or a group with or without a name. -/
inductive Opening
  | flags (m : Mode)
  | group (m : Mode) (name : Option (List Char))
deriving DecidableEq

/-- The mode that flags give, up to the sign that ends them. None may come twice, and flags that
are switched off follow a dash. -/
def flagsFrom? (m : Mode) (seen : List Char) : List Char → Option (Mode × List Char)
  | [] => none
  | c :: rest =>
    if c = ':' || c = ')' then
      if seen.head? = some '-' then none else some (m, c :: rest)
    else if seen.contains c || !('-' :: Mode.letters).contains c then none
    else flagsFrom? (m.set c (!seen.contains '-')) (c :: seen) rest

/-- Whether a text may be the name of a group. -/
def isName : List Char → Bool
  | [] => false
  | c :: rest =>
    (c = '_' || Word.isLetter c) &&
      rest.all fun d => ['_', '.', '[', ']'].contains d || Word.isPart d

/-- The name of a group, up to the sign behind it. -/
def groupName? (m : Mode) (cs : List Char) : Option (Opening × List Char) :=
  let name := cs.takeWhile (· ≠ '>')
  match cs.dropWhile (· ≠ '>') with
  | [] => none
  | _ :: rest => if isName name then some (.group m (some name), rest) else none

/-- What starts behind an opening bracket. -/
def opening? (m : Mode) (cs : List Char) : Option (Opening × List Char) :=
  match m.skip cs with
  | '?' :: 'P' :: '<' :: rest | '?' :: '<' :: rest => groupName? m rest
  | '?' :: rest => do
    match ← flagsFrom? m [] rest with
    | (m, ':' :: after) => return (.group m none, after)
    | (m, _ :: after) => if rest.head? = some ')' then none else return (.flags m, after)
    | _ => none
  | rest => some (.group m none, rest)

/-! ## Whole patterns -/

/-- The state of reading: the flags, those around the groups that are open, the names of groups,
and whether something was read that could be repeated. -/
structure Reader where
  mode : Mode
  around : List Mode
  names : List (List Char)
  repeatable : Bool

/-- Whether the pattern goes on well from a state. -/
def goesOn (r : Reader) : Nat → List Char → Bool
  | 0, _ => false
  | steps + 1, cs =>
    let next := { r with repeatable := true }
    match r.mode.skip cs with
    | [] => r.around.isEmpty
    | '(' :: rest =>
      match opening? r.mode rest with
      | none => false
      | some (.flags m, rest) => goesOn { r with mode := m, repeatable := false } steps rest
      | some (.group m name, rest) =>
        !name.any r.names.contains &&
          goesOn ⟨m, r.mode :: r.around, name.toList ++ r.names, false⟩ steps rest
    | ')' :: rest =>
      match r.around with
      | [] => false
      | outer :: around => goesOn { next with mode := outer, around } steps rest
    | '|' :: rest => goesOn { r with repeatable := false } steps rest
    | '[' :: rest => (class? r.mode rest).any (goesOn next steps)
    | '{' :: _ => false
    | '\\' :: rest =>
      (escape? r.mode rest).any fun (escape, rest) =>
        escape.isAllowed r.mode && goesOn next steps rest
    | c :: rest =>
      if c = '?' || c = '*' || c = '+' then
        r.repeatable && goesOn next steps (if rest.head? = some '?' then rest.tail else rest)
      else
        (match c with
          | '^' | '$' => true
          | '.' => r.mode.wide
          | c => r.mode.admits false false c) && goesOn next steps rest

/-- Whether a text is a pattern. -/
def isWellFormed (cs : List Char) : Bool := goesOn ⟨.usual, [], [], false⟩ (cs.length + 1) cs

/-- Whether a character means nothing in a pattern. -/
def isPlain (c : Char) : Bool :=
  !(['(', ')', '|', '[', '{', '\\', '?', '*', '+', '^', '$', '.'].contains c)

theorem goesOn_ofPlain {cs : List Char} (h : ∀ c ∈ cs, isPlain c = true)
    (names : List (List Char)) (repeatable : Bool) :
    goesOn ⟨.usual, [], names, repeatable⟩ (cs.length + 1) cs = true := by
  induction cs generalizing repeatable with
  | nil => rfl
  | cons c cs ih =>
    have hc := h c (by simp)
    have hcs := ih (fun d hd => h d (by simp [hd])) true
    simp only [isPlain, List.contains_cons, Bool.not_eq_true', Bool.or_eq_false_iff,
      beq_eq_false_iff_ne] at hc
    simp_all [goesOn, Mode.skip, Mode.usual, Mode.admits]

theorem isWellFormed_ofPlain {cs : List Char} (h : ∀ c ∈ cs, isPlain c = true) :
    isWellFormed cs = true :=
  goesOn_ofPlain h [] false

example : isWellFormed "a*|[^b-d&&[:alpha:]]+?(?<n>x.)$".toList = true := by decide +kernel
example : isWellFormed "*".toList = false ∧ isWellFormed "(".toList = false := by decide +kernel
example : isWellFormed "\\d".toList = false ∧ isWellFormed "(?-u)\\d".toList = true := by
  decide +kernel

end Pattern

end Scsi.Log
