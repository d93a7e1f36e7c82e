import Scsi.Yaml.Token

/-!
# Nodes

A YAML document as a tree. A node between brackets is written with brackets; outside of them it may
also be a block, whose items or keys stand in one column. Where a node is expected, nothing may be
written; that is the same as an empty scalar.

## Main definitions

* `Node`: a scalar, a list or a map, with its tag
* `Node.ofTokens?`: the one node that the tokens of a document give
* `Node.ofText?`: the one node of a document; an empty document is an empty scalar

## Main results

* `Node.ofText?_empty`: an empty document is an empty plain scalar
-/

namespace Scsi.Yaml

/-- A node. A map keeps its entries in their order, also those whose key came before. -/
inductive Node
  | scalar (tag : Option Tag) (plain : Bool) (text : String)
  | list (tag : Option Tag) (items : List Node)
  | map (tag : Option Tag) (entries : List (Node × Node))

namespace Node

/-- The node that stands where nothing is written. -/
def nothing : Node := scalar none true ""

/-- The node with a tag. -/
def tagged (tag : Tag) : Node → Node
  | scalar _ plain text => scalar (some tag) plain text
  | list _ items => list (some tag) items
  | map _ entries => map (some tag) entries

/-- Where a node stands: as a key or a value of a block, as an item of a block, or between
brackets. -/
inductive Position
  | entry
  | item
  | bracketed
deriving DecidableEq

/-- Whether a node may start with a token. A list whose dashes stand straight below their key has
no start of its own. -/
def Position.admits (position : Position) : Token → Bool
  | .scalar _ _ | .listOpen | .mapOpen => true
  | .listStart | .mapStart => position ≠ .bracketed
  | .dash => position = .entry
  | _ => false

/-- The tokens that follow an item or an entry of a block. -/
def blockEnds : List Token := [.dash, .key, .value, .blockEnd]

mutual

/-- A node, or nothing if one of the tokens `ends` comes next. -/
def optional? (steps : Nat) (position : Position) (ends : List Token) (tokens : List Token) :
    Option (Node × List Token) :=
  match steps with
  | 0 => none
  | steps + 1 =>
    if tokens.head?.any (ends.contains ·) then some (nothing, tokens)
    else node? steps position tokens

/-- A node with or without a tag. Behind a tag nothing may be written. -/
def node? (steps : Nat) (position : Position) (tokens : List Token) :
    Option (Node × List Token) :=
  match steps, tokens with
  | steps + 1, .tag tag :: rest =>
    if rest.head?.any (position.admits ·) then
      (untagged? steps position rest).map fun (node, rest) => (node.tagged tag, rest)
    else some (nothing.tagged tag, rest)
  | steps + 1, tokens => untagged? steps position tokens
  | _, _ => none

/-- A node without a tag. -/
def untagged? (steps : Nat) (position : Position) (tokens : List Token) :
    Option (Node × List Token) :=
  match steps, tokens with
  | steps + 1, token :: rest =>
    if !position.admits token then none
    else
      match token with
      | .scalar plain text => some (scalar none plain text, rest)
      | .listOpen => (bracketedItems? steps rest).map fun (items, rest) => (list none items, rest)
      | .mapOpen =>
        (bracketedEntries? steps rest).map fun (entries, rest) => (map none entries, rest)
      | .listStart => do
        let (items, rest) ← blockItems? steps rest
        if rest.head? = some .blockEnd then return (list none items, rest.tail)
        none
      | .mapStart =>
        (blockEntries? steps rest).map fun (entries, rest) => (map none entries, rest)
      | _ => (blockItems? steps (token :: rest)).map fun (items, rest) => (list none items, rest)
  | _, _ => none

/-- The items behind dashes. -/
def blockItems? (steps : Nat) (tokens : List Token) : Option (List Node × List Token) :=
  match steps, tokens with
  | steps + 1, .dash :: rest => do
    let (item, rest) ← optional? steps .item blockEnds rest
    let (items, rest) ← blockItems? steps rest
    return (item :: items, rest)
  | _ + 1, tokens => some ([], tokens)
  | 0, _ => none

/-- The entries up to the end of their block. -/
def blockEntries? (steps : Nat) (tokens : List Token) :
    Option (List (Node × Node) × List Token) :=
  match steps, tokens with
  | steps + 1, .key :: rest => do
    let (key, rest) ← optional? steps .entry [.key, .value, .blockEnd] rest
    let (value, rest) ← value? steps .entry [.key, .value, .blockEnd] rest
    let (entries, rest) ← blockEntries? steps rest
    return ((key, value) :: entries, rest)
  | _ + 1, .blockEnd :: rest => some ([], rest)
  | _, _ => none

/-- The value behind a colon, or nothing if no colon comes next. -/
def value? (steps : Nat) (position : Position) (ends : List Token) (tokens : List Token) :
    Option (Node × List Token) :=
  match steps, tokens with
  | steps + 1, .value :: rest => optional? steps position ends rest
  | _ + 1, tokens => some (nothing, tokens)
  | 0, _ => none

/-- The items up to the closing bracket; an item may be a single entry. -/
def bracketedItems? (steps : Nat) (tokens : List Token) : Option (List Node × List Token) :=
  match steps, tokens with
  | _ + 1, .listClose :: rest => some ([], rest)
  | steps + 1, tokens => do
    let (item, rest) ← bracketedItem? steps tokens
    match rest with
    | .comma :: rest => do
      let (items, rest) ← bracketedItems? steps rest
      return (item :: items, rest)
    | .listClose :: rest => return ([item], rest)
    | _ => none
  | 0, _ => none

/-- An item between brackets. The token behind the sign of a key without a key is passed over. -/
def bracketedItem? (steps : Nat) (tokens : List Token) : Option (Node × List Token) :=
  match steps, tokens with
  | steps + 1, .key :: rest => do
    let ends : List Token := [.value, .comma, .listClose]
    let (key, rest) ←
      if rest.head?.any (ends.contains ·) then some (nothing, rest.tail)
      else node? steps .bracketed rest
    let (value, rest) ← value? steps .bracketed [.comma, .listClose] rest
    return (map none [(key, value)], rest)
  | steps + 1, tokens => node? steps .bracketed tokens
  | 0, _ => none

/-- The entries up to the closing brace; a key alone has nothing for its value. -/
def bracketedEntries? (steps : Nat) (tokens : List Token) :
    Option (List (Node × Node) × List Token) :=
  match steps, tokens with
  | _ + 1, .mapClose :: rest => some ([], rest)
  | steps + 1, tokens => do
    let (entry, rest) ← bracketedEntry? steps tokens
    match rest with
    | .comma :: rest => do
      let (entries, rest) ← bracketedEntries? steps rest
      return (entry :: entries, rest)
    | .mapClose :: rest => return ([entry], rest)
    | _ => none
  | 0, _ => none

/-- An entry between braces. -/
def bracketedEntry? (steps : Nat) (tokens : List Token) :
    Option ((Node × Node) × List Token) :=
  match steps, tokens with
  | steps + 1, .key :: rest => do
    let (key, rest) ← optional? steps .bracketed [.value, .comma, .mapClose] rest
    let (value, rest) ← value? steps .bracketed [.comma, .mapClose] rest
    return ((key, value), rest)
  | steps + 1, tokens =>
    (node? steps .bracketed tokens).map fun (key, rest) => ((key, nothing), rest)
  | 0, _ => none

end

/-- The node that the tokens of a document give, whose end may be marked any number of times. The
readers do not call each other eight deep before one takes a token, which bounds their steps. -/
def ofTokens? (tokens : List Token) : Option Node := do
  let steps := 8 * tokens.length + 8
  let (node, rest) ←
    match tokens with
    | [] => some (nothing, [])
    | .documentStart :: rest =>
      if rest.isEmpty then some (nothing, [])
      else optional? steps .item [.documentStart, .documentEnd] rest
    | tokens => node? steps .item tokens
  if rest.all (· = .documentEnd) then some node else none

/-- The one node of a document; none if it is not well-formed or holds more than one. -/
def ofText? (document : String) : Option Node := do ofTokens? (← Token.ofText? document)

theorem ofText?_empty : ofText? "" = some nothing := by
  simp [ofText?, Token.ofText?_empty, ofTokens?]

end Node

end Scsi.Yaml
