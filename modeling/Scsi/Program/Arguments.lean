/-!
# Program arguments

The program takes the paths of two settings files, `-c` or `--config` and `-l` or `--logger`, and
knows `-h`, `--help`, `-V` and `--version`. The value of an option is the next argument, or is
attached to it: `--config=path`, `-cpath`, `-c=path`. An option that waits for its value is settled
when the next option, or the end, comes; only then is a missing value or a second use refused.

## Main definitions

* `Arguments`: the paths of the settings files
* `Arguments.Stop`: why there are no paths
* `Arguments.ofList`: the paths that arguments give
-/

namespace Scsi

/-- The paths of the settings files. -/
structure Arguments where
  config : String
  logger : String
deriving DecidableEq

namespace Arguments

/-- The paths that are taken where none are given. -/
def usual : Arguments := ⟨"tests/config.yaml", "tests/config_logger.yaml"⟩

/-- Why there are no paths. -/
inductive Stop
  | unknownArgument
  | missingValue
  | givenTwice
  | surplusValue
  | help
  | version
deriving DecidableEq

/-- Whether the arguments were wrong, and not a question. -/
def Stop.isFault : Stop → Bool
  | help | version => false
  | _ => true

/-- An option with a value. -/
inductive Slot
  | config
  | logger
deriving DecidableEq

/-- What an option's name asks for. -/
inductive Request
  | fill (slot : Slot)
  | stop (reason : Stop)
deriving DecidableEq

/-- The names of the options, long and short. -/
def names : List (String × Char × Request) :=
  [("config", 'c', .fill .config), ("logger", 'l', .fill .logger), ("help", 'h', .stop .help),
    ("version", 'V', .stop .version)]

/-- The request of a long name. -/
def ofLong? (name : List Char) : Option Request :=
  (names.find? (·.1.toList = name)).map (·.2.2)

/-- The request of a short name. -/
def ofShort? (name : Char) : Option Request :=
  (names.find? (·.2.1 = name)).map (·.2.2)

/-- What was read so far: the values that are settled, the option that waits for its value or has
one that is not settled yet, and whether only plain arguments may follow. -/
structure Progress where
  config : Option String
  logger : Option String
  waiting : Option (Slot × Option String)
  plainOnly : Bool
deriving DecidableEq

namespace Progress

/-- Before the first argument. -/
def start : Progress := ⟨none, none, none, false⟩

/-- The settled value of an option. -/
def value? (p : Progress) : Slot → Option String
  | .config => p.config
  | .logger => p.logger

/-- Settles the value of an option. -/
def fill (p : Progress) (slot : Slot) (value : String) : Except Stop Progress :=
  if (p.value? slot).isSome then .error .givenTwice
  else
    match slot with
    | .config => .ok { p with config := some value }
    | .logger => .ok { p with logger := some value }

/-- Settles the waiting option. -/
def settle (p : Progress) : Except Stop Progress :=
  match p.waiting with
  | none => .ok p
  | some (_, none) => .error .missingValue
  | some (slot, some value) => { p with waiting := none }.fill slot value

/-- Reads an option that was recognised, with the value attached to it. -/
def takeRequest (p : Progress) (attached : Option (List Char)) : Request → Except Stop Progress
  | .fill slot => do
    let p ← p.settle
    match attached with
    | some value => p.fill slot (String.ofList value)
    | none => return { p with waiting := some (slot, none) }
  | .stop reason => do
    -- a fault of the option before wins over the question
    let _ ← p.settle
    .error reason

/-- Reads a long option from behind its dashes. -/
def takeLong (p : Progress) (cs : List Char) : Except Stop Progress :=
  let attached := (cs.dropWhile (· ≠ '=')).tail?
  match ofLong? (cs.takeWhile (· ≠ '=')) with
  | none => .error .unknownArgument
  | some (.stop reason) =>
    if attached.isSome then .error .surplusValue else p.takeRequest none (.stop reason)
  | some request => p.takeRequest attached request

/-- Reads a short option from behind its dash. -/
def takeShort (p : Progress) (name : Char) (rest : List Char) : Except Stop Progress :=
  let attached :=
    match rest with
    | [] => none
    | '=' :: value => some value
    | value => some value
  match ofShort? name with
  | none => .error .unknownArgument
  | some request => p.takeRequest attached request

/-- Reads a plain argument, which has to be the value of a waiting option. -/
def takePlain (p : Progress) (argument : String) : Except Stop Progress :=
  match p.waiting, p.plainOnly with
  | some (slot, none), false => .ok { p with waiting := some (slot, some argument) }
  | _, _ => .error .unknownArgument

/-- Reads an argument. A dash alone is a plain argument; behind two dashes all are. -/
def take (p : Progress) (argument : String) : Except Stop Progress :=
  if p.plainOnly then p.takePlain argument
  else
    match argument.toList with
    | ['-', '-'] => .ok { p with plainOnly := true }
    | '-' :: '-' :: cs => p.takeLong cs
    | '-' :: name :: rest => p.takeShort name rest
    | _ => p.takePlain argument

end Progress

/-- The paths that arguments give. -/
def ofList (arguments : List String) : Except Stop Arguments := do
  let p ← arguments.foldlM Progress.take .start
  let p ← p.settle
  return ⟨p.config.getD usual.config, p.logger.getD usual.logger⟩

end Arguments

end Scsi
