import Scsi.Files.Path
import Scsi.Log.Filter
import Scsi.Log.Settings
import Scsi.Text.JsonString

/-!
# Loggers

A logger lets events through its filter and writes each as one line, a JSON object that shows what
the settings ask for.

## Main definitions

* `Log.Destination`: where log lines go, and `Log.Destination.path?` of a log file
* `Log.Logger`: a logger, and `Log.Logger.ofSettings` of settings
* `Log.Line`: what a line shows of an event, and `Log.Line.text` as JSON
* `Log.Logger.lines`, `Log.Logger.texts`: the lines for events, and as texts
-/

namespace Scsi.Log

/-- Where log lines go. -/
inductive Destination
  | stdout
  | stderr
  | file (directory name : String) (rotation : Rotation)
deriving DecidableEq

/-- A logger. -/
structure Logger where
  destination : Destination
  filter : Filter
  showsLine : Bool
  showsModule : Bool
  showsTarget : Bool

/-- Why settings give no logger. -/
inductive SetupError
  | noFile
  | noFileName
  | badFilter
  | splitFilter
  | unopened
deriving DecidableEq

/-- The message of a setup error. -/
def SetupError.message : SetupError → String
  | noFile => "logger.output is file but logger.file is missing"
  | noFileName => "logger.file.path has no file name"
  | badFilter => "Failed to parse log level from config"
  | splitFilter => "a part of the log level ends inside of a character"
  | unopened => "the log file cannot be opened"

/-- Whether the program crashes with the error instead of telling of it. -/
def SetupError.isCrash (e : SetupError) : Bool := e = splitFilter || e = unopened

/-- Where the log lines go that settings ask for. -/
def Settings.destination (s : Settings) : Except SetupError Destination :=
  match s.output, s.file with
  | .stdout, _ => .ok .stdout
  | .stderr, _ => .ok .stderr
  | .file, none => .error .noFile
  | .file, some file =>
    match Path.fileName? file.path with
    | none => .error .noFileName
    | some name => .ok (.file (Path.directory file.path) name file.rotation)

/-- The path of the log file, whose name ends in a stamp of the time if files are changed. -/
def Destination.path? (stamp : Rotation → Option String) : Destination → Option String
  | file directory name rotation =>
    let ending := match stamp rotation with
      | some stamp => "." ++ stamp
      | none => ""
    some (Path.joined (if directory = "" then "." else directory) (name ++ ending))
  | _ => none

/-- What a line shows of an event. -/
structure Line where
  level : String
  target : Option String
  modulePath : Option String
  /-- Whether the line shows a line number. -/
  numbered : Bool
  fields : List (String × Value)

/-- The field as lines show it: a truth value is shown as a text. -/
def Value.shown : Value → Value
  | .truth true => .text "true"
  | .truth false => .text "false"
  | value => value

/-- The JSON text of a shown value. -/
def Value.json : Value → String
  | .number n => toString n
  | .truth b => if b then "true" else "false"
  | .text s => JsonString.text s

namespace Line

/-- A JSON object of members whose values are JSON texts. -/
def object (members : List (String × String)) : String :=
  "\x7b" ++ ",".intercalate (members.map fun m => JsonString.text m.1 ++ ":" ++ m.2) ++ "\x7d"

/-- A member that is there if its text is. -/
def member (name : String) (text : Option String) : List (String × String) :=
  (text.map fun t => (name, JsonString.text t)).toList

/-- The line as a JSON object, with the time and the number of the line. -/
def text (l : Line) (time : String) (number : Nat) : String :=
  object
    (member "timestamp" (some time) ++ member "level" (some l.level) ++ member "target" l.target ++
      member "module_path" l.modulePath ++
      (if l.numbered then [("line", toString number)] else []) ++
      [("fields", object (l.fields.map fun f => (f.1, f.2.json)))])

end Line

namespace Logger

/-- The logger that settings ask for, if its destination opens. -/
def ofSettings (s : Settings) (opens : Destination → Bool) : Except SetupError Logger := do
  let destination ← s.destination
  if !opens destination then .error .unopened
  let filter ← (Filter.ofText s.level).mapError fun
    | .malformed => .badFilter
    | .splitsCharacter => .splitFilter
  return {
    destination, filter
    showsLine := s.showsLine
    showsModule := s.showsModule
    showsTarget := s.showsTarget }

/-- The fields of an event and its message, in the order of their names. -/
def shownFields (e : Event) : List (String × Value) :=
  (("message", Value.text e.message) :: e.fields.map fun f => (f.1, f.2.shown)).mergeSort
    fun a b => a.1 ≤ b.1

/-- The line for an event. -/
def line (logger : Logger) (e : Event) : Line where
  level := e.level.name
  target := if logger.showsTarget then some e.source.path else none
  modulePath := if logger.showsModule then some e.source.path else none
  numbered := logger.showsLine
  fields := shownFields e

/-- The lines for events: one for every event that the filter lets pass. -/
def lines (logger : Logger) (events : List Event) : List Line :=
  (events.filter logger.filter.passes).map logger.line

/-- The lines for events as texts, all with the same time. -/
def texts (logger : Logger) (events : List Event) (time : String) : List String :=
  (logger.lines events).mapIdx fun i line => line.text time (i + 1)

end Logger

end Scsi.Log
