import Scsi.Text.Quoted
import Scsi.Yaml.Decode

/-!
# Logger settings

What is logged, where to, and what a log line shows, as the section `logger` of a YAML document.

## Main definitions

* `Log.Output`, `Log.Rotation`: the kind of place for log lines, and when a log file is changed
* `Log.Settings`: the settings of a logger
* `Log.Settings.load`: the settings of a file, or why there are none

## Main results

* `Log.Settings.load_eq_ok_iff`: a file is accepted exactly if its text is
-/

namespace Scsi.Log

open Yaml (Node)

/-- The kind of place that log lines go to. -/
inductive Output
  | stdout
  | stderr
  | file
deriving DecidableEq

/-- When a new log file is begun. -/
inductive Rotation
  | minutely
  | hourly
  | daily
  | never
deriving DecidableEq

/-- The words for outputs. -/
def Output.words : List (String × Output) :=
  [("stdout", .stdout), ("stderr", .stderr), ("file", .file)]

/-- The words for rotations. -/
def Rotation.words : List (String × Rotation) :=
  [("minutely", .minutely), ("hourly", .hourly), ("daily", .daily), ("never", .never)]

/-- The word for an output. -/
def Output.word : Output → String
  | stdout => "stdout"
  | stderr => "stderr"
  | file => "file"

/-- The word for a rotation. -/
def Rotation.word : Rotation → String
  | minutely => "minutely"
  | hourly => "hourly"
  | daily => "daily"
  | never => "never"

/-- A log file. -/
structure LogFile where
  path : String
  rotation : Rotation
deriving DecidableEq

/-- The settings of a logger. -/
structure Settings where
  /-- The text of the filter. -/
  level : String
  output : Output
  showsLine : Bool
  showsModule : Bool
  showsTarget : Bool
  file : Option LogFile
deriving DecidableEq

/-- The log file that a node describes. -/
def LogFile.ofNode? (node : Node) : Option LogFile := do
  let entries ← node.entries?
  let path ← Yaml.Entries.required? entries "path" Node.text?
  let rotation ← Yaml.Entries.defaulted? entries "rotation_frequency" .never
    (Node.choice? Rotation.words)
  return { path, rotation }

namespace Settings

/-- The settings that a section stands for. -/
def ofNode? (node : Node) : Option Settings := do
  let entries ← node.entries?
  let level ← Yaml.Entries.required? entries "level" Node.text?
  let output ← Yaml.Entries.required? entries "output" (Node.choice? Output.words)
  let showsLine ← Yaml.Entries.defaulted? entries "is_show_line" false Node.truth?
  let showsModule ← Yaml.Entries.defaulted? entries "is_show_module_path" false Node.truth?
  let showsTarget ← Yaml.Entries.defaulted? entries "is_show_target" false Node.truth?
  let file ← Yaml.Entries.defaulted? entries "file" none (Node.given? LogFile.ofNode?)
  return { level, output, showsLine, showsModule, showsTarget, file }

/-- The settings that a document stands for. -/
def ofText? (document : String) : Option Settings := do
  Yaml.Entries.required? (← (← Node.ofText? document).entries?) "logger" ofNode?

/-- Why a file gives no settings. -/
inductive LoadError
  | unreadable (path : String)
  | malformed (path : String)
deriving DecidableEq

/-- The message of a load error. -/
def LoadError.message : LoadError → String
  | unreadable path => "Failed to read config file: " ++ Quoted.text path
  | malformed path => "Failed to parse config file: " ++ Quoted.text path

/-- The settings of the file at a path, whose text is missing if it cannot be read. -/
def load (path : String) (text : Option String) : Except LoadError Settings := do
  let some text := text | .error (.unreadable path)
  let some settings := ofText? text | .error (.malformed path)
  return settings

theorem load_eq_ok_iff {path : String} {text : Option String} {s : Settings} :
    load path text = .ok s ↔ text.bind ofText? = some s := by
  cases text with
  | none => simp [load]
  | some text =>
    simp only [load, Option.bind_some]
    cases h : ofText? text with
    | none => simp
    | some s => simp [pure, Except.pure]

end Settings

end Scsi.Log
