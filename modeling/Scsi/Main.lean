import Std.Time
import Scsi.Program.Run

/-!
# Command line

The program as a process: it looks up the settings files, runs, writes the log lines to where the
logger wants them, and ends with the exit code of its run.

## Main definitions

* `CommandLine.lookUp`: what the file system holds at a path
* `CommandLine.writeLog`: the writing of log lines
* `main`: the process
-/

namespace Scsi.CommandLine

/-- The answer to a question for help. -/
def help : List String :=
  ["Attach an in-memory disk to a bus, scan it and exercise the unit",
    "",
    "Usage: " ++ Program.name ++ " [OPTIONS]",
    "",
    "Options:",
    "  -c, --config <CONFIG>  Bus and backend YAML config [default: " ++
      Arguments.usual.config ++ "]",
    "  -l, --logger <LOGGER>  Logger YAML config [default: " ++ Arguments.usual.logger ++ "]",
    "  -h, --help             Print help",
    "  -V, --version          Print version"]

/-- The complaint about arguments. -/
def complaint : Arguments.Stop → String
  | .unknownArgument => "error: unexpected argument found"
  | .missingValue => "error: a value is required for an option but none was supplied"
  | .givenTwice => "error: an option cannot be used multiple times"
  | .surplusValue => "error: unexpected value for a flag found"
  | .help | .version => ""

/-- What an activity gives, nothing if it fails. -/
def tried {α : Type} (x : IO α) : IO (Option α) := do
  try
    return some (← x)
  catch _ =>
    return none

/-- What the file system holds at a path. -/
def lookUp (path : String) : IO Lookup := do
  let asked := Path.joined (toString (← IO.currentDir)) path
  let resolved ← tried (toString <$> IO.FS.realPath asked)
  let text ← tried (IO.FS.readFile asked)
  return { asked, resolved, text }

/-- The pattern of the time in the name of a log file, if the name has one. -/
def stampPattern? : Log.Rotation → Option String
  | .minutely => some "uuuu-MM-dd-HH-mm"
  | .hourly => some "uuuu-MM-dd-HH"
  | .daily => some "uuuu-MM-dd"
  | .never => none

/-- The stream that log lines are written to. -/
def openDestination (now : Std.Time.DateTime) (destination : Log.Destination) :
    IO IO.FS.Stream := do
  let stamp (rotation : Log.Rotation) : Option String := (stampPattern? rotation).map now.format
  match destination, destination.path? stamp with
  | .file directory _ _, some path =>
    if directory ≠ "" then
      IO.FS.createDirAll directory
    return .ofHandle (← IO.FS.Handle.mk path .append)
  | .stderr, _ => IO.getStderr
  | _, _ => IO.getStdout

/-- Writes the log lines for events. -/
def writeLog (logger : Log.Logger) (events : List Log.Event) : IO Unit := do
  let now := Std.Time.DateTime.ofTimestamp (← Std.Time.Timestamp.now) .UTC
  let stream ← openDestination now logger.destination
  (logger.texts events (now.format "uuuu-MM-dd'T'HH:mm:ss.SSSSSSSSSxxx")).forM stream.putStrLn
  stream.flush

/-- Tells of a fault, and of what is behind it. -/
def complain (fault : Program.Fault) : IO Unit := do
  IO.eprintln ("Error: " ++ fault.message)
  if let .settings cause := fault then
    IO.eprintln ("\nCaused by:\n    " ++ cause.message)

/-- Runs with the arguments of the process. -/
def run (arguments : List String) : IO UInt32 := do
  match Arguments.ofList arguments with
  | .error .help => help.forM IO.println
  | .error stop =>
    if stop.isFault then
      IO.eprintln (complaint stop)
  | .ok _ => pure ()
  let paths := (Arguments.ofList arguments).toOption.getD Arguments.usual
  let config ← lookUp paths.config
  let logger ← lookUp paths.logger
  let look (path : String) : Lookup := if path = paths.config then config else logger
  let mut outcome := Program.run arguments look fun _ => true
  outcome.printed.forM IO.println
  if let some (logger, events) := outcome.log then
    if (← tried (writeLog logger events)).isNone then
      outcome := Program.run arguments look fun _ => false
  if let some fault := outcome.fault then
    complain fault
  return outcome.exitCode

end Scsi.CommandLine

/-- The process. -/
def main (arguments : List String) : IO UInt32 := Scsi.CommandLine.run arguments
