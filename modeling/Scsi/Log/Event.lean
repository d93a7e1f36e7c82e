/-!
# Log events

What the library reports about its work: values, in the order in which they arise, for a logger or
a caller to filter and print.

## Main definitions

* `Log.Level`: how severe an event is
* `Log.Source`: the part of the library that reports it
* `Log.Value`: the value of a named field
* `Log.Event`: one event
-/

namespace Scsi.Log

/-- How severe an event is. -/
inductive Level
  | trace
  | debug
  | info
  | warn
  | error
deriving DecidableEq

/-- The rank of a level, the severest first. -/
def Level.rank : Level → Nat
  | .error => 1
  | .warn => 2
  | .info => 3
  | .debug => 4
  | .trace => 5

/-- The name that log lines show. -/
def Level.name : Level → String
  | .error => "ERROR"
  | .warn => "WARN"
  | .info => "INFO"
  | .debug => "DEBUG"
  | .trace => "TRACE"

/-- The part of the library that reports an event. -/
inductive Source
  | bus
  | discovery
  | submission
  | completion
  | blockIO
  | ramDisk
  | program
deriving DecidableEq

/-- The path that log lines and log filters know the part by. -/
def Source.path : Source → String
  | .bus => "scsi_bus_rs::bus::bus"
  | .discovery => "scsi_bus_rs::state_machine::discovery_states"
  | .submission => "scsi_bus_rs::handlers::perform_command"
  | .completion => "scsi_bus_rs::handlers::status"
  | .blockIO => "scsi_bus_rs::unit::dispatch"
  | .ramDisk => "scsi_bus_rs::backends::mem_disk"
  | .program => "scsi_bus_rs"

/-- The value of a named field: a number, a truth value or a text. -/
inductive Value
  | number (n : Nat)
  | truth (b : Bool)
  | text (s : String)
deriving DecidableEq

/-- One event: its level, the part that reports it, named values and a message. -/
structure Event where
  level : Level
  source : Source
  fields : List (String × Value)
  message : String
deriving DecidableEq

end Scsi.Log
