import Scsi.Files.Lookup
import Scsi.Log.Logger
import Scsi.Program.Arguments
import Scsi.Program.Exercise
import Scsi.Settings.Document

/-!
# Runs of the program

A run reads the arguments, finds the two settings files, sets up the logger, and exercises the disk
that the settings attach to the bus. What it finds in the file system is given to it, and what it
logs and prints is its answer.

## Main definitions

* `Program.Fault`: why a run fails
* `Program.prepare`: the checked settings of a run
* `Program.exercise`: the exercise of the disk that the settings attach
* `Program.run`: what comes of arguments
* `Program.Outcome.leave`: the files behind a run

## Main results

* `Program.prepare_eq_ok_iff`: settings are accepted exactly if their file is and they attach a disk
-/

namespace Scsi

namespace Program

/-- The name of the program. -/
def name : String := "scsi-bus-rs"

/-- The version of the program. -/
def version : String := "0.0.8"

/-- Why a run fails. -/
inductive Fault
  | unresolved (asked : String)
  | logSettings (error : Log.Settings.LoadError)
  | logSetup (error : Log.SetupError)
  | settings (error : Settings.LoadError)
  | noDisk
  | exercise (error : ExerciseError)
deriving DecidableEq

/-- The message of a fault. Of settings that cannot be loaded it does not say why. -/
def Fault.message : Fault → String
  | unresolved asked => "failed to canonicalize path " ++ Quoted.text asked
  | logSettings error => error.message
  | logSetup error => error.message
  | settings _ => "failed to load config"
  | noDisk => "config has no mem_disk section, nothing to attach"
  | exercise error => error.message

/-- The path that a look-up leads to. -/
def resolve (found : Lookup) : Except Fault String :=
  match found.resolved with
  | some path => .ok path
  | none => .error (.unresolved found.asked)

/-- The logger of a run; both paths have to lead somewhere. -/
def openLog (config logger : Lookup) (opens : Log.Destination → Bool) :
    Except Fault Log.Logger := do
  -- of two paths that lead nowhere, that of the settings is complained about
  let _ ← resolve config
  let path ← resolve logger
  let settings ← (Log.Settings.load path logger.text).mapError .logSettings
  (Log.Logger.ofSettings settings opens).mapError .logSetup

/-- The settings of a run and the disk that they attach. -/
def prepare (config : Lookup) : Except Fault (Settings × RamDisk.Profile) := do
  let path ← resolve config
  let settings ← (Settings.load path config.text).mapError .settings
  match settings.disk with
  | some disk => return (settings, disk)
  | none => .error .noDisk

/-- The exercise of a disk on the bus that settings describe. -/
def exercise (settings : Settings) (disk : RamDisk.Profile) (overflow : Overflow := .crashes) :
    Ended (Bus RamDisk) (Except ExerciseError Unit) :=
  let bus := Bus.new settings.busSettings (some (RamDisk.new disk overflow))
  let activity : Activity (Bus RamDisk) (Except ExerciseError Unit) := do
    Activity.report bus.announcement
    Exercise.onBus settings.scanLuns ⟨disk.target, disk.lun⟩
  activity.run bus

/-- What a run leaves. -/
structure Outcome where
  exitCode : UInt32
  /-- The fault, unless the run succeeded, was a question or had wrong arguments. -/
  fault : Option Fault
  /-- The lines that answer a question for the version. -/
  printed : List String
  /-- The logger that was set up, and the events that it was given. -/
  log : Option (Log.Logger × List Log.Event)

/-- The log lines as texts. -/
def Outcome.logTexts (o : Outcome) (time : String) : List String :=
  match o.log with
  | some (logger, events) => logger.texts events time
  | none => []

/-- Whether a destination of log lines opens in a file tree: a stream does, a file has to find its
place. -/
def opensIn (t : FileTree) (stamp : Log.Rotation → Option String) (d : Log.Destination) : Bool :=
  (d.path? stamp).all fun path => (t.destination? path).isSome

/-- The files behind a run, whose log lines are put at the end of its log file. -/
def Outcome.leave (o : Outcome) (t : FileTree) (time : String)
    (stamp : Log.Rotation → Option String) : FileTree :=
  match (o.log.bind fun log => log.1.destination.path? stamp).bind t.destination? with
  | some place => t.append place (String.join ((o.logTexts time).map (· ++ "\n")))
  | none => t

/-- The outcome of a run with a fault. -/
def Outcome.ofFault (fault : Fault) (log : Option (Log.Logger × List Log.Event)) : Outcome :=
  ⟨1, some fault, [], log⟩

/-- The outcome of a run whose arguments give no paths. -/
def Outcome.ofStop : Arguments.Stop → Outcome
  | .help => ⟨0, none, [], none⟩
  | .version => ⟨0, none, [name ++ " " ++ version], none⟩
  | _ => ⟨2, none, [], none⟩

/-- The outcome of a run that crashed, which leaves no fault to tell of. -/
def Outcome.ofCrash (log : Option (Log.Logger × List Log.Event)) : Outcome := ⟨101, none, [], log⟩

/-- The outcome of a run that got as far as its exercise. -/
def Outcome.ofExercise (logger : Log.Logger)
    (ended : Ended (Bus RamDisk) (Except ExerciseError Unit)) : Outcome :=
  let log := some (logger, ended.events)
  match ended.answer with
  | some (.ok ()) => ⟨0, none, [], log⟩
  | some (.error e) => .ofFault (.exercise e) log
  | none => .ofCrash log

/-- The outcome of a run with the settings files at the two look-ups. -/
def runFiles (config logger : Lookup) (opens : Log.Destination → Bool)
    (overflow : Overflow := .crashes) : Outcome :=
  match openLog config logger opens with
  | .error (.logSetup error) =>
    if error.isCrash then .ofCrash none else .ofFault (.logSetup error) none
  | .error fault => .ofFault fault none
  | .ok log =>
    match prepare config with
    | .error fault => .ofFault fault (some (log, []))
    | .ok (settings, disk) => .ofExercise log (exercise settings disk overflow)

/-- What comes of arguments, with a way to look up paths and to open destinations, and with the
way in which the program was built. -/
def run (arguments : List String) (look : String → Lookup) (opens : Log.Destination → Bool)
    (overflow : Overflow := .crashes) : Outcome :=
  match Arguments.ofList arguments with
  | .error stop => .ofStop stop
  | .ok paths => runFiles (look paths.config) (look paths.logger) opens overflow

theorem prepare_eq_ok_iff {config : Lookup} {settings : Settings} {disk : RamDisk.Profile} :
    prepare config = .ok (settings, disk) ↔
      ∃ path, config.resolved = some path ∧
        Settings.load path config.text = .ok settings ∧ settings.disk = some disk := by
  unfold prepare resolve
  cases config.resolved with
  | none => simp [bind, Except.bind]
  | some path =>
    cases hLoad : Settings.load path config.text with
    | error e => simp [bind, Except.bind, Settings.mapError_error, hLoad]
    | ok s =>
      cases hDisk : s.disk <;>
        simp [bind, Except.bind, Settings.mapError_ok, pure, Except.pure, hLoad, hDisk]
      all_goals grind

end Program

end Scsi
