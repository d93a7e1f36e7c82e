import Scsi.Bus.Scan
import Scsi.RamDisk.Basic
import Scsi.Session.BlockIO

/-!
# Exercise of a disk

The exercise scans a bus for the disk at an address, says what it found, writes the first two blocks
with one form of command, reads them back with the other, and gives up the bus.

## Main definitions

* `ExerciseError`: why the exercise fails
* `Exercise.pattern`: the bytes that are written
* `Exercise.greet`, `Exercise.writeAndRead`: the parts of the exercise of a unit, `Exercise.onUnit`
* `Exercise.onBus`: the exercise of a bus

## Main results

* `Exercise.length_pattern`: a pattern has as many bytes as asked for
-/

namespace Scsi

/-- Why the exercise fails. -/
inductive ExerciseError
  | command (error : Error)
  | unitMissing
  | identity (error : ResponseError)
  | mismatch
deriving DecidableEq

/-- The message of an exercise error. -/
def ExerciseError.message : ExerciseError → String
  | command error => error.message
  | unitMissing => "configured unit missing after scan"
  | identity error => error.message
  | mismatch => "read-back mismatch"

namespace Exercise

open Activity Session

variable {σ : Type}

/-- Counting bytes that start again at zero after 251 of them, so that blocks differ. -/
def pattern (n : Nat) : Bytes := (List.range n).map fun i => UInt8.ofNat (i % 251)

theorem length_pattern (n : Nat) : (pattern n).length = n := by simp [pattern]

/-- The addresses that a scan found, as a text. -/
def foundText (found : List Address) : String :=
  "[" ++ ", ".intercalate (found.map fun a =>
    Layout.record "UnitAddress" [("target", toString a.target), ("lun", toString a.lun)]) ++ "]"

/-- What the program says about a unit. -/
def greeting (unit : LogicalUnit) (identity : Identity) : String :=
  s!"{identity.vendor} {identity.product} {identity.revision}: " ++
    s!"{unit.capacity} blocks x {unit.blockSize} bytes"

/-- What the program says about a write and the read that followed it. -/
def transferText (written read : UInt32) : String :=
  s!"wrote {written} bytes, read back {read} bytes"

/-- An activity of the exercise, which may end it with an error. -/
abbrev Step (S α : Type) : Type := ExceptT ExerciseError (Activity S) α

/-- Reports what the program says. -/
def say {S : Type} (message : String) : Step S Unit :=
  ExceptT.lift (report ⟨.info, .program, [], message⟩)

/-- An activity whose error ends the exercise. -/
def need {S α : Type} (x : Activity S (Except Error α)) : Step S α :=
  ExceptT.mk (Except.mapError .command <$> x)

/-- The identity of a unit, read from its INQUIRY data. -/
def identify (unit : LogicalUnit) : Except ExerciseError Identity :=
  (Identity.ofBytes unit.inquiry).mapError .identity

variable [HostAdapter σ]

/-- Says what a unit is, and asks whether it is ready. -/
def greet : Step (Session σ) Unit := do
  let unit ← ExceptT.lift getUnit
  let identity ← ExceptT.mk (pure (identify unit))
  say (greeting unit identity)
  need testUnitReady

/-- Writes the first two blocks of a unit and reads them back. -/
def writeAndRead : Step (Session σ) Unit := do
  let unit ← ExceptT.lift getUnit
  let data := pattern (2 * unit.blockSize.toNat)
  let written ← need (write32 0 2 data)
  let (outcome, back) ← ExceptT.lift (read64 0 2 (Bytes.zeros data.length))
  let read ← need (pure outcome)
  if back ≠ data then
    throw .mismatch
  say (transferText written read)

/-- The exercise of a unit. -/
def onUnit : Step (Session σ) Unit := do
  greet
  writeAndRead
  need synchronizeCache

/-- The exercise of a bus that is expected to have a unit at an address. -/
def findAndExercise (scanLuns : Bool) (a : Address) : Step (Bus σ) Unit := do
  let found ← need (Bus.scan scanLuns)
  say ("scan: " ++ foundText found)
  match ← ExceptT.lift (Bus.withUnit a onUnit.run) with
  | some outcome => ExceptT.mk (pure outcome)
  | none => throw .unitMissing

/-- The exercise of a bus, which is given up at the end however the exercise went. -/
def onBus (scanLuns : Bool) (a : Address) : Activity (Bus σ) (Except ExerciseError Unit) := do
  let outcome ← (findAndExercise scanLuns a).run
  Bus.dispose
  return outcome

end Exercise

end Scsi
