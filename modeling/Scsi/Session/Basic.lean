import Scsi.Host.Basic
import Scsi.LogicalUnit.Basic

/-!
# Sessions

A session holds what one command works on: a unit, and the host interface through which the unit is
reached, if its bus has one.

## Main definitions

* `Session σ`: a unit with its host interface
* `Session.number`: the number of the unit
* `Session.onUnit`, `Session.onHost`: work on one of the two
* `Session.setLastActual`: notes the count of bytes that were moved
* `Session.note`: reports an event that names the unit
-/

namespace Scsi

/-- A unit with the host interface through which it is reached. -/
structure Session (σ : Type) where
  unit : LogicalUnit
  host : Option (Host σ)

namespace Session

open Activity

variable {σ α : Type}

/-- Answers with the unit. -/
def getUnit : Activity (Session σ) LogicalUnit := Session.unit <$> get

/-- Work on the unit. -/
def onUnit (x : Activity LogicalUnit α) : Activity (Session σ) α :=
  onPart Session.unit (fun unit s => { s with unit }) x

/-- Work on the host interface `host`, which the session has. -/
def onHost (host : Host σ) (x : Activity (Host σ) α) : Activity (Session σ) α :=
  onPart (fun _ => host) (fun host s => { s with host := some host }) x

/-- Changes the unit. -/
def modifyUnit (f : LogicalUnit → LogicalUnit) : Activity (Session σ) Unit := onUnit (modify f)

/-- Notes the count of bytes that the last command moved. -/
def setLastActual (n : UInt32) : Activity (Session σ) Unit :=
  modifyUnit fun u => { u with lastActual := n }

/-- Reports an event that names the unit of a given number. -/
def note (level : Log.Level) (source : Log.Source) (number : UInt32) (message : String)
    (fields : List (String × Log.Value) := []) : Activity (Session σ) Unit :=
  report ⟨level, source, ("unit", .number number.toNat) :: fields, message⟩

end Session

end Scsi
