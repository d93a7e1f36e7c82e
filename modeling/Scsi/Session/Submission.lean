import Scsi.Command.Standard
import Scsi.Session.Completion

/-!
# Submission of commands

A command is sent on behalf of a unit: it gets the unit's address, asks for sense and carries
nothing of an earlier completion. Without a host interface it is dropped.

## Main definitions

* `Command.addressed`: the command as it is sent for a unit
* `perform`: sends a command and answers with its outcome and the record afterwards
* `testUnitReady`, `requestSense`: two commands that every unit accepts
-/

namespace Scsi

open Activity Session

/-- The command as it is sent for a unit. -/
def Command.addressed (c : Command) (u : LogicalUnit) : Command :=
  { c.cleared with
    target := u.target
    lun := u.lun
    timeout := if c.timeout = 0 then u.defaultTimeout else c.timeout
    flags := c.flags ∪ CommandFlags.autosense }

variable {σ : Type} [HostAdapter σ]

/-- Sends a command for the unit of the session, and answers with its outcome and the record
afterwards. -/
def perform (c : Command) : Activity (Session σ) (Except Error Unit × Command) := do
  let session ← get
  let number := session.unit.number
  let c := c.addressed session.unit
  let operation := Opcode.name c.opcode
  -- nothing of the last command stays on the unit, even if this one is dropped
  modifyUnit fun u => { u with sense := .zero, lastActual := 0 }
  match session.host with
  | none =>
    note .warn .submission number s!"no host interface, {operation} dropped"
    return (.error .noInterface, c)
  | some host =>
    note .debug .submission number s!"submit {operation}"
      [("cdb", .text (Hex.digits c.cdb.bytes)), ("len", .number c.dataLength.toNat)]
    if let some out := c.dataOut then
      note .trace .submission number "data-out" [("data", .text (Hex.dump 16 out))]
    let (delivered, c) ← onHost host (Host.submit c)
    if delivered then
      let outcome ← onUnit (complete c)
      if let .ok () := outcome then
        setLastActual c.actualLength
      return (outcome, c)
    else
      note .warn .submission number s!"{operation} transport failure"
      return (.error .protocolPhase, c)

/-- Sends TEST UNIT READY. -/
def testUnitReady : Activity (Session σ) (Except Error Unit) :=
  Prod.fst <$> perform .testUnitReady

/-- Sends REQUEST SENSE over a buffer, and answers with the count of bytes received and the buffer
afterwards. -/
def requestSense (buffer : Bytes) : Activity (Session σ) (Except Error UInt32 × Bytes) := do
  match Command.requestSense buffer with
  | .error e => return (.error e, buffer)
  | .ok c =>
    let (outcome, c) ← perform c
    return (outcome.map fun _ => c.actualLength, c.data.bytes)

end Scsi
