import Scsi.Sense.Fixed
import Scsi.Session.Basic

/-!
# Completion of commands

What the status byte and the sense of a completed command mean for its unit and its caller.

## Main definitions

* `Command.outcome`: the outcome that status byte and sense stand for
* `complete`: the outcome, with the sense of a CHECK CONDITION put down on the unit

## Main results

* `Command.outcome_eq_ok_iff`: the two statuses that end a command well
-/

namespace Scsi

open Activity

/-- The outcome that the status byte and the sense of a completed command stand for. -/
def Command.outcome (c : Command) : Except Error Unit :=
  match Status.ofByte c.status with
  | .good | .intermediate => .ok ()
  | .checkCondition => .error (.checkCondition (Sense.ofBytes? c.sense.bytes))
  | .busy => .error .busy
  | _ => .error .protocolPhase

/-- The event that tells of a CHECK CONDITION: with all fields of the sense if enough bytes of it
arrived, and with the bytes themselves otherwise. -/
def Command.checkConditionEvent (c : Command) (number : UInt32) : Log.Event :=
  let unit := ("unit", Log.Value.number number.toNat)
  match FixedSense.ofBytes? c.sense.bytes with
  | some full =>
    { level := .debug
      source := .completion
      fields :=
        [unit, ("deferred", .truth full.isDeferred),
          ("information", .number full.information.toNat)]
      message := s!"CHECK CONDITION: {full.sense.describe}" }
  | none =>
    { level := .debug
      source := .completion
      fields := [unit, ("sense", .text (Hex.digits c.sense.bytes))]
      message := "CHECK CONDITION: " ++
        Layout.optional ((Sense.ofBytes? c.sense.bytes).map Sense.text) }

/-- The outcome of a completed command. The sense of a CHECK CONDITION is put down on the unit if
enough bytes of it arrived. -/
def complete (c : Command) : Activity LogicalUnit (Except Error Unit) := do
  let unit ← get
  match Status.ofByte c.status with
  | .good | .intermediate | .busy => pure ()
  | .checkCondition =>
    if let some sense := Sense.ofBytes? c.sense.bytes then
      modify fun u => { u with sense }
    report (c.checkConditionEvent unit.number)
  | status =>
    report
      ⟨.warn, .completion, [("unit", .number unit.number.toNat)],
        s!"unexpected SCSI status {status.name}"⟩
  return c.outcome

theorem Command.outcome_eq_ok_iff {c : Command} :
    c.outcome = .ok () ↔
      Status.ofByte c.status = .good ∨ Status.ofByte c.status = .intermediate := by
  unfold Command.outcome
  split <;> simp_all

end Scsi
