/-!
# Status bytes

The byte with which a target ends a command.

## Main definitions

* `Status`: the statuses with a meaning, and all other bytes
* `Status.ofByte`, `Status.code`: the status of a byte and the byte of a status
* `Status.name`: the name of a status in texts

## Main results

* `Status.code_ofByte`: the byte of the status of a byte is that byte
-/

namespace Scsi

/-- How a target ends a command. -/
inductive Status
  | good
  | checkCondition
  | conditionMet
  | busy
  /-- Obsolete, but still sent by targets that link commands. -/
  | intermediate
  | intermediateConditionMet
  | reservationConflict
  | taskSetFull
  | acaActive
  | taskAborted
  | other (code : UInt8)
deriving DecidableEq

namespace Status

/-- The status of a byte. -/
def ofByte (b : UInt8) : Status :=
  match b.toNat with
  | 0x00 => good
  | 0x02 => checkCondition
  | 0x04 => conditionMet
  | 0x08 => busy
  | 0x10 => intermediate
  | 0x14 => intermediateConditionMet
  | 0x18 => reservationConflict
  | 0x28 => taskSetFull
  | 0x30 => acaActive
  | 0x40 => taskAborted
  | _ => other b

/-- The byte of a status. -/
def code : Status → UInt8
  | good => 0x00
  | checkCondition => 0x02
  | conditionMet => 0x04
  | busy => 0x08
  | intermediate => 0x10
  | intermediateConditionMet => 0x14
  | reservationConflict => 0x18
  | taskSetFull => 0x28
  | acaActive => 0x30
  | taskAborted => 0x40
  | other code => code

/-- The name of a status in texts. -/
def name : Status → String
  | good => "Good"
  | checkCondition => "CheckCondition"
  | conditionMet => "ConditionMet"
  | busy => "Busy"
  | intermediate => "Intermediate"
  | intermediateConditionMet => "IntermediateConditionMet"
  | reservationConflict => "ReservationConflict"
  | taskSetFull => "TaskSetFull"
  | acaActive => "AcaActive"
  | taskAborted => "TaskAborted"
  | other code => s!"Other({code})"

theorem code_ofByte (b : UInt8) : (ofByte b).code = b := by
  have h : ∀ i : Fin 256, (ofByte (UInt8.ofNat i)).code = UInt8.ofNat i := by decide +kernel
  simpa using h ⟨b.toNat, b.toNat_lt⟩

end Status

end Scsi
