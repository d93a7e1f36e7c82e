import Scsi.Sense.Basic

/-!
# Errors of commands

How a command fails. Nothing is retried: each error carries what a caller needs for a policy of
its own.

## Main definitions

* `RequestFault`: what is wrong with a request that was never sent
* `Error`: how a command fails
* `RequestFault.message`, `Error.message`: the wording
* `Error.isBusy`, `Error.sense?`: whether a blind retry is reasonable, and the sense carried
-/

namespace Scsi

/-- What is wrong with a request that was never sent. -/
inductive RequestFault
  | targetOutOfRange
  | lunOutOfRange
  | cdbTooLong
  | bufferTooShort
  | inquiryTooLong
  | requestSenseTooLong
  | wrongDirection
  | transferTooLong
  | addressTooWide
  | countTooWide
deriving DecidableEq

/-- What is wrong, in words. -/
def RequestFault.message : RequestFault → String
  | targetOutOfRange => "target id out of range"
  | lunOutOfRange => "LUN out of range"
  | cdbTooLong => "CDB longer than 16 bytes"
  | bufferTooShort => "data buffer shorter than requested transfer"
  | inquiryTooLong => "INQUIRY allocation > 255"
  | requestSenseTooLong => "REQUEST SENSE allocation > 255"
  | wrongDirection => "data buffer direction does not match operation"
  | transferTooLong => "transfer length overflows 32 bits"
  | addressTooWide => "LBA does not fit a 10-byte CDB"
  | countTooWide => "count does not fit a 10-byte CDB"

/-- How a command fails. -/
inductive Error
  /-- The bus has no host interface, so nothing was sent. -/
  | noInterface
  /-- The transport failed, or the target answered with a status without meaning here. -/
  | protocolPhase
  /-- The target answered BUSY. -/
  | busy
  /-- The target answered CHECK CONDITION, with sense if enough bytes of it arrived. -/
  | checkCondition (sense : Option Sense)
  /-- The unit was not configured by a discovery. -/
  | unsupported
  /-- The request was refused before it was sent. -/
  | invalidRequest (fault : RequestFault)
deriving DecidableEq

namespace Error

/-- The error in words. -/
def message : Error → String
  | noInterface => "bus has no host interface installed"
  | protocolPhase => "transport or protocol phase error"
  | busy => "device busy"
  | checkCondition none => "check condition"
  | checkCondition (some sense) => s!"check condition ({sense.describe})"
  | unsupported => "operation not supported by unit"
  | invalidRequest fault => s!"invalid request: {fault.message}"

/-- Whether the target was only busy, the one condition that may be retried blindly. -/
def isBusy : Error → Bool
  | busy => true
  | _ => false

/-- The sense that came with a CHECK CONDITION. -/
def sense? : Error → Option Sense
  | checkCondition sense => sense
  | _ => none

end Error

end Scsi
