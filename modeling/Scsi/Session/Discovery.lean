import Scsi.Command.Standard
import Scsi.Session.Submission

/-!
# Discovery of units

A discovery asks a unit for its INQUIRY data and its capacity, first in the 16-byte form and, if
that fails for whatever reason, in the 10-byte form. All that it finds out is published in one step
at the end, so a discovery that fails leaves the unit as it was, apart from its state.

## Main definitions

* `ProbeError`: why one question of a discovery has no answer
* `DiscoveryError`: why a discovery fails
* `probeInquiry`, `probeCapacity16`, `probeCapacity10`: the questions
* `explore`: the questions in order, up to the findings
* `discover`: the discovery
-/

namespace Scsi

open Activity Session

/-- Why one question of a discovery has no answer. -/
inductive ProbeError
  | command (e : Error)
  | response (e : ResponseError)
deriving DecidableEq

/-- The reason in words. -/
def ProbeError.message : ProbeError → String
  | command e => e.message
  | response e => e.message

/-- The failed command, if there is one. -/
def ProbeError.command? : ProbeError → Option Error
  | command e => some e
  | response _ => none

/-- Why a discovery fails. -/
inductive DiscoveryError
  /-- The unit cannot be on the bus. -/
  | noSuchUnit (e : Error)
  /-- The unit of this number was discovered before. -/
  | alreadyConfigured (number : UInt32)
  /-- The discovery of the unit of this number has not ended. -/
  | alreadyRunning (number : UInt32)
  | inquiryFailed (e : Error)
  | capacityFailed (e : ProbeError)
deriving DecidableEq

namespace DiscoveryError

/-- The reason in words, from the outermost cause to the innermost. -/
def causes : DiscoveryError → List String
  | noSuchUnit e => [e.message]
  | alreadyConfigured number => ["unit " ++ Hex.number 4 number.toNat ++ " already configured"]
  | alreadyRunning number => ["unit " ++ Hex.number 4 number.toNat ++ " discovery already running"]
  | inquiryFailed e => ["INQUIRY failed", e.message]
  | capacityFailed e => ["READ CAPACITY(10) failed", e.message]

/-- The causes in one line. -/
def message (e : DiscoveryError) : String := ": ".intercalate e.causes

/-- The failed command, if there is one. -/
def command? : DiscoveryError → Option Error
  | noSuchUnit e => some e
  | alreadyConfigured _ => none
  | alreadyRunning _ => none
  | inquiryFailed e => some e
  | capacityFailed e => e.command?

end DiscoveryError

variable {σ : Type} [HostAdapter σ]

/-- Sends a command made by `build` over a zeroed buffer, and answers with the buffer afterwards. -/
def ask (size : Nat) (build : Bytes → Except Error Command) :
    Activity (Session σ) (Except Error Bytes) := do
  match build (Bytes.zeros size) with
  | .error e => return .error e
  | .ok c =>
    let (outcome, after) ← perform c
    return outcome.map fun _ => after.data.bytes

/-- Asks for the standard INQUIRY data. -/
def probeInquiry : Activity (Session σ) (Except Error Bytes) :=
  ask Inquiry.size (Command.inquiry 0)

/-- Asks for the capacity in the 16-byte form. -/
def probeCapacity16 : Activity (Session σ) (Except ProbeError Capacity) := do
  match ← ask CapacityReply.size16 (Command.readCapacity Opcode.readCapacity16Action) with
  | .error e => return .error (.command e)
  | .ok bytes =>
    match CapacityReply.ofBytes16 bytes with
    | .error e => return .error (.response e)
    | .ok reply => return .ok reply.capacity

/-- Asks for the capacity in the 10-byte form; an answer at its limit is reported. -/
def probeCapacity10 : Activity (Session σ) (Except ProbeError Capacity) := do
  match ← ask CapacityReply.size10 (Command.readCapacity 0) with
  | .error e => return .error (.command e)
  | .ok bytes =>
    match CapacityReply.ofBytes10 bytes with
    | .error e => return .error (.response e)
    | .ok reply =>
      if reply.isSaturated then
        note .warn .discovery (← getUnit).number "READ CAPACITY(10) saturated, capacity truncated"
      return .ok reply.capacity

/-- Asks for the capacity in the 16-byte form, and then, if that failed, in the 10-byte form. -/
def probeCapacity : Activity (Session σ) (Except ProbeError Capacity) := do
  match ← probeCapacity16 with
  | .ok capacity => return .ok capacity
  | .error e =>
    note .debug .discovery (← getUnit).number
      s!"READ CAPACITY(16) failed: {e.message}, trying (10)"
    probeCapacity10

/-- Asks all questions in order. -/
def explore : Activity (Session σ) (Except DiscoveryError Findings) := do
  match ← probeInquiry with
  | .error e => return .error (.inquiryFailed e)
  | .ok inquiry =>
    match ← probeCapacity with
    | .error e => return .error (.capacityFailed e)
    | .ok capacity => return .ok { inquiry, capacity }

/-- Reports what was found out. -/
def reportFindings (number : UInt32) (f : Findings) : Activity (Session σ) Unit := do
  note .debug .discovery number "medium size" [("bytes", .text (toString f.capacity.totalBytes))]
  let device := DeviceType.describe (Inquiry.deviceType f.inquiry)
  let shift := sectorShift f.capacity.blockSize
  note .info .discovery number
    s!"{device} {f.capacity.blocks} blocks x {f.capacity.blockSize} bytes, shift {shift}"

/-- Discovers the unit, unless it was discovered before or a discovery of it has not ended. -/
def discover : Activity (Session σ) (Except DiscoveryError Unit) := do
  let unit ← getUnit
  match unit.state with
  | .ready => return .error (.alreadyConfigured unit.number)
  | .discovering => return .error (.alreadyRunning unit.number)
  | .uninitialized | .failed =>
    note .debug .discovery unit.number "Loop discovery"
    -- a crash from here on leaves the unit in this state
    modifyUnit fun u => { u with state := .discovering }
    match ← explore with
    | .ok findings =>
      reportFindings unit.number findings
      modifyUnit fun u => u.publish findings
      return .ok ()
    | .error e =>
      note .warn .discovery unit.number s!"discovery failed: {e.message}"
      modifyUnit fun u => { u with state := .failed }
      return .error e

end Scsi
