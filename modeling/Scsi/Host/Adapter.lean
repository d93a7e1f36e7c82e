import Scsi.Activity
import Scsi.Command.Basic
import Scsi.Memory

/-!
# Host adapters

A host adapter moves commands between a bus and its targets. It works on a state of its own and on
a private block of memory that the bus owns; each of its operations may crash, and what it wrote
before the crash stays.

## Main definitions

* `ResetFlags`, `TargetFlags`, `TargetSettings`: arguments of the operations
* `HostAdapter σ`: the operations of an adapter with states in `σ`
* `NullAdapter`: the adapter without any operation of its own
-/

namespace Scsi

/-- The flags of a reset. -/
abbrev ResetFlags.kind : FlagKind := ⟨"ResetFlags", ["BUS", "DEVICE", "ABORT"]⟩

/-- The scope of a reset. -/
abbrev ResetFlags := Flags ResetFlags.kind

/-- The flags negotiated with a target. -/
abbrev TargetFlags.kind : FlagKind := ⟨"TargetFlags", ["ALLOW_DISC", "TAGGED"]⟩

/-- Flags negotiated with a target. -/
abbrev TargetFlags := Flags TargetFlags.kind

/-- The target may disconnect. -/
def TargetFlags.allowDisconnect : TargetFlags := Flags.single 0

/-- Parameters of the transfers with one target. -/
structure TargetSettings where
  /-- The synchronous period asked for, in nanoseconds; zero stands for asynchronous. -/
  transferPeriod : UInt16
  /-- The offset between request and acknowledgement. -/
  maxOffset : UInt8
  /-- The width exponent: 0 for 8 bits, 1 for 16. -/
  busWidth : UInt8
  flags : TargetFlags
deriving DecidableEq

/-- The settings as a record text. -/
def TargetSettings.text (s : TargetSettings) : String :=
  Layout.record "TargetSettings"
    [("transfer_period_ns", toString s.transferPeriod),
      ("max_offset", toString s.maxOffset),
      ("bus_width", toString s.busWidth),
      ("flags", s.flags.text)]

/-- The operations of a host adapter with states in `σ`, each on the state and the private block, and
its end. What an adapter leaves out is answered as not implemented. -/
class HostAdapter (σ : Type) where
  /-- Completes a command: whether it was delivered, and the record as the adapter leaves it. -/
  submit {size : Nat} (c : Command) : Activity (σ × Memory size) (Bool × Command) :=
    pure (false, c)
  /-- Resets the bus and says whether that worked. -/
  reset {size : Nat} (flags : ResetFlags) : Activity (σ × Memory size) Bool := pure false
  /-- Negotiates with a target and says whether that worked. -/
  configureTarget {size : Nat} (target : UInt8) (settings : TargetSettings) :
    Activity (σ × Memory size) Bool := pure false
  /-- Makes progress while no command is on its way. -/
  poll {size : Nat} : Activity (σ × Memory size) Unit := pure ()
  /-- Lets go of what the adapter holds. This is the last that it does, and the private block is no
  part of it. -/
  release : Activity σ Unit := pure ()

/-- The adapter without any operation of its own. -/
structure NullAdapter where
deriving DecidableEq

instance : HostAdapter NullAdapter where

end Scsi
