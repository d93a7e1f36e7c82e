import Scsi.Flags
import Scsi.Response.Capacity
import Scsi.Response.Inquiry
import Scsi.Sense.Basic

/-!
# Logical units

What is known of a unit on a bus: its address, how far its discovery is, and what the discovery
found out.

## Main definitions

* `LogicalUnit`: the record of a unit
* `LogicalUnit.new`: a unit that was not discovered yet
* `Findings`: what a discovery finds out
* `LogicalUnit.publish`: the unit after a successful discovery
* `sectorShift`: the shift that divides by a block size
* `unitNumber`: the number of a unit in logs
-/

namespace Scsi

/-! ## Numbers -/

/-- Bus, target and unit packed into one number, of target and unit the low nibbles. -/
def unitNumber (bus target lun : UInt8) : UInt32 :=
  (bus.toUInt32 <<< 8) ||| ((target &&& 0x0F).toUInt32 <<< 4) ||| (lun &&& 0x0F).toUInt32

/-- The first exponent from `shift` on whose power of two reaches `n`, trying `left` steps up. -/
def exponentFrom (n : Nat) : (left shift : Nat) → Nat
  | 0, shift => shift
  | left + 1, shift => if 1 <<< shift < n then exponentFrom n left (shift + 1) else shift

/-- The shift used for a block size that is no power of two. -/
def fallbackShift : UInt8 := 9

/-- The exponent of a block size that is a power of two, and the fallback for any other. -/
def sectorShift (blockSize : UInt32) : UInt8 :=
  let shift := exponentFrom blockSize.toNat 31 0
  if 1 <<< shift = blockSize.toNat then UInt8.ofNat shift else fallbackShift

/-! ## The record -/

/-- The flags of a unit. -/
abbrev UnitFlags.kind : FlagKind :=
  ⟨"UnitFlags", ["REMOVABLE", "PRESENT", "TAGGED", "SYNC", "CHANGED"]⟩

/-- Flags of a unit. -/
abbrev UnitFlags := Flags UnitFlags.kind

/-- The medium can be taken out. -/
def UnitFlags.removable : UnitFlags := Flags.single 0

/-- The unit was discovered. -/
def UnitFlags.present : UnitFlags := Flags.single 1

/-- The transfer modes of a unit. -/
abbrev TransferModes.kind : FlagKind := ⟨"XferModes", ["PACKET"]⟩

/-- Transfer modes of a unit. -/
abbrev TransferModes := Flags TransferModes.kind

/-- Transfers in packets, for all but direct-access devices. -/
def TransferModes.packet : TransferModes := Flags.single 0

/-- How far the discovery of a unit is. -/
inductive DiscoveryState
  | uninitialized
  | discovering
  | ready
  | failed
deriving DecidableEq

/-- The name of a state in texts. -/
def DiscoveryState.name : DiscoveryState → String
  | uninitialized => "Uninitialized"
  | discovering => "Discovering"
  | ready => "Ready"
  | failed => "Failed"

/-- Which block operations a unit has: none before its discovery, all of them after it. -/
inductive Operations
  | unsupported
  | ready
deriving DecidableEq

/-- The name of a set of operations in texts. -/
def Operations.name : Operations → String
  | unsupported => "UnsupportedOps"
  | ready => "ReadyOps"

/-- The operations as a text. -/
def Operations.text (o : Operations) : String := Layout.applied o.name [o.name] ""

/-- The geometry that old callers ask for: every block is a cylinder. -/
structure Geometry where
  cylinders : UInt32
  heads : UInt8
  sectors : UInt8
deriving DecidableEq

/-- One unit on a bus. -/
structure LogicalUnit where
  target : UInt8
  lun : UInt8
  number : UInt32
  deviceType : UInt8
  flags : UnitFlags
  blockSize : UInt32
  capacity : UInt64
  capacity48 : UInt64
  sectorShift : UInt8
  transferModes : TransferModes
  usedModes : TransferModes
  geometry : Geometry
  /-- The INQUIRY data that the discovery received. -/
  inquiry : Bytes
  state : DiscoveryState
  operations : Operations
  /-- The sense of the last command, zero if it had none. -/
  sense : Sense
  /-- The count of bytes that the last command moved. -/
  lastActual : UInt32
  /-- The time allowed for commands that do not say, in milliseconds. -/
  defaultTimeout : UInt32
deriving DecidableEq

/-- What a discovery finds out of a unit. -/
structure Findings where
  inquiry : Bytes
  capacity : Capacity
deriving DecidableEq

namespace LogicalUnit

/-- The time allowed for commands where nothing else is said, in milliseconds. -/
def standardTimeout : UInt32 := 30000

/-- A unit that was not discovered yet; a default timeout of zero stands for the standard one. -/
def new (bus target lun : UInt8) (defaultTimeout : UInt32) : LogicalUnit where
  target
  lun
  number := unitNumber bus target lun
  deviceType := 0
  flags := .empty
  blockSize := Capacity.defaultBlockSize
  capacity := 0
  capacity48 := 0
  sectorShift := 0
  transferModes := .empty
  usedModes := .empty
  geometry := ⟨0, 0, 0⟩
  inquiry := Bytes.zeros Inquiry.size
  state := .uninitialized
  operations := .unsupported
  sense := .zero
  lastActual := 0
  defaultTimeout := if defaultTimeout = 0 then standardTimeout else defaultTimeout

/-- Whether the unit has its block operations. -/
def isReady (u : LogicalUnit) : Bool := u.operations == .ready

/-- Whether the unit is flagged as present. -/
def isPresent (u : LogicalUnit) : Bool := u.flags.contains UnitFlags.present

/-- The transfer modes of a device type. -/
def modesOf (deviceType : UInt8) : TransferModes :=
  if deviceType = DeviceType.directAccess then .empty else TransferModes.packet

/-- One cylinder per block, as many as 32 bits can count. -/
def geometryOf (blocks : UInt64) : Geometry where
  cylinders := if blocks.toNat < UInt32.size then blocks.toUInt32 else 0xFFFFFFFF
  heads := 1
  sectors := 1

/-- The unit after a successful discovery: everything that was found out appears in one step. -/
def publish (u : LogicalUnit) (f : Findings) : LogicalUnit :=
  let deviceType := Inquiry.deviceType f.inquiry
  let flags := if Inquiry.removable f.inquiry then u.flags ∪ UnitFlags.removable else u.flags
  { u with
    deviceType
    inquiry := f.inquiry
    flags := flags ∪ UnitFlags.present
    blockSize := f.capacity.blockSize
    capacity := f.capacity.blocks
    capacity48 := f.capacity.blocks
    sectorShift := Scsi.sectorShift f.capacity.blockSize
    transferModes := modesOf deviceType
    usedModes := modesOf deviceType
    geometry := geometryOf f.capacity.blocks
    operations := .ready
    state := .ready }

/-- The number of the unit as logs write it. -/
def label (u : LogicalUnit) : String := Hex.number 4 u.number.toNat

/-- The unit as a record text. -/
def text (u : LogicalUnit) : String :=
  Layout.record "Unit"
    [("number", u.label),
      ("target", toString u.target),
      ("lun", toString u.lun),
      ("device_type", toString u.deviceType),
      ("flags", u.flags.text),
      ("block_size", toString u.blockSize),
      ("capacity", toString u.capacity),
      ("sector_shift", toString u.sectorShift),
      ("state", u.state.name),
      ("sense", u.sense.text)]

end LogicalUnit

end Scsi
