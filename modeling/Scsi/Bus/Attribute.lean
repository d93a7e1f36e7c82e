import Scsi.Bus.Basic

/-!
# Attributes

Buses and units answer questions for numbered attributes. A number without an answer goes to the
default of the caller.

## Main definitions

* `BusAttribute`, `UnitAttribute`: the attributes
* `BusAttribute.ofId?`, `UnitAttribute.ofId?`: the attribute of a number
* `AttributeValue`: an answer
* `Bus.query`, `LogicalUnit.query`: the answer for a number
-/

namespace Scsi

/-- The answer to the question for an attribute. -/
inductive AttributeValue
  | number (n : UInt64)
  | bytes (bs : Bytes)
deriving DecidableEq

/-- The attributes of a bus. -/
inductive BusAttribute
  | maxTargets
  | maxLuns
  | features
  | interfaceDataSize
  | interfaceVectors
  | commandQueueDepth
  | minTransferPeriod
  | maxTransferPeriod
deriving DecidableEq

namespace BusAttribute

/-- All attributes of a bus in the order of their numbers. -/
def all : List BusAttribute :=
  [maxTargets, maxLuns, features, interfaceDataSize, interfaceVectors, commandQueueDepth,
    minTransferPeriod, maxTransferPeriod]

/-- The number of the first attribute. -/
def firstId : UInt32 := 0x08000000

/-- The attribute of a number. -/
def ofId? (id : UInt32) : Option BusAttribute :=
  if firstId ≤ id then all[(id - firstId).toNat]? else none

/-- The name of an attribute in texts. -/
def name : BusAttribute → String
  | maxTargets => "MaxTargets"
  | maxLuns => "MaxLuns"
  | features => "Features"
  | interfaceDataSize => "InterfaceDataSize"
  | interfaceVectors => "InterfaceVectors"
  | commandQueueDepth => "CommandQueueDepth"
  | minTransferPeriod => "MinTransferPeriod"
  | maxTransferPeriod => "MaxTransferPeriod"

end BusAttribute

/-- The attributes of a unit. -/
inductive UnitAttribute
  | targetId
  | lun
  | deviceType
  | blockSize
  | capacity
  | flags
  | inquiryData
deriving DecidableEq

namespace UnitAttribute

/-- All attributes of a unit in the order of their numbers. -/
def all : List UnitAttribute :=
  [targetId, lun, deviceType, blockSize, capacity, flags, inquiryData]

/-- The number of the first attribute. -/
def firstId : UInt32 := 0x08000100

/-- The attribute of a number. -/
def ofId? (id : UInt32) : Option UnitAttribute :=
  if firstId ≤ id then all[(id - firstId).toNat]? else none

/-- The name of an attribute in texts. -/
def name : UnitAttribute → String
  | targetId => "TargetId"
  | lun => "Lun"
  | deviceType => "DeviceType"
  | blockSize => "BlockSize"
  | capacity => "Capacity"
  | flags => "Flags"
  | inquiryData => "InquiryData"

end UnitAttribute

/-- The value that a bus keeps for an attribute. What only the adapter knows has no value here. -/
def Bus.value? {σ : Type} (bus : Bus σ) : BusAttribute → Option AttributeValue
  | .maxTargets => some (.number bus.maxTargets.toUInt64)
  | .maxLuns => some (.number bus.maxLuns.toUInt64)
  | .features => some (.number bus.features.bits.toUInt64)
  | .commandQueueDepth => some (.number bus.queueDepth.toUInt64)
  | .interfaceDataSize | .interfaceVectors | .minTransferPeriod | .maxTransferPeriod => none

/-- The answer of a bus for a number, or that of the caller. -/
def Bus.query {σ : Type} (bus : Bus σ) (id : UInt32)
    (default : UInt32 → Option AttributeValue) : Option AttributeValue :=
  match (BusAttribute.ofId? id).bind bus.value? with
  | some value => some value
  | none => default id

/-- The value that a unit keeps for an attribute. -/
def LogicalUnit.value (u : LogicalUnit) : UnitAttribute → AttributeValue
  | .targetId => .number u.target.toUInt64
  | .lun => .number u.lun.toUInt64
  | .deviceType => .number u.deviceType.toUInt64
  | .blockSize => .number u.blockSize.toUInt64
  | .capacity => .number u.capacity
  | .flags => .number u.flags.bits.toUInt64
  | .inquiryData => .bytes u.inquiry

/-- The answer of a unit for a number, or that of the caller. -/
def LogicalUnit.query (u : LogicalUnit) (id : UInt32)
    (default : UInt32 → Option AttributeValue) : Option AttributeValue :=
  match UnitAttribute.ofId? id with
  | some known => some (u.value known)
  | none => default id

end Scsi
