import Scsi.Response.Inquiry

/-!
# Profiles of RAM disks

Where a RAM disk is on its bus, how large it is, and what it says about itself.

## Main definitions

* `DeviceKind`: the device type that a disk claims
* `RamDisk.Profile`: address, geometry and identity of a disk
* `RamDisk.Profile.mediumSize`: the size of the medium, at most what 64 bits can count
* `RamDisk.Profile.offset`: the length of some blocks, as 64 bits count it

## Main results

* `DeviceKind.code_and`: a device type has five bits
* `RamDisk.Profile.mediumSize_le`: the medium is never larger than blocks times block size
* `RamDisk.Profile.toNat_offset`: 64 bits count the length of blocks exactly as long as they can
-/

namespace Scsi

/-- The device type that a disk claims. -/
inductive DeviceKind
  | directAccess
  | cdRom
  | other (code : UInt8)
deriving DecidableEq

/-- The five bits of a device type. -/
def DeviceKind.code : DeviceKind → UInt8
  | directAccess => DeviceType.directAccess
  | cdRom => DeviceType.cdRom
  | other code => code &&& 0x1F

/-- A device type has no bits but those five. -/
theorem DeviceKind.code_and (kind : DeviceKind) : kind.code &&& 0x1F = kind.code := by
  cases kind with
  | directAccess => rfl
  | cdRom => rfl
  | other code => rw [DeviceKind.code, UInt8.and_assoc, UInt8.and_self]

/-- The device type as a text. -/
def DeviceKind.text : DeviceKind → String
  | directAccess => "DirectAccess"
  | cdRom => "CdRom"
  | other code => Layout.applied "Code" [Hex.number 2 code.toNat] ""

namespace RamDisk

/-- Address, geometry and identity of a disk. -/
structure Profile where
  target : UInt8
  lun : UInt8
  blockSize : UInt32
  blocks : UInt64
  deviceKind : DeviceKind
  removable : Bool
  /-- Whether the disk knows READ CAPACITY(16). -/
  longCapacity : Bool
deriving DecidableEq

namespace Profile

/-- The block size of a disk where none is said. -/
def usualBlockSize : UInt32 := 512

/-- A direct-access disk that is the first unit of the first target. -/
def disk (blocks : UInt64) (blockSize : UInt32) : Profile where
  target := 0
  lun := 0
  blockSize
  blocks
  deviceKind := .directAccess
  removable := false
  longCapacity := true

/-- The size of the medium in bytes; what 64 bits cannot count becomes the most that they can. -/
def mediumSize (p : Profile) : UInt64 :=
  UInt64.ofNat (min (p.blocks.toNat * p.blockSize.toNat) (UInt64.size - 1))

/-- The size of the private block that holds the medium. -/
def privateSize (p : Profile) : Nat :=
  min (p.blockSize.toNat * p.blocks.toNat) (UInt64.size - 1)

/-- The length of some blocks in bytes, which goes round where 64 bits cannot count it. -/
def offset (p : Profile) (blocks : Nat) : UInt64 := UInt64.ofNat blocks * p.blockSize.toUInt64

theorem toNat_offset (p : Profile) {blocks : Nat}
    (h : blocks * p.blockSize.toNat < UInt64.size) :
    (p.offset blocks).toNat = blocks * p.blockSize.toNat := by
  rw [offset, UInt64.toNat_mul, UInt64.toNat_ofNat', UInt32.toNat_toUInt64, Nat.mod_mul_mod]
  exact Nat.mod_eq_of_lt h

theorem mediumSize_le (p : Profile) : p.mediumSize.toNat ≤ p.blocks.toNat * p.blockSize.toNat := by
  unfold mediumSize
  rw [UInt64.toNat_ofNat']
  omega

end Profile

end RamDisk

end Scsi
