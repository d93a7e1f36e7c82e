import Scsi.Bus.Basic
import Scsi.RamDisk.Profile

/-!
# Settings

What the owner of a bus decides about it: its limits and features, the time allowed for commands,
how it is scanned, and the RAM disk attached to it. Checked settings have no limit left open, and
the private block of their adapter holds the medium of their disk.

## Main definitions

* `BusFeature`: one feature of a host adapter, and `BusFeature.all` of them joined
* `Settings`: the settings
* `Settings.completed`: the settings with every open limit filled in
* `Settings.check`: the completed settings with room for the medium, or why they are refused
* `Settings.busSettings`: what a bus is built from

## Main results

* `Settings.check_eq_ok_iff`: settings are accepted exactly if their limits are in range and their
  disk, if any, is sound; the answer is the completed settings with room for the medium
-/

namespace Scsi

/-- A feature of a host adapter. -/
inductive BusFeature
  | parity
  | dma
  | sync
  | wide
  | tagged
  | autoSense
deriving DecidableEq

/-- The bit that carries the feature. -/
def BusFeature.bit : BusFeature → Nat
  | parity => 0
  | dma => 1
  | sync => 2
  | wide => 3
  | tagged => 4
  | autoSense => 5

/-- The set of the features in a list. -/
def BusFeature.joined (features : List BusFeature) : BusFeatures :=
  features.foldl (fun all f => all ∪ .single f.bit) .empty

/-- What the owner of a bus decides. A limit or a time of zero is left open. -/
structure Settings where
  number : UInt8
  maxTargets : UInt8
  maxLuns : UInt8
  features : List BusFeature
  queueDepth : UInt32
  /-- The size of the private block of the host adapter, without what a disk needs. -/
  privateSize : UInt64
  /-- The time allowed for commands that do not say, in milliseconds. -/
  defaultTimeout : UInt32
  /-- Whether a scan asks for every unit of a target, and not for the first one only. -/
  scanLuns : Bool
  disk : Option RamDisk.Profile
deriving DecidableEq

namespace Settings

/-- Why settings are refused. -/
inductive Fault
  | tooManyTargets
  | tooManyLuns
  | noBlockSize
  | noBlocks
  | mediumTooLarge
  | targetOutOfRange
  | lunOutOfRange
deriving DecidableEq

/-- The largest medium of a RAM disk. -/
def mediumLimit : UInt64 := 1073741824

/-- The time allowed for commands where none is said. -/
def usualTimeout : UInt32 := 30000

/-- The message of a fault. -/
def Fault.message : Fault → String
  | tooManyTargets => s!"MaxTargets must be <= {BusSettings.usualTargets.toNat}"
  | tooManyLuns => s!"MaxLUNs must be <= {BusSettings.usualLuns.toNat}"
  | noBlockSize => "mem_disk.BlockSize must be > 0"
  | noBlocks => "mem_disk.Blocks must be > 0"
  | mediumTooLarge => s!"mem_disk medium exceeds {mediumLimit.toNat} bytes"
  | targetOutOfRange => "mem_disk.Target must be < MaxTargets"
  | lunOutOfRange => "mem_disk.Lun must be < MaxLUNs"

/-- The settings with every open limit filled in. -/
def completed (s : Settings) : Settings :=
  { s with
    maxTargets := if s.maxTargets = 0 then BusSettings.usualTargets else s.maxTargets
    maxLuns := if s.maxLuns = 0 then BusSettings.usualLuns else s.maxLuns
    defaultTimeout := if s.defaultTimeout = 0 then usualTimeout else s.defaultTimeout }

/-- The first fault of a disk on a bus with these settings. -/
def diskFault? (s : Settings) (disk : RamDisk.Profile) : Option Fault :=
  if disk.blockSize = 0 then some .noBlockSize
  else if disk.blocks = 0 then some .noBlocks
  else if mediumLimit < disk.mediumSize then some .mediumTooLarge
  else if s.maxTargets ≤ disk.target then some .targetOutOfRange
  else if s.maxLuns ≤ disk.lun then some .lunOutOfRange
  else none

/-- The first fault of the settings. -/
def fault? (s : Settings) : Option Fault :=
  if BusSettings.usualTargets < s.maxTargets then some .tooManyTargets
  else if BusSettings.usualLuns < s.maxLuns then some .tooManyLuns
  else s.disk.bind s.diskFault?

/-- The settings with a private block that holds the medium of their disk. -/
def withRoom (s : Settings) : Settings :=
  match s.disk with
  | none => s
  | some disk => { s with privateSize := max s.privateSize disk.mediumSize }

/-- The completed settings with room for the medium, or their first fault. -/
def check (s : Settings) : Except Fault Settings :=
  match s.completed.fault? with
  | some fault => .error fault
  | none => .ok s.completed.withRoom

/-- What a bus is built from. -/
def busSettings (s : Settings) : BusSettings where
  number := s.number
  maxTargets := s.maxTargets
  maxLuns := s.maxLuns
  features := BusFeature.joined s.features
  queueDepth := s.queueDepth
  privateSize := s.privateSize.toNat
  defaultTimeout := s.defaultTimeout

/-! ## Which settings are accepted -/

theorem diskFault?_eq_none_iff {s : Settings} {disk : RamDisk.Profile} :
    s.diskFault? disk = none ↔
      disk.blockSize ≠ 0 ∧ disk.blocks ≠ 0 ∧ disk.mediumSize ≤ mediumLimit ∧
        disk.target < s.maxTargets ∧ disk.lun < s.maxLuns := by
  have notLt {a b : UInt8} : ¬b ≤ a ↔ a < b := UInt8.not_le
  simp only [diskFault?, ← notLt, ne_eq, ← UInt64.not_lt]
  repeat' split
  all_goals simp_all

theorem fault?_eq_none_iff {s : Settings} :
    s.fault? = none ↔
      s.maxTargets ≤ BusSettings.usualTargets ∧ s.maxLuns ≤ BusSettings.usualLuns ∧
        ∀ disk ∈ s.disk, s.diskFault? disk = none := by
  simp only [fault?, ← UInt8.not_lt]
  split
  · simp_all
  split
  · simp_all
  · cases h : s.disk <;> simp_all

theorem check_eq_ok_iff {s t : Settings} :
    s.check = .ok t ↔ s.completed.fault? = none ∧ t = s.completed.withRoom := by
  unfold check
  split
  next h => simp [h]
  next h => simp [h, eq_comm]

/-- The disk of checked settings has no fault. -/
theorem diskFault?_of_check {s t : Settings} (hcheck : s.check = .ok t) {disk : RamDisk.Profile}
    (hdisk : t.disk = some disk) : t.diskFault? disk = none := by
  obtain ⟨hfault, rfl⟩ := check_eq_ok_iff.1 hcheck
  obtain ⟨-, -, hnone⟩ := fault?_eq_none_iff.1 hfault
  -- room for the medium changes neither limits nor disk
  have hsame : s.completed.withRoom.disk = s.completed.disk ∧
      s.completed.withRoom.diskFault? disk = s.completed.diskFault? disk := by
    unfold withRoom
    split <;> exact ⟨rfl, rfl⟩
  rw [hsame.2]
  exact hnone disk (hsame.1 ▸ hdisk)

end Settings

end Scsi
