import Scsi.Settings.Basic
import Scsi.Yaml.Decode

/-!
# Named choices

The words that a settings document has for its choices. Some choices have several words; the first
one is the word they are written with.

## Main definitions

* `Choice.yesNo`: the words for yes and no
* `Choice.features`: the words for the features of a host adapter
* `Choice.deviceKinds`, `Choice.deviceKind?`: the words for device types, and the reading of one
* `Choice.written`: the word that a choice is written with

## Main results

* `Choice.lookup_written_yesNo`, `Choice.lookup_written_feature`: a written word names its choice
-/

namespace Scsi.Choice

open Yaml (Node)

variable {α : Type} [DecidableEq α]

/-- The words for yes and no. -/
def yesNo : List (String × Bool) :=
  [("Yes", true), ("yes", true), ("YES", true), ("true", true), ("True", true), ("1", true),
    ("No", false), ("no", false), ("NO", false), ("false", false), ("False", false), ("0", false)]

/-- The words for the features of a host adapter. -/
def features : List (String × BusFeature) :=
  [("Parity", .parity), ("Dma", .dma), ("Sync", .sync), ("Wide", .wide), ("Tagged", .tagged),
    ("AutoSense", .autoSense)]

/-- The words for the device types that have one. -/
def deviceKinds : List (String × DeviceKind) :=
  [("DirectAccess", .directAccess), ("disk", .directAccess), ("Disk", .directAccess),
    ("CdRom", .cdRom), ("cdrom", .cdRom), ("CD", .cdRom)]

/-- The name of the tag of a device type that is given by its number. -/
def codeName : String := "Code"

/-- The device type that a node stands for: by its word, or by its number under the tag. -/
def deviceKind? (node : Node) : Option DeviceKind :=
  if node.tag? = some (.own codeName) then
    (node.natural? 255).map fun n => .other (UInt8.ofNat n)
  else node.choice? deviceKinds

/-- The word that a choice is written with. -/
def written (words : List (String × α)) (choice : α) : Option String :=
  (words.find? (·.2 = choice)).map (·.1)

theorem lookup_written_yesNo (b : Bool) : (written yesNo b).bind (yesNo.lookup ·) = some b := by
  cases b <;> decide

theorem lookup_written_feature (f : BusFeature) :
    (written features f).bind (features.lookup ·) = some f := by
  cases f <;> decide

end Scsi.Choice
