import Scsi.Settings.Choice
import Scsi.Text.Quoted

/-!
# Settings documents

Settings as a YAML document with the sections `bus`, `runtime` and, for a RAM disk, `mem_disk`.
Keys that are not known are passed over.

## Main definitions

* `Settings.ofNode?`, `Settings.ofText?`: the settings that a document stands for
* `Settings.load`: the checked settings of a file, or why there are none

## Main results

* `Settings.load_eq_ok_iff`: a file is accepted exactly if its text is, and its settings are
-/

namespace Scsi

open Yaml (Node)

namespace RamDisk.Profile

/-- The profile of the disk that a node describes. -/
def ofNode? (node : Node) : Option Profile := do
  let entries ← node.entries?
  let target ← Yaml.Entries.defaulted? entries "Target" 0 (Node.natural? 255)
  let lun ← Yaml.Entries.defaulted? entries "Lun" 0 (Node.natural? 255)
  let blockSize ← Yaml.Entries.defaulted? entries "BlockSize" usualBlockSize.toNat
    (Node.natural? (UInt32.size - 1))
  let blocks ← Yaml.Entries.required? entries "Blocks" (Node.natural? (UInt64.size - 1))
  let deviceKind ← Yaml.Entries.defaulted? entries "DeviceType" .directAccess Choice.deviceKind?
  let removable ← Yaml.Entries.defaulted? entries "Removable" false (Node.choice? Choice.yesNo)
  let longCapacity ← Yaml.Entries.defaulted? entries "SupportsReadCapacity16" true
    (Node.choice? Choice.yesNo)
  return {
    target := UInt8.ofNat target
    lun := UInt8.ofNat lun
    blockSize := UInt32.ofNat blockSize
    blocks := UInt64.ofNat blocks
    deviceKind, removable, longCapacity }

end RamDisk.Profile

namespace Settings

/-- The settings that a node stands for. -/
def ofNode? (node : Node) : Option Settings := do
  let entries ← node.entries?
  let bus ← Yaml.Entries.required? entries "bus" Node.entries?
  let number ← Yaml.Entries.defaulted? bus "BusNumber" 0 (Node.natural? 255)
  let maxTargets ← Yaml.Entries.defaulted? bus "MaxTargets" 0 (Node.natural? 255)
  let maxLuns ← Yaml.Entries.defaulted? bus "MaxLUNs" 0 (Node.natural? 255)
  let features ← Yaml.Entries.defaulted? bus "Features" []
    (Node.listOf? (Node.choice? Choice.features))
  let queueDepth ← Yaml.Entries.defaulted? bus "CommandQueueDepth" 0 (Node.natural? (UInt32.size - 1))
  let privateSize ← Yaml.Entries.defaulted? bus "InterfaceDataSize" 0 (Node.natural? (UInt64.size - 1))
  let runtime ← Yaml.Entries.required? entries "runtime" Node.entries?
  let defaultTimeout ← Yaml.Entries.defaulted? runtime "DefaultTimeoutMs" usualTimeout.toNat
    (Node.natural? (UInt32.size - 1))
  let scanLuns ← Yaml.Entries.defaulted? runtime "ScanLuns" false (Node.choice? Choice.yesNo)
  let disk ← Yaml.Entries.defaulted? entries "mem_disk" none
    (Node.given? RamDisk.Profile.ofNode?)
  return {
    number := UInt8.ofNat number
    maxTargets := UInt8.ofNat maxTargets
    maxLuns := UInt8.ofNat maxLuns
    queueDepth := UInt32.ofNat queueDepth
    privateSize := UInt64.ofNat privateSize
    defaultTimeout := UInt32.ofNat defaultTimeout
    features, scanLuns, disk }

/-- The settings that a document stands for. -/
def ofText? (document : String) : Option Settings := do ofNode? (← Node.ofText? document)

/-- Why a file gives no settings. -/
inductive LoadError
  | unreadable (path : String)
  | malformed
  | refused (fault : Fault)
deriving DecidableEq

/-- The message of a load error. -/
def LoadError.message : LoadError → String
  | unreadable path => "failed to read config " ++ Quoted.text path
  | malformed => "failed to parse config YAML"
  | refused fault => fault.message

/-- The checked settings of the file at a path, whose text is missing if it cannot be read. -/
def load (path : String) (text : Option String) : Except LoadError Settings := do
  let some text := text | .error (.unreadable path)
  let some settings := ofText? text | .error .malformed
  settings.check.mapError .refused

theorem mapError_ok {ε δ α : Type} (f : ε → δ) (a : α) :
    (Except.ok a).mapError f = .ok a := rfl

theorem mapError_error {ε δ α : Type} (f : ε → δ) (e : ε) :
    (Except.error e : Except ε α).mapError f = .error (f e) := rfl

theorem load_eq_ok_iff {path : String} {text : Option String} {t : Settings} :
    load path text = .ok t ↔ ∃ s, text.bind ofText? = some s ∧ s.check = .ok t := by
  cases text with
  | none => simp [load]
  | some text =>
    simp only [load, Option.bind_some]
    cases ofText? text with
    | none => simp
    | some s => cases h : s.check <;> simp [mapError_ok, mapError_error, h]

end Settings

end Scsi
