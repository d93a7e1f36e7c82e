/-!
# Sense keys

The sense key is the low nibble of byte 2 of fixed-format sense data; it says what kind of
condition a target reports.

## Main definitions

* `SenseKey`: the keys with a meaning, and the reserved one
* `SenseKey.ofByte`, `SenseKey.code`: the key that a byte names and the nibble that a key is
* `SenseKey.name`: the name of a key in texts

## Main results

* `SenseKey.code_ofByte`: the code of the key of a byte is the low nibble of that byte
-/

namespace Scsi

/-- What kind of condition a target reports. -/
inductive SenseKey
  | noSense
  | recoveredError
  | notReady
  | mediumError
  | hardwareError
  | illegalRequest
  | unitAttention
  | dataProtect
  | blankCheck
  | vendorSpecific
  | copyAborted
  | abortedCommand
  | volumeOverflow
  | miscompare
  | completed
  | reserved (code : UInt8)
deriving DecidableEq

namespace SenseKey

/-- The key named by the low nibble of a byte. -/
def ofByte (b : UInt8) : SenseKey :=
  match (b &&& 0x0F).toNat with
  | 0x0 => noSense
  | 0x1 => recoveredError
  | 0x2 => notReady
  | 0x3 => mediumError
  | 0x4 => hardwareError
  | 0x5 => illegalRequest
  | 0x6 => unitAttention
  | 0x7 => dataProtect
  | 0x8 => blankCheck
  | 0x9 => vendorSpecific
  | 0xA => copyAborted
  | 0xB => abortedCommand
  | 0xD => volumeOverflow
  | 0xE => miscompare
  | 0xF => completed
  | _ => reserved (b &&& 0x0F)

/-- The nibble that stands for a key. -/
def code : SenseKey → UInt8
  | noSense => 0x0
  | recoveredError => 0x1
  | notReady => 0x2
  | mediumError => 0x3
  | hardwareError => 0x4
  | illegalRequest => 0x5
  | unitAttention => 0x6
  | dataProtect => 0x7
  | blankCheck => 0x8
  | vendorSpecific => 0x9
  | copyAborted => 0xA
  | abortedCommand => 0xB
  | volumeOverflow => 0xD
  | miscompare => 0xE
  | completed => 0xF
  | reserved code => code &&& 0x0F

/-- The name of a key in texts. -/
def name : SenseKey → String
  | noSense => "NoSense"
  | recoveredError => "RecoveredError"
  | notReady => "NotReady"
  | mediumError => "MediumError"
  | hardwareError => "HardwareError"
  | illegalRequest => "IllegalRequest"
  | unitAttention => "UnitAttention"
  | dataProtect => "DataProtect"
  | blankCheck => "BlankCheck"
  | vendorSpecific => "VendorSpecific"
  | copyAborted => "CopyAborted"
  | abortedCommand => "AbortedCommand"
  | volumeOverflow => "VolumeOverflow"
  | miscompare => "Miscompare"
  | completed => "Completed"
  | reserved code => s!"Reserved({code})"

theorem code_ofByte (b : UInt8) : (ofByte b).code = b &&& 0x0F := by
  have h : ∀ i : Fin 256, (ofByte (UInt8.ofNat i)).code = UInt8.ofNat i &&& 0x0F := by
    decide +kernel
  simpa using h ⟨b.toNat, b.toNat_lt⟩

end SenseKey

end Scsi
