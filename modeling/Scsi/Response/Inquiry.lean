import Scsi.Response.Error
import Scsi.Response.Text
import Scsi.Text.Layout
import Scsi.Text.Quoted

/-!
# Standard INQUIRY data

The answer to INQUIRY says what kind of device a unit is, who made it and what it is called.

## Main definitions

* `Inquiry.size`: the size of the data kept per unit
* `Identity`: the fields of the data
* `Identity.ofBytes`: the fields of at least 36 bytes
* `DeviceType.describe`: a device type in words

## Main results

* `Identity.ofBytes_isOk_iff`: 36 bytes are enough, and fewer are not
-/

namespace Scsi

/-- The size of the standard INQUIRY data kept per unit. -/
def Inquiry.size : Nat := 96

/-- The shortest data that names vendor, product and revision. -/
def Inquiry.minimumSize : Nat := 36

/-- The bits of byte 0 that hold the device type. -/
def Inquiry.deviceType (data : Bytes) : UInt8 := data.byteAt 0 &&& 0x1F

/-- Whether byte 1 calls the medium removable. -/
def Inquiry.removable (data : Bytes) : Bool := data.byteAt 1 &&& 0x80 != 0

/-- The device type of a disk. -/
def DeviceType.directAccess : UInt8 := 0x00

/-- The device type of a CD or DVD drive. -/
def DeviceType.cdRom : UInt8 := 0x05

/-- The device types with a name. -/
def DeviceType.table : List (UInt8 × String) :=
  [
    (0x00, "Direct-access block (disk)"),
    (0x01, "Sequential-access (tape)"),
    (0x03, "Processor"),
    (0x04, "WORM"),
    (0x05, "CD/DVD"),
    (0x07, "Optical memory"),
    (0x08, "Medium changer"),
    (0x0C, "Storage array controller"),
    (0x0D, "Enclosure services"),
    (0x0E, "RBC"),
    (0x1F, "Unknown / no device")
  ]

/-- A device type in words. -/
def DeviceType.describe (deviceType : UInt8) : String :=
  (DeviceType.table.lookup deviceType).getD "Unknown/Reserved"

/-- The fields of standard INQUIRY data. -/
structure Identity where
  qualifier : UInt8
  deviceType : UInt8
  removable : Bool
  version : UInt8
  dataFormat : UInt8
  additionalLength : UInt8
  vendor : String
  product : String
  revision : String
deriving DecidableEq

namespace Identity

/-- The fields of standard INQUIRY data, if it is long enough. -/
def ofBytes (bs : Bytes) : Except ResponseError Identity :=
  if bs.length < Inquiry.minimumSize then .error (.inquiryTooShort bs.length)
  else .ok
    { qualifier := bs.byteAt 0 >>> 5
      deviceType := Inquiry.deviceType bs
      removable := Inquiry.removable bs
      version := bs.byteAt 2
      dataFormat := bs.byteAt 3 &&& 0x0F
      additionalLength := bs.byteAt 4
      vendor := FieldText.read (bs.slice 8 8)
      product := FieldText.read (bs.slice 16 16)
      revision := FieldText.read (bs.slice 32 4) }

/-- The fields as a record text. -/
def text (i : Identity) : String :=
  Layout.record "InquiryStandard"
    [("peripheral_qualifier", toString i.qualifier),
      ("device_type", toString i.deviceType),
      ("rmb", Layout.truth i.removable),
      ("version", toString i.version),
      ("response_data_format", toString i.dataFormat),
      ("additional_length", toString i.additionalLength),
      ("vendor_id", Quoted.text i.vendor),
      ("product_id", Quoted.text i.product),
      ("product_rev", Quoted.text i.revision)]

theorem ofBytes_isOk_iff {bs : Bytes} :
    (ofBytes bs).isOk = true ↔ Inquiry.minimumSize ≤ bs.length := by
  unfold ofBytes
  split
  · next h => simp [Except.isOk, Except.toBool]; omega
  · next h => simp [Except.isOk, Except.toBool]; omega

end Identity

end Scsi
