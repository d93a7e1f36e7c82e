import Scsi.Response.Error
import Scsi.Sense.Basic
import Scsi.Text.Quoted

/-!
# Fixed-format sense data

The bytes in which a target sends sense: 18 of them hold every field, and the first 14 are enough
for key, code and qualifier.

## Main definitions

* `FixedSense`: the fields of fixed-format sense data
* `FixedSense.ofBytes?`, `FixedSense.ofBytes`: the fields of at least 18 bytes
* `FixedSense.isDeferred`: whether the sense belongs to an earlier command
* `Sense.ofBytes?`: key, code and qualifier of at least 14 bytes
* `Sense.toBytes`: 18 bytes of sense that belong to the current command

## Main results

* `Sense.ofBytes?_eq_none_iff`, `FixedSense.ofBytes?_eq_none_iff`: when there are too few bytes
* `Sense.length_toBytes`, `Sense.ofBytes?_toBytes`: the length of what is written, and that it is
  read back
-/

namespace Scsi

/-- The fields of fixed-format sense data. -/
structure FixedSense where
  valid : Bool
  responseCode : UInt8
  senseKey : UInt8
  incorrectLength : Bool
  endOfMedium : Bool
  filemark : Bool
  information : UInt32
  additionalLength : UInt8
  commandSpecific : UInt32
  asc : UInt8
  ascq : UInt8
deriving DecidableEq

namespace FixedSense

/-- The count of bytes that hold every field. -/
def size : Nat := 18

/-- The response code of sense that belongs to the current command. -/
def currentError : UInt8 := 0x70

/-- The response code of sense that belongs to an earlier command. -/
def deferredError : UInt8 := 0x71

/-- The four bytes at an index as a number. -/
def word (bs : Bytes) (start : Nat) : UInt32 := UInt32.ofNat (Bytes.number (bs.slice start 4))

/-- The fields, if there are bytes enough for all of them. -/
def ofBytes? (bs : Bytes) : Option FixedSense :=
  if bs.length < size then none
  else some
    { valid := bs.byteAt 0 &&& 0x80 != 0
      responseCode := bs.byteAt 0 &&& 0x7F
      senseKey := bs.byteAt 2 &&& 0x0F
      incorrectLength := bs.byteAt 2 &&& 0x20 != 0
      endOfMedium := bs.byteAt 2 &&& 0x40 != 0
      filemark := bs.byteAt 2 &&& 0x80 != 0
      information := word bs 3
      additionalLength := bs.byteAt 7
      commandSpecific := word bs 8
      asc := bs.byteAt 12
      ascq := bs.byteAt 13 }

/-- The fields, or the reason why the bytes cannot be read. -/
def ofBytes (bs : Bytes) : Except ResponseError FixedSense :=
  match ofBytes? bs with
  | some fields => .ok fields
  | none => .error (.senseTooShort bs.length)

/-- Key, code and qualifier among the fields. -/
def sense (f : FixedSense) : Sense := ⟨f.senseKey, f.asc, f.ascq⟩

/-- Whether the sense belongs to an earlier command. -/
def isDeferred (f : FixedSense) : Bool := f.responseCode == deferredError

/-- The fields as a record text. -/
def text (f : FixedSense) : String :=
  Layout.record "SenseData"
    [("valid", Layout.truth f.valid),
      ("response_code", Hex.number 2 f.responseCode.toNat),
      ("sense_key", (SenseKey.ofByte f.senseKey).name),
      ("filemark", Layout.truth f.filemark),
      ("eom", Layout.truth f.endOfMedium),
      ("ili", Layout.truth f.incorrectLength),
      ("information", toString f.information),
      ("additional_len", toString f.additionalLength),
      ("cmd_specific", toString f.commandSpecific),
      ("asc", Hex.number 2 f.asc.toNat),
      ("ascq", Hex.number 2 f.ascq.toNat),
      ("description", Quoted.text (SenseCondition.meaning f.asc f.ascq))]

theorem ofBytes?_eq_none_iff {bs : Bytes} : ofBytes? bs = none ↔ bs.length < size := by
  simp [ofBytes?]

end FixedSense

namespace Sense

/-- The count of bytes that hold key, code and qualifier. -/
def minimumSize : Nat := 14

/-- Key, code and qualifier, if there are bytes enough for them. -/
def ofBytes? (bs : Bytes) : Option Sense :=
  if bs.length < minimumSize then none
  else some ⟨bs.byteAt 2 &&& 0x0F, bs.byteAt 12, bs.byteAt 13⟩

/-- Sense data of a current error, with the fields beside key, code and qualifier left zero. -/
def toBytes (key : SenseKey) (asc ascq : UInt8) : Bytes :=
  [FixedSense.currentError, 0, key.code &&& 0x0F, 0, 0, 0, 0, UInt8.ofNat (FixedSense.size - 8),
    0, 0, 0, 0, asc, ascq, 0, 0, 0, 0]

@[simp] theorem length_toBytes (key : SenseKey) (asc ascq : UInt8) :
    (toBytes key asc ascq).length = FixedSense.size := rfl

theorem ofBytes?_eq_none_iff {bs : Bytes} : ofBytes? bs = none ↔ bs.length < minimumSize := by
  simp [ofBytes?]

/-- From the bytes of sense data its key, code and qualifier are read back. -/
theorem ofBytes?_toBytes (key : SenseKey) (asc ascq : UInt8) :
    ofBytes? (toBytes key asc ascq) = some ⟨key.code &&& 0x0F, asc, ascq⟩ := by
  have hmask : key.code &&& 0x0F &&& 0x0F = key.code &&& 0x0F := by
    rw [UInt8.and_assoc, UInt8.and_self]
  rw [← hmask]
  rfl

end Sense

end Scsi
