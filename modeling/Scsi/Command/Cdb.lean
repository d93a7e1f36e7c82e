import Scsi.Bytes
import Scsi.Command.Opcode

/-!
# Command descriptor blocks

A command descriptor block tells a target what to do. It travels in a block of 16 bytes of which
the first 6, 10 or 16 have a meaning, as the operation code says; the others are zero.

## Main definitions

* `Cdb`: a block of 16 bytes and the count of those with a meaning
* `Cdb.ofBytes`: the block that holds given bytes, with zeros behind them
* `Cdb.bytes`, `Cdb.opcode`: the bytes with a meaning, and the first byte of the block
* `Cdb.Area`: an array that a block is put into, with whatever it held before
* `Cdb.Area.cleared`, `Cdb.Area.put`: the array after it was cleared, and after bytes were put into it
* `Cdb.Area.inquiry`, `Cdb.Area.vitalProductData`, `Cdb.Area.readCapacity10`,
  `Cdb.Area.readCapacity16`, `Cdb.Area.transfer10`, `Cdb.Area.transfer16`, `Cdb.Area.requestSense`,
  `Cdb.Area.synchronizeCache10`, `Cdb.Area.testUnitReady`: what is put into an array, field by field
* `Cdb.inquiry`, `Cdb.vitalProductData`, `Cdb.readCapacity10`, `Cdb.readCapacity16`,
  `Cdb.transfer10`, `Cdb.transfer16`, `Cdb.requestSense`, `Cdb.synchronizeCache10`,
  `Cdb.testUnitReady`: the blocks that are sent

## Main results

* `Cdb.bytes_ofBytes`: a block holds the bytes that it was made from
* `Cdb.length_bytes`: the count of bytes with a meaning
* `Cdb.Area.cleared_eq`: what an array held before is gone once it was cleared
* `Cdb.inquiry_eq`, `Cdb.transfer10_eq`, …: the bytes with a meaning, one behind the other
-/

namespace Scsi

/-- A block of 16 bytes and the count of those with a meaning. -/
@[ext]
structure Cdb where
  block : Bytes
  length : Nat
  length_block : block.length = 16
  length_le : length ≤ 16
deriving DecidableEq

/-- Whether a block transfer fills the medium or empties it. -/
inductive Access
  | read
  | write
deriving DecidableEq

/-- The pages of vital product data in common use. -/
inductive VpdPage
  | supportedPages
  | unitSerial
  | deviceId
  | blockLimits
deriving DecidableEq

/-- The code of a page. -/
def VpdPage.code : VpdPage → UInt8
  | supportedPages => 0x00
  | unitSerial => 0x80
  | deviceId => 0x83
  | blockLimits => 0xB0

namespace Cdb

/-- The block that holds the given bytes, with zeros behind them. -/
def ofBytes (bs : Bytes)
    (h : bs.length ≤ 16 := by
      simp only [List.length_append, List.length_cons, List.length_nil, Bytes.length_bigEndian,
        Nat.reduceAdd, Nat.reduceLeDiff]) : Cdb where
  block := bs ++ Bytes.zeros (16 - bs.length)
  length := bs.length
  length_block := by simp; omega
  length_le := h

/-- The bytes with a meaning. -/
def bytes (c : Cdb) : Bytes := c.block.take c.length

/-- The first byte of the block. -/
def opcode (c : Cdb) : UInt8 := c.block.byteAt 0

@[simp] theorem bytes_ofBytes (bs : Bytes) (h : bs.length ≤ 16) : (ofBytes bs h).bytes = bs := by
  simp [bytes, ofBytes]

theorem length_bytes (c : Cdb) : c.bytes.length = c.length := by
  have h := c.length_block
  have h' := c.length_le
  simp [bytes]
  omega

/-! ## Arrays -/

/-- An array of 16 bytes that a block is put into, with whatever it held before. -/
@[ext]
structure Area where
  bytes : Bytes
  length_bytes : bytes.length = 16

/-- The flag bits that a transfer may carry: protection, page-out and unit-access bits, for a write
the non-volatile one as well. -/
def flagMask : Access → UInt8
  | .read => 0xF8
  | .write => 0xFA

namespace Area

/-- An array of zeros. -/
def zeros : Area := ⟨Bytes.zeros 16, rfl⟩

/-- The array with every byte set to zero. -/
def cleared (a : Area) : Area :=
  ⟨a.bytes.map fun _ => 0, by rw [List.length_map, a.length_bytes]⟩

/-- The array with bytes put into it from an offset on. -/
def put (a : Area) (offset : Nat) (bs : Bytes) : Area :=
  ⟨Bytes.placed offset bs a.bytes, by rw [Bytes.length_placed, a.length_bytes]⟩

/-- What an array held before is gone once it was cleared. -/
@[simp] theorem cleared_eq (a : Area) : a.cleared = zeros := by
  refine Area.ext ?_
  show a.bytes.map (fun _ => 0) = Bytes.zeros 16
  rw [List.map_const', a.length_bytes]
  rfl

/-- INQUIRY for a page; page 0 asks for the standard data, every other for vital product data. -/
def inquiry (page allocation control : UInt8) (a : Area) : Area × Nat :=
  (a.cleared
    |>.put 0 [Opcode.inquiry]
    |>.put 1 [if page ≠ 0 then 0x01 else 0x00]
    |>.put 2 [page]
    |>.put 4 [allocation]
    |>.put 5 [control], 6)

/-- INQUIRY for a page of vital product data, page 0 included. -/
def vitalProductData (page : VpdPage) (allocation : UInt8) (a : Area) : Area × Nat :=
  let (filled, length) := a.inquiry page.code allocation 0
  (filled.put 1 [0x01], length)

/-- READ CAPACITY(10) without an address. -/
def readCapacity10 (control : UInt8) (a : Area) : Area × Nat :=
  (a.cleared
    |>.put 0 [Opcode.readCapacity10]
    |>.put 9 [control], 10)

/-- READ CAPACITY(16) for an allocation length. -/
def readCapacity16 (allocation : UInt32) (control : UInt8) (a : Area) : Area × Nat :=
  (a.cleared
    |>.put 0 [Opcode.serviceActionIn16]
    |>.put 1 [Opcode.readCapacity16Action]
    |>.put 10 (Bytes.bigEndian 4 allocation.toNat)
    |>.put 15 [control], 16)

/-- READ(10) or WRITE(10). -/
def transfer10 (access : Access) (address : UInt32) (count : UInt16) (flags control : UInt8)
    (a : Area) : Area × Nat :=
  let opcode := match access with
    | .read => Opcode.read10
    | .write => Opcode.write10
  (a.cleared
    |>.put 0 [opcode]
    |>.put 1 [flags &&& flagMask access]
    |>.put 2 (Bytes.bigEndian 4 address.toNat)
    |>.put 7 (Bytes.bigEndian 2 count.toNat)
    |>.put 9 [control], 10)

/-- READ(16) or WRITE(16). -/
def transfer16 (access : Access) (address : UInt64) (count : UInt32) (flags control : UInt8)
    (a : Area) : Area × Nat :=
  let opcode := match access with
    | .read => Opcode.read16
    | .write => Opcode.write16
  (a.cleared
    |>.put 0 [opcode]
    |>.put 1 [flags &&& flagMask access]
    |>.put 2 (Bytes.bigEndian 8 address.toNat)
    |>.put 10 (Bytes.bigEndian 4 count.toNat)
    |>.put 15 [control], 16)

/-- REQUEST SENSE, in descriptor format if asked for. -/
def requestSense (descriptor : Bool) (allocation control : UInt8) (a : Area) : Area × Nat :=
  (a.cleared
    |>.put 0 [Opcode.requestSense]
    |>.put 1 [if descriptor then 0x01 else 0x00]
    |>.put 4 [allocation]
    |>.put 5 [control], 6)

/-- SYNCHRONIZE CACHE(10) over the whole medium. -/
def synchronizeCache10 (immediate : Bool) (control : UInt8) (a : Area) : Area × Nat :=
  (a.cleared
    |>.put 0 [Opcode.synchronizeCache10]
    |>.put 1 [if immediate then 0x02 else 0x00]
    |>.put 9 [control], 10)

/-- TEST UNIT READY. -/
def testUnitReady (control : UInt8) (a : Area) : Area × Nat :=
  (a.cleared
    |>.put 0 [Opcode.testUnitReady]
    |>.put 5 [control], 6)

end Area

/-! ## The blocks that are sent -/

/-- The block in an array after it was put there. -/
def ofFilled (filled : Area × Nat) (h : filled.2 ≤ 16 := by exact Nat.le_of_ble_eq_true rfl) :
    Cdb where
  block := filled.1.bytes
  length := filled.2
  length_block := filled.1.length_bytes
  length_le := h

/-- INQUIRY for a page; page 0 asks for the standard data, every other for vital product data. -/
def inquiry (page allocation control : UInt8) : Cdb :=
  ofFilled (Area.zeros.inquiry page allocation control)

/-- INQUIRY for a page of vital product data, page 0 included. -/
def vitalProductData (page : VpdPage) (allocation : UInt8) : Cdb :=
  ofFilled (Area.zeros.vitalProductData page allocation)

/-- READ CAPACITY(10) without an address. -/
def readCapacity10 (control : UInt8) : Cdb := ofFilled (Area.zeros.readCapacity10 control)

/-- READ CAPACITY(16) for an allocation length. -/
def readCapacity16 (allocation : UInt32) (control : UInt8) : Cdb :=
  ofFilled (Area.zeros.readCapacity16 allocation control)

/-- READ(10) or WRITE(10). -/
def transfer10 (access : Access) (address : UInt32) (count : UInt16) (flags control : UInt8) :
    Cdb :=
  ofFilled (Area.zeros.transfer10 access address count flags control)

/-- READ(16) or WRITE(16). -/
def transfer16 (access : Access) (address : UInt64) (count : UInt32) (flags control : UInt8) :
    Cdb :=
  ofFilled (Area.zeros.transfer16 access address count flags control)

/-- REQUEST SENSE, in descriptor format if asked for. -/
def requestSense (descriptor : Bool) (allocation control : UInt8) : Cdb :=
  ofFilled (Area.zeros.requestSense descriptor allocation control)

/-- SYNCHRONIZE CACHE(10) over the whole medium. -/
def synchronizeCache10 (immediate : Bool) (control : UInt8) : Cdb :=
  ofFilled (Area.zeros.synchronizeCache10 immediate control)

/-- TEST UNIT READY. -/
def testUnitReady (control : UInt8) : Cdb := ofFilled (Area.zeros.testUnitReady control)

/-! ### Field by field -/

theorem inquiry_eq (page allocation control : UInt8) : inquiry page allocation control =
    ofBytes [Opcode.inquiry, if page ≠ 0 then 0x01 else 0x00, page, 0, allocation, control] := rfl

theorem vitalProductData_eq (page : VpdPage) (allocation : UInt8) :
    vitalProductData page allocation =
      ofBytes [Opcode.inquiry, 0x01, page.code, 0, allocation, 0] := rfl

theorem readCapacity10_eq (control : UInt8) :
    readCapacity10 control = ofBytes [Opcode.readCapacity10, 0, 0, 0, 0, 0, 0, 0, 0, control] := rfl

theorem readCapacity16_eq (allocation : UInt32) (control : UInt8) :
    readCapacity16 allocation control =
      ofBytes ([Opcode.serviceActionIn16, Opcode.readCapacity16Action] ++ Bytes.bigEndian 8 0 ++
        Bytes.bigEndian 4 allocation.toNat ++ [0, control]) := rfl

theorem transfer10_eq (access : Access) (address : UInt32) (count : UInt16)
    (flags control : UInt8) :
    transfer10 access address count flags control =
      ofBytes ([match access with
          | .read => Opcode.read10
          | .write => Opcode.write10, flags &&& flagMask access] ++
        Bytes.bigEndian 4 address.toNat ++ [0] ++ Bytes.bigEndian 2 count.toNat ++ [control]) := rfl

theorem transfer16_eq (access : Access) (address : UInt64) (count : UInt32)
    (flags control : UInt8) :
    transfer16 access address count flags control =
      ofBytes ([match access with
          | .read => Opcode.read16
          | .write => Opcode.write16, flags &&& flagMask access] ++
        Bytes.bigEndian 8 address.toNat ++ Bytes.bigEndian 4 count.toNat ++ [0, control]) := rfl

theorem requestSense_eq (descriptor : Bool) (allocation control : UInt8) :
    requestSense descriptor allocation control =
      ofBytes [Opcode.requestSense, if descriptor then 0x01 else 0x00, 0, 0, allocation, control] :=
  rfl

theorem synchronizeCache10_eq (immediate : Bool) (control : UInt8) :
    synchronizeCache10 immediate control =
      ofBytes
        [Opcode.synchronizeCache10, if immediate then 0x02 else 0x00, 0, 0, 0, 0, 0, 0, 0, control] :=
  rfl

theorem testUnitReady_eq (control : UInt8) :
    testUnitReady control = ofBytes [Opcode.testUnitReady, 0, 0, 0, 0, control] := rfl

end Cdb

end Scsi
