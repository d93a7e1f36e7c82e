import Scsi.Command.Basic

/-!
# Standard commands

The commands that discovery, block transfers and callers send, each over the data buffer that its
answer or its data is in. A length that a descriptor block has no room for is refused.

## Main definitions

* `Command.inquiry`, `Command.requestSense`, `Command.readCapacity`: data-in commands over a whole
  buffer
* `Command.testUnitReady`, `Command.synchronizeCache`: commands without data
* `CdbForm`: the two forms of a block transfer
* `Command.transfer`: a read or write of consecutive blocks

## Main results

* `Command.inquiry_eq_ok_iff`, `Command.requestSense_eq_ok_iff`: a buffer of up to 255 bytes is
  accepted, and the command is over all of it
-/

namespace Scsi

/-- The two forms of a block transfer, by the length of the descriptor block. -/
inductive CdbForm
  | ten
  | sixteen
deriving DecidableEq

namespace Command

/-- INQUIRY for a page, over a buffer of at most 255 bytes. -/
def inquiry (page : UInt8) (buffer : Bytes) : Except Error Command :=
  if buffer.length ≤ 255 then
    ofCdb (.inquiry page (UInt8.ofNat buffer.length) 0) (.input buffer)
      (UInt32.ofNat buffer.length)
  else .error (.invalidRequest .inquiryTooLong)

/-- REQUEST SENSE in fixed format, over a buffer of at most 255 bytes. -/
def requestSense (buffer : Bytes) : Except Error Command :=
  if buffer.length ≤ 255 then
    ofCdb (.requestSense false (UInt8.ofNat buffer.length) 0) (.input buffer)
      (UInt32.ofNat buffer.length)
  else .error (.invalidRequest .requestSenseTooLong)

/-- READ CAPACITY over a whole buffer: the 16-byte form for its service action, with the size of
the buffer as allocation length, and the 10-byte form for any other. -/
def readCapacity (serviceAction : UInt8) (buffer : Bytes) : Except Error Command :=
  let length := UInt32.ofNat buffer.length
  let cdb :=
    if serviceAction = Opcode.readCapacity16Action then Cdb.readCapacity16 length 0
    else Cdb.readCapacity10 0
  ofCdb cdb (.input buffer) length

/-- TEST UNIT READY. -/
def testUnitReady : Command := fresh (.testUnitReady 0) .none 0

/-- SYNCHRONIZE CACHE over the whole medium. -/
def synchronizeCache : Command := fresh (.synchronizeCache10 false 0) .none 0

/-- Whether the variant of a buffer is the one that an access needs. -/
def matchesAccess : Access → DataBuffer → Bool
  | .read, .input _ => true
  | .write, .output _ => true
  | _, _ => false

/-- A read into or write from a buffer of `count` consecutive blocks from `block` on. The 10-byte
form has 32 bits for the first block and 16 for the count; what does not fit is refused. -/
def transfer (block : UInt64) (count blockSize : UInt32) (data : DataBuffer) (access : Access)
    (form : CdbForm) : Except Error Command :=
  let length := count.toNat * blockSize.toNat
  if ! matchesAccess access data then .error (.invalidRequest .wrongDirection)
  else if UInt32.size ≤ length then .error (.invalidRequest .transferTooLong)
  else
    match form with
    | .sixteen => ofCdb (.transfer16 access block count 0 0) data (UInt32.ofNat length)
    | .ten =>
      if UInt32.size ≤ block.toNat then .error (.invalidRequest .addressTooWide)
      else if UInt16.size ≤ count.toNat then .error (.invalidRequest .countTooWide)
      else ofCdb (.transfer10 access block.toUInt32 count.toUInt16 0 0) data (UInt32.ofNat length)

theorem inquiry_eq_ok_iff {page : UInt8} {buffer : Bytes} {c : Command} :
    inquiry page buffer = .ok c ↔ buffer.length ≤ 255 ∧
      c = fresh (.inquiry page (UInt8.ofNat buffer.length) 0) (.input buffer)
        (UInt32.ofNat buffer.length) := by
  unfold inquiry
  split
  · next h =>
    have hn : (UInt32.ofNat buffer.length).toNat = buffer.length := by
      rw [UInt32.toNat_ofNat']
      omega
    simp [ofCdb, hn, DataBuffer.length, DataBuffer.bytes, h, eq_comm]
  · next h => simp [h]

theorem requestSense_eq_ok_iff {buffer : Bytes} {c : Command} :
    requestSense buffer = .ok c ↔ buffer.length ≤ 255 ∧
      c = fresh (.requestSense false (UInt8.ofNat buffer.length) 0) (.input buffer)
        (UInt32.ofNat buffer.length) := by
  unfold requestSense
  split
  · next h =>
    have hn : (UInt32.ofNat buffer.length).toNat = buffer.length := by
      rw [UInt32.toNat_ofNat']
      omega
    simp [ofCdb, hn, DataBuffer.length, DataBuffer.bytes, h, eq_comm]
  · next h => simp [h]

end Command

end Scsi
