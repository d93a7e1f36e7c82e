import Scsi.Bytes
import Scsi.Response.Error

/-!
# Capacity of a medium

The answer to READ CAPACITY holds the address of the last block and the size of a block, in 8 bytes
for the 10-byte form and in at least 12 for the 16-byte form.

## Main definitions

* `CapacityReply`: the two numbers of an answer
* `CapacityReply.ofBytes10`, `CapacityReply.ofBytes16`: the numbers in the bytes of either form
* `Capacity`: count and size of the blocks
* `CapacityReply.capacity`: the capacity that an answer stands for

## Main results

* `CapacityReply.blockSize_capacity_ne_zero`: the size of a block is never zero
-/

namespace Scsi

/-- Count and size of the blocks of a medium. -/
structure Capacity where
  blocks : UInt64
  blockSize : UInt32
deriving DecidableEq

/-- The block size assumed when a target reports none. -/
def Capacity.defaultBlockSize : UInt32 := 512

/-- The size of the medium in bytes. -/
def Capacity.totalBytes (c : Capacity) : Nat := c.blocks.toNat * c.blockSize.toNat

/-- The address of the last block and the size of a block, as a target reports them. -/
structure CapacityReply where
  lastBlock : UInt64
  blockLength : UInt32
deriving DecidableEq

namespace CapacityReply

/-- The size of the answer to the 10-byte form. -/
def size10 : Nat := 8

/-- The size of the answer to the 16-byte form that is asked for. -/
def size16 : Nat := 32

/-- The part of the answer to the 16-byte form that holds the two numbers. -/
def minimumSize16 : Nat := 12

/-- The answer to the 10-byte form. -/
def ofBytes10 (bs : Bytes) : Except ResponseError CapacityReply :=
  if bs.length < size10 then .error (.capacity10TooShort bs.length)
  else .ok
    { lastBlock := UInt64.ofNat (Bytes.number (bs.slice 0 4))
      blockLength := UInt32.ofNat (Bytes.number (bs.slice 4 4)) }

/-- The answer to the 16-byte form. -/
def ofBytes16 (bs : Bytes) : Except ResponseError CapacityReply :=
  if bs.length < minimumSize16 then .error (.capacity16TooShort bs.length)
  else .ok
    { lastBlock := UInt64.ofNat (Bytes.number (bs.slice 0 8))
      blockLength := UInt32.ofNat (Bytes.number (bs.slice 8 4)) }

/-- Whether the last block is the highest that the 10-byte form can name, so that the medium may go
on behind it. -/
def isSaturated (r : CapacityReply) : Bool := r.lastBlock == 0xFFFFFFFF

/-- The capacity that an answer stands for: one block more than the last address, counted in 64
bits, of the default size if none is reported. -/
def capacity (r : CapacityReply) : Capacity where
  blocks := r.lastBlock + 1
  blockSize := if r.blockLength = 0 then Capacity.defaultBlockSize else r.blockLength

theorem blockSize_capacity_ne_zero (r : CapacityReply) : r.capacity.blockSize ≠ 0 := by
  simp only [capacity]
  split
  · decide
  · assumption

end CapacityReply

end Scsi
