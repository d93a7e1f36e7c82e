import Scsi.Bytes

/-!
# Data buffers and sense buffers

The memory that a command carries: the data buffer of its caller, whose variant fixes the
direction of the transfer, and room for the sense bytes of a CHECK CONDITION.

## Main definitions

* `Direction`: the direction of a transfer
* `DataBuffer`: the memory of the caller that is attached to a command
* `DataBuffer.received`: the buffer after bytes were written to its front
* `DataBuffer.settled`: the buffer after an adapter had it
* `SenseBuffer`: an area of 32 bytes of which some are in use
* `SenseBuffer.store`: an area that holds given bytes, cut to its size

## Main results

* `DataBuffer.inPhase_eq_some_iff`, `DataBuffer.outPhase_eq_some_iff`: what a data phase moves
* `DataBuffer.length_received`, `DataBuffer.length_settled`: the length of a buffer never changes
* `SenseBuffer.bytes_store`: what is stored is read back, up to 32 bytes
-/

namespace Scsi

/-- The direction of a transfer, seen from the host. -/
inductive Direction
  | none
  | input
  | output
  | bidirectional
deriving DecidableEq

/-- The name of a direction in texts. -/
def Direction.name : Direction → String
  | none => "None"
  | input => "In"
  | output => "Out"
  | bidirectional => "Bidirectional"

/-- The memory of the caller that is attached to a command. Its variant is the direction of the
transfer, so no command has a data phase without a buffer for it. -/
inductive DataBuffer
  | none
  | input (bytes : Bytes)
  | output (bytes : Bytes)
  | bidirectional (bytes : Bytes)
deriving DecidableEq

namespace DataBuffer

/-- The direction that the variant stands for. -/
def direction : DataBuffer → Direction
  | none => .none
  | input _ => .input
  | output _ => .output
  | bidirectional _ => .bidirectional

/-- The bytes in the buffer. -/
def bytes : DataBuffer → Bytes
  | none => []
  | input bs => bs
  | output bs => bs
  | bidirectional bs => bs

/-- The count of bytes in the buffer. -/
def length (d : DataBuffer) : Nat := d.bytes.length

/-- The first `n` bytes that a data-in phase may fill, if the variant has such a phase and the
buffer is as long. -/
def inPhase (d : DataBuffer) (n : Nat) : Option Bytes :=
  match d with
  | input bs | bidirectional bs => if n ≤ bs.length then some (bs.take n) else Option.none
  | none | output _ => Option.none

/-- The first `n` bytes that a data-out phase sends, if the variant has such a phase and the buffer
is as long. -/
def outPhase (d : DataBuffer) (n : Nat) : Option Bytes :=
  match d with
  | output bs | bidirectional bs => if n ≤ bs.length then some (bs.take n) else Option.none
  | none | input _ => Option.none

theorem inPhase_eq_some_iff {d : DataBuffer} {n : Nat} {part : Bytes} :
    d.inPhase n = some part ↔ (d.direction = .input ∨ d.direction = .bidirectional) ∧
      n ≤ d.length ∧ part = d.bytes.take n := by
  cases d <;> simp [inPhase, direction, length, bytes, eq_comm]

theorem outPhase_eq_some_iff {d : DataBuffer} {n : Nat} {part : Bytes} :
    d.outPhase n = some part ↔ (d.direction = .output ∨ d.direction = .bidirectional) ∧
      n ≤ d.length ∧ part = d.bytes.take n := by
  cases d <;> simp [outPhase, direction, length, bytes, eq_comm]

/-- The buffer after bytes were written to its front; memory that is only sent does not change. -/
def received (new : Bytes) : DataBuffer → DataBuffer
  | none => none
  | input bs => input (new.overlay bs)
  | output bs => output bs
  | bidirectional bs => bidirectional (new.overlay bs)

/-- The buffer after an adapter had it and gave back `after`: the memory stays the caller's, so
variant and length stay, and only bytes that may be received can be new. -/
def settled (d after : DataBuffer) : DataBuffer := received after.bytes d

@[simp] theorem length_received (new : Bytes) (d : DataBuffer) :
    (received new d).length = d.length := by
  cases d <;> simp [received, length, bytes]

@[simp] theorem direction_received (new : Bytes) (d : DataBuffer) :
    (received new d).direction = d.direction := by
  cases d <;> rfl

@[simp] theorem length_settled (d after : DataBuffer) : (d.settled after).length = d.length :=
  length_received _ _

@[simp] theorem settled_self (d : DataBuffer) : d.settled d = d := by
  cases d <;> simp [settled, received, bytes, Bytes.overlay_self_length]

end DataBuffer

/-- An area of 32 bytes for sense, of which the first ones are in use. -/
structure SenseBuffer where
  area : Bytes
  used : Nat
  length_area : area.length = 32
  used_le : used ≤ 32
deriving DecidableEq

namespace SenseBuffer

/-- The size of the area. -/
def capacity : Nat := 32

/-- The area that holds the given bytes, cut to its size, with zeros behind them. -/
def store (bs : Bytes) : SenseBuffer where
  area := bs.take capacity ++ Bytes.zeros (capacity - bs.length)
  used := min bs.length capacity
  length_area := by
    rw [List.length_append, List.length_take, Bytes.length_zeros, capacity]
    omega
  used_le := Nat.min_le_right _ _

/-- The area without sense. -/
def empty : SenseBuffer := store []

/-- The bytes in use. -/
def bytes (s : SenseBuffer) : Bytes := s.area.take s.used

@[simp] theorem bytes_store (bs : Bytes) : (store bs).bytes = bs.take capacity := by
  simp only [bytes, store, capacity]
  rw [List.take_append_of_le_length (by rw [List.length_take]; omega), List.take_take]
  rcases Nat.le_total bs.length 32 with h | h
  · rw [List.take_of_length_le (by omega), List.take_of_length_le h]
  · congr 1
    omega

end SenseBuffer

end Scsi
