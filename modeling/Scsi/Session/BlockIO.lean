import Scsi.Command.Standard
import Scsi.Session.Submission

/-!
# Block input and output

Reads and writes of consecutive blocks, cache flushes and the passing through of commands. A unit
has these operations once its discovery succeeded; before that they are refused. A failed operation
leaves the count of moved bytes at zero.

## Main definitions

* `refuse`: what every operation does on a unit that was not discovered
* `transfer`: a transfer of blocks between the unit and a buffer
* `read32`, `read64`, `write32`, `write64`: the transfers with either form of descriptor block
* `synchronizeCache`, `passThrough`: the other operations
-/

namespace Scsi

open Activity Session

variable {σ : Type}

/-- Refuses an operation on a unit that was not discovered. -/
def refuse : Activity (Session σ) Error := do
  let unit ← getUnit
  setLastActual 0
  note .debug .blockIO unit.number "unsupported operation on unit"
  return .unsupported

variable [HostAdapter σ]

/-- Transfers blocks between the unit and a buffer, and answers with the count of bytes moved and
the buffer afterwards. An adapter that reports no count moved all that was asked for. -/
def transfer (block : UInt64) (count : UInt32) (data : DataBuffer) (access : Access)
    (form : CdbForm) : Activity (Session σ) (Except Error UInt32 × DataBuffer) := do
  let unit ← getUnit
  match unit.operations with
  | .unsupported => return (.error (← refuse), data)
  | .ready =>
    setLastActual 0
    match Command.transfer block count unit.blockSize data access form with
    | .error e => return (.error e, data)
    | .ok c =>
      let (outcome, after) ← perform c
      match outcome with
      -- the adapter may have written to the buffer before the command failed
      | .error e => return (.error e, after.data)
      | .ok () =>
        let moved := if after.actualLength ≠ 0 then after.actualLength else c.dataLength
        setLastActual moved
        return (.ok moved, after.data)

/-- Reads blocks into a buffer. -/
def read (form : CdbForm) (block : UInt64) (count : UInt32) (buffer : Bytes) :
    Activity (Session σ) (Except Error UInt32 × Bytes) := do
  let (moved, data) ← transfer block count (.input buffer) .read form
  return (moved, data.bytes)

/-- Writes blocks from a buffer. -/
def write (form : CdbForm) (block : UInt64) (count : UInt32) (buffer : Bytes) :
    Activity (Session σ) (Except Error UInt32) :=
  Prod.fst <$> transfer block count (.output buffer) .write form

/-- Reads blocks with the 10-byte form. -/
def read32 (block count : UInt32) (buffer : Bytes) :
    Activity (Session σ) (Except Error UInt32 × Bytes) :=
  read .ten block.toUInt64 count buffer

/-- Reads blocks with the 16-byte form. -/
def read64 (block : UInt64) (count : UInt32) (buffer : Bytes) :
    Activity (Session σ) (Except Error UInt32 × Bytes) :=
  read .sixteen block count buffer

/-- Writes blocks with the 10-byte form. -/
def write32 (block count : UInt32) (buffer : Bytes) : Activity (Session σ) (Except Error UInt32) :=
  write .ten block.toUInt64 count buffer

/-- Writes blocks with the 16-byte form. -/
def write64 (block : UInt64) (count : UInt32) (buffer : Bytes) :
    Activity (Session σ) (Except Error UInt32) :=
  write .sixteen block count buffer

/-- Flushes the cache of the unit. -/
def synchronizeCache : Activity (Session σ) (Except Error Unit) := do
  match (← getUnit).operations with
  | .unsupported => return .error (← refuse)
  | .ready => return (← perform .synchronizeCache).1

/-- Passes a command of the caller through to the unit. -/
def passThrough (c : Command) : Activity (Session σ) (Except Error Unit × Command) := do
  match (← getUnit).operations with
  | .unsupported => return (.error (← refuse), { c with actualLength := 0 })
  | .ready => perform c

end Scsi
