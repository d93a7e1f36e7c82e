import Scsi.Command.Cdb
import Scsi.Command.Data
import Scsi.Error
import Scsi.Flags
import Scsi.Status
import Scsi.Text.Quoted

/-!
# Commands

The record that travels between host and target: where a command goes, its descriptor block, its
data buffer, and what the target answers.

## Main definitions

* `CommandFlags`: flags of a submission
* `Command`: the record
* `Command.ofCdb`, `Command.ofBlock`, `Command.ofBytes`: a new command over a data buffer
* `Command.dataIn`, `Command.dataOut`: the part of the buffer that a data phase moves
* `Command.fill`: the command after bytes were written to its data-in part
* `Command.settled`: the command after an adapter had it
* `Command.cleared`: the command before it is sent again
* `Command.text`: the command as a record text

## Main results

* `Command.ofCdb_isOk_iff`, `Command.ofBytes_isOk_iff`: which requests make a command
-/

namespace Scsi

/-- The flags of a submission. -/
abbrev CommandFlags.kind : FlagKind :=
  ⟨"CommandFlags", ["AUTOSENSE", "TAGGED", "POLL", "ORDERED", "QUIET"]⟩

/-- Flags of a submission. -/
abbrev CommandFlags := Flags CommandFlags.kind

/-- The adapter collects sense after a CHECK CONDITION. -/
def CommandFlags.autosense : CommandFlags := Flags.single 0

/-- The record that travels between host and target. The fields from `target` to `retries` are the
request, the other three are filled in on completion. -/
structure Command where
  target : UInt8
  lun : UInt8
  cdb : Cdb
  data : DataBuffer
  /-- The requested size of the transfer. -/
  dataLength : UInt32
  /-- The time allowed, in milliseconds; zero asks for the default of the unit. -/
  timeout : UInt32
  flags : CommandFlags
  /-- A counter for callers that send again. -/
  retries : UInt8
  /-- The size of the transfer that took place. -/
  actualLength : UInt32
  status : UInt8
  sense : SenseBuffer
deriving DecidableEq

namespace Command

/-- A new command, not addressed and not completed yet. -/
def fresh (cdb : Cdb) (data : DataBuffer) (dataLength : UInt32) : Command where
  target := 0
  lun := 0
  cdb
  data
  dataLength
  timeout := 0
  flags := .empty
  retries := 0
  actualLength := 0
  status := Status.good.code
  sense := .empty

/-- A new command, if its buffer holds the requested transfer. -/
def ofCdb (cdb : Cdb) (data : DataBuffer) (dataLength : UInt32) : Except Error Command :=
  if data.length < dataLength.toNat then .error (.invalidRequest .bufferTooShort)
  else .ok (fresh cdb data dataLength)

/-- A new command from a whole block of which the first `length` bytes have a meaning. -/
def ofBlock (block : Bytes) (h : block.length = 16) (length : Nat) (data : DataBuffer)
    (dataLength : UInt32) : Except Error Command :=
  if h' : length ≤ 16 then ofCdb ⟨block, length, h, h'⟩ data dataLength
  else .error (.invalidRequest .cdbTooLong)

/-- A new command from the bytes of its block. -/
def ofBytes (bs : Bytes) (data : DataBuffer) (dataLength : UInt32) : Except Error Command :=
  if h : bs.length ≤ 16 then ofCdb (.ofBytes bs h) data dataLength
  else .error (.invalidRequest .cdbTooLong)

/-- The first byte of the descriptor block. -/
def opcode (c : Command) : UInt8 := c.cdb.opcode

/-- The part of the buffer that a data-in phase may fill. -/
def dataIn (c : Command) : Option Bytes := c.data.inPhase c.dataLength.toNat

/-- The part of the buffer that a data-out phase sends. -/
def dataOut (c : Command) : Option Bytes := c.data.outPhase c.dataLength.toNat

/-- How many of the given bytes the data-in part has room for. -/
def room (c : Command) (bs : Bytes) : Nat :=
  match c.dataIn with
  | some part => min part.length bs.length
  | none => 0

/-- The command after as many of the given bytes were written to its data-in part as fit there. -/
def fill (c : Command) (bs : Bytes) : Command :=
  match c.dataIn with
  | some part => { c with data := c.data.received (bs.take part.length) }
  | none => c

/-- The command with the given sense bytes, cut to the size of the sense buffer. -/
def withSense (c : Command) (bs : Bytes) : Command := { c with sense := .store bs }

/-- The command before it is sent again: nothing is left of an earlier completion. -/
def cleared (c : Command) : Command :=
  { c with actualLength := 0, status := Status.good.code, sense := .empty }

/-- The command after an adapter had it and gave back `after`: the descriptor block is not the
adapter's to change, and the data buffer stays the caller's memory. -/
def settled (c after : Command) : Command :=
  { after with cdb := c.cdb, data := c.data.settled after.data }

/-- The command as a record text. -/
def text (c : Command) : String :=
  Layout.record "ScsiCommand"
    [("target", toString c.target),
      ("lun", toString c.lun),
      ("cdb", Quoted.text (Hex.digits c.cdb.bytes)),
      ("direction", c.data.direction.name),
      ("data_length", toString c.dataLength),
      ("actual_length", toString c.actualLength),
      ("timeout_ms", toString c.timeout),
      ("status", Hex.number 2 c.status.toNat),
      ("sense", Quoted.text (Hex.digits c.sense.bytes)),
      ("flags", c.flags.text)]

theorem ofCdb_isOk_iff {cdb : Cdb} {data : DataBuffer} {n : UInt32} :
    (ofCdb cdb data n).isOk = true ↔ n.toNat ≤ data.length := by
  unfold ofCdb
  split <;> simp_all [Except.isOk, Except.toBool]

theorem ofBytes_isOk_iff {bs : Bytes} {data : DataBuffer} {n : UInt32} :
    (ofBytes bs data n).isOk = true ↔ bs.length ≤ 16 ∧ n.toNat ≤ data.length := by
  unfold ofBytes
  split
  · next h => simp [h, ofCdb_isOk_iff]
  · next h => simp [h, Except.isOk, Except.toBool]

end Command

end Scsi
