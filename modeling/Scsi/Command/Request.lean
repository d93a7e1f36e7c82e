import Scsi.Command.Cdb

/-!
# Requests

What a target reads from a command descriptor block: the operation and its parameters. A block has
to be as long as the last byte that its operation looks at.

## Main definitions

* `Request`: an operation with its parameters
* `Request.ofBytes?`: the request in the bytes of a block, if they are enough
* `Request.needed`: how many bytes an operation looks at

## Main results

* `Request.ofBytes?_eq_none_iff`: the bytes are too few exactly if they are fewer than needed
-/

namespace Scsi

/-- An operation with its parameters, as a target reads them. -/
inductive Request
  /-- Nothing is to be moved. -/
  | noData
  /-- The standard data is asked for. -/
  | identity
  /-- A page of vital product data is asked for. -/
  | productData (page : UInt8)
  | requestSense
  | readCapacity10
  | serviceAction (action : UInt8)
  | transfer (access : Access) (address count : Nat)
  | unknown
deriving DecidableEq

namespace Request

/-- How many bytes of its block an operation looks at. -/
def needed (opcode : UInt8) : Nat :=
  if opcode = Opcode.inquiry then 3
  else if opcode = Opcode.serviceActionIn16 then 2
  else if opcode = Opcode.read10 ∨ opcode = Opcode.write10 then 9
  else if opcode = Opcode.read16 ∨ opcode = Opcode.write16 then 14
  else 1

/-- The request in a block that is long enough for its operation. -/
def decode (bs : Bytes) : Request :=
  let opcode := bs.byteAt 0
  if opcode = Opcode.testUnitReady ∨ opcode = Opcode.synchronizeCache10 then noData
  else if opcode = Opcode.inquiry then
    if bs.byteAt 1 &&& 0x01 = 0 then identity else productData (bs.byteAt 2)
  else if opcode = Opcode.requestSense then requestSense
  else if opcode = Opcode.readCapacity10 then readCapacity10
  else if opcode = Opcode.serviceActionIn16 then serviceAction (bs.byteAt 1 &&& 0x1F)
  else if opcode = Opcode.read10 ∨ opcode = Opcode.write10 then
    transfer (if opcode = Opcode.write10 then .write else .read)
      (Bytes.number (bs.slice 2 4)) (Bytes.number (bs.slice 7 2))
  else if opcode = Opcode.read16 ∨ opcode = Opcode.write16 then
    transfer (if opcode = Opcode.write16 then .write else .read)
      (Bytes.number (bs.slice 2 8)) (Bytes.number (bs.slice 10 4))
  else unknown

/-- The request in the bytes of a block, if they are enough for its operation. -/
def ofBytes? (bs : Bytes) : Option Request :=
  if bs.length < needed (bs.byteAt 0) then none else some (decode bs)

theorem ofBytes?_eq_none_iff {bs : Bytes} :
    ofBytes? bs = none ↔ bs.length < needed (bs.byteAt 0) := by
  simp [ofBytes?]

end Request

end Scsi
