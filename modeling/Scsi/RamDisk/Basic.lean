import Scsi.Command.Request
import Scsi.Host.Adapter
import Scsi.RamDisk.Profile
import Scsi.Response.Capacity
import Scsi.Sense.Fixed

/-!
# RAM disks

A host adapter with one target behind it, whose medium is the private block of the bus. Commands to
other addresses are lost. Faults can be asked for: the next commands are lost, answered with BUSY or
answered with CHECK CONDITION. Where blocks lie in the medium is computed in 64 bits.

## Main definitions

* `Overflow`: what becomes of numbers that 64 bits cannot count
* `RamDisk`: the state of the adapter and its target
* `RamDisk.injectBusy`, `RamDisk.injectLoss`, `RamDisk.injectCheck`: asking for faults
* `RamDisk.request?`: the request of a command, if looking at it does not crash the adapter
* `RamDisk.Reply`: how the target answers one request
* `RamDisk.execute`: what the target does for one request
* `RamDisk.submit`, `RamDisk.reset`: the operations of the adapter
-/

namespace Scsi

/-- What becomes of a sum or a product that 64 bits cannot count. How the program was built decides
on it. -/
inductive Overflow
  /-- The program crashes. -/
  | crashes
  /-- The number goes round. -/
  | wraps
deriving DecidableEq

/-- The state of the adapter and of its target. -/
structure RamDisk where
  profile : RamDisk.Profile
  overflow : Overflow
  /-- How many of the next commands are answered with BUSY. -/
  busyAhead : UInt32
  /-- How many of the next commands are lost. -/
  lossesAhead : UInt32
  /-- The condition with which the next command is answered. -/
  checkAhead : Option Sense
  /-- The sense that waits for a REQUEST SENSE. -/
  pending : Option Sense
  /-- How many commands were submitted, lost ones included. -/
  submitted : Nat
deriving DecidableEq

namespace RamDisk

open Activity

/-- A disk to which nothing happened yet. -/
def new (profile : Profile) (overflow : Overflow := .crashes) : RamDisk :=
  ⟨profile, overflow, 0, 0, none, none, 0⟩

/-! ## Asking for faults -/

/-- Asks for BUSY as the answer to the next `n` commands. -/
def injectBusy (disk : RamDisk) (n : UInt32) : RamDisk := { disk with busyAhead := n }

/-- Asks for the loss of the next `n` commands. -/
def injectLoss (disk : RamDisk) (n : UInt32) : RamDisk := { disk with lossesAhead := n }

/-- Asks for CHECK CONDITION as the answer to the next command; a sense key is four bits wide. -/
def injectCheck (disk : RamDisk) (sense : Sense) : RamDisk :=
  { disk with checkAhead := some { sense with key := sense.key &&& 0x0F } }

/-! ## Requests to the target -/

/-- The medium reaches to the end of the blocks, but 64 bits do not count so far. -/
def Overruns (p : Profile) : Request → Prop
  | .transfer _ address count =>
    address + count ≤ p.blocks.toNat ∧
      UInt64.size ≤ address * p.blockSize.toNat + count * p.blockSize.toNat
  | _ => False

instance (p : Profile) : DecidablePred (Overruns p)
  | .transfer _ _ _ => inferInstanceAs (Decidable (_ ∧ _))
  | .noData | .identity | .productData _ | .requestSense | .readCapacity10 | .serviceAction _
  | .unknown => inferInstanceAs (Decidable False)

/-- The request of a command. Looking at it crashes the adapter if the block is too short for its
operation, or if it asks for blocks whose end 64 bits do not count and that is a crash. -/
def request? (disk : RamDisk) (c : Command) : Option Request :=
  (Request.ofBytes? c.cdb.bytes).filter fun request =>
    ¬ (disk.overflow = .crashes ∧ Overruns disk.profile request)

/-! ## Answers of the target -/

/-- How the target answers one request: GOOD after moving some bytes, or CHECK CONDITION. -/
inductive Reply
  | good (moved : Nat)
  | check (sense : Sense)
deriving DecidableEq

/-- The operation is not known. -/
def invalidOperation : Sense := ⟨SenseKey.illegalRequest.code, 0x20, 0x00⟩

/-- Blocks behind the end of the medium are asked for. -/
def addressOutOfRange : Sense := ⟨SenseKey.illegalRequest.code, 0x21, 0x00⟩

/-- A parameter cannot be met. -/
def invalidField : Sense := ⟨SenseKey.illegalRequest.code, 0x24, 0x00⟩

/-- The private block does not hold the whole medium. -/
def internalFailure : Sense := ⟨SenseKey.hardwareError.code, 0x44, 0x00⟩

/-- The vendor, product and revision in the standard INQUIRY data. -/
def identityText : Bytes := "SCSIBUS MEM DISK        0008".toUTF8.data.toList

/-- The standard INQUIRY data. -/
def identityData (p : Profile) : Bytes :=
  let header := [p.deviceKind.code, if p.removable then 0x80 else 0x00, 0x06, 0x02,
    UInt8.ofNat (Inquiry.size - 5), 0, 0, 0] ++ identityText
  header ++ Bytes.zeros (Inquiry.size - header.length)

/-- The pages of vital product data that the target knows. -/
def supportedPages : Bytes := [0x00, 0x00, 0x00, 0x02, 0x00, 0x80]

/-- The page with the serial number, which is made of the address. -/
def serialPage (p : Profile) : Bytes :=
  let serial := "MD" ++ Hex.upper 2 p.target.toNat ++ Hex.upper 2 p.lun.toNat
  let payload := serial.toUTF8.data.toList
  [0x00, 0x80, 0x00, UInt8.ofNat payload.length] ++ payload

/-- The answer to READ CAPACITY(10), which cannot name blocks past 32 bits. -/
def capacityData10 (p : Profile) : Bytes :=
  Bytes.bigEndian 4 (min (p.blocks.toNat - 1) (UInt32.size - 1)) ++
    Bytes.bigEndian 4 p.blockSize.toNat

/-- The answer to READ CAPACITY(16). -/
def capacityData16 (p : Profile) : Bytes :=
  Bytes.bigEndian 8 (p.blocks.toNat - 1) ++ Bytes.bigEndian 4 p.blockSize.toNat ++
    Bytes.zeros (CapacityReply.size16 - 12)

/-- The sense that a REQUEST SENSE is answered with. -/
def senseData (pending : Option Sense) : Bytes :=
  let sense := pending.getD .zero
  Sense.toBytes (SenseKey.ofByte sense.key) sense.asc sense.ascq

/-- What a request leads to: the answer, the medium and the command with its data. -/
structure Execution (size : Nat) where
  reply : Reply
  memory : Memory size
  command : Command

variable {size : Nat}

/-- Answers with as many bytes as the command has room for. -/
def answerData (memory : Memory size) (c : Command) (bs : Bytes) : Execution size :=
  ⟨.good (c.room bs), memory, c.fill bs⟩

/-- Answers with a condition. -/
def answerCheck (memory : Memory size) (c : Command) (sense : Sense) : Execution size :=
  ⟨.check sense, memory, c⟩

/-- The bytes of a range, if it lies in the private block and its end did not go round. -/
def region? (memory : Memory size) (start length : UInt64) : Option Bytes :=
  if start + length < start then none else memory.read? start.toNat length.toNat

/-- Moves blocks between the medium and the buffer of the command, which has to hold all of them. -/
def moveBlocks (p : Profile) (memory : Memory size) (c : Command) (access : Access)
    (address count : Nat) : Execution size :=
  let start := (p.offset address).toNat
  let length := (p.offset count).toNat
  -- the range is checked before the private block, and both before the buffer
  if p.blocks.toNat < address + count then answerCheck memory c addressOutOfRange
  else
    match region? memory (p.offset address) (p.offset count) with
    | none => answerCheck memory c internalFailure
    | some region =>
      match access with
      | .write =>
        match c.dataOut with
        | some source =>
          if length ≤ source.length then
            ⟨.good length, memory.write start (source.take length), c⟩
          else answerCheck memory c invalidField
        | none => answerCheck memory c invalidField
      | .read =>
        match c.dataIn with
        | some room =>
          if length ≤ room.length then ⟨.good length, memory, c.fill region⟩
          else answerCheck memory c invalidField
        | none => answerCheck memory c invalidField

/-- What the target does for a request. -/
def execute (disk : RamDisk) (memory : Memory size) (c : Command) : Request → Execution size
  | .noData => ⟨.good 0, memory, c⟩
  | .identity => answerData memory c (identityData disk.profile)
  | .productData page =>
    if page = VpdPage.supportedPages.code then answerData memory c supportedPages
    else if page = VpdPage.unitSerial.code then answerData memory c (serialPage disk.profile)
    else answerCheck memory c invalidField
  | .requestSense => answerData memory c (senseData disk.pending)
  | .readCapacity10 => answerData memory c (capacityData10 disk.profile)
  | .serviceAction action =>
    if action = Opcode.readCapacity16Action ∧ disk.profile.longCapacity then
      answerData memory c (capacityData16 disk.profile)
    else answerCheck memory c invalidOperation
  | .transfer access address count => moveBlocks disk.profile memory c access address count
  | .unknown => answerCheck memory c invalidOperation

/-! ## Operations of the adapter -/

/-- Changes the state of the disk. -/
def modifyDisk (f : RamDisk → RamDisk) : Activity (RamDisk × Memory size) Unit :=
  modify fun s => (f s.1, s.2)

/-- Reports an event. -/
def note (level : Log.Level) (message : String) : Activity (RamDisk × Memory size) Unit :=
  report ⟨level, .ramDisk, [], message⟩

/-- Ends a command as the target answered it. A condition leaves its sense pending, whether or not
it goes along with the answer; every command that ends well takes pending sense away. -/
def conclude (e : Execution size) : Activity (RamDisk × Memory size) (Bool × Command) := do
  modify fun s => (s.1, e.memory)
  match e.reply with
  | .good moved =>
    modifyDisk fun disk => { disk with pending := none }
    return (true,
      { e.command with actualLength := UInt32.ofNat moved, status := Status.good.code })
  | .check sense =>
    modifyDisk fun disk => { disk with pending := some sense }
    let opcode := Hex.number 2 e.command.opcode.toNat
    note .debug s!"{opcode} -> CHECK CONDITION {sense.describe}"
    let c :=
      if e.command.flags.contains CommandFlags.autosense then
        e.command.withSense (Sense.toBytes (SenseKey.ofByte sense.key) sense.asc sense.ascq)
      else e.command
    return (true, { c with status := Status.checkCondition.code })

/-- Completes a command: faults that were asked for come first, in the order loss, BUSY and CHECK
CONDITION, and only then the request itself, which may crash the adapter. -/
def submit (c : Command) : Activity (RamDisk × Memory size) (Bool × Command) := do
  modifyDisk fun disk => { disk with submitted := disk.submitted + 1 }
  let (disk, memory) ← get
  if c.target ≠ disk.profile.target ∨ c.lun ≠ disk.profile.lun then
    note .trace s!"no device at {c.target}:{c.lun}"
    return (false, c)
  else if disk.lossesAhead ≠ 0 then
    modifyDisk fun disk => { disk with lossesAhead := disk.lossesAhead - 1 }
    note .debug "injected transport failure"
    return (false, c)
  else if disk.busyAhead ≠ 0 then
    modifyDisk fun disk => { disk with busyAhead := disk.busyAhead - 1 }
    return (true, { c with status := Status.busy.code })
  else
    match disk.checkAhead with
    | some sense =>
      -- the request itself is not looked at, so it cannot crash the adapter
      modifyDisk fun disk => { disk with checkAhead := none }
      conclude (answerCheck memory c sense)
    | none =>
      match disk.request? c with
      | none => crash
      | some request => conclude (execute disk memory c request)

/-- Resets the disk: pending sense goes, and so do the answers that were asked for, but not the
losses. -/
def reset : Activity (RamDisk × Memory size) Bool := do
  modifyDisk fun disk => { disk with busyAhead := 0, checkAhead := none, pending := none }
  return true

instance : HostAdapter RamDisk where
  submit := submit
  reset _ := reset

end RamDisk

end Scsi
