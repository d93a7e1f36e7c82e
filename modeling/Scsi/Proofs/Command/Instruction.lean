import Scsi.Proofs.Command.Transfer

/-!
# Instructions

An instruction is an operation with all parameters that its descriptor block has room for. Blocks of
16 bytes are told apart by what is in them: from the block of an instruction the operation and each
of its parameters can be read back, and what the array held before leaves no trace.

## Main definitions

* `Instruction`: an operation with its parameters
* `Instruction.fill`, `Instruction.cdb`: what is put into an array for it, and its descriptor block
* `Instruction.masked`: the instruction with those flags only that its operation has
* `Instruction.ofBlock?`: the instruction in a block of 16 bytes
* `Cdb.groupLength?`: the length that the group of an operation prescribes

## Main results

* `Instruction.fill_eq`: what was in the array before leaves no trace
* `Instruction.ofBlock?_block`: an instruction is read back from its block, up to its flags
* `Instruction.uniquely_decodable`: arrays of different instructions are different, and depend on
  the instruction alone
-/

namespace Scsi

/-! ## Operation codes -/

namespace Cdb

/-- The length that the group of an operation prescribes, for the groups in use. The group is in the
top three bits of the operation code. -/
def groupLength? (opcode : UInt8) : Option Nat :=
  match opcode.toNat / 32 with
  | 0 => some 6
  | 1 => some 10
  | 4 => some 16
  | _ => none

end Cdb

/-! ## Instructions -/

/-- An operation with all parameters of its descriptor block. -/
inductive Instruction
  | inquiry (page allocation control : UInt8)
  | readCapacity10 (control : UInt8)
  | readCapacity16 (allocation : UInt32) (control : UInt8)
  | transfer10 (access : Access) (address : UInt32) (count : UInt16) (flags control : UInt8)
  | transfer16 (access : Access) (address : UInt64) (count : UInt32) (flags control : UInt8)
  | requestSense (descriptor : Bool) (allocation control : UInt8)
  | synchronizeCache10 (immediate : Bool) (control : UInt8)
  | testUnitReady (control : UInt8)
deriving DecidableEq

namespace Instruction

/-- What is put into an array for the instruction, and the count of bytes with a meaning. -/
def fill : Instruction → Cdb.Area → Cdb.Area × Nat
  | inquiry page allocation control => Cdb.Area.inquiry page allocation control
  | readCapacity10 control => Cdb.Area.readCapacity10 control
  | readCapacity16 allocation control => Cdb.Area.readCapacity16 allocation control
  | transfer10 access address count flags control =>
    Cdb.Area.transfer10 access address count flags control
  | transfer16 access address count flags control =>
    Cdb.Area.transfer16 access address count flags control
  | requestSense descriptor allocation control =>
    Cdb.Area.requestSense descriptor allocation control
  | synchronizeCache10 immediate control => Cdb.Area.synchronizeCache10 immediate control
  | testUnitReady control => Cdb.Area.testUnitReady control

/-- The descriptor block of the instruction. -/
def cdb : Instruction → Cdb
  | inquiry page allocation control => .inquiry page allocation control
  | readCapacity10 control => .readCapacity10 control
  | readCapacity16 allocation control => .readCapacity16 allocation control
  | transfer10 access address count flags control => .transfer10 access address count flags control
  | transfer16 access address count flags control => .transfer16 access address count flags control
  | requestSense descriptor allocation control => .requestSense descriptor allocation control
  | synchronizeCache10 immediate control => .synchronizeCache10 immediate control
  | testUnitReady control => .testUnitReady control

/-- **What was in the array before leaves no trace**: whatever array the instruction is put into, it
then holds the descriptor block. -/
theorem fill_eq (i : Instruction) (a : Cdb.Area) :
    i.fill a = (⟨i.cdb.block, i.cdb.length_block⟩, i.cdb.length) := by
  -- every filler clears the array first
  have hzeros : i.fill a = i.fill .zeros := by
    cases i <;>
      simp only [fill, Cdb.Area.inquiry, Cdb.Area.readCapacity10, Cdb.Area.readCapacity16,
        Cdb.Area.transfer10, Cdb.Area.transfer16, Cdb.Area.requestSense,
        Cdb.Area.synchronizeCache10, Cdb.Area.testUnitReady, Cdb.Area.cleared_eq]
  rw [hzeros]
  cases i <;> rfl

/-- The instruction with those flags only that its operation has. -/
def masked : Instruction → Instruction
  | transfer10 access address count flags control =>
    transfer10 access address count (flags &&& Cdb.flagMask access) control
  | transfer16 access address count flags control =>
    transfer16 access address count (flags &&& Cdb.flagMask access) control
  | i => i

/-- Flags that the operation does not have are not in the block. -/
theorem cdb_masked (i : Instruction) : i.masked.cdb = i.cdb := by
  cases i with
  | transfer10 access address count flags control =>
    simp only [masked, cdb, Cdb.transfer10_eq, UInt8.and_assoc, UInt8.and_self]
  | transfer16 access address count flags control =>
    simp only [masked, cdb, Cdb.transfer16_eq, UInt8.and_assoc, UInt8.and_self]
  | _ => rfl

/-- Whether the operation code is that of a write. -/
def accessOf (opcode : UInt8) : Access :=
  if opcode = Opcode.write10 ∨ opcode = Opcode.write16 then .write else .read

/-- The instruction in a block of 16 bytes: the operation code tells where the parameters are. -/
def ofBlock? (bs : Bytes) : Option Instruction :=
  let opcode := bs.byteAt 0
  if opcode = Opcode.inquiry then some (.inquiry (bs.byteAt 2) (bs.byteAt 4) (bs.byteAt 5))
  else if opcode = Opcode.requestSense then
    some (.requestSense (bs.byteAt 1 != 0) (bs.byteAt 4) (bs.byteAt 5))
  else if opcode = Opcode.testUnitReady then some (.testUnitReady (bs.byteAt 5))
  else if opcode = Opcode.readCapacity10 then some (.readCapacity10 (bs.byteAt 9))
  else if opcode = Opcode.synchronizeCache10 then
    some (.synchronizeCache10 (bs.byteAt 1 != 0) (bs.byteAt 9))
  else if opcode = Opcode.serviceActionIn16 then
    some (.readCapacity16 (.ofNat (Bytes.number (bs.slice 10 4))) (bs.byteAt 15))
  else if opcode = Opcode.read10 ∨ opcode = Opcode.write10 then
    some (.transfer10 (accessOf opcode) (.ofNat (Bytes.number (bs.slice 2 4)))
      (.ofNat (Bytes.number (bs.slice 7 2))) (bs.byteAt 1) (bs.byteAt 9))
  else if opcode = Opcode.read16 ∨ opcode = Opcode.write16 then
    some (.transfer16 (accessOf opcode) (.ofNat (Bytes.number (bs.slice 2 8)))
      (.ofNat (Bytes.number (bs.slice 10 4))) (bs.byteAt 1) (bs.byteAt 15))
  else none

section

variable {bs : Bytes} {access : Access}

theorem ofBlock?_of_opcode10 (h : bs.byteAt 0 = Cdb.opcode10 access) :
    ofBlock? bs = some (.transfer10 access (.ofNat (Bytes.number (bs.slice 2 4)))
      (.ofNat (Bytes.number (bs.slice 7 2))) (bs.byteAt 1) (bs.byteAt 9)) := by
  rw [ofBlock?, h]
  cases access <;> rfl

theorem ofBlock?_of_opcode16 (h : bs.byteAt 0 = Cdb.opcode16 access) :
    ofBlock? bs = some (.transfer16 access (.ofNat (Bytes.number (bs.slice 2 8)))
      (.ofNat (Bytes.number (bs.slice 10 4))) (bs.byteAt 1) (bs.byteAt 15)) := by
  rw [ofBlock?, h]
  cases access <;> rfl

theorem ofBlock?_of_serviceAction (h : bs.byteAt 0 = Opcode.serviceActionIn16) :
    ofBlock? bs =
      some (.readCapacity16 (.ofNat (Bytes.number (bs.slice 10 4))) (bs.byteAt 15)) := by
  rw [ofBlock?, h]
  rfl

end

theorem ofBlock?_transfer10 (access : Access) (address : UInt32) (count : UInt16)
    (flags control : UInt8) :
    ofBlock? (Cdb.transfer10 access address count flags control).block =
      some (.transfer10 access address count (flags &&& Cdb.flagMask access) control) := by
  have hblock : (Cdb.transfer10 access address count flags control).block =
      Cdb.opcode10 access :: (flags &&& Cdb.flagMask access) ::
        (Bytes.bigEndian 4 address.toNat ++
          (0 :: (Bytes.bigEndian 2 count.toNat ++ control :: Bytes.zeros 6))) := by
    cases access <;> simp [Cdb.transfer10_eq, Cdb.opcode10, Cdb.ofBytes]
  obtain ⟨haddress, hcount⟩ := Cdb.slice_fields10 (Cdb.opcode10 access)
    (flags &&& Cdb.flagMask access) 0 (Bytes.length_bigEndian 4 address.toNat)
    (Bytes.length_bigEndian 2 count.toNat) (control :: Bytes.zeros 6)
  rw [hblock, ofBlock?_of_opcode10 rfl, haddress, hcount,
    Bytes.number_bigEndian_of_lt address.toNat_lt, Bytes.number_bigEndian_of_lt count.toNat_lt,
    UInt32.ofNat_toNat, UInt16.ofNat_toNat]
  rfl

theorem ofBlock?_transfer16 (access : Access) (address : UInt64) (count : UInt32)
    (flags control : UInt8) :
    ofBlock? (Cdb.transfer16 access address count flags control).block =
      some (.transfer16 access address count (flags &&& Cdb.flagMask access) control) := by
  have hblock : (Cdb.transfer16 access address count flags control).block =
      Cdb.opcode16 access :: (flags &&& Cdb.flagMask access) ::
        (Bytes.bigEndian 8 address.toNat ++
          (Bytes.bigEndian 4 count.toNat ++ [0, control])) := by
    cases access <;> simp [Cdb.transfer16_eq, Cdb.opcode16, Cdb.ofBytes, Bytes.zeros]
  obtain ⟨haddress, hcount⟩ := Cdb.slice_fields16 (Cdb.opcode16 access)
    (flags &&& Cdb.flagMask access) (Bytes.length_bigEndian 8 address.toNat)
    (Bytes.length_bigEndian 4 count.toNat) [0, control]
  rw [hblock, ofBlock?_of_opcode16 rfl, haddress, hcount,
    Bytes.number_bigEndian_of_lt address.toNat_lt, Bytes.number_bigEndian_of_lt count.toNat_lt,
    UInt64.ofNat_toNat, UInt32.ofNat_toNat]
  rfl

theorem ofBlock?_readCapacity16 (allocation : UInt32) (control : UInt8) :
    ofBlock? (Cdb.readCapacity16 allocation control).block =
      some (.readCapacity16 allocation control) := by
  have hblock : (Cdb.readCapacity16 allocation control).block =
      Opcode.serviceActionIn16 :: Opcode.readCapacity16Action ::
        (Bytes.bigEndian 8 0 ++ (Bytes.bigEndian 4 allocation.toNat ++ [0, control])) := by
    simp [Cdb.readCapacity16_eq, Cdb.ofBytes, Bytes.zeros]
  have hallocation := (Cdb.slice_fields16 Opcode.serviceActionIn16 Opcode.readCapacity16Action
    (Bytes.length_bigEndian 8 0) (Bytes.length_bigEndian 4 allocation.toNat) [0, control]).2
  rw [hblock, ofBlock?_of_serviceAction rfl, hallocation,
    Bytes.number_bigEndian_of_lt allocation.toNat_lt, UInt32.ofNat_toNat]
  rfl

/-- The instruction is read back from its block, with those flags only that its operation has. -/
theorem ofBlock?_block (i : Instruction) : ofBlock? i.cdb.block = some i.masked := by
  cases i with
  | transfer10 access address count flags control =>
    exact ofBlock?_transfer10 access address count flags control
  | transfer16 access address count flags control =>
    exact ofBlock?_transfer16 access address count flags control
  | readCapacity16 allocation control => exact ofBlock?_readCapacity16 allocation control
  | requestSense descriptor allocation control => cases descriptor <;> rfl
  | synchronizeCache10 immediate control => cases immediate <;> rfl
  | inquiry page allocation control => rfl
  | readCapacity10 control => rfl
  | testUnitReady control => rfl

/-- Blocks are told apart by all that their instructions say. -/
theorem block_eq_block_iff {i j : Instruction} :
    i.cdb.block = j.cdb.block ↔ i.masked = j.masked := by
  constructor
  · intro h
    have hread := ofBlock?_block i
    rw [h, ofBlock?_block] at hread
    exact (Option.some.inj hread).symm
  · intro h
    rw [← cdb_masked i, ← cdb_masked j, h]

/-- Behind the bytes with a meaning the block is zero. -/
theorem drop_block (i : Instruction) :
    i.cdb.block.drop i.cdb.length = Bytes.zeros (16 - i.cdb.length) := by
  cases i <;> rfl

/-- The count of bytes with a meaning is the one that the group of the operation prescribes. -/
theorem groupLength_cdb (i : Instruction) :
    Cdb.groupLength? (i.cdb.block.byteAt 0) = some i.cdb.length := by
  cases i with
  | inquiry => show Cdb.groupLength? Opcode.inquiry = some 6; decide
  | requestSense => show Cdb.groupLength? Opcode.requestSense = some 6; decide
  | testUnitReady => show Cdb.groupLength? Opcode.testUnitReady = some 6; decide
  | readCapacity10 => show Cdb.groupLength? Opcode.readCapacity10 = some 10; decide
  | synchronizeCache10 => show Cdb.groupLength? Opcode.synchronizeCache10 = some 10; decide
  | transfer10 access => cases access with
    | read => show Cdb.groupLength? Opcode.read10 = some 10; decide
    | write => show Cdb.groupLength? Opcode.write10 = some 10; decide
  | readCapacity16 => show Cdb.groupLength? Opcode.serviceActionIn16 = some 16; decide
  | transfer16 access => cases access with
    | read => show Cdb.groupLength? Opcode.read16 = some 16; decide
    | write => show Cdb.groupLength? Opcode.write16 = some 16; decide

/-- A page other than 0 is asked for alike by its code. -/
theorem vitalProductData_of_ne {page : VpdPage} (h : page.code ≠ 0) (allocation : UInt8) :
    Cdb.vitalProductData page allocation = (inquiry page.code allocation 0).cdb := by
  simp only [Cdb.vitalProductData_eq, cdb, Cdb.inquiry_eq, ne_eq, h, not_false_eq_true, if_true]

/-- What was in the array before leaves no trace here either. -/
theorem vitalProductData_fill_eq (page : VpdPage) (allocation : UInt8) (a : Cdb.Area) :
    a.vitalProductData page allocation =
      (⟨(Cdb.vitalProductData page allocation).block, Cdb.length_block _⟩,
        (Cdb.vitalProductData page allocation).length) := by
  simp only [Cdb.Area.vitalProductData, Cdb.Area.inquiry, Cdb.Area.cleared_eq]
  rfl

/-- The page of supported pages cannot be asked for by its code, which stands for the standard
data. -/
theorem block_supportedPages_ne (allocation : UInt8) (i : Instruction) :
    (Cdb.vitalProductData .supportedPages allocation).block ≠ i.cdb.block := by
  intro h
  have hread : some (inquiry 0 allocation 0) = some i.masked :=
    (congrArg ofBlock? h).trans (ofBlock?_block i)
  rw [← cdb_masked i, ← Option.some.inj hread] at h
  -- the flag for vital product data is set in one and not in the other
  have hflag : (0x01 : UInt8) = 0x00 := congrArg (Bytes.byteAt · 1) h
  exact absurd hflag (by decide)

/-- **What was sent can be told from the array alone.** Arrays of two instructions are equal exactly
if operation and parameters are, up to flags that the operation does not have. What an array held
before does not matter, behind the bytes with a meaning there are zeros, and the group of the
operation prescribes how many have one. A page of vital product data is asked for by its code,
except the page of supported pages, whose array is not that of any instruction. -/
theorem uniquely_decodable :
    (∀ (i j : Instruction) (a b : Cdb.Area), (i.fill a).1 = (j.fill b).1 ↔ i.masked = j.masked) ∧
      (∀ (i : Instruction) (a b : Cdb.Area), i.fill a = i.fill b) ∧
      (∀ (i : Instruction) (a : Cdb.Area), (i.fill a).1.bytes.drop (i.fill a).2 =
        Bytes.zeros (16 - (i.fill a).2)) ∧
      (∀ (i : Instruction) (a : Cdb.Area),
        Cdb.groupLength? ((i.fill a).1.bytes.byteAt 0) = some (i.fill a).2) ∧
      (∀ (page : VpdPage) (allocation : UInt8) (a b : Cdb.Area), page.code ≠ 0 →
        a.vitalProductData page allocation = b.inquiry page.code allocation 0) ∧
      ∀ (allocation : UInt8) (i : Instruction) (a b : Cdb.Area),
        (a.vitalProductData .supportedPages allocation).1 ≠ (i.fill b).1 := by
  refine ⟨?_, ?_, ?_, ?_, ?_, ?_⟩
  · intro i j a b
    rw [fill_eq, fill_eq, Cdb.Area.mk.injEq, block_eq_block_iff]
  · intro i a b
    rw [fill_eq, fill_eq]
  · intro i a
    rw [fill_eq]
    exact drop_block i
  · intro i a
    rw [fill_eq]
    exact groupLength_cdb i
  · intro page allocation a b h
    show _ = (inquiry page.code allocation 0).fill b
    rw [fill_eq, vitalProductData_fill_eq]
    simp only [vitalProductData_of_ne h]
  · intro allocation i a b h
    rw [fill_eq, vitalProductData_fill_eq] at h
    exact block_supportedPages_ne allocation i (congrArg Cdb.Area.bytes h)

end Instruction

end Scsi
