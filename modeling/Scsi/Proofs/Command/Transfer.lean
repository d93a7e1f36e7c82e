import Scsi.Command.Request
import Scsi.Command.Standard
import Scsi.Proofs.Bytes

/-!
# Block transfers as commands

A target reads from the descriptor block of a transfer what the initiator put there, in both forms.

## Main definitions

* `Cdb.ofTransfer`: the descriptor block of a transfer in either form
* `Access.buffer`: the data buffer that a transfer needs

## Main results

* `Cdb.slice_fields10`, `Cdb.slice_fields16`: where the fields of either form are
* `Cdb.request_ofTransfer`: what a target reads from either form
* `Command.transfer_of_fits`: a transfer that fits its form and its buffer makes a command
* `Command.transfer_of_too_long`, `Command.transfer_of_too_far`, `Command.transfer_of_too_wide`,
  `Command.transfer_of_too_short`: the transfers that make none
-/

namespace Scsi

/-! ## Descriptor blocks -/

namespace Cdb

/-- The operation code of a transfer in the 10-byte form. -/
def opcode10 : Access → UInt8
  | .read => Opcode.read10
  | .write => Opcode.write10

/-- The operation code of a transfer in the 16-byte form. -/
def opcode16 : Access → UInt8
  | .read => Opcode.read16
  | .write => Opcode.write16

/-- The fields of the 10-byte form lie one behind the other. -/
theorem slice_fields10 (opcode flags gap : UInt8) {address count : Bytes}
    (haddress : address.length = 4) (hcount : count.length = 2) (rest : Bytes) :
    Bytes.slice (opcode :: flags :: (address ++ (gap :: (count ++ rest)))) 2 4 = address ∧
      Bytes.slice (opcode :: flags :: (address ++ (gap :: (count ++ rest)))) 7 2 = count := by
  have hflags : [opcode, flags].length = 2 := rfl
  have hgap : (opcode :: flags :: (address ++ [gap])).length = 7 := by simp [haddress]
  refine ⟨Bytes.slice_append hflags haddress _, ?_⟩
  have hfront : opcode :: flags :: (address ++ (gap :: (count ++ rest))) =
      (opcode :: flags :: (address ++ [gap])) ++ (count ++ rest) := by simp
  rw [hfront]
  exact Bytes.slice_append hgap hcount rest

/-- The fields of the 16-byte form lie one behind the other. -/
theorem slice_fields16 (opcode flags : UInt8) {address count : Bytes}
    (haddress : address.length = 8) (hcount : count.length = 4) (rest : Bytes) :
    Bytes.slice (opcode :: flags :: (address ++ (count ++ rest))) 2 8 = address ∧
      Bytes.slice (opcode :: flags :: (address ++ (count ++ rest))) 10 4 = count := by
  have hflags : [opcode, flags].length = 2 := rfl
  have haddresses : (opcode :: flags :: address).length = 10 := by simp [haddress]
  exact ⟨Bytes.slice_append hflags haddress _, Bytes.slice_append haddresses hcount rest⟩

theorem request_of_opcode10 (access : Access) (flags gap : UInt8) {address count : Bytes}
    (haddress : address.length = 4) (hcount : count.length = 2) (rest : Bytes) :
    Request.ofBytes? (opcode10 access :: flags :: (address ++ (gap :: (count ++ rest)))) =
      some (.transfer access (Bytes.number address) (Bytes.number count)) := by
  let bs : Bytes := opcode10 access :: flags :: (address ++ (gap :: (count ++ rest)))
  have hopcode : bs.byteAt 0 = opcode10 access := rfl
  have hneeded : ¬ bs.length < Request.needed (opcode10 access) := by
    have h : Request.needed (opcode10 access) = 9 := by cases access <;> rfl
    simp only [bs, h, List.length_cons, List.length_append, haddress, hcount]
    omega
  obtain ⟨hfirst, hsecond⟩ := slice_fields10 (opcode10 access) flags gap haddress hcount rest
  show Request.ofBytes? bs = _
  rw [Request.ofBytes?, hopcode, if_neg hneeded, Request.decode, hopcode, hfirst, hsecond]
  cases access <;> rfl

theorem request_of_opcode16 (access : Access) (flags : UInt8) {address count : Bytes}
    (haddress : address.length = 8) (hcount : count.length = 4) (rest : Bytes) :
    Request.ofBytes? (opcode16 access :: flags :: (address ++ (count ++ rest))) =
      some (.transfer access (Bytes.number address) (Bytes.number count)) := by
  let bs : Bytes := opcode16 access :: flags :: (address ++ (count ++ rest))
  have hopcode : bs.byteAt 0 = opcode16 access := rfl
  have hneeded : ¬ bs.length < Request.needed (opcode16 access) := by
    have h : Request.needed (opcode16 access) = 14 := by cases access <;> rfl
    simp only [bs, h, List.length_cons, List.length_append, haddress, hcount]
    omega
  obtain ⟨hfirst, hsecond⟩ := slice_fields16 (opcode16 access) flags haddress hcount rest
  show Request.ofBytes? bs = _
  rw [Request.ofBytes?, hopcode, if_neg hneeded, Request.decode, hopcode, hfirst, hsecond]
  cases access <;> rfl

theorem bytes_transfer10 (access : Access) (address : UInt32) (count : UInt16)
    (flags control : UInt8) :
    (transfer10 access address count flags control).bytes =
      opcode10 access :: (flags &&& flagMask access) :: (Bytes.bigEndian 4 address.toNat ++
        (0 :: (Bytes.bigEndian 2 count.toNat ++ [control]))) := by
  cases access <;> simp [transfer10_eq, opcode10]

theorem bytes_transfer16 (access : Access) (address : UInt64) (count : UInt32)
    (flags control : UInt8) :
    (transfer16 access address count flags control).bytes =
      opcode16 access :: (flags &&& flagMask access) :: (Bytes.bigEndian 8 address.toNat ++
        (Bytes.bigEndian 4 count.toNat ++ [0, control])) := by
  cases access <;> simp [transfer16_eq, opcode16]

/-- A target reads from the 10-byte form what was put there. -/
theorem request_transfer10 (access : Access) (address : UInt32) (count : UInt16)
    (flags control : UInt8) :
    Request.ofBytes? (transfer10 access address count flags control).bytes =
      some (.transfer access address.toNat count.toNat) := by
  rw [bytes_transfer10, request_of_opcode10 access _ _ (Bytes.length_bigEndian _ _)
    (Bytes.length_bigEndian _ _), Bytes.number_bigEndian_of_lt address.toNat_lt,
    Bytes.number_bigEndian_of_lt count.toNat_lt]

/-- A target reads from the 16-byte form what was put there. -/
theorem request_transfer16 (access : Access) (address : UInt64) (count : UInt32)
    (flags control : UInt8) :
    Request.ofBytes? (transfer16 access address count flags control).bytes =
      some (.transfer access address.toNat count.toNat) := by
  rw [bytes_transfer16, request_of_opcode16 access _ (Bytes.length_bigEndian _ _)
    (Bytes.length_bigEndian _ _), Bytes.number_bigEndian_of_lt address.toNat_lt,
    Bytes.number_bigEndian_of_lt count.toNat_lt]

/-- The block of a transfer in either form, without flags. -/
def ofTransfer (access : Access) (block : UInt64) (count : UInt32) : CdbForm → Cdb
  | .ten => transfer10 access block.toUInt32 count.toUInt16 0 0
  | .sixteen => transfer16 access block count 0 0

/-- A target reads from either form what was put there, unless something was cut off. -/
theorem request_ofTransfer (access : Access) {block : UInt64} {count : UInt32} {form : CdbForm}
    (hform : form = .ten → block.toNat < UInt32.size ∧ count.toNat < UInt16.size) :
    Request.ofBytes? (ofTransfer access block count form).bytes =
      some (.transfer access block.toNat count.toNat) := by
  cases form with
  | sixteen => exact request_transfer16 access block count 0 0
  | ten =>
    -- nothing is cut off when address and count are narrowed
    obtain ⟨hblock, hcount⟩ := hform rfl
    have hrequest := request_transfer10 access block.toUInt32 count.toUInt16 0 0
    rwa [UInt64.toNat_toUInt32, UInt32.toNat_toUInt16, Nat.mod_eq_of_lt hblock,
      Nat.mod_eq_of_lt hcount] at hrequest

end Cdb

/-! ## Commands -/

/-- The data buffer that a transfer needs over the given memory. -/
def Access.buffer : Access → Bytes → DataBuffer
  | read, bs => .input bs
  | write, bs => .output bs

theorem Access.length_buffer (access : Access) (bs : Bytes) :
    (access.buffer bs).length = bs.length := by
  cases access <;> rfl

namespace Command

section

variable {block : UInt64} {count blockSize : UInt32} {buffer : Bytes} {access : Access}
  {form : CdbForm}

theorem matchesAccess_buffer : matchesAccess access (access.buffer buffer) = true := by
  cases access <;> rfl

theorem transfer_of_too_long (h : UInt32.size ≤ count.toNat * blockSize.toNat) :
    transfer block count blockSize (access.buffer buffer) access form =
      .error (.invalidRequest .transferTooLong) := by
  simp only [transfer, matchesAccess_buffer, Bool.not_true, Bool.false_eq_true, if_false, h, if_true]

theorem transfer_of_too_far (hspan : count.toNat * blockSize.toNat < UInt32.size)
    (h : UInt32.size ≤ block.toNat) :
    transfer block count blockSize (access.buffer buffer) access .ten =
      .error (.invalidRequest .addressTooWide) := by
  simp only [transfer, matchesAccess_buffer, Bool.not_true, Bool.false_eq_true, if_false,
    Nat.not_le.2 hspan, h, if_true]

theorem transfer_of_too_wide (hspan : count.toNat * blockSize.toNat < UInt32.size)
    (hblock : block.toNat < UInt32.size) (h : UInt16.size ≤ count.toNat) :
    transfer block count blockSize (access.buffer buffer) access .ten =
      .error (.invalidRequest .countTooWide) := by
  simp only [transfer, matchesAccess_buffer, Bool.not_true, Bool.false_eq_true, if_false,
    Nat.not_le.2 hspan, Nat.not_le.2 hblock, h, if_true]

variable (hspan : count.toNat * blockSize.toNat < UInt32.size)
  (hform : form = .ten → block.toNat < UInt32.size ∧ count.toNat < UInt16.size)

include hspan hform

variable (buffer access) in
/-- What fits its form is a command over the buffer if the buffer is long enough. -/
theorem transfer_eq_ofCdb :
    transfer block count blockSize (access.buffer buffer) access form =
      ofCdb (.ofTransfer access block count form) (access.buffer buffer)
        (UInt32.ofNat (count.toNat * blockSize.toNat)) := by
  cases form with
  | sixteen =>
    simp only [transfer, matchesAccess_buffer, Bool.not_true, Bool.false_eq_true, if_false,
      Nat.not_le.2 hspan, Cdb.ofTransfer]
  | ten =>
    obtain ⟨hblock, hcount⟩ := hform rfl
    simp only [transfer, matchesAccess_buffer, Bool.not_true, Bool.false_eq_true, if_false,
      Nat.not_le.2 hspan, Nat.not_le.2 hblock, Nat.not_le.2 hcount, Cdb.ofTransfer]

theorem transfer_of_too_short (h : buffer.length < count.toNat * blockSize.toNat) :
    transfer block count blockSize (access.buffer buffer) access form =
      .error (.invalidRequest .bufferTooShort) := by
  rw [transfer_eq_ofCdb buffer access hspan hform, ofCdb, Access.length_buffer,
    UInt32.toNat_ofNat_of_lt' hspan, if_pos h]

theorem transfer_of_fits (h : count.toNat * blockSize.toNat ≤ buffer.length) :
    transfer block count blockSize (access.buffer buffer) access form =
      .ok (fresh (.ofTransfer access block count form) (access.buffer buffer)
        (UInt32.ofNat (count.toNat * blockSize.toNat))) := by
  rw [transfer_eq_ofCdb buffer access hspan hform, ofCdb, Access.length_buffer,
    UInt32.toNat_ofNat_of_lt' hspan, if_neg (Nat.not_lt.2 h)]

end

end Command

end Scsi
