import Scsi.Command.Request
import Scsi.Command.Standard
import Scsi.Proofs.Bytes

/-!
# Short descriptor blocks

A caller may put any count of bytes from 0 to 16 into a descriptor block, and a target looks at as
many of them as the operation has fields. The blocks that are too short for that are told apart here
by their bytes. None of them is among the blocks that are made field by field.

## Main definitions

* `Cdb.IsShort`: the block ends before the last byte that its operation looks at
* `Cdb.IsBuilt`: the block was made field by field

## Main results

* `Request.decode_append`: a request looks at no byte behind its block
* `Cdb.isShort_iff`: no request is read from a short block
* `Cdb.IsBuilt.not_isShort`: a block that was made field by field is not short
* `Command.isBuilt_of_transfer`, …: the standard commands have such blocks
-/

namespace Scsi

/-! ## Descriptor blocks -/

/-- A request looks at no byte behind its block. -/
theorem Request.decode_append {bs : Bytes} (h : Request.ofBytes? bs ≠ none) (rest : Bytes) :
    decode (bs ++ rest) = decode bs := by
  have hneeded : needed (bs.byteAt 0) ≤ bs.length :=
    Nat.not_lt.1 fun hlt => h (ofBytes?_eq_none_iff.2 hlt)
  have hpos : 0 < bs.length := by
    refine Nat.lt_of_lt_of_le ?_ hneeded
    unfold needed
    split
    · decide
    split
    · decide
    split
    · decide
    split <;> decide
  unfold decode
  dsimp only
  rw [Bytes.byteAt_append hpos]
  -- each operation looks at as many bytes as it needs
  refine ite_congr rfl (fun _ => rfl) fun _ => ?_
  refine ite_congr rfl (fun hinquiry => ?_) fun hinquiry => ?_
  · have hlength : 3 ≤ bs.length := by
      rwa [needed, if_pos hinquiry] at hneeded
    rw [Bytes.byteAt_append (by omega), Bytes.byteAt_append (by omega)]
  refine ite_congr rfl (fun _ => rfl) fun _ => ?_
  refine ite_congr rfl (fun _ => rfl) fun _ => ?_
  refine ite_congr rfl (fun hservice => ?_) fun hservice => ?_
  · have hlength : 2 ≤ bs.length := by
      rwa [needed, if_neg hinquiry, if_pos hservice] at hneeded
    rw [Bytes.byteAt_append (by omega)]
  refine ite_congr rfl (fun hten => ?_) fun hten => ?_
  · have hlength : 9 ≤ bs.length := by
      rwa [needed, if_neg hinquiry, if_neg hservice, if_pos hten] at hneeded
    rw [Bytes.slice_append_of_le (by omega), Bytes.slice_append_of_le (by omega)]
  refine ite_congr rfl (fun hsixteen => ?_) fun _ => rfl
  have hlength : 14 ≤ bs.length := by
    rwa [needed, if_neg hinquiry, if_neg hservice, if_neg hten, if_pos hsixteen] at hneeded
  rw [Bytes.slice_append_of_le (by omega), Bytes.slice_append_of_le (by omega)]

namespace Cdb

/-- The block ends before the last byte that its operation looks at: there is no operation at all, or
SERVICE ACTION IN(16), INQUIRY, a transfer in the 10-byte form or one in the 16-byte form lacks a
field. -/
def IsShort (cdb : Cdb) : Prop :=
  let opcode := cdb.bytes.byteAt 0
  cdb.length < 1 ∨
    (opcode = 0x9E ∧ cdb.length < 2) ∨
    (opcode = 0x12 ∧ cdb.length < 3) ∨
    ((opcode = 0x28 ∨ opcode = 0x2A) ∧ cdb.length < 9) ∨
    ((opcode = 0x88 ∨ opcode = 0x8A) ∧ cdb.length < 14)

instance (cdb : Cdb) : Decidable cdb.IsShort := inferInstanceAs (Decidable (_ ∨ _))

/-- No request is read from a short block, and one is read from any other. -/
theorem isShort_iff (cdb : Cdb) : cdb.IsShort ↔ Request.ofBytes? cdb.bytes = none := by
  rw [Request.ofBytes?_eq_none_iff, length_bytes]
  unfold IsShort Request.needed
  dsimp only
  generalize cdb.bytes.byteAt 0 = opcode
  -- one operation after the other, each with its own count of bytes
  by_cases hinquiry : opcode = Opcode.inquiry
  · subst hinquiry
    simp [Opcode.inquiry]
    omega
  rw [if_neg hinquiry]
  by_cases hservice : opcode = Opcode.serviceActionIn16
  · subst hservice
    simp [Opcode.serviceActionIn16]
    omega
  rw [if_neg hservice]
  by_cases hten : opcode = Opcode.read10 ∨ opcode = Opcode.write10
  · rw [if_pos hten]
    rcases hten with rfl | rfl
    · simp [Opcode.read10]
      omega
    · simp [Opcode.write10]
      omega
  rw [if_neg hten]
  by_cases hsixteen : opcode = Opcode.read16 ∨ opcode = Opcode.write16
  · rw [if_pos hsixteen]
    rcases hsixteen with rfl | rfl
    · simp [Opcode.read16]
      omega
    · simp [Opcode.write16]
      omega
  rw [if_neg hsixteen]
  constructor
  · rintro (h | ⟨h, -⟩ | ⟨h, -⟩ | ⟨h, -⟩ | ⟨h, -⟩)
    · exact h
    · exact absurd h hservice
    · exact absurd h hinquiry
    · exact absurd h hten
    · exact absurd h hsixteen
  · exact .inl

/-- The block was made field by field. -/
inductive IsBuilt : Cdb → Prop
  | inquiry (page allocation control : UInt8) : IsBuilt (inquiry page allocation control)
  | vitalProductData (page : VpdPage) (allocation : UInt8) : IsBuilt (vitalProductData page allocation)
  | readCapacity10 (control : UInt8) : IsBuilt (readCapacity10 control)
  | readCapacity16 (allocation : UInt32) (control : UInt8) :
    IsBuilt (readCapacity16 allocation control)
  | transfer10 (access : Access) (address : UInt32) (count : UInt16) (flags control : UInt8) :
    IsBuilt (transfer10 access address count flags control)
  | transfer16 (access : Access) (address : UInt64) (count : UInt32) (flags control : UInt8) :
    IsBuilt (transfer16 access address count flags control)
  | requestSense (descriptor : Bool) (allocation control : UInt8) :
    IsBuilt (requestSense descriptor allocation control)
  | synchronizeCache10 (immediate : Bool) (control : UInt8) :
    IsBuilt (synchronizeCache10 immediate control)
  | testUnitReady (control : UInt8) : IsBuilt (testUnitReady control)

/-- A block is long enough for the operation in front of it if it has as many bytes as that needs. -/
theorem not_isShort_of_cons {cdb : Cdb} {opcode : UInt8} {rest : Bytes}
    (hbytes : cdb.bytes = opcode :: rest) (hneeded : Request.needed opcode ≤ rest.length + 1) :
    ¬ cdb.IsShort := by
  rw [isShort_iff, Request.ofBytes?_eq_none_iff, hbytes]
  exact Nat.not_lt.2 hneeded

/-- **A block that was made field by field** is long enough for its operation. -/
theorem IsBuilt.not_isShort {cdb : Cdb} (h : cdb.IsBuilt) : ¬ cdb.IsShort := by
  cases h with
  | transfer10 access _ _ _ _ =>
    rw [transfer10_eq]
    cases access <;> exact not_isShort_of_cons (bytes_ofBytes _ _) (Nat.le_of_ble_eq_true rfl)
  | transfer16 access _ _ _ _ =>
    rw [transfer16_eq]
    cases access <;> exact not_isShort_of_cons (bytes_ofBytes _ _) (Nat.le_of_ble_eq_true rfl)
  | _ =>
    simp only [inquiry_eq, vitalProductData_eq, readCapacity10_eq, readCapacity16_eq,
      requestSense_eq, synchronizeCache10_eq, testUnitReady_eq]
    exact not_isShort_of_cons (bytes_ofBytes _ _) (Nat.le_of_ble_eq_true rfl)

end Cdb

/-! ## Standard commands -/

namespace Command

theorem cdb_of_ofCdb {cdb : Cdb} {data : DataBuffer} {n : UInt32} {c : Command}
    (h : ofCdb cdb data n = .ok c) : c.cdb = cdb := by
  unfold ofCdb at h
  split at h
  · exact nomatch h
  · obtain ⟨⟩ := h
    rfl

theorem isBuilt_of_inquiry {page : UInt8} {buffer : Bytes} {c : Command}
    (h : inquiry page buffer = .ok c) : c.cdb.IsBuilt := by
  obtain ⟨-, rfl⟩ := inquiry_eq_ok_iff.1 h
  exact .inquiry _ _ _

theorem isBuilt_of_requestSense {buffer : Bytes} {c : Command}
    (h : requestSense buffer = .ok c) : c.cdb.IsBuilt := by
  obtain ⟨-, rfl⟩ := requestSense_eq_ok_iff.1 h
  exact .requestSense _ _ _

theorem isBuilt_of_readCapacity {serviceAction : UInt8} {buffer : Bytes} {c : Command}
    (h : readCapacity serviceAction buffer = .ok c) : c.cdb.IsBuilt := by
  rw [cdb_of_ofCdb h]
  split
  · exact .readCapacity16 _ _
  · exact .readCapacity10 _

theorem isBuilt_of_transfer {block : UInt64} {count blockSize : UInt32} {data : DataBuffer}
    {access : Access} {form : CdbForm} {c : Command}
    (h : transfer block count blockSize data access form = .ok c) : c.cdb.IsBuilt := by
  unfold transfer at h
  dsimp only at h
  split at h
  · exact nomatch h
  split at h
  · exact nomatch h
  cases form with
  | sixteen =>
    rw [cdb_of_ofCdb h]
    exact .transfer16 _ _ _ _ _
  | ten =>
    dsimp only at h
    split at h
    · exact nomatch h
    split at h
    · exact nomatch h
    · rw [cdb_of_ofCdb h]
      exact .transfer10 _ _ _ _ _

end Command

end Scsi
