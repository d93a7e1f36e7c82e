import Scsi.Proofs.Command.Short
import Scsi.Proofs.RamDisk.Run

/-!
# Footprints

A caller who passes commands through may put together any block with any buffer. Whatever comes of
it, the disk writes where it says that it wrote: to the front of a buffer that receives, as far as
the count goes, and to the blocks that a WRITE names, from the front of a buffer that is sent. A
command that fails writes nowhere.

## Main definitions

* `RamDisk.written?`: the first block and the count of blocks of a WRITE, read off its bytes
* `RamDisk.Confined`: what a submission may have written

## Main results

* `RamDisk.written?_eq_some_iff`: the target reads from the bytes of a WRITE what they say
* `RamDisk.submit_confined`: every submission is confined to its footprint
-/

namespace Scsi

open Activity

/-! ## Buffers -/

/-- Bytes behind those that were written over the front are the old ones. -/
theorem Bytes.drop_overlay {n : Nat} {new old : Bytes} (h : new.length ≤ n) :
    (overlay new old).drop n = old.drop n := by
  have hfront : (new.take old.length).length ≤ n := by
    rw [List.length_take]
    omega
  rw [overlay, List.drop_append, List.drop_of_length_le hfront, List.nil_append, List.drop_drop,
    List.length_take]
  rcases Nat.le_total new.length old.length with hle | hle
  · rw [Nat.min_eq_right hle, Nat.add_sub_cancel' h]
  · rw [List.drop_of_length_le (by omega), List.drop_of_length_le (by omega)]

namespace DataBuffer

theorem drop_received {new : Bytes} {n : Nat} (h : new.length ≤ n) (d : DataBuffer) :
    (received new d).bytes.drop n = d.bytes.drop n := by
  cases d with
  | none => rfl
  | output bs => rfl
  | input bs => exact Bytes.drop_overlay h
  | bidirectional bs => exact Bytes.drop_overlay h

end DataBuffer

namespace Command

theorem room_le_length (c : Command) (bs : Bytes) : c.room bs ≤ bs.length := by
  unfold room
  split
  · exact Nat.min_le_right _ _
  · exact Nat.zero_le _

/-- No more is filled in than the caller asked for, however long its buffer is. -/
theorem room_le (c : Command) (bs : Bytes) : c.room bs ≤ c.dataLength.toNat := by
  unfold room
  split
  · next part hpart =>
    obtain ⟨-, -, rfl⟩ := DataBuffer.inPhase_eq_some_iff.1 hpart
    rw [List.length_take]
    omega
  · exact Nat.zero_le _

/-- Bytes behind those that were filled in stay. -/
theorem drop_fill {c : Command} {bs : Bytes} {n : Nat} (h : c.room bs ≤ n) :
    (c.fill bs).data.bytes.drop n = c.data.bytes.drop n := by
  unfold room at h
  unfold fill
  cases hpart : c.dataIn with
  | none => rfl
  | some part =>
    rw [hpart] at h
    refine DataBuffer.drop_received ?_ c.data
    rw [List.length_take]
    exact h

/-- Filling changes neither the variant of a buffer nor its length. -/
theorem shape_fill (c : Command) (bs : Bytes) :
    (c.fill bs).data.direction = c.data.direction ∧ (c.fill bs).data.length = c.data.length := by
  unfold fill
  split
  · exact ⟨DataBuffer.direction_received _ _, DataBuffer.length_received _ _⟩
  · exact ⟨rfl, rfl⟩

/-- A buffer that is only sent is not filled. -/
theorem fill_of_output {c : Command} (h : c.data.direction = .output) (bs : Bytes) :
    c.fill bs = c := by
  unfold fill
  cases hpart : c.dataIn with
  | none => rfl
  | some part =>
    obtain ⟨hdirection | hdirection, -⟩ := DataBuffer.inPhase_eq_some_iff.1 hpart
    all_goals exact nomatch h.symm.trans hdirection

end Command

namespace RamDisk

variable {size : Nat}

/-! ## Footprints -/

/-- What a WRITE asks for, read off the bytes of its block: the first block and the count of blocks.
WRITE(10) has four bytes for the one and two for the other, WRITE(16) has eight and four. -/
def written? (bs : Bytes) : Option (Nat × Nat) :=
  if bs.byteAt 0 = 0x2A then some (Bytes.number (bs.slice 2 4), Bytes.number (bs.slice 7 2))
  else if bs.byteAt 0 = 0x8A then some (Bytes.number (bs.slice 2 8), Bytes.number (bs.slice 10 4))
  else none

/-- The target reads from the bytes of a WRITE what they say, and takes nothing else for one. -/
theorem written?_eq_some_iff (bs : Bytes) (address count : Nat) :
    written? bs = some (address, count) ↔ Request.decode bs = .transfer .write address count := by
  unfold written? Request.decode
  dsimp only
  by_cases hten : bs.byteAt 0 = 0x2A
  · simp [hten, Opcode.testUnitReady, Opcode.synchronizeCache10, Opcode.inquiry, Opcode.requestSense,
      Opcode.readCapacity10, Opcode.serviceActionIn16, Opcode.write10]
  by_cases hsixteen : bs.byteAt 0 = 0x8A
  · simp [hsixteen, Opcode.testUnitReady, Opcode.synchronizeCache10, Opcode.inquiry,
      Opcode.requestSense, Opcode.readCapacity10, Opcode.serviceActionIn16, Opcode.read10,
      Opcode.write10, Opcode.write16]
  -- no other operation is a write
  rw [if_neg hten, if_neg hsixteen]
  refine iff_of_false (Option.some_ne_none _).symm ?_
  have hread : ∀ opcode, bs.byteAt 0 ≠ opcode →
      (if bs.byteAt 0 = opcode then Access.write else .read) = .read := fun _ h => if_neg h
  rw [hread Opcode.write10 hten, hread Opcode.write16 hsixteen]
  split
  · simp
  split
  · split <;> simp
  split
  · simp
  split
  · simp
  split
  · simp
  split
  · simp
  split <;> simp

/-- What a submission of `c` may have written, when it ends with `delivered` and the record `r` and
turns the block `memory` into `memory'`. -/
structure Confined (p : Profile) (c : Command) (memory : Memory size) (delivered : Bool)
    (r : Command) (memory' : Memory size) : Prop where
  /-- A command that was lost or did not end with GOOD wrote nothing and counted nothing. -/
  failed : ¬ (delivered = true ∧ r.status = Status.good.code) →
    memory' = memory ∧ r.data = c.data ∧ r.actualLength = c.actualLength
  /-- A command that ended with GOOD moved no more bytes than were asked for. -/
  counted : delivered = true → r.status = Status.good.code →
    r.actualLength.toNat ≤ c.dataLength.toNat
  /-- The buffer is as long as it was, of the same variant, and the same behind the count. -/
  behind : r.data.direction = c.data.direction ∧ r.data.length = c.data.length ∧
    r.data.bytes.drop r.actualLength.toNat = c.data.bytes.drop r.actualLength.toNat
  /-- A buffer that is only sent stays. -/
  sent : c.data.direction = .output → r.data = c.data
  /-- The private block stays, unless the command is a WRITE. -/
  unwritten : written? c.cdb.bytes = none → memory' = memory
  /-- A WRITE that ended with GOOD replaced the blocks that it names by the front of a buffer that is
  sent, and nothing else. -/
  written : ∀ address count, written? c.cdb.bytes = some (address, count) →
    delivered = true → r.status = Status.good.code →
      let start := address * p.blockSize.toNat
      let length := count * p.blockSize.toNat
      (c.data.direction = .output ∨ c.data.direction = .bidirectional) ∧
        length ≤ c.dataLength.toNat ∧ c.dataLength.toNat ≤ c.data.length ∧
        address + count ≤ p.blocks.toNat ∧ start + length ≤ size ∧ start + length < UInt64.size ∧
        r.data = c.data ∧ r.actualLength.toNat = length ∧
        memory'.toList = memory.toList.take start ++ c.data.bytes.take length ++
          memory.toList.drop (start + length)

section Confined

variable {p : Profile} {c r : Command} {memory memory' : Memory size} {delivered : Bool}

/-- Where nothing is written nothing is out of bounds. -/
theorem Confined.of_failed (hfailed : ¬ (delivered = true ∧ r.status = Status.good.code))
    (hdata : r.data = c.data) (hcount : r.actualLength = c.actualLength) :
    Confined p c memory delivered r memory where
  failed _ := ⟨rfl, hdata, hcount⟩
  counted hdelivered hgood := absurd ⟨hdelivered, hgood⟩ hfailed
  behind := by
    rw [hdata]
    exact ⟨rfl, rfl, rfl⟩
  sent _ := hdata
  unwritten _ := rfl
  written _ _ _ hdelivered hgood := absurd ⟨hdelivered, hgood⟩ hfailed

/-- A condition is answered without a byte being moved. -/
theorem confined_answerCheck (p : Profile) (memory : Memory size) (c : Command) (sense : Sense) :
    Confined p c memory true (answerCheck memory c sense).answer memory := by
  refine .of_failed ?_ (data_answer _) ?_
  · rintro ⟨-, hstatus⟩
    rw [status_answer_of_check rfl] at hstatus
    exact absurd hstatus (by decide)
  · unfold Execution.answer answerCheck
    dsimp only
    split <;> rfl

/-- A buffer is filled no further than the count says. -/
theorem confined_fill {bs : Bytes} {moved : Nat} (hmoved : c.room bs ≤ moved)
    (hasked : moved ≤ c.dataLength.toNat) (hrequest : written? c.cdb.bytes = none) :
    Confined p c memory true (Execution.answer (⟨.good moved, memory, c.fill bs⟩ : Execution size))
      memory := by
  have hcount : (UInt32.ofNat moved).toNat = moved :=
    UInt32.toNat_ofNat_of_lt' (Nat.lt_of_le_of_lt hasked c.dataLength.toNat_lt)
  obtain ⟨hdirection, hlength⟩ := c.shape_fill bs
  constructor
  case failed => exact fun h => absurd ⟨rfl, rfl⟩ h
  case counted =>
    intro _ _
    show (UInt32.ofNat moved).toNat ≤ c.dataLength.toNat
    rw [hcount]
    exact hasked
  case behind =>
    refine ⟨hdirection, hlength, ?_⟩
    show (c.fill bs).data.bytes.drop (UInt32.ofNat moved).toNat = _
    exact Command.drop_fill (hcount.symm ▸ hmoved)
  case sent =>
    intro hout
    show (c.fill bs).data = c.data
    rw [Command.fill_of_output hout]
  case unwritten => exact fun _ => rfl
  case written =>
    intro address count h
    exact nomatch hrequest.symm.trans h

/-- The blocks that a WRITE names are replaced, and the buffer stays. -/
theorem confined_write {address count : Nat} {source : Bytes}
    (hsmall : p.blocks.toNat * p.blockSize.toNat < UInt64.size)
    (hrange : address + count ≤ p.blocks.toNat)
    (hend : address * p.blockSize.toNat + count * p.blockSize.toNat ≤ size)
    (hsource : c.dataOut = some source) (hfits : count * p.blockSize.toNat ≤ source.length)
    (hrequest : written? c.cdb.bytes = some (address, count)) :
    Confined p c memory true
      (Execution.answer (⟨.good (count * p.blockSize.toNat), memory, c⟩ : Execution size))
      (memory.write (address * p.blockSize.toNat) (source.take (count * p.blockSize.toNat))) := by
  obtain ⟨hdirection, hbuffer, rfl⟩ := DataBuffer.outPhase_eq_some_iff.1 hsource
  have hasked : count * p.blockSize.toNat ≤ c.dataLength.toNat := by
    rw [List.length_take] at hfits
    omega
  have hcount : (UInt32.ofNat (count * p.blockSize.toNat)).toNat = count * p.blockSize.toNat :=
    UInt32.toNat_ofNat_of_lt' (Nat.lt_of_le_of_lt hasked c.dataLength.toNat_lt)
  -- the end of the last block is an offset in the medium, which is small
  have hoffset : address * p.blockSize.toNat + count * p.blockSize.toNat < UInt64.size :=
    Nat.lt_of_le_of_lt (Profile.end_le hrange) hsmall
  have hfront : (c.data.bytes.take c.dataLength.toNat).take (count * p.blockSize.toNat) =
      c.data.bytes.take (count * p.blockSize.toNat) := by
    rw [List.take_take, Nat.min_eq_left hasked]
  have hlength : (c.data.bytes.take (count * p.blockSize.toNat)).length =
      count * p.blockSize.toNat := by
    rw [List.length_take]
    exact Nat.min_eq_left (Nat.le_trans hasked hbuffer)
  constructor
  case failed => exact fun h => absurd ⟨rfl, rfl⟩ h
  case counted =>
    intro _ _
    show (UInt32.ofNat (count * p.blockSize.toNat)).toNat ≤ _
    rw [hcount]
    exact hasked
  case behind => exact ⟨rfl, rfl, rfl⟩
  case sent => exact fun _ => rfl
  case unwritten =>
    intro h
    exact nomatch h.symm.trans hrequest
  case written =>
    intro address' count' h _ _
    obtain ⟨rfl, rfl⟩ := Prod.mk.inj (Option.some.inj (hrequest.symm.trans h))
    refine ⟨hdirection, hasked, hbuffer, hrange, hend, hoffset, rfl, hcount, ?_⟩
    rw [hfront, Memory.toList_write _ _ _ (hlength.symm ▸ hend), hlength]

/-- What a request leads to is confined to what the bytes of its block ask for. -/
theorem Executes.confined (hsmall : p.blocks.toNat * p.blockSize.toNat < UInt64.size)
    {request : Request} {e : Execution size} (h : Executes p memory c request e)
    (hrequest : Request.decode c.cdb.bytes = request) :
    Confined p c memory true e.answer e.memory := by
  have hunwritten : (∀ address count, request ≠ .transfer .write address count) →
      written? c.cdb.bytes = none := by
    intro hother
    cases hwritten : written? c.cdb.bytes with
    | none => rfl
    | some range =>
      have hdecode := (written?_eq_some_iff _ range.1 range.2).1 hwritten
      exact absurd (hrequest.symm.trans hdecode) (hother _ _)
  cases h with
  | checked _ => exact confined_answerCheck p memory c _
  | answered bs hother =>
    exact confined_fill (Nat.le_refl _) (c.room_le bs) (hunwritten fun _ _ => hother _ _ _)
  | @read address count region part hregion hpart hfits =>
    obtain ⟨-, -, rfl⟩ := DataBuffer.inPhase_eq_some_iff.1 hpart
    have hasked : (p.offset count).toNat ≤ c.dataLength.toNat := by
      rw [List.length_take] at hfits
      omega
    have hroom : c.room region ≤ (p.offset count).toNat := by
      obtain ⟨hend, rfl⟩ := region?_eq_some hregion
      refine Nat.le_trans (c.room_le_length _) (Nat.le_of_eq (Bytes.length_slice_of_le ?_))
      rw [Memory.length_toList]
      exact hend
    exact confined_fill hroom hasked (hunwritten nofun)
  | @written address count source hrange hend hsource hfits =>
    -- on a small medium the blocks are where products of whole numbers say
    have haddress := Profile.IsSmall.toNat_offset hsmall (Nat.le_trans (Nat.le_add_right _ _) hrange)
    have hcount := Profile.IsSmall.toNat_offset hsmall (Nat.le_trans (Nat.le_add_left _ _) hrange)
    rw [haddress, hcount] at hend
    rw [hcount] at hfits
    rw [haddress, hcount]
    exact confined_write hsmall hrange hend hsource hfits ((written?_eq_some_iff _ _ _).2 hrequest)

end Confined

/-- **A submission is confined to its footprint.** -/
theorem submit_confined (disk : RamDisk)
    (hsmall : disk.profile.blocks.toNat * disk.profile.blockSize.toNat < UInt64.size)
    (memory : Memory size) (c : Command) :
    (¬ c.cdb.IsShort → ((submit c).effect (disk, memory)).1.isSome = true) ∧
      ∀ delivered r disk' memory',
        (submit c).effect (disk, memory) = (some (delivered, r), (disk', memory')) →
          Confined disk.profile c memory delivered r memory' := by
  constructor
  · intro hlong
    rw [Option.isSome_iff_ne_none, Ne, submit_eq_none_iff, request?_eq_none_of_small hsmall,
      ← Cdb.isShort_iff]
    exact fun h => hlong h.2.2
  · intro delivered r disk' memory' heffect
    rw [effect_submit_course] at heffect
    -- only the last of the courses gets as far as the request
    cases hcourse : disk.course c with
    | elsewhere =>
      rw [hcourse] at heffect
      obtain ⟨⟩ := heffect
      exact .of_failed nofun rfl rfl
    | lost =>
      rw [hcourse] at heffect
      obtain ⟨⟩ := heffect
      exact .of_failed nofun rfl rfl
    | busy =>
      rw [hcourse] at heffect
      obtain ⟨⟩ := heffect
      have hbusy : Status.busy.code ≠ Status.good.code := by decide
      exact .of_failed (fun h => hbusy h.2) rfl rfl
    | checked sense =>
      rw [hcourse] at heffect
      obtain ⟨⟩ := heffect
      exact confined_answerCheck _ _ _ _
    | crashed =>
      rw [hcourse] at heffect
      exact nomatch heffect
    | executed request =>
      rw [hcourse] at heffect
      obtain ⟨⟩ := heffect
      exact (executes disk.counted memory c request).confined hsmall
        (Option.some.inj (Option.ite_none_left_eq_some.1 (request_of_course hcourse)).2)

/-- A WRITE from the front of a buffer with two phases, to a disk whose private block ends in the
middle of its medium. -/
theorem submit_confined_half :
    let disk := RamDisk.new (.disk 4 4)
    let memory : Memory 10 := .zeros 10
    let c := Command.fresh (.transfer10 .write 1 1 0 0) (.bidirectional [1, 2, 3, 4, 5, 6]) 5
    disk.profile.blocks.toNat * disk.profile.blockSize.toNat < UInt64.size ∧ ¬ c.cdb.IsShort ∧
      ∃ r disk' memory', (submit c).effect (disk, memory) = (some (true, r), (disk', memory')) ∧
        Confined disk.profile c memory true r memory' ∧ r.status = Status.good.code ∧
        memory'.toList = [0, 0, 0, 0, 1, 2, 3, 4, 0, 0] := by
  intro disk memory c
  have hsmall : disk.profile.blocks.toNat * disk.profile.blockSize.toNat < UInt64.size := by decide
  have hlong : ¬ c.cdb.IsShort := by decide
  obtain ⟨hanswer, hconfined⟩ := submit_confined disk hsmall memory c
  obtain ⟨⟨delivered, r⟩, hr⟩ := Option.isSome_iff_exists.1 (hanswer hlong)
  have hgood : ((submit c).effect (disk, memory)).1.map (fun answer => (answer.1, answer.2.status)) =
      some (true, Status.good.code) := by
    decide +kernel
  rw [hr] at hgood
  obtain ⟨rfl, hstatus⟩ := Prod.mk.inj (Option.some.inj hgood)
  have heffect : (submit c).effect (disk, memory) =
      (some (true, r), ((submit c).effect (disk, memory)).2) := Prod.ext hr rfl
  have hconfined := hconfined _ _ _ _ heffect
  obtain ⟨-, -, -, -, -, -, -, -, hwritten⟩ :=
    hconfined.written 1 1 (by decide) rfl hstatus
  exact ⟨hsmall, hlong, r, _, _, heffect, hconfined, hstatus, hwritten⟩

end RamDisk

end Scsi
