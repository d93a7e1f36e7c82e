import Scsi.Proofs.Command.Transfer
import Scsi.Proofs.RamDisk.BlockArray
import Scsi.Proofs.RamDisk.Submission
import Scsi.Proofs.Session.BlockIO

/-!
# Transfers of a RAM disk

A transfer from or to a RAM disk without faults ahead is a transfer from or to the array of its
blocks: the answer is that of the array, and the private block afterwards holds the next array.

## Main definitions

* `RamDisk.Represents p rest array disk bytes`: the private block of the disk holds the array, with
  `rest` behind it

## Main results

* `RamDisk.moveBlocks_read`, `RamDisk.moveBlocks_write`: the blocks that the target moves
* `RamDisk.effect_work`: a transfer answers as the array does and leaves the next one
-/

namespace Scsi

open Activity

namespace RamDisk

variable {size : Nat}

/-! ## The target -/

section Target

variable {p : Profile} {memory : Memory size} {c : Command} {buffer : Bytes} {address count : Nat}

theorem moveBlocks_of_past_end (h : p.blocks.toNat < address + count) (access : Access) :
    moveBlocks p memory c access address count = answerCheck memory c addressOutOfRange := by
  simp only [moveBlocks, h, if_true]

variable (hsmall : p.IsSmall) (hrange : address + count ≤ p.blocks.toNat)
  (hroom : p.blocks.toNat * p.blockSize.toNat ≤ size)
  (hlength : c.dataLength.toNat = count * p.blockSize.toNat)
  (hbuffer : count * p.blockSize.toNat ≤ buffer.length)

include hsmall hrange hroom hlength hbuffer

/-- A read within the medium fills the front of the buffer with the blocks. -/
theorem moveBlocks_read (hdata : c.data = .input buffer) :
    moveBlocks p memory c .read address count =
      ⟨.good (count * p.blockSize.toNat), memory, c.fill
        (memory.toList.slice (address * p.blockSize.toNat) (count * p.blockSize.toNat))⟩ := by
  have hpart : c.dataIn = some (buffer.take (count * p.blockSize.toNat)) := by
    rw [Command.dataIn, hdata, hlength]
    simp only [DataBuffer.inPhase, hbuffer, if_true]
  have hfits : count * p.blockSize.toNat ≤ (buffer.take (count * p.blockSize.toNat)).length := by
    rw [List.length_take]
    omega
  have hcount := hsmall.toNat_offset (Nat.le_trans (Nat.le_add_left _ _) hrange)
  simp only [moveBlocks, Nat.not_lt.2 hrange, if_false, region?_of_range hsmall hrange hroom, hpart,
    hcount, hfits, if_true]

/-- A write within the medium replaces the blocks by the front of the buffer. -/
theorem moveBlocks_write (hdata : c.data = .output buffer) :
    moveBlocks p memory c .write address count =
      ⟨.good (count * p.blockSize.toNat),
        memory.write (address * p.blockSize.toNat) (buffer.take (count * p.blockSize.toNat)),
        c⟩ := by
  have hpart : c.dataOut = some (buffer.take (count * p.blockSize.toNat)) := by
    rw [Command.dataOut, hdata, hlength]
    simp only [DataBuffer.outPhase, hbuffer, if_true]
  have hfits : count * p.blockSize.toNat ≤ (buffer.take (count * p.blockSize.toNat)).length := by
    rw [List.length_take]
    omega
  have haddress := hsmall.toNat_offset (Nat.le_trans (Nat.le_add_right _ _) hrange)
  have hcount := hsmall.toNat_offset (Nat.le_trans (Nat.le_add_left _ _) hrange)
  simp only [moveBlocks, Nat.not_lt.2 hrange, if_false, region?_of_range hsmall hrange hroom, hpart,
    haddress, hcount, hfits, if_true, List.take_take, Nat.min_self]

end Target

/-! ## Answers -/

theorem outcome_answer_of_good {e : Execution size} {moved : Nat} (h : e.reply = .good moved) :
    e.answer.outcome = .ok () ∧ e.answer.actualLength = UInt32.ofNat moved ∧
      e.answer.data = e.command.data := by
  have hanswer : e.answer =
      { e.command with actualLength := UInt32.ofNat moved, status := Status.good.code } := by
    simp only [Execution.answer, h]
  rw [hanswer]
  exact ⟨rfl, rfl, rfl⟩

/-- With autosense a condition is answered together with its sense. -/
theorem outcome_answer_of_past_end {c : Command} (memory : Memory size)
    (hflags : c.flags.contains CommandFlags.autosense = true) :
    (answerCheck memory c addressOutOfRange).answer.outcome =
        .error (.checkCondition (some ⟨5, 0x21, 0x00⟩)) ∧
      (answerCheck memory c addressOutOfRange).answer.data = c.data := by
  let bs := Sense.toBytes (SenseKey.ofByte addressOutOfRange.key) addressOutOfRange.asc
    addressOutOfRange.ascq
  have hanswer : (answerCheck memory c addressOutOfRange).answer =
      { c.withSense bs with status := Status.checkCondition.code } := by
    simp only [Execution.answer, answerCheck, hflags, if_true, bs]
  have hsense : Sense.ofBytes? (SenseBuffer.store bs).bytes = some ⟨5, 0x21, 0x00⟩ := by decide
  rw [hanswer]
  refine ⟨?_, rfl⟩
  show Except.error (Error.checkCondition (Sense.ofBytes? (SenseBuffer.store bs).bytes)) = _
  rw [hsense]

/-! ## Blocks -/

/-- The private block of the disk holds the array, with `rest` behind it, and no fault is ahead. -/
structure Represents (p : Profile) (rest : Bytes) (array : BlockArray) (disk : RamDisk)
    (bytes : Bytes) : Prop where
  profile : disk.profile = p
  calm : disk.Calm
  small : p.IsSmall
  blockSize : array.blockSize = p.blockSize.toNat
  blocks : array.blocks = p.blocks.toNat
  bytes : bytes = array.bytes ++ rest

end RamDisk

namespace Transfer

section Command

variable {array : BlockArray} {t : Transfer} {blockSize : UInt32}
  (hsize : array.blockSize = blockSize.toNat)
  (hform : t.form = .ten → t.block.toNat < UInt32.size)

include hsize hform

/-- Either the initiator refuses a transfer as the array does, or it sends a command for it, and
then the end of the array is all that is left to refuse it. -/
theorem command_cases :
    (∃ e, array.fault? t = some e ∧
      Command.transfer t.block t.count blockSize t.data t.access t.form = .error e) ∨
    (∃ cdb, Command.transfer t.block t.count blockSize t.data t.access t.form =
        .ok (.fresh cdb t.data (UInt32.ofNat (array.span t))) ∧
      Request.ofBytes? cdb.bytes = some (.transfer t.access t.block.toNat t.count.toNat) ∧
      array.span t < UInt32.size ∧ array.span t ≤ t.buffer.length ∧
      array.fault? t =
        if array.blocks < t.block.toNat + t.count.toNat then
          some (.checkCondition (some ⟨5, 0x21, 0x00⟩))
        else none) := by
  have hspan : array.span t = t.count.toNat * blockSize.toNat := by
    rw [BlockArray.span, hsize]
  unfold BlockArray.fault?
  -- the checks of the initiator, in the order in which it makes them
  by_cases hlong : UInt32.size ≤ array.span t
  · rw [if_pos hlong]
    exact .inl ⟨_, rfl, Command.transfer_of_too_long (hspan ▸ hlong)⟩
  rw [if_neg hlong]
  have hlong' : t.count.toNat * blockSize.toNat < UInt32.size := by
    rw [← hspan]
    exact Nat.not_le.1 hlong
  by_cases hwide : t.form = .ten ∧ UInt16.size ≤ t.count.toNat
  · rw [if_pos hwide, hwide.1]
    exact .inl ⟨_, rfl, Command.transfer_of_too_wide hlong' (hform hwide.1) hwide.2⟩
  rw [if_neg hwide]
  have hfits : t.form = .ten → t.block.toNat < UInt32.size ∧ t.count.toNat < UInt16.size :=
    fun h => ⟨hform h, Nat.not_le.1 fun hcount => hwide ⟨h, hcount⟩⟩
  by_cases hshort : t.buffer.length < array.span t
  · rw [if_pos hshort]
    exact .inl ⟨_, rfl, Command.transfer_of_too_short hlong' hfits (hspan ▸ hshort)⟩
  rw [if_neg hshort]
  have htransfer : Command.transfer t.block t.count blockSize t.data t.access t.form = _ :=
    Command.transfer_of_fits hlong' hfits (hspan ▸ Nat.not_lt.1 hshort)
  rw [← hspan] at htransfer
  exact .inr ⟨_, htransfer, Cdb.request_ofTransfer t.access hfits, Nat.not_le.1 hlong,
    Nat.not_lt.1 hshort, rfl⟩

end Command

theorem answerOf_of_fault {array : BlockArray} {t : Transfer} {e : Error}
    (h : array.fault? t = some e) {data : DataBuffer} (hdata : data.bytes = t.buffer) :
    t.answerOf (.error e, data) = array.answer t := by
  have hresult := array.result_of_fault h
  have hreceived := array.received_of_fault h
  cases haccess : t.access with
  | read => simp only [answerOf, BlockArray.answer, haccess, hresult, hreceived, hdata]
  | write => simp only [answerOf, BlockArray.answer, haccess, hresult]

end Transfer

/-! ## Transfers -/

namespace RamDisk

variable {size : Nat} {p : Profile} {rest : Bytes} {array : BlockArray} {disk : RamDisk}
  {memory : Memory size} {u : LogicalUnit} {t : Transfer}

theorem Represents.isSmall {bytes : Bytes} (h : Represents p rest array disk bytes) :
    disk.profile.IsSmall := h.profile ▸ h.small

theorem Represents.room (h : Represents p rest array disk memory.toList) :
    p.blocks.toNat * p.blockSize.toNat ≤ size := by
  have hlength := congrArg List.length h.bytes
  rw [Memory.length_toList, List.length_append, array.length_bytes, h.blocks, h.blockSize] at hlength
  omega

/-- Where a transfer that the array does not refuse lies in the private block. -/
theorem Represents.range (h : Represents p rest array disk memory.toList)
    (hfits : array.fault? t = none) :
    t.block.toNat + t.count.toNat ≤ p.blocks.toNat ∧
      t.count.toNat * p.blockSize.toNat = array.span t ∧
      t.block.toNat * p.blockSize.toNat = array.start t ∧
      array.start t + array.span t ≤ array.bytes.length ∧ array.span t ≤ t.buffer.length := by
  obtain ⟨-, -, hbuffer, hrange⟩ := BlockArray.fault?_eq_none_iff.1 hfits
  refine ⟨h.blocks ▸ hrange, ?_, ?_, ?_, hbuffer⟩
  · rw [BlockArray.span, h.blockSize]
  · rw [BlockArray.start, h.blockSize]
  · rw [array.length_bytes]
    exact BlockArray.start_add_span_le hfits

/-- What the disk answers to the command of a transfer that the initiator sends. -/
theorem effect_submit_transfer (h : Represents p rest array disk memory.toList)
    (hat : u.target = p.target ∧ u.lun = p.lun) {cdb : Cdb} {n : UInt32}
    (hrequest : Request.ofBytes? cdb.bytes = some (.transfer t.access t.block.toNat t.count.toNat))
    {e : Execution size}
    (he : moveBlocks p memory ((Command.fresh cdb t.data n).addressed u) t.access t.block.toNat
      t.count.toNat = e) :
    (Host.submit ((Command.fresh cdb t.data n).addressed u)).effect
        (⟨some disk, size, memory⟩ : Host RamDisk) =
      (some (true, ((Command.fresh cdb t.data n).addressed u).settled e.answer),
        ⟨some (e.leaves disk.counted), size, e.memory⟩) := by
  -- no fault is ahead of the disk, so it executes what it is sent
  have hc : IsAt disk.profile ((Command.fresh cdb t.data n).addressed u) := by
    rw [h.profile]
    exact hat
  have hexecute : execute disk.counted memory ((Command.fresh cdb t.data n).addressed u)
      (.transfer t.access t.block.toNat t.count.toNat) = e := by
    rw [← he, ← h.profile]
    rfl
  exact effect_host_submit_of_calm hc h.calm
    (request?_of_not_overruns hrequest (h.isSmall.not_overruns _)) hexecute

theorem effect_work_of_past_end (h : Represents p rest array disk memory.toList)
    (hu : u.operations = .ready) (hat : u.target = p.target ∧ u.lun = p.lun) {cdb : Cdb} {n : UInt32}
    (hc : Command.transfer t.block t.count u.blockSize t.data t.access t.form =
      .ok (.fresh cdb t.data n))
    (hrequest : Request.ofBytes? cdb.bytes = some (.transfer t.access t.block.toNat t.count.toNat))
    (hend : array.blocks < t.block.toNat + t.count.toNat) :
    ∃ data w disk', t.work.effect (⟨u, some ⟨some disk, size, memory⟩⟩ : Session RamDisk) =
        (some (.error (.checkCondition (some ⟨5, 0x21, 0x00⟩)), data),
          ⟨w, some ⟨some disk', size, memory⟩⟩) ∧
      data.bytes = t.buffer ∧ w.cleared = u.cleared ∧
      Represents p rest array disk' memory.toList := by
  have hsent := effect_submit_transfer h hat hrequest (n := n)
    (moveBlocks_of_past_end (h.blocks ▸ hend) t.access)
  obtain ⟨houtcome, hdata⟩ := outcome_answer_of_past_end memory
    (c := (Command.fresh cdb t.data n).addressed u) (Flags.contains_union_right _ _)
  refine ⟨_, _, _, effect_transfer_of_failed hu hc hsent houtcome, ?_,
    LogicalUnit.cleared_completed _ _, ?_⟩
  · show (t.data.settled (answerCheck memory _ addressOutOfRange).answer.data).bytes = t.buffer
    rw [hdata]
    show (t.data.settled t.data).bytes = t.buffer
    rw [DataBuffer.settled_self, Transfer.data]
    cases t.access <;> rfl
  · exact ⟨(profile_leaves _ _).trans h.profile, h.calm.counted.leaves _, h.small, h.blockSize, h.blocks,
      h.bytes⟩

section Fits

variable (h : Represents p rest array disk memory.toList) (hu : u.operations = .ready)
  (hat : u.target = p.target ∧ u.lun = p.lun) {cdb : Cdb} {n : UInt32}
  (hc : Command.transfer t.block t.count u.blockSize t.data t.access t.form =
    .ok (.fresh cdb t.data n))
  (hrequest : Request.ofBytes? cdb.bytes = some (.transfer t.access t.block.toNat t.count.toNat))

include h hu hat hc hrequest

/-- What comes of a transfer that the disk answers with GOOD. -/
theorem effect_work_of_good {e : Execution size}
    (he : moveBlocks p memory ((Command.fresh cdb t.data n).addressed u) t.access t.block.toNat
      t.count.toNat = e)
    (hgood : e.reply = .good n.toNat) :
    t.work.effect (⟨u, some ⟨some disk, size, memory⟩⟩ : Session RamDisk) =
      (some (.ok n, t.data.settled e.command.data),
        ⟨{ u.cleared with lastActual := n }, some ⟨some (e.leaves disk.counted), size, e.memory⟩⟩) := by
  have hsent := effect_submit_transfer h hat hrequest he
  obtain ⟨houtcome, hmoved, hdata⟩ := outcome_answer_of_good hgood
  rw [UInt32.ofNat_toNat] at hmoved
  rw [← hdata]
  exact effect_transfer_of_ok hu hc hsent houtcome hmoved

variable (hn : n.toNat = array.span t) (hfits : array.fault? t = none)

include hn hfits

/-- A read that the array does not refuse puts its blocks at the front of the buffer. -/
theorem effect_work_of_read (haccess : t.access = .read) :
    ∃ w disk', t.work.effect (⟨u, some ⟨some disk, size, memory⟩⟩ : Session RamDisk) =
        (some (.ok n, .input (array.received t)), ⟨w, some ⟨some disk', size, memory⟩⟩) ∧
      w.cleared = u.cleared ∧ Represents p rest array disk' memory.toList := by
  obtain ⟨hrange, hspan, hstart, hend, hbuffer⟩ := h.range hfits
  -- the command as it is sent, with the buffer of the caller
  let c := (Command.fresh cdb t.data n).addressed u
  have hdata : c.data = .input t.buffer := by
    show t.data = _
    rw [Transfer.data, haccess]
    rfl
  have he : moveBlocks p memory c t.access t.block.toNat t.count.toNat =
      ⟨.good n.toNat, memory, c.fill (array.bytes.slice (array.start t) (array.span t))⟩ := by
    rw [haccess, moveBlocks_read h.small hrange h.room (hn.trans hspan.symm) (hspan ▸ hbuffer) hdata, hspan,
      hstart, h.bytes, Bytes.slice_append_of_le hend, hn]
  have hleft : t.data.settled (c.fill (array.bytes.slice (array.start t) (array.span t))).data =
      .input (array.received t) := by
    have hlength : (array.bytes.slice (array.start t) (array.span t)).length = array.span t :=
      Bytes.length_slice_of_le hend
    have hfilled := data_settled_fill hdata (hn.trans hlength.symm) (hlength.symm ▸ hbuffer)
    rw [hlength] at hfilled
    rw [array.received_of_fits hfits]
    exact hfilled
  have hwork := effect_work_of_good h hu hat hc hrequest he rfl
  dsimp only at hwork
  rw [hleft] at hwork
  exact ⟨_, _, hwork, rfl, (profile_leaves _ _).trans h.profile, h.calm.counted.leaves _,
    h.small, h.blockSize, h.blocks, h.bytes⟩

/-- A write that the array does not refuse replaces its blocks. -/
theorem effect_work_of_write (haccess : t.access = .write) :
    ∃ data w disk' memory', t.work.effect (⟨u, some ⟨some disk, size, memory⟩⟩ : Session RamDisk) =
        (some (.ok n, data), ⟨w, some ⟨some disk', size, memory'⟩⟩) ∧
      w.cleared = u.cleared ∧ Represents p rest (array.next t) disk' memory'.toList := by
  obtain ⟨hrange, hspan, hstart, hend, hbuffer⟩ := h.range hfits
  let c := (Command.fresh cdb t.data n).addressed u
  have hdata : c.data = .output t.buffer := by
    show t.data = _
    rw [Transfer.data, haccess]
    rfl
  have he : moveBlocks p memory c t.access t.block.toNat t.count.toNat =
      ⟨.good n.toNat, memory.write (array.start t) (t.buffer.take (array.span t)), c⟩ := by
    rw [haccess, moveBlocks_write h.small hrange h.room (hn.trans hspan.symm) (hspan ▸ hbuffer) hdata, hspan,
      hstart, hn]
  obtain ⟨hblockSize, hblocks, hbytes⟩ := BlockArray.next_of_write haccess hfits
  have hwork := effect_work_of_good h hu hat hc hrequest he rfl
  refine ⟨_, _, _, _, hwork, rfl, (profile_leaves _ _).trans h.profile, h.calm.counted.leaves _,
    h.small, hblockSize.trans h.blockSize, hblocks.trans h.blocks, ?_⟩
  have hlength : (t.buffer.take (array.span t)).length = array.span t := by
    rw [List.length_take, Nat.min_eq_left hbuffer]
  -- what is written lies in the private block
  have hroom : array.start t + (t.buffer.take (array.span t)).length ≤ size := by
    have hsize := congrArg List.length h.bytes
    rw [Memory.length_toList, List.length_append] at hsize
    omega
  have hfront : array.start t ≤ array.bytes.length := Nat.le_of_add_right_le hend
  show (memory.write (array.start t) (t.buffer.take (array.span t))).toList = _
  rw [Memory.toList_write _ _ _ hroom, h.bytes, hbytes, hlength,
    List.take_append_of_le_length hfront, List.drop_append_of_le_length hend]
  simp only [List.append_assoc]

end Fits

/-- **A transfer** answers as the array does and leaves the next array. -/
theorem effect_work (h : Represents p rest array disk memory.toList)
    (hu : u.operations = .ready) (hsize : u.blockSize = p.blockSize)
    (hat : u.target = p.target ∧ u.lun = p.lun)
    (hform : t.form = .ten → t.block.toNat < UInt32.size) :
    ∃ r w disk' memory', t.work.effect (⟨u, some ⟨some disk, size, memory⟩⟩ : Session RamDisk) =
        (some r, ⟨w, some ⟨some disk', size, memory'⟩⟩) ∧
      t.answerOf r = array.answer t ∧ w.cleared = u.cleared ∧
      Represents p rest (array.next t) disk' memory'.toList := by
  have hblockSize : array.blockSize = u.blockSize.toNat := by
    rw [h.blockSize, hsize]
  rcases Transfer.command_cases hblockSize hform with
    ⟨e, hfault, hc⟩ | ⟨cdb, hc, hrequest, hspan, -, hfault⟩
  -- the initiator refuses the transfer
  · refine ⟨_, _, _, _, effect_transfer_of_refused hu hc _, ?_, rfl, ?_⟩
    · refine Transfer.answerOf_of_fault hfault ?_
      unfold Transfer.data
      cases t.access <;> rfl
    · rw [array.next_of_fault hfault]
      exact h
  have hn : (UInt32.ofNat (array.span t)).toNat = array.span t := UInt32.toNat_ofNat_of_lt' hspan
  by_cases hend : array.blocks < t.block.toNat + t.count.toNat
  -- the target refuses it
  · rw [if_pos hend] at hfault
    obtain ⟨data, w, disk', hwork, hdata, hw, hleft⟩ :=
      effect_work_of_past_end h hu hat hc hrequest hend
    refine ⟨_, w, disk', memory, hwork, Transfer.answerOf_of_fault hfault hdata, hw, ?_⟩
    rw [array.next_of_fault hfault]
    exact hleft
  rw [if_neg hend] at hfault
  cases haccess : t.access with
  | read =>
    obtain ⟨w, disk', hwork, hw, hleft⟩ :=
      effect_work_of_read h hu hat hc hrequest hn hfault haccess
    refine ⟨_, w, disk', memory, hwork, ?_, hw, ?_⟩
    · simp only [Transfer.answerOf, BlockArray.answer, haccess, BlockArray.result_of_fits hfault]
      rfl
    · rw [BlockArray.next_of_read haccess]
      exact hleft
  | write =>
    obtain ⟨data, w, disk', memory', hwork, hw, hleft⟩ :=
      effect_work_of_write h hu hat hc hrequest hn hfault haccess
    refine ⟨_, w, disk', memory', hwork, ?_, hw, hleft⟩
    simp only [Transfer.answerOf, BlockArray.answer, haccess, BlockArray.result_of_fits hfault]

end RamDisk

end Scsi
