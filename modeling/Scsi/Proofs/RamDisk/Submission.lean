import Scsi.Proofs.Host.Completion
import Scsi.RamDisk.Basic

/-!
# Submissions to a RAM disk

What a RAM disk answers to a command and what it leaves, branch by branch.

## Main definitions

* `RamDisk.counted`: the disk with one more submission counted
* `RamDisk.IsAt`: a command is addressed to the disk
* `RamDisk.Profile.IsSmall`: 64 bits count all bytes of the medium
* `RamDisk.LeavesMedium`: a command is no transfer
* `RamDisk.Calm`: no fault is asked for
* `RamDisk.Execution.leaves`, `RamDisk.Execution.answer`: what a request leaves of the disk, and the
  record with its answer
* `RamDisk.Refusal`, `RamDisk.Executes`: the conditions of the target, and what a request can lead to
* `RamDisk.Hosts D`: the host interfaces with a disk that has `D` together with its private block

## Main results

* `RamDisk.executes`: a request leads to a condition, to data, to a read or to a write
* `RamDisk.effect_conclude`: a request ends as the target answered it
* `RamDisk.effect_submit_of_elsewhere`, `RamDisk.effect_submit_of_calm`: a submission to another
  address, and one that reaches a disk without faults ahead
* `RamDisk.submit_eq_none_iff`: the submissions that crash a disk
* `RamDisk.exists_request_of_ok`: a command that ends well was executed
* `RamDisk.region?_of_range`: on a small medium the blocks lie where they are said to
* `RamDisk.completes`: a command that names no blocks is completed
-/

namespace Scsi

/-- Bytes that are read lie in the block. -/
theorem Memory.read?_eq_some {size start len : Nat} {memory : Memory size} {region : Bytes}
    (h : memory.read? start len = some region) :
    start + len ≤ size ∧ region = memory.toList.slice start len := by
  rw [read?_eq] at h
  obtain ⟨hend, ⟨⟩⟩ := Option.ite_none_right_eq_some.1 h
  exact ⟨hend, rfl⟩

@[simp] theorem Command.room_nil (c : Command) : c.room [] = 0 := by
  unfold room
  split
  · exact Nat.min_zero _
  · rfl

namespace RamDisk

open Activity

variable {size : Nat}

/-- The disk with one more submission counted. -/
def counted (disk : RamDisk) : RamDisk := { disk with submitted := disk.submitted + 1 }

/-- The command is addressed to the disk. -/
def IsAt (p : Profile) (c : Command) : Prop := c.target = p.target ∧ c.lun = p.lun

instance (p : Profile) (c : Command) : Decidable (IsAt p c) := inferInstanceAs (Decidable (_ ∧ _))

/-- No fault is asked for. -/
def Calm (disk : RamDisk) : Prop :=
  disk.lossesAhead = 0 ∧ disk.busyAhead = 0 ∧ disk.checkAhead = none

/-! ## Places in the medium -/

section Places

variable {p : Profile} {memory : Memory size} {address count : Nat}

/-- The end of a range of blocks is no further than the end of the medium. -/
theorem Profile.end_le (h : address + count ≤ p.blocks.toNat) :
    address * p.blockSize.toNat + count * p.blockSize.toNat ≤
      p.blocks.toNat * p.blockSize.toNat := by
  rw [← Nat.add_mul]
  exact Nat.mul_le_mul_right _ h

/-- 64 bits count all bytes of the medium. -/
def Profile.IsSmall (p : Profile) : Prop := p.blocks.toNat * p.blockSize.toNat < UInt64.size

/-- On a small medium no offset goes round. -/
theorem Profile.IsSmall.toNat_offset (h : p.IsSmall) {blocks : Nat}
    (hblocks : blocks ≤ p.blocks.toNat) : (p.offset blocks).toNat = blocks * p.blockSize.toNat :=
  p.toNat_offset (Nat.lt_of_le_of_lt (Nat.mul_le_mul_right _ hblocks) h)

theorem Profile.IsSmall.not_overruns (h : p.IsSmall) (request : Request) :
    ¬ Overruns p request := by
  cases request with
  | transfer access address count =>
    rintro ⟨hrange, hend⟩
    exact absurd (Nat.lt_of_le_of_lt (Profile.end_le hrange) h) (Nat.not_lt.2 hend)
  | _ => exact not_false

/-- A range is read if 64 bits count as far as its end, and if it is in the private block. -/
theorem region?_eq (memory : Memory size) (start length : UInt64) :
    region? memory start length =
      if start.toNat + length.toNat < UInt64.size then memory.read? start.toNat length.toNat
      else none := by
  have hround : start + length < start ↔ ¬ start.toNat + length.toNat < UInt64.size := by
    have hstart := start.toNat_lt_size
    have hlength := length.toNat_lt_size
    have hsize : UInt64.size = 18446744073709551616 := rfl
    rw [UInt64.lt_iff_toNat_lt, UInt64.toNat_add]
    omega
  unfold region?
  by_cases h : start.toNat + length.toNat < UInt64.size
  · rw [if_neg (not_not_intro h ∘ hround.1), if_pos h]
  · rw [if_pos (hround.2 h), if_neg h]

theorem region?_eq_some {start length : UInt64} {region : Bytes}
    (h : region? memory start length = some region) :
    start.toNat + length.toNat ≤ size ∧
      region = memory.toList.slice start.toNat length.toNat := by
  rw [region?_eq] at h
  exact Memory.read?_eq_some (Option.ite_none_right_eq_some.1 h).2

/-- On a small medium every range that the target accepts is there, if the block has room for the
medium. -/
theorem region?_of_range (hsmall : p.IsSmall) (hrange : address + count ≤ p.blocks.toNat)
    (hroom : p.blocks.toNat * p.blockSize.toNat ≤ size) :
    region? memory (p.offset address) (p.offset count) =
      some (memory.toList.slice (address * p.blockSize.toNat) (count * p.blockSize.toNat)) := by
  have hend := Profile.end_le hrange
  rw [region?_eq, hsmall.toNat_offset (by omega), hsmall.toNat_offset (by omega),
    if_pos (Nat.lt_of_le_of_lt hend hsmall), Memory.read?_eq, if_pos (Nat.le_trans hend hroom)]

end Places

/-! ## Requests -/

theorem request?_eq_some_iff {disk : RamDisk} {c : Command} {request : Request} :
    disk.request? c = some request ↔ Request.ofBytes? c.cdb.bytes = some request ∧
      ¬ (disk.overflow = .crashes ∧ Overruns disk.profile request) := by
  rw [request?, Option.filter_eq_some_iff, decide_eq_true_iff]

/-- The request of a block that no range of blocks can make crash. -/
theorem request?_of_not_overruns {disk : RamDisk} {c : Command} {request : Request}
    (hrequest : Request.ofBytes? c.cdb.bytes = some request)
    (h : ¬ Overruns disk.profile request) : disk.request? c = some request :=
  request?_eq_some_iff.2 ⟨hrequest, fun hcrash => h hcrash.2⟩

/-- The command is no transfer. -/
def LeavesMedium (c : Command) : Prop :=
  ∃ request, Request.ofBytes? c.cdb.bytes = some request ∧
    ∀ access address count, request ≠ .transfer access address count

theorem LeavesMedium.addressed {c : Command} (h : LeavesMedium c) (u : LogicalUnit) :
    LeavesMedium (c.addressed u) := h

/-- Only a transfer names blocks. -/
theorem not_overruns (p : Profile) {request : Request}
    (h : ∀ access address count, request ≠ .transfer access address count) :
    ¬ Overruns p request := by
  cases request with
  | transfer access address count => exact absurd rfl (h _ _ _)
  | _ => exact not_false

/-- On a small medium only a block that is too short for its operation crashes the adapter. -/
theorem request?_eq_none_of_small {disk : RamDisk} (hsmall : disk.profile.IsSmall) {c : Command} :
    disk.request? c = none ↔ Request.ofBytes? c.cdb.bytes = none := by
  rw [request?, Option.filter_eq_none_iff]
  constructor
  · intro h
    refine Option.eq_none_iff_forall_not_mem.2 fun request hrequest => h request hrequest ?_
    exact decide_eq_true fun hcrash => hsmall.not_overruns request hcrash.2
  · intro h request hrequest
    exact nomatch h.symm.trans hrequest

/-- The disk after a request: a condition leaves its sense pending, a good end takes it away. -/
def Execution.leaves (e : Execution size) (disk : RamDisk) : RamDisk :=
  match e.reply with
  | .good _ => { disk with pending := none }
  | .check sense => { disk with pending := some sense }

/-- The record with the answer to a request. -/
def Execution.answer (e : Execution size) : Command :=
  match e.reply with
  | .good moved =>
    { e.command with actualLength := UInt32.ofNat moved, status := Status.good.code }
  | .check sense =>
    let c :=
      if e.command.flags.contains CommandFlags.autosense then
        e.command.withSense (Sense.toBytes (SenseKey.ofByte sense.key) sense.asc sense.ascq)
      else e.command
    { c with status := Status.checkCondition.code }

theorem effect_conclude (e : Execution size) (disk : RamDisk) (memory : Memory size) :
    (conclude e).effect (disk, memory) = (some (true, e.answer), (e.leaves disk, e.memory)) := by
  unfold conclude
  rw [effect_bind_of_answer (effect_modify _ _)]
  cases h : e.reply with
  | good moved => simp only [Execution.answer, Execution.leaves, h]; rfl
  | check sense => simp only [Execution.answer, Execution.leaves, h]; rfl

theorem fill_nil (c : Command) : c.fill [] = c := by
  unfold Command.fill
  split
  · have hdata : c.data.received [] = c.data := by
      cases c.data <;> simp [DataBuffer.received, Bytes.overlay]
    rw [List.take_nil, hdata]
  · rfl

/-- Bytes that have room are in front of what was behind them. -/
theorem data_settled_fill {c : Command} {buffer bs : Bytes} (hdata : c.data = .input buffer)
    (hlength : c.dataLength.toNat = bs.length) (hfits : bs.length ≤ buffer.length) :
    c.data.settled (c.fill bs).data = .input (bs ++ buffer.drop bs.length) := by
  have hpart : c.dataIn = some (buffer.take bs.length) := by
    rw [Command.dataIn, hdata, hlength]
    simp only [DataBuffer.inPhase, hfits, if_true]
  have hwhole : bs.take (buffer.take bs.length).length = bs := by
    rw [List.length_take, Nat.min_eq_left hfits, List.take_length]
  have hfilled : (c.fill bs).data = c.data.received bs := by
    simp only [Command.fill, hpart, hwhole]
  rw [hfilled, hdata, DataBuffer.settled_received, DataBuffer.received, Bytes.overlay,
    List.take_of_length_le hfits]

/-- Why the target answers with a condition: it does not know the request, it cannot meet it, or it
lacks blocks of its medium. -/
inductive Refusal (p : Profile) (memory : Memory size) : Sense → Prop
  | operation : Refusal p memory invalidOperation
  | range : Refusal p memory addressOutOfRange
  | field : Refusal p memory invalidField
  | medium {address count : Nat} (hrange : address + count ≤ p.blocks.toNat)
      (hread : region? memory (p.offset address) (p.offset count) = none) :
    Refusal p memory internalFailure

/-- What a request can lead to: a condition, data of the target, blocks that are read, or blocks that
are written. -/
inductive Executes (p : Profile) (memory : Memory size) (c : Command) :
    Request → Execution size → Prop
  | checked {request : Request} {sense : Sense} (h : Refusal p memory sense) :
    Executes p memory c request (answerCheck memory c sense)
  | answered {request : Request} (bs : Bytes)
      (hrequest : ∀ access address count, request ≠ .transfer access address count) :
    Executes p memory c request (answerData memory c bs)
  | read {address count : Nat} {region part : Bytes}
      (hregion : region? memory (p.offset address) (p.offset count) = some region)
      (hpart : c.dataIn = some part) (hfits : (p.offset count).toNat ≤ part.length) :
    Executes p memory c (.transfer .read address count)
      ⟨.good (p.offset count).toNat, memory, c.fill region⟩
  | written {address count : Nat} {source : Bytes}
      (hrange : address + count ≤ p.blocks.toNat)
      (hend : (p.offset address).toNat + (p.offset count).toNat ≤ size)
      (hsource : c.dataOut = some source) (hfits : (p.offset count).toNat ≤ source.length) :
    Executes p memory c (.transfer .write address count)
      ⟨.good (p.offset count).toNat,
        memory.write (p.offset address).toNat (source.take (p.offset count).toNat), c⟩

theorem executes_moveBlocks (p : Profile) (memory : Memory size) (c : Command) (access : Access)
    (address count : Nat) :
    Executes p memory c (.transfer access address count)
      (moveBlocks p memory c access address count) := by
  unfold moveBlocks
  dsimp only
  split
  · exact .checked .range
  next hrange =>
  have hrange : address + count ≤ p.blocks.toNat := Nat.not_lt.1 hrange
  cases hregion : region? memory (p.offset address) (p.offset count) with
  | none => exact .checked (.medium hrange hregion)
  | some region =>
    -- the blocks are there, and the buffer is too small or holds them
    cases access with
    | read =>
      dsimp only
      cases hpart : c.dataIn with
      | none => exact .checked .field
      | some part =>
        dsimp only
        split
        · next hfits => exact .read hregion hpart hfits
        · exact .checked .field
    | write =>
      dsimp only
      cases hsource : c.dataOut with
      | none => exact .checked .field
      | some source =>
        dsimp only
        split
        · next hfits =>
          obtain ⟨hend, -⟩ := region?_eq_some hregion
          exact .written hrange hend hsource hfits
        · exact .checked .field

/-- A request leads to one of the four ends. -/
theorem executes (disk : RamDisk) (memory : Memory size) (c : Command) (request : Request) :
    Executes disk.profile memory c request (execute disk memory c request) := by
  cases request with
  | noData =>
    have hnothing : answerData memory c [] = ⟨.good 0, memory, c⟩ := by
      rw [answerData, Command.room_nil, fill_nil]
    rw [execute, ← hnothing]
    exact .answered [] nofun
  | identity => exact .answered _ nofun
  | requestSense => exact .answered _ nofun
  | readCapacity10 => exact .answered _ nofun
  | unknown => exact .checked .operation
  | productData page =>
    simp only [execute]
    split
    · exact .answered _ nofun
    split
    · exact .answered _ nofun
    · exact .checked .field
  | serviceAction action =>
    simp only [execute]
    split
    · exact .answered _ nofun
    · exact .checked .operation
  | transfer access address count => exact executes_moveBlocks _ _ _ _ _ _

/-- Requests do nothing to a record but fill its data-in part. -/
theorem exists_command_execute (disk : RamDisk) (memory : Memory size) (c : Command)
    (request : Request) : ∃ bs, (execute disk memory c request).command = c.fill bs := by
  have untouched : ∃ bs, c = c.fill bs := ⟨[], (fill_nil c).symm⟩
  have hexecutes := executes disk memory c request
  generalize execute disk memory c request = e at hexecutes ⊢
  cases hexecutes with
  | checked _ => exact untouched
  | answered bs _ => exact ⟨bs, rfl⟩
  -- only a read that is done writes to the buffer
  | read _ _ _ => exact ⟨_, rfl⟩
  | written _ _ _ _ => exact untouched

/-- The conditions of the target itself are refusals. -/
theorem condition_execute {disk : RamDisk} {memory : Memory size} {c : Command} {request : Request}
    {sense : Sense} (h : (execute disk memory c request).reply = .check sense) :
    Refusal disk.profile memory sense := by
  have hexecutes := executes disk memory c request
  generalize execute disk memory c request = e at hexecutes h
  cases hexecutes with
  | checked hrefusal =>
    obtain rfl := Reply.check.inj h
    exact hrefusal
  | answered bs _ => exact nomatch h
  | read _ _ _ => exact nomatch h
  | written _ _ _ _ => exact nomatch h

/-! ## Submissions -/

theorem isAt_iff (p : Profile) (c : Command) :
    (c.target ≠ p.target ∨ c.lun ≠ p.lun) ↔ ¬ IsAt p c := by
  rw [IsAt, Classical.not_and_iff_not_or_not]

/-- What the disk does with a command, before faults and requests are told apart. -/
theorem effect_submit (disk : RamDisk) (memory : Memory size) (c : Command) :
    (submit c).effect (disk, memory) =
      if ¬ IsAt disk.profile c then (some (false, c), (disk.counted, memory))
      else if disk.lossesAhead ≠ 0 then
        (some (false, c), ({ disk.counted with lossesAhead := disk.lossesAhead - 1 }, memory))
      else if disk.busyAhead ≠ 0 then
        (some (true, { c with status := Status.busy.code }),
          ({ disk.counted with busyAhead := disk.busyAhead - 1 }, memory))
      else
        match disk.checkAhead with
        | some sense =>
          let e := answerCheck memory c sense
          (some (true, e.answer), (e.leaves { disk.counted with checkAhead := none }, e.memory))
        | none =>
          match disk.request? c with
          | none => (none, (disk.counted, memory))
          | some request =>
            let e := execute disk.counted memory c request
            (some (true, e.answer), (e.leaves disk.counted, e.memory)) := by
  unfold submit
  rw [modifyDisk, effect_bind_of_answer (effect_modify _ _), effect_bind_of_answer (effect_get _)]
  simp only [isAt_iff]
  by_cases hat : IsAt disk.profile c
  case neg =>
    rw [if_pos hat, if_pos hat]
    rfl
  rw [if_neg (not_not_intro hat), if_neg (not_not_intro hat)]
  -- the faults that were asked for, in the order in which the disk looks at them
  by_cases hloss : disk.lossesAhead = 0
  case neg =>
    rw [if_pos hloss, if_pos hloss]
    rfl
  rw [if_neg (not_not_intro hloss), if_neg (not_not_intro hloss)]
  by_cases hbusy : disk.busyAhead = 0
  case neg =>
    rw [if_pos hbusy, if_pos hbusy]
    rfl
  rw [if_neg (not_not_intro hbusy), if_neg (not_not_intro hbusy)]
  obtain ⟨profile, overflow, busyAhead, lossesAhead, checkAhead, pending, submitted⟩ := disk
  cases checkAhead with
  | some sense =>
    -- the condition that was asked for takes the place of the request
    show (modifyDisk _ >>= _).effect _ = _
    rw [modifyDisk, effect_bind_of_answer (effect_modify _ _), effect_conclude]
    rfl
  | none =>
    -- which request it is has nothing to do with the count of submissions
    let disk : RamDisk := ⟨profile, overflow, busyAhead, lossesAhead, none, pending, submitted⟩
    show (match disk.request? c with
      | none => crash
      | some request => conclude (execute disk.counted memory c request)).effect _ =
        match disk.request? c with
        | none => _
        | some request => _
    cases disk.request? c with
    | none => rfl
    | some request => exact effect_conclude _ _ _

theorem effect_submit_of_elsewhere {disk : RamDisk} {c : Command} (h : ¬ IsAt disk.profile c)
    (memory : Memory size) :
    (submit c).effect (disk, memory) = (some (false, c), (disk.counted, memory)) := by
  rw [effect_submit, if_pos h]

theorem effect_submit_of_calm {disk : RamDisk} {c : Command} (hat : IsAt disk.profile c)
    (hcalm : disk.Calm) {request : Request} (hrequest : disk.request? c = some request)
    (memory : Memory size) :
    (submit c).effect (disk, memory) =
      let e := execute disk.counted memory c request
      (some (true, e.answer), (e.leaves disk.counted, e.memory)) := by
  obtain ⟨hloss, hbusy, hcheck⟩ := hcalm
  rw [effect_submit, if_neg (not_not_intro hat), if_neg (not_not_intro hloss),
    if_neg (not_not_intro hbusy), hcheck, hrequest]

/-- **A submission crashes the disk** exactly if it is addressed to it, no fault comes first, and
looking at the request crashes. -/
theorem submit_eq_none_iff (disk : RamDisk) (memory : Memory size) (c : Command) :
    ((submit c).effect (disk, memory)).1 = none ↔
      IsAt disk.profile c ∧ disk.Calm ∧ disk.request? c = none := by
  rw [effect_submit, Calm]
  by_cases hat : IsAt disk.profile c
  case neg => simp [hat]
  rw [if_neg (not_not_intro hat)]
  by_cases hloss : disk.lossesAhead = 0
  case neg => simp [hloss]
  rw [if_neg (not_not_intro hloss)]
  by_cases hbusy : disk.busyAhead = 0
  case neg => simp [hbusy]
  rw [if_neg (not_not_intro hbusy)]
  cases hcheck : disk.checkAhead with
  | some sense => simp
  | none => cases hrequest : disk.request? c <;> simp [hat, hloss, hbusy]

/-- The last block of a medium of 2 ^ 64 + 2 bytes is looked for past what 64 bits count: the program
crashes, or takes the first block for it. -/
example :
    let p : Profile := .disk 0x8000000000000001 2
    let c := Command.fresh (.transfer16 .read 0x8000000000000000 1 0 0) (.input [7, 7]) 2
    let answer (overflow : Overflow) :=
      ((submit c).effect (new p overflow, Memory.zeros 2)).1.map fun r => (r.2.status, r.2.data)
    answer .crashes = none ∧ answer .wraps = some (Status.good.code, .input [0, 0]) := by
  decide +kernel

/-- A request that is no transfer leaves the medium alone. -/
theorem memory_execute (disk : RamDisk) (memory : Memory size) (c : Command) {request : Request}
    (h : ∀ access address count, request ≠ .transfer access address count) :
    (execute disk memory c request).memory = memory := by
  have hexecutes := executes disk memory c request
  generalize execute disk memory c request = e at hexecutes ⊢
  cases hexecutes with
  | checked _ => rfl
  | answered bs _ => rfl
  | read _ _ _ => rfl
  | written _ _ _ _ => exact absurd rfl (h _ _ _)

theorem Calm.counted {disk : RamDisk} (h : disk.Calm) : disk.counted.Calm := h

theorem Calm.leaves {disk : RamDisk} (h : disk.Calm) (e : Execution size) :
    (e.leaves disk).Calm := by
  unfold Execution.leaves
  split <;> exact h

theorem profile_leaves (e : Execution size) (disk : RamDisk) :
    (e.leaves disk).profile = disk.profile := by
  unfold Execution.leaves
  split <;> rfl

/-- The profile of a disk never changes. -/
theorem profile_submit (c : Command) (disk : RamDisk) (memory : Memory size) :
    ((submit c).effect (disk, memory)).2.1.profile = disk.profile := by
  rw [effect_submit]
  split
  · rfl
  split
  · rfl
  split
  · rfl
  cases disk.checkAhead with
  | some sense => exact profile_leaves _ _
  | none =>
    cases disk.request? c with
    | none => rfl
    | some request => exact profile_leaves _ _

/-- A submission through the host interface is one to the disk. -/
theorem effect_host_submit (c : Command) (disk : RamDisk) (memory : Memory size) :
    (Host.submit c).effect (⟨some disk, size, memory⟩ : Host RamDisk) =
      let ended := (submit c).effect (disk, memory)
      (ended.1.map fun r => (r.1, c.settled r.2), ⟨some ended.2.1, size, ended.2.2⟩) := by
  rw [Host.effect_submit, Host.effect_call_of_some rfl]
  rfl

/-- A command that reaches a disk without faults ahead comes back as the request left it. -/
theorem effect_host_submit_of_calm {disk : RamDisk} {c : Command} (hat : IsAt disk.profile c)
    (hcalm : disk.Calm) {request : Request} (hrequest : disk.request? c = some request)
    {memory : Memory size} {e : Execution size} (he : execute disk.counted memory c request = e) :
    (Host.submit c).effect (⟨some disk, size, memory⟩ : Host RamDisk) =
      (some (true, c.settled e.answer), ⟨some (e.leaves disk.counted), size, e.memory⟩) := by
  rw [effect_host_submit, effect_submit_of_calm hat hcalm hrequest, he]
  rfl

/-- The outcome of a command that the target answered is good only after a good reply. -/
theorem reply_of_outcome_answer {e : Execution size} (h : e.answer.outcome = .ok ()) :
    (∃ moved, e.reply = .good moved) ∧ e.answer.data = e.command.data := by
  cases hreply : e.reply with
  | good moved =>
    refine ⟨⟨moved, rfl⟩, ?_⟩
    simp only [Execution.answer, hreply]
  | check sense =>
    have hstatus : e.answer.status = Status.checkCondition.code := by
      simp only [Execution.answer, hreply]
    rw [Command.outcome_eq_ok_iff, hstatus] at h
    exact absurd h (by decide)

/-- A command that ends well was executed, and its data are those that the request left. -/
theorem exists_request_of_ok {disk : RamDisk} {memory : Memory size} {c c' : Command}
    {s : RamDisk × Memory size} (h : (submit c).effect (disk, memory) = (some (true, c'), s))
    (hok : c'.outcome = .ok ()) :
    ∃ request moved, Request.ofBytes? c.cdb.bytes = some request ∧
      (execute disk.counted memory c request).reply = .good moved ∧
      c'.data = (execute disk.counted memory c request).command.data := by
  rw [effect_submit] at h
  -- what is not delivered does not end well, and neither does what is busy or checked
  split at h
  · exact nomatch h
  split at h
  · exact nomatch h
  split at h
  · obtain ⟨⟩ := h
    have hbusy : ¬ (Status.ofByte Status.busy.code = .good ∨
        Status.ofByte Status.busy.code = .intermediate) := by decide
    exact absurd (Command.outcome_eq_ok_iff.1 hok) hbusy
  split at h
  · next sense _ =>
    obtain ⟨⟩ := h
    obtain ⟨⟨moved, hmoved⟩, -⟩ := reply_of_outcome_answer hok
    exact nomatch hmoved
  · split at h
    · exact nomatch h
    · next request hrequest =>
      obtain ⟨⟩ := h
      obtain ⟨⟨moved, hmoved⟩, hdata⟩ := reply_of_outcome_answer hok
      exact ⟨request, moved, (request?_eq_some_iff.1 hrequest).1, hmoved, hdata⟩

/-! ## Host interfaces with a disk -/

/-- The host interface has a disk, and the disk and its private block have `D`. -/
def Hosts (D : RamDisk → Bytes → Prop) (host : Option (Host RamDisk)) : Prop :=
  ∃ (disk : RamDisk) (size : Nat) (memory : Memory size),
    host = some ⟨some disk, size, memory⟩ ∧ D disk memory.toList

section Hosts

variable {D : RamDisk → Bytes → Prop} {v : LogicalUnit} {c : Command}

/-- What an operation keeps of disk and private block, it keeps through the host interface. -/
theorem Hosts.keeps_call {α : Type} {x : (size : Nat) → Activity (RamDisk × Memory size) α}
    (h : ∀ (disk : RamDisk) (size : Nat) (memory : Memory size), D disk memory.toList →
      D ((x size).effect (disk, memory)).2.1 ((x size).effect (disk, memory)).2.2.toList)
    (absent : α) : Keeps (fun host => Hosts D (some host)) (Host.call x absent) := by
  rintro _ ⟨disk, size, memory, ⟨⟩, hD⟩
  rw [state_run, Host.effect_call_of_some rfl]
  exact ⟨_, _, _, rfl, h disk size memory hD⟩

/-- An operation that ends, and that keeps `D`, does so through the host interface too. -/
theorem Hosts.finishes_call {α : Type} {x : (size : Nat) → Activity (RamDisk × Memory size) α}
    (h : ∀ (disk : RamDisk) (size : Nat) (memory : Memory size), D disk memory.toList →
      D ((x size).effect (disk, memory)).2.1 ((x size).effect (disk, memory)).2.2.toList ∧
        ((x size).effect (disk, memory)).1.isSome = true)
    (absent : α) : Finishes (fun host => Hosts D (some host)) (Host.call x absent) := by
  intro host hhost
  refine ⟨Hosts.keeps_call (fun disk size memory hD => (h disk size memory hD).1) absent host hhost,
    ?_⟩
  obtain ⟨disk, size, memory, ⟨⟩, hD⟩ := hhost
  rw [Host.effect_call_of_some rfl]
  exact (h disk size memory hD).2

/-- What a submission to the disk keeps, one through the host interface keeps. -/
theorem Hosts.serves
    (h : ∀ (disk : RamDisk) (size : Nat) (memory : Memory size), D disk memory.toList →
      D ((submit (c.addressed v)).effect (disk, memory)).2.1
        ((submit (c.addressed v)).effect (disk, memory)).2.2.toList) :
    Host.Serves v (Hosts D) c := by
  rintro _ ⟨disk, size, memory, ⟨⟩, hD⟩
  rw [effect_host_submit]
  exact ⟨_, _, _, rfl, h disk size memory hD⟩

/-- A request that ends well comes back with what it left of the data. -/
theorem Hosts.replies {A : Bytes → Prop} {request : Request}
    (hrequest : Request.ofBytes? c.cdb.bytes = some request)
    (h : ∀ (disk : RamDisk) (size : Nat) (memory : Memory size) (moved : Nat),
      D disk memory.toList →
      (execute disk.counted memory (c.addressed v) request).reply = .good moved →
      A (c.data.settled (execute disk.counted memory (c.addressed v) request).command.data).bytes) :
    Host.Replies v (Hosts D) c A := by
  rintro _ host' c' ⟨disk, size, memory, ⟨⟩, hD⟩ hsent hok
  rw [effect_host_submit] at hsent
  obtain ⟨⟨delivered, answered⟩, hended, hsettled⟩ := Option.map_eq_some_iff.1 (Prod.mk.inj hsent).1
  obtain ⟨rfl, rfl⟩ := Prod.mk.inj hsettled
  obtain ⟨request', moved, hrequest', hmoved, hdata⟩ :=
    exists_request_of_ok (Prod.ext hended rfl) (hok : answered.outcome = .ok ())
  obtain rfl := Option.some.inj (hrequest.symm.trans hrequest')
  show A (c.data.settled answered.data).bytes
  rw [hdata]
  exact h disk size memory moved hD hmoved

end Hosts

/-! ## Completions -/

/-- A record of which nothing but the status is new is a completion without bytes. -/
theorem exists_record_of_status (c : Command) (delivered : Bool) (status : UInt8) :
    ∃ r : Completion, (delivered, { c with status }) = (r.delivered, r.record c) := by
  refine ⟨⟨delivered, status, c.sense, c.actualLength, []⟩, ?_⟩
  rw [Completion.record, fill_nil]

theorem exists_record_answer {c : Command} {e : Execution size} {bs : Bytes}
    (h : e.command = c.fill bs) :
    ∃ r : Completion, (true, e.answer) = (r.delivered, r.record c) := by
  unfold Execution.answer
  rw [h]
  cases e.reply with
  | good moved =>
    exact ⟨⟨true, Status.good.code, (c.fill bs).sense, UInt32.ofNat moved, bs⟩, rfl⟩
  | check sense =>
    dsimp only
    split
    · exact ⟨⟨true, Status.checkCondition.code, _, (c.fill bs).actualLength, bs⟩, rfl⟩
    · exact ⟨⟨true, Status.checkCondition.code, (c.fill bs).sense, (c.fill bs).actualLength, bs⟩,
        rfl⟩

/-- **A command that names no blocks is completed** if it is long enough for its operation, whatever
faults are ahead. -/
theorem completes {c : Command} (h : LeavesMedium c) : HostAdapter.Completes RamDisk c := by
  rintro size ⟨disk, memory⟩
  obtain ⟨request, hrequest, hother⟩ := h
  have hrequest : disk.request? c = some request :=
    request?_of_not_overruns hrequest (not_overruns _ hother)
  show ∃ r : Completion, ((submit c).effect (disk, memory)).1 = some (r.delivered, r.record c)
  suffices ∃ r : Completion, ∃ answer, ((submit c).effect (disk, memory)).1 = some answer ∧
      answer = (r.delivered, r.record c) by
    obtain ⟨r, answer, hanswer, rfl⟩ := this
    exact ⟨r, hanswer⟩
  rw [effect_submit, hrequest]
  -- sent to another address, lost, busy, or answered with a condition or the request's own reply
  split
  · obtain ⟨r, hr⟩ := exists_record_of_status c false c.status
    exact ⟨r, _, rfl, hr⟩
  split
  · obtain ⟨r, hr⟩ := exists_record_of_status c false c.status
    exact ⟨r, _, rfl, hr⟩
  split
  · obtain ⟨r, hr⟩ := exists_record_of_status c true Status.busy.code
    exact ⟨r, _, rfl, hr⟩
  cases disk.checkAhead with
  | some sense =>
    obtain ⟨r, hr⟩ := exists_record_answer (e := answerCheck memory c sense) (fill_nil c).symm
    exact ⟨r, _, rfl, hr⟩
  | none =>
    obtain ⟨bs, hbs⟩ := exists_command_execute disk.counted memory c request
    obtain ⟨r, hr⟩ := exists_record_answer hbs
    exact ⟨r, _, rfl, hr⟩

end RamDisk

end Scsi
