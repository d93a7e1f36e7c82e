import Mathlib.Algebra.Group.Nat.Defs
import Scsi.Proofs.Bus.Bookkeeping
import Scsi.Proofs.RamDisk.Scan

/-!
# What a discovery publishes of a disk

A disk without faults ahead answers a discovery from its profile. The unit then has the block size,
the device type and the removable medium of the profile, and as many blocks as the disk could name:
all of them in the 16-byte form, and no more than 32 bits can address in the 10-byte form. A unit
whose discovery can start has nothing of its own but its address, so two disks that differ in the
form that they know only, and are small enough for either, are published alike.

## Main definitions

* `RamDisk.Profile.found`: the capacity that is found out
* `RamDisk.explored`: the disk after the questions of a discovery
* `RamDisk.Discoverable bus disk memory`: the disk of the bus can be discovered
* `RamDisk.Publishes bus disk memory bus' w`: what its discovery leaves
* `RamDisk.discovered bus p`: the unit that is left

## Main results

* `RamDisk.effect_explore_of_calm`: what the questions find out and what they leave
* `RamDisk.exists_publishes`: the discovery of a disk succeeds and publishes its profile
* `RamDisk.discoverAt_publishes`: it does so alike in either form
-/

namespace Scsi

open Activity Session

namespace RamDisk

/-! ## Capacities -/

/-- The capacity that a discovery finds out: all blocks of the disk, or as many as the 10-byte form
can name. -/
def Profile.found (p : Profile) : Capacity where
  blocks := if p.longCapacity then p.blocks else UInt64.ofNat (min p.blocks.toNat UInt32.size)
  blockSize := p.blockSize

theorem Profile.toNat_blocks_found (p : Profile) :
    p.found.blocks.toNat =
      if p.longCapacity then p.blocks.toNat else min p.blocks.toNat UInt32.size := by
  unfold found
  split
  · rfl
  · exact UInt64.toNat_ofNat_of_lt' (Nat.lt_of_le_of_lt (Nat.min_le_right _ _) (by decide))

/-- Without blocks past 32 bits it is the same in either form. -/
theorem Profile.found_of_le {p : Profile} (h : p.blocks.toNat ≤ UInt32.size) :
    p.found = ⟨p.blocks, p.blockSize⟩ := by
  rw [found, Nat.min_eq_left h, UInt64.ofNat_toNat, ite_self]

/-- One more than the last address is the count. -/
theorem ofNat_pred_add_one {n : Nat} (h : 0 < n) : UInt64.ofNat (n - 1) + 1 = UInt64.ofNat n := by
  rw [show (1 : UInt64) = UInt64.ofNat 1 from rfl, ← UInt64.ofNat_add, Nat.sub_add_cancel h]

section Capacity

variable {p : Profile} (hblocks : p.blocks ≠ 0) (hp : p.blockSize ≠ 0)

include hblocks

theorem Profile.blocks_pos : 0 < p.blocks.toNat :=
  Nat.pos_of_ne_zero fun h => hblocks (UInt64.toNat.inj h)

include hp

theorem capacity_of_long :
    (CapacityReply.mk (UInt64.ofNat (p.blocks.toNat - 1)) p.blockSize).capacity =
      ⟨p.blocks, p.blockSize⟩ := by
  simp only [CapacityReply.capacity, hp, if_false,
    ofNat_pred_add_one (Profile.blocks_pos hblocks), UInt64.ofNat_toNat]

theorem capacity_of_short :
    (CapacityReply.mk (UInt64.ofNat (min (p.blocks.toNat - 1) (UInt32.size - 1)))
      p.blockSize).capacity = ⟨UInt64.ofNat (min p.blocks.toNat UInt32.size), p.blockSize⟩ := by
  have hpos := Profile.blocks_pos hblocks
  have hsize : 0 < UInt32.size := by decide
  have hmin : min (p.blocks.toNat - 1) (UInt32.size - 1) = min p.blocks.toNat UInt32.size - 1 := by
    omega
  have hcount : 0 < min p.blocks.toNat UInt32.size := Nat.lt_min.2 ⟨hpos, hsize⟩
  simp only [CapacityReply.capacity, hp, if_false, hmin, ofNat_pred_add_one hcount]

end Capacity

/-! ## Questions -/

/-- The disk after a question that it answered. -/
def answered (disk : RamDisk) : RamDisk := { disk.counted with pending := none }

/-- The disk after the questions of a discovery: the last of them was answered. -/
def explored (disk : RamDisk) : RamDisk :=
  { disk with
    submitted := disk.submitted + if disk.profile.longCapacity then 2 else 3
    pending := none }

/-- How many bytes the last question of a discovery moves. -/
def Profile.lastMoved (p : Profile) : UInt32 := if p.longCapacity then 32 else 8

section Questions

variable {disk : RamDisk} (hcalm : disk.Calm) {u w : LogicalUnit}
  (hu : u.IsAt disk.profile.address) (hw : w.cleared = u.cleared) {size : Nat} (memory : Memory size)

section Ask

variable {n : Nat} {build : Bytes → Except Error Command} {c : Command} {request : Request}
  (hbuild : build (Bytes.zeros n) = .ok c) (hrequest : disk.request? c = some request)

include hcalm hu hw hbuild hrequest

/-- A question that the disk answers with `bs`, which are as many as its buffer has, is answered with
them. -/
theorem effect_ask_of_answerData {bs : Bytes}
    (hexecute : execute disk.counted memory (c.addressed u) request =
      answerData memory (c.addressed u) bs)
    (hdata : c.data = .input (Bytes.zeros bs.length)) (hlength : c.dataLength.toNat = bs.length) :
    (ask n build).effect (⟨w, some ⟨some disk, size, memory⟩⟩ : Session RamDisk) =
      (some (.ok bs), ⟨{ u.cleared with lastActual := UInt32.ofNat bs.length },
        some ⟨some disk.answered, size, memory⟩⟩) := by
  -- the buffer has room for all of the bytes, and they are all that comes back in it
  have hpart : (c.addressed u).dataIn = some (Bytes.zeros bs.length) := by
    show c.data.inPhase c.dataLength.toNat = _
    simp [hdata, hlength, DataBuffer.inPhase, Bytes.zeros]
  have hroom : (c.addressed u).room bs = bs.length := by
    simp [Command.room, hpart]
  have hbytes : ((c.addressed u).data.settled ((c.addressed u).fill bs).data).bytes = bs :=
    @bytes_settled_fill (c.addressed u) bs hdata hlength
  have hat : IsAt disk.profile (c.addressed u) := hu
  have hsent := effect_host_submit_of_calm hat hcalm hrequest hexecute
  have hgood : (answerData memory (c.addressed u) bs).reply = .good bs.length :=
    congrArg Reply.good hroom
  obtain ⟨houtcome, hmoved, hleft⟩ := outcome_answer_of_good hgood
  generalize (answerData memory (c.addressed u) bs).answer = after at hsent houtcome hmoved hleft
  have hok : ((c.addressed u).settled after).outcome = .ok () := houtcome
  have hanswer : ((c.addressed u).settled after).data.bytes = bs := by
    show ((c.addressed u).data.settled after.data).bytes = bs
    rw [hleft]
    exact hbytes
  have hactual : ((c.addressed u).settled after).actualLength = UInt32.ofNat bs.length := hmoved
  rw [effect_ask hbuild hw hsent, hok, LogicalUnit.completed_of_ok hok, hanswer, hactual]
  rfl

/-- A question that the disk refuses is answered with an error, and leaves pending sense. -/
theorem exists_effect_ask_of_answerCheck {sense : Sense}
    (hexecute : execute disk.counted memory (c.addressed u) request =
      answerCheck memory (c.addressed u) sense) :
    ∃ e v, v.cleared = u.cleared ∧
      (ask n build).effect (⟨w, some ⟨some disk, size, memory⟩⟩ : Session RamDisk) =
        (some (.error e), ⟨v, some ⟨some { disk.counted with pending := some sense }, size,
          memory⟩⟩) := by
  have hat : IsAt disk.profile (c.addressed u) := hu
  have hsent := effect_host_submit_of_calm hat hcalm hrequest hexecute
  rw [effect_ask hbuild hw hsent]
  cases houtcome : ((c.addressed u).settled
      (answerCheck memory (c.addressed u) sense).answer).outcome with
  | ok _ =>
    obtain ⟨⟨_, hgood⟩, -⟩ := reply_of_outcome_answer (e := answerCheck memory (c.addressed u) sense)
      houtcome
    exact nomatch hgood
  | error e => exact ⟨e, _, LogicalUnit.cleared_completed _ _, rfl⟩

end Ask

include hcalm hu hw

theorem effect_probeInquiry_of_calm :
    probeInquiry.effect (⟨w, some ⟨some disk, size, memory⟩⟩ : Session RamDisk) =
      (some (.ok (identityData disk.profile)), ⟨{ u.cleared with lastActual := 96 },
        some ⟨some disk.answered, size, memory⟩⟩) := by
  have hlength := length_identityData disk.profile
  have hrequest : disk.request? Question.identity = some .identity :=
      request?_of_not_overruns rfl not_false
  have hexecute : execute disk.counted memory (Question.identity.addressed u) .identity =
      answerData memory (Question.identity.addressed u) (identityData disk.profile) := rfl
  have heffect := effect_ask_of_answerData hcalm hu hw memory Question.inquiry_zeros hrequest
    hexecute (hlength.symm ▸ rfl) hlength.symm
  rw [hlength] at heffect
  exact heffect

/-- A disk that does not know the 16-byte form refuses it. -/
theorem exists_effect_probeCapacity16_of_unknown (hunknown : ¬ disk.profile.longCapacity = true) :
    ∃ e v, v.cleared = u.cleared ∧
      probeCapacity16.effect (⟨w, some ⟨some disk, size, memory⟩⟩ : Session RamDisk) =
        (some (.error e), ⟨v, some ⟨some { disk.counted with pending := some invalidOperation }, size,
          memory⟩⟩) := by
  have hrequest : disk.request? Question.longCapacity =
      some (.serviceAction Opcode.readCapacity16Action) :=
      request?_of_not_overruns rfl not_false
  have hexecute : execute disk.counted memory (Question.longCapacity.addressed u)
      (.serviceAction Opcode.readCapacity16Action) =
        answerCheck memory (Question.longCapacity.addressed u) invalidOperation :=
    if_neg fun h => hunknown h.2
  obtain ⟨e, v, hv, hrefused⟩ := exists_effect_ask_of_answerCheck hcalm hu hw memory
    Question.readCapacity16_zeros hrequest hexecute
  refine ⟨.command e, v, hv, ?_⟩
  unfold probeCapacity16
  rw [effect_bind_of_answer hrefused]
  rfl

variable (hblocks : disk.profile.blocks ≠ 0) (hp : disk.profile.blockSize ≠ 0)

include hblocks hp

/-- A disk that knows the 16-byte form answers it with all of its blocks. -/
theorem effect_probeCapacity16_of_known (hknown : disk.profile.longCapacity = true) :
    probeCapacity16.effect (⟨w, some ⟨some disk, size, memory⟩⟩ : Session RamDisk) =
      (some (.ok ⟨disk.profile.blocks, disk.profile.blockSize⟩),
        ⟨{ u.cleared with lastActual := 32 }, some ⟨some disk.answered, size, memory⟩⟩) := by
  have hlength := length_capacityData16 disk.profile
  have hrequest : disk.request? Question.longCapacity =
      some (.serviceAction Opcode.readCapacity16Action) :=
      request?_of_not_overruns rfl not_false
  have hexecute : execute disk.counted memory (Question.longCapacity.addressed u)
      (.serviceAction Opcode.readCapacity16Action) =
        answerData memory (Question.longCapacity.addressed u) (capacityData16 disk.profile) :=
    if_pos ⟨rfl, hknown⟩
  have heffect := effect_ask_of_answerData hcalm hu hw memory Question.readCapacity16_zeros hrequest
    hexecute (hlength.symm ▸ rfl) hlength.symm
  unfold probeCapacity16
  rw [effect_bind_of_answer heffect, hlength]
  simp only [ofBytes16_capacityData16, capacity_of_long hblocks hp]
  rfl

/-- Every disk answers the 10-byte form with the blocks that it can name. -/
theorem effect_probeCapacity10_of_calm :
    probeCapacity10.effect (⟨w, some ⟨some disk, size, memory⟩⟩ : Session RamDisk) =
      (some (.ok ⟨UInt64.ofNat (min disk.profile.blocks.toNat UInt32.size),
          disk.profile.blockSize⟩),
        ⟨{ u.cleared with lastActual := 8 }, some ⟨some disk.answered, size, memory⟩⟩) := by
  have hlength := length_capacityData10 disk.profile
  have hrequest : disk.request? Question.shortCapacity = some .readCapacity10 :=
      request?_of_not_overruns rfl not_false
  have hexecute : execute disk.counted memory (Question.shortCapacity.addressed u) .readCapacity10 =
      answerData memory (Question.shortCapacity.addressed u) (capacityData10 disk.profile) := rfl
  have heffect := effect_ask_of_answerData hcalm hu hw memory Question.readCapacity10_zeros hrequest
    hexecute (hlength.symm ▸ rfl) hlength.symm
  unfold probeCapacity10
  rw [effect_bind_of_answer heffect, hlength]
  simp only [ofBytes10_capacityData10]
  rw [← capacity_of_short hblocks hp]
  -- an answer at the limit of the form is only reported
  split <;> rfl

/-- What the questions about the capacity find out, in whichever form the disk knows. -/
theorem effect_probeCapacity_of_calm :
    probeCapacity.effect (⟨w, some ⟨some disk, size, memory⟩⟩ : Session RamDisk) =
      (some (.ok disk.profile.found),
        ⟨{ u.cleared with lastActual := disk.profile.lastMoved },
          some ⟨some { disk with
            submitted := disk.submitted + if disk.profile.longCapacity then 1 else 2
            pending := none }, size, memory⟩⟩) := by
  unfold probeCapacity
  by_cases hknown : disk.profile.longCapacity = true
  · rw [effect_bind_of_answer (effect_probeCapacity16_of_known hcalm hu hw memory hblocks hp hknown)]
    simp only [Profile.found, Profile.lastMoved, hknown, if_true]
    rfl
  -- the 16-byte form is refused, and the 10-byte form makes up for it
  · obtain ⟨e, v, hv, hlong⟩ := exists_effect_probeCapacity16_of_unknown hcalm hu hw memory hknown
    have hcalm' : Calm { disk.counted with pending := some invalidOperation } := hcalm
    have hshort := effect_probeCapacity10_of_calm hcalm' hu hv memory hblocks hp
    rw [effect_bind_of_answer hlong]
    simp only
    rw [effect_bind_of_answer (effect_getUnit _), effect_bind_of_answer (effect_note _ _ _ _ _ _),
      hshort]
    simp only [Profile.found, Profile.lastMoved, hknown]
    rfl

/-- **The questions of a discovery** find out what the profile of the disk says. -/
theorem effect_explore_of_calm :
    explore.effect (⟨w, some ⟨some disk, size, memory⟩⟩ : Session RamDisk) =
      (some (.ok ⟨identityData disk.profile, disk.profile.found⟩),
        ⟨{ u.cleared with lastActual := disk.profile.lastMoved },
          some ⟨some disk.explored, size, memory⟩⟩) := by
  have hcalm' : disk.answered.Calm := hcalm
  have hcapacity := effect_probeCapacity_of_calm (w := { u.cleared with lastActual := 96 }) hcalm' hu
    rfl memory hblocks hp
  unfold explore
  rw [effect_bind_of_answer (effect_probeInquiry_of_calm hcalm hu hw memory)]
  simp only
  rw [effect_bind_of_answer hcapacity, explored]
  cases hknown : disk.profile.longCapacity <;> simp [answered, counted, hknown]

omit hw in
/-- The discovery of a unit of the disk publishes what the questions find out. -/
theorem effect_discover_of_calm (hopen : u.IsOpen) :
    discover.effect (⟨u, some ⟨some disk, size, memory⟩⟩ : Session RamDisk) =
      (some (.ok ()),
        ⟨{ u.cleared.publish ⟨identityData disk.profile, disk.profile.found⟩ with
            lastActual := disk.profile.lastMoved },
          some ⟨some disk.explored, size, memory⟩⟩) := by
  have hexplore := effect_explore_of_calm (u := { u with state := .discovering })
    (w := { u with state := .discovering }) hcalm hu rfl memory hblocks hp
  rw [effect_discover_of_isOpen hopen, hexplore]
  rfl

end Questions

/-! ## Buses -/

/-- The disk of the bus can be discovered: it has blocks, no fault is ahead of it, and its address is
within the limits of the bus and has no unit that was discovered before. -/
structure Discoverable {size : Nat} (bus : Bus RamDisk) (disk : RamDisk) (memory : Memory size) :
    Prop where
  reachable : bus.Reachable
  host : bus.host = some ⟨some disk, size, memory⟩
  calm : disk.Calm
  blocks_ne_zero : disk.profile.blocks ≠ 0
  blockSize_ne_zero : disk.profile.blockSize ≠ 0
  target_lt : disk.profile.target < bus.maxTargets
  lun_lt : disk.profile.lun < bus.maxLuns
  isOpen : ∀ u, bus.units.get? disk.profile.address = some u →
    u.state = .uninitialized ∨ u.state = .failed

/-- A discovery of the disk leads from `bus` to `bus'` and leaves the unit `w` at its address. -/
structure Publishes {size : Nat} (bus : Bus RamDisk) (disk : RamDisk) (memory : Memory size)
    (bus' : Bus RamDisk) (w : LogicalUnit) : Prop where
  unit : bus'.units.get? disk.profile.address = some w
  elsewhere : ∀ a, a ≠ disk.profile.address → bus'.units.get? a = bus.units.get? a
  /-- The disk was asked two or three questions; its medium is as before. -/
  host : bus'.host = some ⟨some { disk with
    submitted := disk.submitted + if disk.profile.longCapacity then 2 else 3
    pending := none }, size, memory⟩
  isReady : w.isReady = true
  state : w.state = .ready
  blockSize : w.blockSize = disk.profile.blockSize
  deviceType : w.deviceType = disk.profile.deviceKind.code
  removable_iff : w.flags.contains UnitFlags.removable = true ↔ disk.profile.removable = true
  capacity : w.capacity.toNat =
    if disk.profile.longCapacity then disk.profile.blocks.toNat
    else min disk.profile.blocks.toNat (2 ^ 32)
  /-- All else that is published follows from the capacity and the INQUIRY data. -/
  published : w.Published
  inquiry : w.inquiry = identityData disk.profile
  sense : w.sense = .zero
  lastActual : w.lastActual = if disk.profile.longCapacity then 32 else 8

/-- Byte 1 of the INQUIRY data says whether the medium is removable. -/
theorem removable_identityData (p : Profile) :
    (identityData p).byteAt 1 &&& 0x80 ≠ 0 ↔ p.removable = true := by
  have hbyte : (identityData p).byteAt 1 = if p.removable then 0x80 else 0x00 := rfl
  rw [hbyte]
  cases p.removable <;> decide

/-- The unit that a discovery of the disk leaves on the bus. -/
def discovered (bus : Bus RamDisk) (p : Profile) : LogicalUnit :=
  { (LogicalUnit.new bus.number p.target p.lun bus.defaultTimeout).publish
      ⟨identityData p, p.found⟩ with lastActual := p.lastMoved }

theorem published_discovered (bus : Bus RamDisk) {p : Profile} (hp : p.blockSize ≠ 0) :
    (discovered bus p).Published := by
  have hblank : (LogicalUnit.new bus.number p.target p.lun bus.defaultTimeout).Blank :=
    (LogicalUnit.coherent_new _ _ _ _).blank rfl
  have hsound : (⟨identityData p, p.found⟩ : Findings).Sound := ⟨length_identityData p, hp⟩
  exact LogicalUnit.Published.of_cleared (u := discovered bus p)
    (LogicalUnit.published_publish hblank hsound)

/-- **The discovery of a disk** succeeds and publishes its profile. -/
theorem exists_publishes {size : Nat} {bus : Bus RamDisk} {disk : RamDisk} {memory : Memory size}
    (h : Discoverable bus disk memory) :
    ∃ bus', (Bus.discoverAt disk.profile.address).effect bus = (some (.ok ()), bus') ∧
      Publishes bus disk memory bus' (discovered bus disk.profile) := by
  obtain ⟨u, units, hadd, hu, helsewhere⟩ := Bus.effect_addUnit (a := disk.profile.address)
    h.target_lt h.lun_lt
  -- found or made, the unit is as a new one
  have hopen : u.IsOpen := by
    rcases hu with hu | rfl
    · exact h.isOpen u hu
    · exact .inl rfl
  have hnew : { u.cleared with state := .uninitialized } =
      LogicalUnit.new bus.number disk.profile.target disk.profile.lun bus.defaultTimeout := by
    rcases hu with hu | rfl
    · exact h.reachable.eq_new_of_isOpen hu hopen
    · rfl
  have hat : u.IsAt disk.profile.address :=
    ⟨congrArg LogicalUnit.target hnew, congrArg LogicalUnit.lun hnew⟩
  have hdiscovered : { u.cleared.publish ⟨identityData disk.profile, disk.profile.found⟩ with
      lastActual := disk.profile.lastMoved } = discovered bus disk.profile := by
    rw [discovered, ← hnew]
    rfl
  have heffect := Bus.effect_discoverAt hadd
  rw [h.host, effect_discover_of_calm h.calm hat memory h.blocks_ne_zero h.blockSize_ne_zero hopen,
    hdiscovered] at heffect
  have hpublished := published_discovered bus h.blockSize_ne_zero
  refine ⟨_, heffect, ?_⟩
  constructor
  case unit => exact UnitTable.get?_insert_self _ _ _
  case elsewhere =>
    intro a ha
    exact (UnitTable.get?_insert_of_ne _ _ (Ne.symm ha)).trans (helsewhere ha)
  case host => rfl
  case isReady => rfl
  case state => rfl
  case blockSize => rfl
  case deviceType => exact hpublished.deviceType.trans (DeviceKind.code_and _)
  case removable_iff => exact hpublished.removable_iff.trans (removable_identityData _)
  case capacity => exact Profile.toNat_blocks_found _
  case published => exact hpublished
  case inquiry => rfl
  case sense => rfl
  case lastActual => rfl

/-- **A disk is published alike in either form** of the capacity that it may know. Its discovery
succeeds, with all blocks in the 16-byte form and as many as 32 bits can address in the 10-byte form;
and if it has no more than those, then another disk that differs in the form that it knows only
leaves the same unit, up to the count of bytes of the last question. -/
theorem discoverAt_publishes {size : Nat} {bus : Bus RamDisk} {disk : RamDisk}
    {memory : Memory size} (h : Discoverable bus disk memory) :
    ∃ bus' w, (Bus.discoverAt disk.profile.address).effect bus = (some (.ok ()), bus') ∧
      Publishes bus disk memory bus' w ∧
      ∀ {size₂ : Nat} {bus₂ : Bus RamDisk} {disk₂ : RamDisk} {memory₂ : Memory size₂},
        Discoverable bus₂ disk₂ memory₂ → bus₂.number = bus.number →
        bus₂.defaultTimeout = bus.defaultTimeout →
        disk₂.profile = { disk.profile with longCapacity := disk₂.profile.longCapacity } →
        disk.profile.blocks.toNat ≤ 2 ^ 32 →
        ∃ bus₂' w₂, (Bus.discoverAt disk.profile.address).effect bus₂ = (some (.ok ()), bus₂') ∧
          Publishes bus₂ disk₂ memory₂ bus₂' w₂ ∧ w₂ = { w with lastActual := w₂.lastActual } := by
  obtain ⟨bus', heffect, hpublishes⟩ := exists_publishes h
  refine ⟨bus', _, heffect, hpublishes, ?_⟩
  intro size₂ bus₂ disk₂ memory₂ h₂ hnumber htimeout hprofile hsmall
  obtain ⟨bus₂', heffect₂, hpublishes₂⟩ := exists_publishes h₂
  have haddress : disk₂.profile.address = disk.profile.address := by
    rw [hprofile]
    rfl
  have hfound : disk₂.profile.found = disk.profile.found := by
    have hsmall₂ : disk₂.profile.blocks.toNat ≤ UInt32.size := by
      rw [hprofile]
      exact hsmall
    rw [Profile.found_of_le hsmall, Profile.found_of_le hsmall₂, hprofile]
  refine ⟨bus₂', _, haddress ▸ heffect₂, hpublishes₂, ?_⟩
  -- the new units and the findings are the same
  unfold discovered
  rw [hfound, hnumber, htimeout, hprofile]
  rfl

/-- A CD drive of three blocks whose first discovery was lost is discovered in the 10-byte form, and
then shows what one with the 16-byte form would. -/
theorem discoverAt_publishes_cdRom :
    let short : Profile :=
      { Profile.disk 3 2048 with deviceKind := .cdRom, removable := true, longCapacity := false }
    let long : Profile := { short with longCapacity := true }
    let built (p : Profile) := Bus.new ⟨0, 2, 2, .empty, 1, 16, 0⟩ (some (RamDisk.new p))
    let lost := Bus.after [.adapter (·.injectLoss 1), .discover ⟨0, 0⟩] (built short)
    (∃ u, lost.units.get? ⟨0, 0⟩ = some u ∧ u.state = .failed) ∧
      ∃ bus₁ bus₂ w,
        (Bus.discoverAt ⟨0, 0⟩).effect lost = (some (.ok ()), bus₁) ∧
        bus₁.units.get? ⟨0, 0⟩ = some w ∧ w.capacity.toNat = 3 ∧ w.lastActual = 8 ∧
        (Bus.discoverAt ⟨0, 0⟩).effect (built long) = (some (.ok ()), bus₂) ∧
        bus₂.units.get? ⟨0, 0⟩ = some { w with lastActual := 32 } := by
  intro short long built lost
  have hdisk : (lost.host.bind fun host => host.adapter) =
      some { RamDisk.new short with submitted := 1 } := by
    decide +kernel
  have hstate : (lost.units.get? ⟨0, 0⟩).map LogicalUnit.state = some .failed := by
    decide +kernel
  obtain ⟨⟨_, size, memory⟩, hhost, rfl⟩ := Option.bind_eq_some_iff.1 hdisk
  obtain ⟨u, hu, hfailed⟩ := Option.map_eq_some_iff.1 hstate
  have hlost : Discoverable lost { RamDisk.new short with submitted := 1 } memory := by
    refine ⟨⟨_, _, _, rfl⟩, hhost, ⟨rfl, rfl, rfl⟩, by decide, by decide, by decide +kernel,
      by decide +kernel, fun v hv => ?_⟩
    obtain rfl := Option.some.inj (hu.symm.trans hv)
    exact .inr hfailed
  have hlong : Discoverable (built long) (RamDisk.new long) (.zeros 16) := by
    refine ⟨Bus.reachable_new _ _, rfl, ⟨rfl, rfl, rfl⟩, by decide, by decide, by decide, by decide,
      ?_⟩
    exact fun _ h => nomatch h
  have hnumber : (built long).number = lost.number := by decide +kernel
  have htimeout : (built long).defaultTimeout = lost.defaultTimeout := by decide +kernel
  obtain ⟨bus₁, w, heffect, hpublishes, halike⟩ := discoverAt_publishes hlost
  obtain ⟨bus₂, w₂, heffect₂, hpublishes₂, hw₂⟩ :=
    halike hlong hnumber htimeout rfl (by decide)
  refine ⟨⟨u, hu, hfailed⟩, bus₁, bus₂, w, heffect, hpublishes.unit, hpublishes.capacity,
    hpublishes.lastActual, heffect₂, ?_⟩
  have hmoved : w₂.lastActual = 32 := hpublishes₂.lastActual
  rw [hmoved] at hw₂
  exact hpublishes₂.unit.trans (congrArg some hw₂)

end RamDisk

end Scsi
