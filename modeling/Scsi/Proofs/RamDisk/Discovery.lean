import Scsi.Proofs.RamDisk.Submission
import Scsi.Proofs.Session.Discovery

/-!
# Discoveries of a RAM disk

How a RAM disk answers the questions of a discovery. Whatever faults are ahead of it, a discovery
that ends well finds out the block size of the disk.

## Main results

* `RamDisk.completes_questions`: every question is completed
* `RamDisk.ofBytes16_capacityData16`, `RamDisk.ofBytes10_capacityData10`: the numbers in the answers
* `RamDisk.gives_explore_blockSize`: the block size that is found out is that of the disk
-/

namespace Scsi.RamDisk

open Activity

theorem leavesMedium_of_question {c : Command} (hc : c ∈ Question.all) : LeavesMedium c := by
  simp only [Question.all, List.mem_cons, List.not_mem_nil, or_false] at hc
  rcases hc with rfl | rfl | rfl
  · exact ⟨.identity, rfl, fun _ _ _ => Request.noConfusion⟩
  · exact ⟨.serviceAction Opcode.readCapacity16Action, rfl, fun _ _ _ => Request.noConfusion⟩
  · exact ⟨.readCapacity10, rfl, fun _ _ _ => Request.noConfusion⟩

theorem completes_questions (u : LogicalUnit) :
    ∀ c ∈ u.questions, HostAdapter.Completes RamDisk c := by
  intro c hc
  obtain ⟨question, hquestion, rfl⟩ := List.mem_map.1 hc
  exact completes ((leavesMedium_of_question hquestion).addressed u)

/-! ## The capacity that is reported -/

theorem length_identityData (p : Profile) : (identityData p).length = 96 := by
  have htext : identityText.length = 28 := by decide +kernel
  simp [identityData, Inquiry.size, htext]

theorem length_capacityData16 (p : Profile) : (capacityData16 p).length = 32 := by
  rw [capacityData16, List.length_append, List.length_append, Bytes.length_bigEndian,
    Bytes.length_bigEndian, Bytes.length_zeros]
  rfl

theorem length_capacityData10 (p : Profile) : (capacityData10 p).length = 8 := by
  rw [capacityData10, List.length_append, Bytes.length_bigEndian, Bytes.length_bigEndian]

/-- A reply that is as long as the buffer takes the place of what was there. -/
theorem bytes_settled_fill {c : Command} {bs : Bytes} (hdata : c.data = .input (Bytes.zeros bs.length))
    (hlength : c.dataLength.toNat = bs.length) :
    (c.data.settled (c.fill bs).data).bytes = bs := by
  have hroom : bs.length ≤ (Bytes.zeros bs.length).length := Nat.le_of_eq (Bytes.length_zeros _).symm
  rw [data_settled_fill hdata hlength hroom,
    List.drop_of_length_le (Nat.le_of_eq (Bytes.length_zeros _)),
    List.append_nil]
  rfl

/-- A command that is answered with `bs`, which are as many as it has room for, comes back with
them. -/
theorem Hosts.replies_data {D : RamDisk → Bytes → Prop} {A : Bytes → Prop} {v : LogicalUnit}
    {c : Command} {request : Request} {bs : Bytes}
    (hrequest : Request.ofBytes? c.cdb.bytes = some request)
    (hdata : c.data = .input (Bytes.zeros bs.length)) (hlength : c.dataLength.toNat = bs.length)
    (hexecute : ∀ (disk : RamDisk) (size : Nat) (memory : Memory size) (moved : Nat),
      D disk memory.toList →
      (execute disk.counted memory (c.addressed v) request).reply = .good moved →
      (execute disk.counted memory (c.addressed v) request).command = (c.addressed v).fill bs)
    (hA : A bs) : Host.Replies v (Hosts D) c A := by
  refine Hosts.replies hrequest ?_
  intro disk size memory moved hdisk hmoved
  rw [hexecute disk size memory moved hdisk hmoved]
  have hbytes : (c.data.settled ((c.addressed v).fill bs).data).bytes = bs :=
    @bytes_settled_fill (c.addressed v) bs hdata hlength
  rw [hbytes]
  exact hA

/-- The block size of the disk, as it is read back from the bytes that write it. -/
theorem ofNat_number_blockSize (p : Profile) :
    UInt32.ofNat (Bytes.number (Bytes.bigEndian 4 p.blockSize.toNat)) = p.blockSize := by
  rw [Bytes.number_bigEndian_of_lt p.blockSize.toNat_lt, UInt32.ofNat_toNat]

/-- The answer to READ CAPACITY(16) is read as the last address and the block size of the disk. -/
theorem ofBytes16_capacityData16 (p : Profile) :
    CapacityReply.ofBytes16 (capacityData16 p) =
      .ok ⟨UInt64.ofNat (p.blocks.toNat - 1), p.blockSize⟩ := by
  have hlong : ¬ (capacityData16 p).length < CapacityReply.minimumSize16 := by
    rw [length_capacityData16]
    decide
  -- the last address is in front, and the block size stands behind it
  have hlast : (capacityData16 p).slice 0 8 = Bytes.bigEndian 8 (p.blocks.toNat - 1) := by
    rw [capacityData16, List.append_assoc]
    exact Bytes.slice_append List.length_nil (Bytes.length_bigEndian _ _) _
  have hsize : (capacityData16 p).slice 8 4 = Bytes.bigEndian 4 p.blockSize.toNat := by
    rw [capacityData16, List.append_assoc]
    exact Bytes.slice_append (Bytes.length_bigEndian _ _) (Bytes.length_bigEndian _ _) _
  have hnumber : Bytes.number (Bytes.bigEndian 8 (p.blocks.toNat - 1)) = p.blocks.toNat - 1 :=
    Bytes.number_bigEndian_of_lt (Nat.lt_of_le_of_lt (Nat.sub_le _ _) p.blocks.toNat_lt)
  rw [CapacityReply.ofBytes16, if_neg hlong, hlast, hsize, hnumber, ofNat_number_blockSize]

/-- The answer to READ CAPACITY(10) is read as the last address that 32 bits can name and the block
size of the disk. -/
theorem ofBytes10_capacityData10 (p : Profile) :
    CapacityReply.ofBytes10 (capacityData10 p) =
      .ok ⟨UInt64.ofNat (min (p.blocks.toNat - 1) (UInt32.size - 1)), p.blockSize⟩ := by
  have hlong : ¬ (capacityData10 p).length < CapacityReply.size10 := by
    rw [length_capacityData10]
    decide
  have hlast : (capacityData10 p).slice 0 4 =
      Bytes.bigEndian 4 (min (p.blocks.toNat - 1) (UInt32.size - 1)) :=
    Bytes.slice_append List.length_nil (Bytes.length_bigEndian _ _) _
  have hsize : (capacityData10 p).slice 4 4 = Bytes.bigEndian 4 p.blockSize.toNat := by
    rw [capacityData10, ← List.append_nil (Bytes.bigEndian 4 p.blockSize.toNat)]
    exact Bytes.slice_append (Bytes.length_bigEndian _ _) (Bytes.length_bigEndian _ _) _
  have hnumber : Bytes.number (Bytes.bigEndian 4 (min (p.blocks.toNat - 1) (UInt32.size - 1))) =
      min (p.blocks.toNat - 1) (UInt32.size - 1) :=
    Bytes.number_bigEndian_of_lt (Nat.lt_of_le_of_lt (Nat.min_le_right _ _) (by decide))
  rw [CapacityReply.ofBytes10, if_neg hlong, hlast, hsize, hnumber, ofNat_number_blockSize]

section Capacity

variable {p : Profile} (hp : p.blockSize ≠ 0)

include hp

theorem blockSize_capacity (lastBlock : UInt64) :
    (CapacityReply.mk lastBlock p.blockSize).capacity.blockSize = p.blockSize := by
  simp only [CapacityReply.capacity, hp, if_false]

theorem blockSize_capacityData16 {reply : CapacityReply}
    (h : CapacityReply.ofBytes16 (capacityData16 p) = .ok reply) :
    reply.capacity.blockSize = p.blockSize := by
  obtain rfl := Except.ok.inj ((ofBytes16_capacityData16 p).symm.trans h)
  exact blockSize_capacity hp _

theorem blockSize_capacityData10 {reply : CapacityReply}
    (h : CapacityReply.ofBytes10 (capacityData10 p) = .ok reply) :
    reply.capacity.blockSize = p.blockSize := by
  obtain rfl := Except.ok.inj ((ofBytes10_capacityData10 p).symm.trans h)
  exact blockSize_capacity hp _

variable {D : RamDisk → Bytes → Prop} (hD : ∀ disk bs, D disk bs → disk.profile = p)
  (v : LogicalUnit)

include hD

theorem replies_longCapacity :
    Host.Replies v (Hosts D) Question.longCapacity fun bs =>
      ∀ reply, CapacityReply.ofBytes16 bs = .ok reply → reply.capacity.blockSize = p.blockSize := by
  have hrequest : Request.ofBytes? Question.longCapacity.cdb.bytes =
      some (.serviceAction Opcode.readCapacity16Action) := rfl
  have hlength := length_capacityData16 p
  refine Hosts.replies_data hrequest (hlength.symm ▸ rfl) hlength.symm ?_
    fun _ => blockSize_capacityData16 hp
  intro disk size memory moved hdisk hmoved
  have hprofile : disk.counted.profile = p := hD disk _ hdisk
  simp only [execute, true_and] at hmoved ⊢
  split at hmoved
  · next hlong =>
    rw [if_pos hlong, hprofile]
    rfl
  · cases hmoved

theorem replies_shortCapacity :
    Host.Replies v (Hosts D) Question.shortCapacity fun bs =>
      ∀ reply, CapacityReply.ofBytes10 bs = .ok reply → reply.capacity.blockSize = p.blockSize := by
  have hrequest : Request.ofBytes? Question.shortCapacity.cdb.bytes = some .readCapacity10 := rfl
  have hlength := length_capacityData10 p
  refine Hosts.replies_data hrequest (hlength.symm ▸ rfl) hlength.symm ?_
    fun _ => blockSize_capacityData10 hp
  intro disk size memory moved hdisk _
  have hprofile : disk.counted.profile = p := hD disk _ hdisk
  rw [← hprofile]
  rfl

/-- **The block size that a discovery finds out** is that of the disk. -/
theorem gives_explore_blockSize (hH : ∀ c ∈ Question.all, Host.Serves v (Hosts D) c) :
    Gives (Session.Frame v (Hosts D)) explore fun r =>
      ∀ f, r = .ok f → f.Sound ∧ f.capacity.blockSize = p.blockSize := by
  intro s hs
  obtain ⟨hkept, hfound⟩ := gives_explore (A := fun bs => bs.length = Inquiry.size)
    (B := fun c => c.blockSize = p.blockSize) hH (Host.replies_length Question.identity)
    (replies_longCapacity hp hD v) (replies_shortCapacity hp hD v) s hs
  refine ⟨hkept, fun r hr f hf => ?_⟩
  obtain ⟨hinquiry, hblockSize⟩ := hfound r hr f hf
  exact ⟨⟨hinquiry, hblockSize ▸ hp⟩, hblockSize⟩

end Capacity

end Scsi.RamDisk
