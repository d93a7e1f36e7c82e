import Scsi.Proofs.Bus.Persistence
import Scsi.Proofs.RamDisk.History
import Scsi.Proofs.RamDisk.Transfer
import Scsi.Proofs.Settings.Check

/-!
# Traffic of a RAM disk

Once its unit is ready and no fault is ahead, a RAM disk is the array of its blocks: transfers of
the unit, in any order and mixed with cache flushes, requests for sense, resets and scans, are
answered as the array answers them, and the private block holds the array that they lead to.

## Main definitions

* `Bus.Call.IsTraffic a`: the calls that make up the traffic of the unit at `a`
* `Bus.privateBytes`: the bytes of the private block
* `Bus.Calm`: no fault is ahead of the disk of the bus
* `RamDisk.Holding p v rest array bus`: the bus has the unit and its private block holds the array

## Main results

* `RamDisk.Holding.transfer`: a transfer is answered as the array does
* `RamDisk.Holding.apply`, `RamDisk.Holding.after`: traffic leads to the array after it
* `RamDisk.transfers_refine`: the disk of a checked bus is the array of its blocks
-/

namespace Scsi

open Activity

/-- The calls that make up the traffic of the unit at an address. -/
inductive Bus.Call.IsTraffic (a : Address) : Bus.Call RamDisk → Prop
  | transfer {call : UnitCall} {t : Transfer} (h : call.transfer? = some t) :
    IsTraffic a (.unit a call)
  | synchronizeCache : IsTraffic a (.unit a .synchronizeCache)
  | testUnitReady : IsTraffic a (.unit a .testUnitReady)
  | requestSense (buffer : Bytes) : IsTraffic a (.unit a (.requestSense buffer))
  | reset (flags : ResetFlags) : IsTraffic a (.reset flags)
  | scan (allLuns : Bool) : IsTraffic a (.scan allLuns)

theorem Bus.Call.IsTraffic.ne_dispose {a : Address} {call : Bus.Call RamDisk}
    (h : call.IsTraffic a) : call ≠ .dispose := by
  rintro rfl
  cases h

/-- The bytes of the private block, none without a host interface. -/
def Bus.privateBytes {σ : Type} (bus : Bus σ) : Bytes :=
  bus.host.elim [] fun host => host.memory.toList

instance (disk : RamDisk) : Decidable disk.Calm := inferInstanceAs (Decidable (_ ∧ _ ∧ _))

/-- No fault is ahead of the disk of the bus. -/
def Bus.Calm (bus : Bus RamDisk) : Prop := ∀ disk ∈ bus.host.bind Host.adapter, disk.Calm

instance (bus : Bus RamDisk) : Decidable bus.Calm :=
  inferInstanceAs (Decidable (∀ disk ∈ bus.host.bind Host.adapter, disk.Calm))

namespace RamDisk

variable {p : Profile} {rest : Bytes} {array : BlockArray} {v : LogicalUnit} {bus : Bus RamDisk}

/-! ## Commands that leave the medium alone -/

theorem leavesMedium_of_noData {c : Command} (h : Request.ofBytes? c.cdb.bytes = some .noData) :
    LeavesMedium c :=
  ⟨.noData, h, fun _ _ _ => Request.noConfusion⟩

theorem leavesMedium_of_requestSense {buffer : Bytes} {c : Command}
    (h : Command.requestSense buffer = .ok c) : LeavesMedium c := by
  obtain ⟨-, rfl⟩ := Command.requestSense_eq_ok_iff.1 h
  exact ⟨.requestSense, rfl, fun _ _ _ => Request.noConfusion⟩

/-- A command that is no transfer leaves the array in the private block, whichever unit it is sent
for. -/
theorem serves_represents {c : Command} (hc : LeavesMedium c) (u : LogicalUnit) :
    Host.Serves u (Hosts (Represents p rest array)) c := by
  obtain ⟨request, hrequest, hother⟩ := hc
  refine Hosts.serves fun disk size memory h => ?_
  by_cases hat : IsAt disk.profile (c.addressed u)
  · rw [effect_submit_of_calm hat h.calm (request?_of_not_overruns hrequest (not_overruns _ hother))]
    refine ⟨(profile_leaves _ _).trans h.profile, h.calm.counted.leaves _, h.small, h.blockSize,
      h.blocks, ?_⟩
    dsimp only
    rw [memory_execute _ _ _ hother]
    exact h.bytes
  · rw [effect_submit_of_elsewhere hat]
    exact ⟨h.profile, h.calm, h.small, h.blockSize, h.blocks, h.bytes⟩

theorem keeps_represents_discover :
    Keeps (Session.Has (fun _ => True) (Hosts (Represents p rest array)))
      (discover : Activity (Session RamDisk) _) :=
  keeps_discover (fun _ _ => gives_explore_sound fun _ hc =>
    serves_represents (leavesMedium_of_question hc) _)
    fun _ _ _ _ _ => trivial

/-! ## Traffic -/

/-- The bus has the unit, apart from its last command, and its private block holds the array. -/
structure Holding (p : Profile) (v : LogicalUnit) (rest : Bytes) (array : BlockArray)
    (bus : Bus RamDisk) : Prop where
  unit : bus.HasUnit ⟨p.target, p.lun⟩ v
  host : Hosts (Represents p rest array) bus.host

/-- Calls that keep every frame leave the array in the private block. -/
theorem hosts_unit {call : UnitCall}
    (hcall : ∀ u, Keeps (Session.Frame u (Hosts (Represents p rest array))) call.run)
    (h : Hosts (Represents p rest array) bus.host) (a : Address) :
    Hosts (Represents p rest array) (Bus.Call.apply (.unit a call) bus).host := by
  have hrun : Keeps (Session.Has (fun _ => True) (Hosts (Represents p rest array))) call.run :=
    fun s hs => ⟨trivial, (hcall s.unit.cleared s ⟨rfl, hs.host⟩).2⟩
  rw [Bus.Call.apply_unit]
  exact (Bus.keeps_withUnit (Q := fun _ _ => True) hrun bus ⟨rfl, fun _ => trivial, h⟩).host

variable (hv : Known p ⟨p.target, p.lun⟩ v) (hready : v.isReady = true)

include hv hready

/-- The work of a transfer is answered as the array does and leaves the next array. -/
theorem exists_work {t : Transfer} {s : Session RamDisk}
    (hs : s.Frame v (Hosts (Represents p rest array)))
    (hform : t.form = .ten → t.block.toNat < UInt32.size) :
    ∃ r s', t.work.effect s = (some r, s') ∧ t.answerOf r = array.answer t ∧
      s'.Frame v (Hosts (Represents p rest (array.next t))) := by
  obtain ⟨u, _⟩ := s
  obtain ⟨rfl, disk, size, memory, rfl, hrepresents⟩ := hs
  have hoperations : u.operations = .ready := eq_of_beq hready
  obtain ⟨r, w, disk', memory', hwork, hanswer, hw, hleft⟩ :=
    effect_work hrepresents hoperations (hv.ready hready).1 ⟨hv.target, hv.lun⟩ hform
  exact ⟨r, _, hwork, hanswer, hw, disk', size, memory', rfl, hleft⟩

theorem exists_write {form : CdbForm} {block : UInt64} {count : UInt32} {buffer : Bytes}
    {s : Session RamDisk} (hs : s.Frame v (Hosts (Represents p rest array)))
    (hform : form = .ten → block.toNat < UInt32.size) :
    let t : Transfer := ⟨.write, form, block, count, buffer⟩
    ∃ s', (write form block count buffer).effect s = (some (array.result t), s') ∧
      s'.Frame v (Hosts (Represents p rest (array.next t))) := by
  intro t
  obtain ⟨r, s', hwork, hanswer, hs'⟩ := exists_work hv hready (t := t) hs hform
  have hr : r.1 = array.result t := UnitAnswer.moved.inj hanswer
  refine ⟨s', ?_, hs'⟩
  rw [Transfer.effect_write, hwork, ← hr]
  rfl

theorem exists_read {form : CdbForm} {block : UInt64} {count : UInt32} {buffer : Bytes}
    {s : Session RamDisk} (hs : s.Frame v (Hosts (Represents p rest array)))
    (hform : form = .ten → block.toNat < UInt32.size) :
    let t : Transfer := ⟨.read, form, block, count, buffer⟩
    ∃ s', (read form block count buffer).effect s =
        (some (array.result t, array.received t), s') ∧
      s'.Frame v (Hosts (Represents p rest array)) := by
  intro t
  obtain ⟨r, s', hwork, hanswer, hs'⟩ := exists_work hv hready (t := t) hs hform
  obtain ⟨hr, hbytes⟩ := UnitAnswer.filled.inj hanswer
  rw [BlockArray.next_of_read rfl] at hs'
  refine ⟨s', ?_, hs'⟩
  rw [Transfer.effect_read, hwork, ← hr, ← hbytes]
  rfl

/-- **A transfer** is answered as the array does. -/
theorem Holding.transfer (h : Holding p v rest array bus) {call : UnitCall} {t : Transfer}
    (ht : call.transfer? = some t) :
    ∃ bus', (Bus.withUnit ⟨p.target, p.lun⟩ call.run).effect bus =
        (some (some (array.answer t)), bus') ∧ Holding p v rest (array.next t) bus' := by
  obtain ⟨u, hu, hcleared⟩ := h.unit
  obtain ⟨r, s', hwork, hanswer, hs'⟩ :=
    exists_work hv hready (s := ⟨u, bus.host⟩) ⟨hcleared, h.host⟩ (Transfer.block_lt_of_ten ht)
  have heffect : (Bus.withUnit ⟨p.target, p.lun⟩ call.run).effect bus =
      (some (some (array.answer t)),
        { bus with
          units := bus.units.insert ⟨p.target, p.lun⟩ s'.unit
          host := s'.host
          selected := some ⟨p.target, p.lun⟩ }) := by
    rw [Bus.effect_withUnit hu, Transfer.effect_run ht, hwork]
    simp only [Option.map_some, hanswer]
  exact ⟨_, heffect, ⟨s'.unit, UnitTable.get?_insert_self _ _ _, hs'.1⟩, hs'.2⟩

/-- **A call of the traffic** leads to the array after it. -/
theorem Holding.apply (h : Holding p v rest array bus) {call : Bus.Call RamDisk}
    (hcall : call.IsTraffic ⟨p.target, p.lun⟩) :
    Holding p v rest (array.afterCall call) (call.apply bus) := by
  -- the unit stays through every call but the end of use, which is no traffic
  have hunit : (call.apply bus).HasUnit ⟨p.target, p.lun⟩ v :=
    h.unit.apply (hv.ready hready).2 hready hcall.ne_dispose
  cases hcall with
  -- a transfer is the one kind of call that changes the array
  | @transfer call t ht =>
    obtain ⟨bus', heffect, hleft⟩ := h.transfer hv hready ht
    rw [Bus.Call.apply_unit, heffect]
    simp only [BlockArray.afterCall, ht]
    exact hleft
  | synchronizeCache =>
    refine ⟨hunit, hosts_unit (fun u => Keeps.map ?_) h.host _⟩
    exact keeps_synchronizeCache (serves_represents (leavesMedium_of_noData rfl) u)
  | testUnitReady =>
    refine ⟨hunit, hosts_unit (fun u => Keeps.map ?_) h.host _⟩
    exact keeps_testUnitReady (serves_represents (leavesMedium_of_noData rfl) u)
  | requestSense buffer =>
    refine ⟨hunit, hosts_unit (fun u => Keeps.map ?_) h.host _⟩
    exact keeps_requestSense fun c hc => serves_represents (leavesMedium_of_requestSense hc) u
  | reset flags =>
    refine ⟨hunit, ?_⟩
    refine (Keeps.map (Bus.keeps_control (Bus.Holds.of_control (Q := fun _ _ => True) ?_)) bus
      ⟨rfl, fun _ => trivial, h.host⟩).host
    refine Hosts.keeps_call (fun disk size memory hdisk => ?_) _
    exact ⟨hdisk.profile, ⟨hdisk.calm.1, rfl, rfl⟩, hdisk.small, hdisk.blockSize, hdisk.blocks,
      hdisk.bytes⟩
  | scan allLuns =>
    refine ⟨hunit, ?_⟩
    rw [Bus.Call.apply_scan]
    exact (Bus.keeps_scan (Q := fun _ _ => True) (fun _ _ _ => trivial)
      (fun _ => keeps_represents_discover) allLuns bus ⟨rfl, fun _ => trivial, h.host⟩).host

/-- **Any traffic** leads to the array after it. -/
theorem Holding.after (h : Holding p v rest array bus) {calls : List (Bus.Call RamDisk)}
    (hcalls : ∀ call ∈ calls, call.IsTraffic ⟨p.target, p.lun⟩) :
    Holding p v rest (array.after calls) (Bus.after calls bus) := by
  -- by induction on the calls that are left, with the array that the first of them starts from
  induction calls generalizing array bus with
  | nil => exact h
  | cons call calls ih =>
    have hfirst := h.apply hv hready (hcalls call List.mem_cons_self)
    exact ih hfirst fun other hother => hcalls other (List.mem_cons_of_mem _ hother)

end RamDisk

/-! ## Buses of checked settings -/

namespace RamDisk

/-- The medium of checked settings is small: its size is at most that of a private block. -/
theorem isSmall_of_check {s t : Settings} (hcheck : s.check = .ok t) {p : Profile}
    (hp : t.disk = some p) : p.IsSmall :=
  Nat.lt_of_le_of_lt (Settings.room_of_check hcheck hp).2 t.privateSize.toNat_lt

/-- The bytes of a private block with room for all blocks of a disk are an array of its blocks and
what is behind it. -/
theorem exists_represents {p : Profile} {disk : RamDisk} {bytes : Bytes}
    (hprofile : disk.profile = p) (hcalm : disk.Calm) (hsmall : p.IsSmall)
    (hroom : p.blocks.toNat * p.blockSize.toNat ≤ bytes.length) :
    ∃ array : BlockArray, array.bytes = bytes.take (p.blocks.toNat * p.blockSize.toNat) ∧
      Represents p (bytes.drop (p.blocks.toNat * p.blockSize.toNat)) array disk bytes := by
  have hlength : (bytes.take (p.blocks.toNat * p.blockSize.toNat)).length =
      p.blocks.toNat * p.blockSize.toNat := by
    rw [List.length_take, Nat.min_eq_left hroom]
  refine ⟨⟨p.blockSize.toNat, p.blocks.toNat, _, hlength⟩, rfl, hprofile, hcalm, hsmall, rfl, rfl, ?_⟩
  exact (List.take_append_drop _ _).symm

/-- **The disk of a checked bus is the array of its blocks.** However the bus was used before, if the
unit of the disk is ready and did not stray, and no fault is ahead, then every transfer of the unit is
answered as the array is, after any traffic, and the private block holds the array with what was
behind it. -/
theorem transfers_refine {s t : Settings} (hcheck : s.check = .ok t) {p : Profile}
    (hp : t.disk = some p) {overflow : Overflow} {history : List (Bus.Call RamDisk)}
    (hhistory : ∀ call ∈ history, call.OfUser) {bus : Bus RamDisk}
    (hbus : bus = Bus.after history (Bus.new t.busSettings (some (RamDisk.new p overflow))))
    (hown : ¬ Bus.Strayed ⟨p.target, p.lun⟩ history
      (Bus.new t.busSettings (some (RamDisk.new p overflow))))
    (hready : bus.ReadyAt ⟨p.target, p.lun⟩) (hcalm : bus.Calm) :
    ∃ array : BlockArray,
      array.blockSize = p.blockSize.toNat ∧ array.blocks = p.blocks.toNat ∧
      array.bytes = bus.privateBytes.take (p.blocks.toNat * p.blockSize.toNat) ∧
      ∀ calls, (∀ call ∈ calls, Bus.Call.IsTraffic ⟨p.target, p.lun⟩ call) →
        (Bus.after calls bus).privateBytes = (array.after calls).bytes ++
          bus.privateBytes.drop (p.blocks.toNat * p.blockSize.toNat) ∧
        ∀ (call : UnitCall) (transfer : Transfer), call.transfer? = some transfer →
          ((Bus.withUnit ⟨p.target, p.lun⟩ call.run).run (Bus.after calls bus)).answer =
            some (some ((array.after calls).answer transfer)) := by
  obtain ⟨hblockSize, hroom⟩ := Settings.room_of_check hcheck hp
  obtain ⟨u, hu, huReady⟩ := hready
  subst hbus
  have hbuilt := hosts_new p overflow t.busSettings
  -- a bus with a ready unit that did not stray was not given up
  have hhost' := fun hnone => hown (Bus.strayed_of_isReady hnone hu huReady)
  have hknown : Known p ⟨p.target, p.lun⟩ u :=
    (known_or_strayed hbuilt hhistory hhost' hblockSize (fun _ h => nomatch h) hu).resolve_right hown
  obtain ⟨disk, size, memory, hhost, hprofile, hsize⟩ := fixed_after hbuilt hhistory hhost'
  have hbytes : (Bus.after history
      (Bus.new t.busSettings (some (RamDisk.new p overflow)))).privateBytes = memory.toList := by
    rw [Bus.privateBytes, hhost]
    rfl
  have hcalm' : disk.Calm := hcalm disk (by rw [hhost]; rfl)
  obtain ⟨array, harray, hrepresents⟩ := exists_represents hprofile hcalm'
    (isSmall_of_check hcheck hp) (by rw [hsize]; exact hroom)
  rw [hbytes]
  refine ⟨array, hrepresents.blockSize, hrepresents.blocks, harray, fun calls hcalls => ?_⟩
  -- from here on the traffic starts
  have hv := hknown.cleared
  have hholding : Holding p u.cleared _ array _ :=
    ⟨⟨u, hu, rfl⟩, disk, size, memory, hhost, hrepresents⟩
  have hafter := hholding.after hv huReady hcalls
  constructor
  · obtain ⟨disk', size', memory', hhost', hrepresents'⟩ := hafter.host
    rw [Bus.privateBytes, hhost']
    exact hrepresents'.bytes
  · intro call transfer htransfer
    obtain ⟨bus', heffect, -⟩ := hafter.transfer hv huReady htransfer
    rw [answer_run, heffect]

/-- A small disk that was written to and found by a scan, with a fault on the way. -/
theorem transfers_refine_disk :
    let bus := Bus.after [.adapter (Injection.inject (.busy 1)), .scan true,
        .writePrivate 4 [1, 2, 3, 4], .scan true]
      (Bus.new ⟨0, 2, 2, .empty, 1, 16, 30000⟩ (some (RamDisk.new (.disk 4 4))))
    bus.ReadyAt ⟨0, 0⟩ ∧ bus.Calm ∧
    ∃ array : BlockArray,
      array.blockSize = 4 ∧ array.blocks = 4 ∧ array.bytes = bus.privateBytes.take 16 ∧
      ∀ calls, (∀ call ∈ calls, Bus.Call.IsTraffic ⟨0, 0⟩ call) →
        (Bus.after calls bus).privateBytes = (array.after calls).bytes ++ bus.privateBytes.drop 16 ∧
        ∀ (call : UnitCall) (transfer : Transfer), call.transfer? = some transfer →
          ((Bus.withUnit ⟨0, 0⟩ call.run).run (Bus.after calls bus)).answer =
            some (some ((array.after calls).answer transfer)) := by
  intro bus
  let s : Settings := ⟨0, 2, 2, [], 1, 0, 30000, true, some (.disk 4 4)⟩
  have hcheck : s.check = .ok { s with privateSize := 16 } := rfl
  have hready : (bus.units.get? ⟨0, 0⟩).any LogicalUnit.isReady = true := by decide +kernel
  have hcalm : bus.Calm := by decide +kernel
  refine ⟨Bus.readyAt_iff.1 hready, hcalm, ?_⟩
  refine transfers_refine hcheck rfl ?_ rfl (Bus.not_strayed ?_ returns_dispose)
    (Bus.readyAt_iff.1 hready) hcalm
  · intro call hcall change hchange
    simp only [List.mem_cons, List.not_mem_nil, or_false] at hcall
    rcases hcall with rfl | rfl | rfl | rfl
    · exact ⟨.busy 1, (Bus.Call.adapter.inj hchange).symm⟩
    all_goals exact nomatch hchange
  -- no unit is lent
  · rintro call hcall ⟨_, hborrow, -⟩
    simp [hborrow] at hcall

end RamDisk

end Scsi
