import Mathlib.Algebra.Group.Nat.Defs
import Scsi.Proofs.Bus.Interruption
import Scsi.Proofs.Bus.Return
import Scsi.Proofs.Command.Short
import Scsi.Proofs.RamDisk.Room
import Scsi.Proofs.RamDisk.Scan

/-!
# What crashes a disk

A block that is too short for its operation crashes the disk, if the disk gets as far as looking at
it, and nothing else does: a request looks at no byte behind its block, and a range of blocks that is
accepted lies in the private block. So the calls that put their commands together themselves return
on every bus with a disk, and a command that the caller passes through crashes it exactly if its
block is short and nothing keeps it from being looked at.

## Main definitions

* `UnitCall.PassesOn call c`, `Bus.Call.PassesOn call c`: the call sends the record of its caller
* `RamDisk.Robust p bus disk memory`: what crashes the disk of a bus and what does not

## Main results

* `RamDisk.crashes_iff_short`: the submissions that crash a small disk
* `RamDisk.not_returns_perform_iff`, `RamDisk.not_returns_passThrough_iff`: the commands of callers
  that do
* `RamDisk.crash_iff_short`: the disk of a checked bus is robust
-/

namespace Scsi

open Activity Session

/-! ## Submissions -/

namespace RamDisk

variable {size : Nat}

/-- **A submission crashes a small disk** exactly if it is addressed to it, no fault comes first, and
the block is short. -/
theorem crashes_iff_short {disk : RamDisk} (hsmall : disk.profile.IsSmall) (memory : Memory size)
    (c : Command) :
    ((submit c).effect (disk, memory)).1 = none ↔
      IsAt disk.profile c ∧ disk.Calm ∧ c.cdb.IsShort := by
  rw [submit_eq_none_iff, request?_eq_none_of_small hsmall, Cdb.isShort_iff]

variable {p : Profile}

/-- A command with a block that is not short is answered, to whatever unit it is addressed. -/
theorem honours (hsmall : p.IsSmall) {c : Command} (h : ¬ c.cdb.IsShort) :
    Host.Honours (Hosts (Fixed p size)) c := by
  refine fun u => ⟨serves_fixed size u c, ?_⟩
  rintro _ ⟨disk, size', memory, ⟨⟩, rfl, -⟩
  rw [effect_host_submit, Option.isSome_map, Option.isSome_iff_ne_none, Ne,
    crashes_iff_short hsmall]
  exact fun hcrash => h hcrash.2.2

theorem obliges : Host.Obliges (Hosts (Fixed p size)) where
  reset _ := Hosts.finishes_call (fun _ _ _ h => ⟨h, rfl⟩) _
  configureTarget _ _ := Hosts.finishes_call (fun _ _ _ h => ⟨h, rfl⟩) _
  poll := Hosts.finishes_call (fun _ _ _ h => ⟨h, rfl⟩) _
  release := by
    rintro _ ⟨disk, size, memory, ⟨⟩, -⟩
    rfl

end RamDisk

/-! ## Calls -/

/-- A submission ends as the adapter does. -/
theorem perform_eq_none_iff {σ : Type} [HostAdapter σ] (c : Command) (u : LogicalUnit)
    (host : Host σ) :
    ((perform c).effect (⟨u, some host⟩ : Session σ)).1 = none ↔
      ((Host.submit (c.addressed u)).effect host).1 = none := by
  rw [effect_perform_of_host]
  rcases (Host.submit (c.addressed u)).effect host with ⟨_ | ⟨_ | _, c'⟩, host'⟩ <;> simp

/-- A passed-through command ends as its submission does, once the unit is ready. -/
theorem passThrough_eq_none_iff {σ : Type} [HostAdapter σ] (c : Command) (u : LogicalUnit)
    (host : Option (Host σ)) :
    ((passThrough c).effect (⟨u, host⟩ : Session σ)).1 = none ↔
      u.isReady = true ∧ ((perform c).effect (⟨u, host⟩ : Session σ)).1 = none := by
  cases hoperations : u.operations with
  | unsupported =>
    rw [effect_passThrough_of_unsupported hoperations]
    simp [LogicalUnit.isReady, hoperations]
  | ready =>
    rw [effect_passThrough_of_ready hoperations]
    simp [LogicalUnit.isReady, hoperations]

/-- The questions of discoveries are made field by field. -/
theorem Question.isBuilt {c : Command} (h : c ∈ Question.all) : c.cdb.IsBuilt := by
  simp only [Question.all, List.mem_cons, List.not_mem_nil, or_false] at h
  rcases h with rfl | rfl | rfl
  · exact Command.isBuilt_of_inquiry inquiry_zeros
  · exact Command.isBuilt_of_readCapacity readCapacity16_zeros
  · exact Command.isBuilt_of_readCapacity readCapacity10_zeros

namespace UnitCall

/-- The call sends a record that its caller put together. -/
def PassesOn : UnitCall → Command → Prop
  | passThrough record, c => c = record
  | perform record, c => c = record
  | _, _ => False

/-- Whatever else a call sends was made field by field. -/
theorem passesOn_or_isBuilt {call : UnitCall} {c : Command} (h : call.Issues c) :
    call.PassesOn c ∨ c.cdb.IsBuilt := by
  cases call with
  | passThrough record => exact .inl h
  | perform record => exact .inl h
  | read32 block count buffer => exact .inr (Command.isBuilt_of_transfer h.choose_spec)
  | write32 block count buffer => exact .inr (Command.isBuilt_of_transfer h.choose_spec)
  | read64 block count buffer => exact .inr (Command.isBuilt_of_transfer h.choose_spec)
  | write64 block count buffer => exact .inr (Command.isBuilt_of_transfer h.choose_spec)
  | requestSense buffer => exact .inr (Command.isBuilt_of_requestSense h)
  | synchronizeCache =>
    obtain rfl : c = .synchronizeCache := h
    exact .inr (.synchronizeCache10 _ _)
  | testUnitReady =>
    obtain rfl : c = .testUnitReady := h
    exact .inr (.testUnitReady _)
  | discover => exact .inr (Question.isBuilt h)

end UnitCall

namespace Bus.Call

variable {σ : Type}

/-- The call sends a record that its caller put together. -/
def PassesOn : Call σ → Command → Prop
  | unit _ call, c => call.PassesOn c
  | _, _ => False

theorem passesOn_or_isBuilt {call : Call σ} {a : Address} {c : Command} (h : call.Issues a c) :
    call.PassesOn c ∨ c.cdb.IsBuilt := by
  cases call with
  | discover b => exact .inr (Question.isBuilt h.2)
  | scan allLuns => exact .inr (Question.isBuilt h)
  | unit b call => exact UnitCall.passesOn_or_isBuilt h.2
  | _ => exact h.elim

end Bus.Call

namespace RamDisk

/-- **A call that passes on no short block** returns on every bus with a small disk, unless it lends a
unit and is cut off in another adapter. -/
theorem returns_of_not_isShort {p : Profile} (hsmall : p.IsSmall) {size : Nat} {bus : Bus RamDisk}
    (hbus : Hosts (Fixed p size) bus.host) {call : Bus.Call RamDisk}
    (h : ∀ c, call.PassesOn c → ¬ c.cdb.IsShort)
    (hlent : ∀ a (loan : Loan), call = .borrow a loan → ∀ u, (loan.run.effect u).1.isSome = true) :
    call.Returns bus := by
  refine Bus.Call.returns obliges (fun a c hissues => honours hsmall ?_) hlent hbus
  rcases Bus.Call.passesOn_or_isBuilt hissues with hpassed | hbuilt
  · exact h c hpassed
  · exact hbuilt.not_isShort

section Passing

variable {bus : Bus RamDisk} {disk : RamDisk} {size : Nat} {memory : Memory size}
  (hhost : bus.host = some ⟨some disk, size, memory⟩) (hsmall : disk.profile.IsSmall)
  (hunits : ∀ {a u}, bus.units.get? a = some u → u.IsAt a)

include hhost hsmall

/-- A submission for a unit is cut off if the unit is the one of the disk, and the disk crashes. -/
theorem perform_eq_none_iff_of_disk {a : Address} {u : LogicalUnit} (hu : u.IsAt a) (c : Command) :
    ((perform c).effect (⟨u, bus.host⟩ : Session RamDisk)).1 = none ↔
      a = disk.profile.address ∧ disk.Calm ∧ c.cdb.IsShort := by
  have hat : IsAt disk.profile (c.addressed u) ↔ a = disk.profile.address := by
    have haddress : a = ⟨u.target, u.lun⟩ := congr (congrArg Address.mk hu.1.symm) hu.2.symm
    rw [haddress, Profile.address, Address.mk.injEq]
    exact Iff.rfl
  rw [hhost, perform_eq_none_iff, effect_host_submit, Option.map_eq_none_iff,
    crashes_iff_short hsmall, hat]
  exact Iff.rfl

include hunits

/-- **A command that is performed** for its caller is cut off exactly if it goes to the unit of the
disk, no fault is ahead of it, and its block is short. -/
theorem not_returns_perform_iff (a : Address) (c : Command) :
    ¬ (Bus.Call.unit a (.perform c)).Returns bus ↔
      a = disk.profile.address ∧ (bus.units.get? a).isSome = true ∧ disk.Calm ∧ c.cdb.IsShort := by
  rw [Bus.Call.not_returns_unit_iff, Option.isSome_iff_exists]
  simp only [UnitCall.run, effect_map, Option.map_eq_none_iff]
  constructor
  · rintro ⟨u, hu, hnone⟩
    obtain ⟨ha, hcalm, hshort⟩ := (perform_eq_none_iff_of_disk hhost hsmall (hunits hu) c).1 hnone
    exact ⟨ha, ⟨u, hu⟩, hcalm, hshort⟩
  · rintro ⟨ha, ⟨u, hu⟩, hcalm, hshort⟩
    exact ⟨u, hu, (perform_eq_none_iff_of_disk hhost hsmall (hunits hu) c).2 ⟨ha, hcalm, hshort⟩⟩

/-- **A command that is passed through** is cut off in the same cases, if the unit is ready. -/
theorem not_returns_passThrough_iff (a : Address) (c : Command) :
    ¬ (Bus.Call.unit a (.passThrough c)).Returns bus ↔
      a = disk.profile.address ∧ bus.ReadyAt a ∧ disk.Calm ∧ c.cdb.IsShort := by
  rw [Bus.Call.not_returns_unit_iff]
  simp only [UnitCall.run, effect_map, Option.map_eq_none_iff, passThrough_eq_none_iff]
  constructor
  · rintro ⟨u, hu, hready, hnone⟩
    obtain ⟨ha, hcalm, hshort⟩ := (perform_eq_none_iff_of_disk hhost hsmall (hunits hu) c).1 hnone
    exact ⟨ha, ⟨u, hu, hready⟩, hcalm, hshort⟩
  · rintro ⟨ha, ⟨u, hu, hready⟩, hcalm, hshort⟩
    exact ⟨u, hu, hready,
      (perform_eq_none_iff_of_disk hhost hsmall (hunits hu) c).2 ⟨ha, hcalm, hshort⟩⟩

end Passing

/-! ## Buses of checked settings -/

/-- The disk of a bus crashes on short blocks that reach it and on nothing else. -/
structure Robust {size : Nat} (p : Profile) (bus : Bus RamDisk) (disk : RamDisk)
    (memory : Memory size) : Prop where
  /-- The submissions that crash the disk. -/
  crashes : ∀ c, ((submit c).effect (disk, memory)).1 = none ↔
    IsAt p c ∧ disk.Calm ∧ c.cdb.IsShort
  /-- In any other block the disk looks at no byte that is not there. -/
  inside : ∀ cdb : Cdb, ¬ cdb.IsShort → ∀ behind,
    Request.decode (cdb.bytes ++ behind) = Request.decode cdb.bytes
  /-- A range of blocks that the disk accepts is in the private block, and no part of the way there
  takes more than 31 bits. -/
  range : ∀ address count, address + count ≤ p.blocks.toNat →
    address * p.blockSize.toNat + count * p.blockSize.toNat ≤ size ∧
      address * p.blockSize.toNat + count * p.blockSize.toNat ≤ 2 ^ 30
  /-- A block that was made field by field does not crash it. -/
  built : ∀ c : Command, c.cdb.IsBuilt → ((submit c).effect (disk, memory)).1.isSome = true
  /-- Neither does a call that sends no short block of its caller, as far as it does not lend a unit
  to be cut off in another adapter. -/
  returns : ∀ call : Bus.Call RamDisk, (∀ c, call.PassesOn c → ¬ c.cdb.IsShort) →
    (∀ a (loan : Loan), call = .borrow a loan → ∀ u, (loan.run.effect u).1.isSome = true) →
    call.Returns bus
  /-- The blocks of callers that crash it when they are passed through. -/
  passed : ∀ a c, ¬ (Bus.Call.unit a (.passThrough c)).Returns bus ↔
    a = p.address ∧ bus.ReadyAt a ∧ disk.Calm ∧ c.cdb.IsShort
  /-- The blocks of callers that crash it when they are performed, whether the unit is ready or
  not. -/
  performed : ∀ a c, ¬ (Bus.Call.unit a (.perform c)).Returns bus ↔
    a = p.address ∧ (bus.units.get? a).isSome = true ∧ disk.Calm ∧ c.cdb.IsShort

/-- **The disk of a checked bus is robust.** After any history of the bus it crashes on the short
blocks that reach it while no fault is ahead, and on nothing else. -/
theorem crash_iff_short {s t : Settings} (hcheck : s.check = .ok t) {p : Profile}
    (hp : t.disk = some p) {overflow : Overflow} {history : List (Bus.Call RamDisk)}
    (hhistory : ∀ call ∈ history, call.OfUser) {host : Host RamDisk}
    (hhost : (Bus.after history (Bus.new t.busSettings (some (RamDisk.new p overflow)))).host = some host) :
    ∃ disk, host.adapter = some disk ∧ disk.profile = p ∧
      Robust p (Bus.after history (Bus.new t.busSettings (some (RamDisk.new p overflow)))) disk
        host.memory := by
  have hblocks := (Settings.room_of_check hcheck hp).2
  have hmedium := Settings.medium_le_of_check hcheck hp
  have hsmall := isSmall_of_check hcheck hp
  have hholds := Bus.isAt_after t.busSettings (some (RamDisk.new p overflow)) history
  obtain ⟨disk, size, memory, ⟨⟩, ⟨rfl, hsize⟩, -⟩ := asked_after t.busSettings hhistory hhost
  have hroom : disk.profile.blocks.toNat * disk.profile.blockSize.toNat ≤ size := by
    rw [← Memory.length_toList memory, hsize]
    exact hblocks
  refine ⟨disk, rfl, rfl, ?_⟩
  constructor
  case crashes => exact crashes_iff_short hsmall memory
  case inside =>
    intro cdb hshort behind
    rw [Cdb.isShort_iff] at hshort
    exact Request.decode_append hshort behind
  case range =>
    intro address count hrange
    have hend := Profile.end_le hrange
    exact ⟨Nat.le_trans hend hroom, Nat.le_trans hend hmedium⟩
  case built =>
    intro c hbuilt
    rw [Option.isSome_iff_ne_none, Ne, crashes_iff_short hsmall]
    exact fun h => hbuilt.not_isShort h.2.2
  case returns =>
    exact fun call h => returns_of_not_isShort hsmall ⟨_, _, _, hhost, rfl, hsize⟩ h
  case passed => exact not_returns_passThrough_iff hhost hsmall hholds.units
  case performed => exact not_returns_perform_iff hhost hsmall hholds.units

/-- A disk that was scanned crashes on the two bytes of a WRITE(10) that its caller passes through. -/
theorem crash_iff_short_disk :
    let s : Settings := ⟨0, 2, 2, [], 1, 0, 30000, true, some (.disk 4 4)⟩
    let t := { s with privateSize := 16 }
    let built := Bus.new t.busSettings (some (RamDisk.new (.disk 4 4)))
    let cut : Command := .fresh (.ofBytes [0x2A, 0]) (.output [1, 2, 3, 4]) 4
    s.check = .ok t ∧ t.disk = some (.disk 4 4) ∧
      (∀ call ∈ [.scan true], Bus.Call.OfUser call) ∧
      ¬ (Bus.Call.unit ⟨0, 0⟩ (.passThrough cut)).Returns (Bus.after [.scan true] built) := by
  intro s t built cut
  have hcheck : s.check = .ok t := rfl
  have hhistory : ∀ call ∈ [.scan true], Bus.Call.OfUser call := by
    intro call hcall change hchange
    obtain rfl := List.mem_singleton.1 hcall
    exact nomatch hchange
  have hcalm : ((Bus.after [.scan true] built).host.bind fun host => host.adapter.map fun disk =>
      decide disk.Calm) = some true := by
    decide +kernel
  have hready : (Bus.after [.scan true] built).ReadyAt ⟨0, 0⟩ := by
    rw [← Bus.readyAt_iff]
    decide +kernel
  obtain ⟨host, hhost, hcalm⟩ := Option.bind_eq_some_iff.1 hcalm
  obtain ⟨disk, hdisk, -, hrobust⟩ := crash_iff_short hcheck rfl hhistory hhost
  rw [hdisk] at hcalm
  have hcalm : disk.Calm := of_decide_eq_true (Option.some.inj hcalm)
  exact ⟨hcheck, rfl, hhistory,
    (hrobust.passed ⟨0, 0⟩ cut).2 ⟨rfl, hready, hcalm, by decide⟩⟩

end RamDisk

end Scsi
