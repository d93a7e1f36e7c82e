import Mathlib.Algebra.Group.Nat.Defs
import Scsi.Proofs.RamDisk.PendingSense
import Scsi.Proofs.RamDisk.Traffic

/-!
# Room for the medium

The size of a medium is computed three times: when settings are checked, when the private block of a
bus is made from them, and when a target turns an address into a place in the block. On a bus of
checked settings the three agree: whatever range of blocks the target accepts lies in the block, at
places that small words can count. So the target never has to admit that its medium is not all there.

## Main definitions

* `RamDisk.Asked p size P`: the disk and its block are fixed, and a condition that is ahead has `P`
* `RamDisk.AskedIn history sense`: the history asks the disk for the condition
* `RamDisk.HasRoom history disk memory`: the private block has room for the medium

## Main results

* `RamDisk.checkAhead_of_signal`: with room for the medium an internal failure is answered only
  where it is ahead
* `RamDisk.asked_after`: a condition that is ahead on a bus was asked for in its history
* `RamDisk.internalFailure_only_if_asked`: the disk of a checked bus has room for its medium
-/

namespace Scsi

open Activity

namespace RamDisk

variable {size : Nat}

/-! ## One submission -/

/-- With room for the medium every range that the target accepts is there. -/
theorem reply_ne_internalFailure {disk : RamDisk} {memory : Memory size}
    (hsmall : disk.profile.IsSmall)
    (hroom : disk.profile.blocks.toNat * disk.profile.blockSize.toNat ≤ size) (c : Command)
    (request : Request) : (execute disk memory c request).reply ≠ .check internalFailure := by
  intro h
  have hrefusal := condition_execute h
  generalize hsense : internalFailure = sense at hrefusal
  cases hrefusal with
  | operation => exact absurd hsense (by decide)
  | range => exact absurd hsense (by decide)
  | field => exact absurd hsense (by decide)
  | medium hrange hread =>
    rw [region?_of_range hsmall hrange hroom] at hread
    exact nomatch hread

theorem Execution.reply_of_signal {e : Execution size} {sense : Sense}
    (h : e.signal = .condition sense) : e.reply = .check sense := by
  unfold Execution.signal at h
  split at h
  · exact nomatch h
  · next heq =>
    obtain rfl := Signal.condition.inj h
    exact heq

/-- With room for the medium an internal failure is answered only where it is ahead. -/
theorem checkAhead_of_signal {disk : RamDisk} {memory : Memory size} (hmasked : disk.Masked)
    (hsmall : disk.profile.IsSmall)
    (hroom : disk.profile.blocks.toNat * disk.profile.blockSize.toNat ≤ size) {c : Command}
    (h : Step.signal (.submit c) (disk, memory) = .condition internalFailure) :
    disk.checkAhead = some internalFailure := by
  rw [Step.signal, effect_submit_course] at h
  cases hcourse : disk.course c.asking with
  | checked sense =>
    have hahead := checkAhead_of_course hcourse
    have hsignal : (answerCheck memory c sense).signal = .condition internalFailure := by
      rw [← ofAnswer_answer_asking (isMasked_answerCheck (hmasked sense hahead) memory c), ← h,
        hcourse]
      rfl
    obtain rfl := Signal.condition.inj hsignal
    exact hahead
  | executed request =>
    have hsignal : (execute disk.counted memory c request).signal = .condition internalFailure := by
      rw [← ofAnswer_answer_asking (isMasked_execute _ _ _ _), ← execute_asking, ← h, hcourse]
      rfl
    exact absurd (Execution.reply_of_signal hsignal) (reply_ne_internalFailure hsmall hroom c request)
  | _ =>
    rw [hcourse] at h
    cases h

/-! ## The history of a condition -/

/-- Disk and private block have what is fixed, and a condition that is ahead has the property. -/
def Asked (p : Profile) (size : Nat) (P : Sense → Prop) (disk : RamDisk) (bytes : Bytes) : Prop :=
  Fixed p size disk bytes ∧ disk.Expects P

variable {p : Profile} {overflow : Overflow} {P : Sense → Prop}

theorem serves_asked (v : LogicalUnit) (c : Command) : Host.Serves v (Hosts (Asked p size P)) c :=
  Hosts.serves fun _ _ _ h => ⟨h.1.submit _, h.2.submit _ _⟩

/-- The condition was asked for in the history, up to the bits that a sense key has no room for. -/
def AskedIn (history : List (Bus.Call RamDisk)) (sense : Sense) : Prop :=
  ∃ asked : Sense, asked.masked = sense ∧ .adapter (Injection.check asked).inject ∈ history

theorem AskedIn.masked {history : List (Bus.Call RamDisk)} {sense : Sense}
    (h : AskedIn history sense) : sense.masked = sense := by
  obtain ⟨asked, rfl, -⟩ := h
  exact asked.masked_masked

/-- A fault that the history asks for is noted, and nothing else of the disk is new. -/
theorem Asked.inject {history : List (Bus.Call RamDisk)} {i : Injection}
    (hi : .adapter i.inject ∈ history) {disk : RamDisk} {bytes : Bytes}
    (h : Asked p size (AskedIn history) disk bytes) :
    Asked p size (AskedIn history) (i.inject disk) bytes := by
  refine ⟨⟨(profile_inject i disk).trans h.1.1, h.1.2⟩, ?_⟩
  cases i with
  | busy n => exact h.2
  | loss n => exact h.2
  | check asked =>
    rintro _ ⟨⟩
    exact ⟨asked, rfl, hi⟩

/-- No call but the end of use asks for a condition that is not asked for in the history. -/
theorem sustains_asked {history : List (Bus.Call RamDisk)} {call : Bus.Call RamDisk}
    (hmem : call ∈ history) (hdispose : call ≠ .dispose) (huser : call.OfUser)
    (base : Bus RamDisk) :
    call.Sustains base (fun _ _ => True) (Hosts (Asked p size (AskedIn history))) := by
  refine Bus.sustains_of_host serves_asked
    (fun _ => Hosts.keeps_call (fun _ _ _ h => ⟨h.1, fun _ h => nomatch h⟩) _)
    (fun _ _ => Hosts.keeps_call (fun _ _ _ h => h) _) (Hosts.keeps_call (fun _ _ _ h => h) _) ?_
    (fun h => absurd h hdispose) ?_
  · rintro offset bytes _ ⟨disk, size', memory, ⟨⟩, h⟩
    exact ⟨disk, size', _, rfl, h.1.write offset bytes, h.2⟩
  · rintro change rfl _ ⟨disk, size, memory, ⟨⟩, h⟩
    obtain ⟨i, rfl⟩ := huser change rfl
    exact ⟨_, _, _, rfl, h.inject hmem⟩

/-- **A condition that is ahead** on a bus with a disk was asked for in its history. -/
theorem asked_after (settings : BusSettings) {history : List (Bus.Call RamDisk)}
    (hhistory : ∀ call ∈ history, call.OfUser) {host : Host RamDisk}
    (hhost : (Bus.after history (Bus.new settings (some (RamDisk.new p overflow)))).host = some host) :
    Hosts (Asked p settings.privateSize (AskedIn history)) (some host) := by
  rw [← hhost]
  refine hosts_after ?_ (fun call hmem hdispose => ?_) (by rw [hhost]; exact nofun)
  · exact ⟨_, _, .zeros _, rfl, ⟨rfl, Memory.length_toList _⟩, fun _ h => nomatch h⟩
  · exact sustains_asked hmem hdispose (hhistory call hmem)

/-! ## Buses of checked settings -/

/-- The private block has room for all that the disk takes for its medium. -/
structure HasRoom (history : List (Bus.Call RamDisk)) (disk : RamDisk) (memory : Memory size) :
    Prop where
  /-- An internal failure is the condition that is ahead, and one that was asked for. -/
  asked : ∀ c, Step.signal (.submit c) (disk, memory) = .condition internalFailure →
    disk.checkAhead = some internalFailure ∧ AskedIn history internalFailure
  /-- A range that the target accepts is in the block, and no part of the way there takes more than
  31 bits. -/
  range : ∀ c access address count,
    (moveBlocks disk.profile memory c access address count).reply ≠ .check addressOutOfRange →
      address * disk.profile.blockSize.toNat + count * disk.profile.blockSize.toNat ≤ size ∧
      address * disk.profile.blockSize.toNat + count * disk.profile.blockSize.toNat ≤ 2 ^ 30

/-- **The disk of a checked bus has room for its medium.** After any history of the bus, whatever
range of blocks the target accepts lies in the private block, and the disk answers with an internal
failure only if it was asked for one. -/
theorem internalFailure_only_if_asked {s t : Settings} (hcheck : s.check = .ok t) {p : Profile}
    (hp : t.disk = some p) {overflow : Overflow} {history : List (Bus.Call RamDisk)}
    (hhistory : ∀ call ∈ history, call.OfUser) {host : Host RamDisk}
    (hhost : (Bus.after history (Bus.new t.busSettings (some (RamDisk.new p overflow)))).host = some host) :
    ∃ disk, host.adapter = some disk ∧ disk.profile = p ∧ HasRoom history disk host.memory := by
  have hblocks := (Settings.room_of_check hcheck hp).2
  have hmedium := Settings.medium_le_of_check hcheck hp
  obtain ⟨disk, size, memory, ⟨⟩, ⟨rfl, hsize⟩, hasked⟩ :=
    asked_after t.busSettings hhistory hhost
  have hroom : disk.profile.blocks.toNat * disk.profile.blockSize.toNat ≤ size := by
    rw [← Memory.length_toList memory, hsize]
    exact hblocks
  refine ⟨disk, rfl, rfl, fun c hsignal => ?_, fun c access address count haccepted => ?_⟩
  · have hahead : disk.checkAhead = some internalFailure :=
      checkAhead_of_signal (fun sense hsense => (hasked sense hsense).masked)
        (isSmall_of_check hcheck hp) hroom hsignal
    exact ⟨hahead, hasked _ hahead⟩
  · have hrange : address + count ≤ disk.profile.blocks.toNat := by
      refine Nat.not_lt.1 fun hlt => haccepted ?_
      rw [moveBlocks_of_past_end hlt]
      rfl
    have hend : address * disk.profile.blockSize.toNat + count * disk.profile.blockSize.toNat ≤
        disk.profile.blocks.toNat * disk.profile.blockSize.toNat := by
      rw [← Nat.add_mul]
      exact Nat.mul_le_mul_right _ hrange
    exact ⟨Nat.le_trans hend hroom, Nat.le_trans hend hmedium⟩

/-- A disk that was scanned, written to and asked for an internal failure answers with it. -/
theorem internalFailure_only_if_asked_disk :
    let s : Settings := ⟨0, 2, 2, [], 1, 0, 30000, true, some (.disk 4 4)⟩
    let t := { s with privateSize := 16 }
    let history : List (Bus.Call RamDisk) :=
      [.scan true, .unit ⟨0, 0⟩ (.write32 3 1 [1, 2, 3, 4]),
        .adapter (Injection.check ⟨0x14, 0x44, 0⟩).inject]
    let bus := Bus.after history (Bus.new t.busSettings (some (RamDisk.new (.disk 4 4))))
    s.check = .ok t ∧ t.disk = some (.disk 4 4) ∧ (∀ call ∈ history, call.OfUser) ∧
      ∃ host disk, bus.host = some host ∧ host.adapter = some disk ∧
        HasRoom history disk host.memory ∧
        Step.signal (.submit .testUnitReady) (disk, host.memory) = .condition internalFailure := by
  intro s t history bus
  have hcheck : s.check = .ok t := rfl
  have hhistory : ∀ call ∈ history, call.OfUser := by
    intro call hcall change hchange
    simp only [history, List.mem_cons, List.not_mem_nil, or_false] at hcall
    rcases hcall with rfl | rfl | rfl
    · exact nomatch hchange
    · exact nomatch hchange
    · exact ⟨.check ⟨0x14, 0x44, 0⟩, (Bus.Call.adapter.inj hchange).symm⟩
  have hsignal : (bus.host.bind fun host => host.adapter.map fun disk =>
      Step.signal (.submit .testUnitReady) (disk, host.memory)) =
        some (.condition internalFailure) := by
    decide +kernel
  obtain ⟨host, hhost, hsignal⟩ := Option.bind_eq_some_iff.1 hsignal
  obtain ⟨disk, hdisk, -, hroom⟩ := internalFailure_only_if_asked hcheck rfl hhistory hhost
  rw [hdisk] at hsignal
  exact ⟨hcheck, rfl, hhistory, host, disk, hhost, hdisk, hroom, Option.some.inj hsignal⟩

end RamDisk

end Scsi
