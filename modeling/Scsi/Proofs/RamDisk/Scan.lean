import Scsi.Proofs.Bus.Scan
import Scsi.Proofs.RamDisk.Traffic

/-!
# Scans of a bus with a RAM disk

A disk without faults ahead answers INQUIRY and READ CAPACITY(10) whatever its profile says, so its
discovery ends well also where it does not know READ CAPACITY(16). Visits of other addresses are
lost, come to an end as well, and do nothing to the unit of the disk. A scan therefore leaves a ready
unit at the address of the disk exactly if it tries that address.

## Main definitions

* `RamDisk.Profile.address`: the address of the disk
* `RamDisk.Searched p rest array base bus`: on the way through a scan, the unit of the disk is ready
  or not there yet

## Main results

* `RamDisk.fulfils`: a request that the disk answers with GOOD ends well
* `RamDisk.exists_discover`: a discovery of the unit of the disk ends well
* `RamDisk.Searched.exists_visit`, `RamDisk.Searched.exists_visitAll`: what a visit leaves, and what
  several leave
* `RamDisk.Searched.exists_scan`: what a scan leaves
-/

namespace Scsi

open Activity Session

namespace RamDisk

/-- The address of the disk. -/
def Profile.address (p : Profile) : Address := ⟨p.target, p.lun⟩

variable {p : Profile} {rest : Bytes} {array : BlockArray}

/-! ## Requests that end well -/

theorem not_hosts_none (D : RamDisk → Bytes → Prop) : ¬ Hosts D none := by
  rintro ⟨_, _, _, h, _⟩
  exact nomatch h

/-- A request that the disk answers with GOOD ends well, if it is sent to the disk. -/
theorem fulfils {v : LogicalUnit} (hat : v.IsAt p.address) {c : Command} {request : Request}
    (hrequest : Request.ofBytes? c.cdb.bytes = some request)
    (hgood : ∀ (disk : RamDisk) (size : Nat) (memory : Memory size),
      ∃ moved, (execute disk memory (c.addressed v) request).reply = .good moved) :
    Host.Fulfils v (Hosts (Represents p rest array)) c := by
  rintro _ ⟨disk, size, memory, ⟨⟩, h⟩
  -- the command is sent to the disk, and no fault is ahead of it, so it is executed
  have hc : IsAt disk.profile (c.addressed v) := h.profile ▸ hat
  obtain ⟨moved, hmoved⟩ := hgood disk.counted size memory
  obtain ⟨hok, -, -⟩ := outcome_answer_of_good hmoved
  have hrequest : disk.request? (c.addressed v) = some request :=
    request?_of_not_overruns hrequest (h.isSmall.not_overruns _)
  exact ⟨_, _, effect_host_submit_of_calm hc h.calm hrequest rfl, hok⟩

section Answered

variable {v : LogicalUnit} (hat : v.IsAt p.address)

include hat

theorem fulfils_identity : Host.Fulfils v (Hosts (Represents p rest array)) Question.identity := by
  have hrequest : Request.ofBytes? Question.identity.cdb.bytes = some .identity := rfl
  exact fulfils hat hrequest fun _ _ _ => ⟨_, rfl⟩

theorem fulfils_shortCapacity :
    Host.Fulfils v (Hosts (Represents p rest array)) Question.shortCapacity := by
  have hrequest : Request.ofBytes? Question.shortCapacity.cdb.bytes = some .readCapacity10 := rfl
  exact fulfils hat hrequest fun _ _ _ => ⟨_, rfl⟩

/-- So does a command without data: TEST UNIT READY and SYNCHRONIZE CACHE. -/
theorem fulfils_noData {c : Command} (hc : Request.ofBytes? c.cdb.bytes = some .noData) :
    Host.Fulfils v (Hosts (Represents p rest array)) c :=
  fulfils hat hc fun _ _ _ => ⟨_, rfl⟩

omit hat in
theorem returns_question {H : Option (Host RamDisk) → Prop} :
    ∀ c ∈ Question.all, Host.Returns v H c := fun _ hc =>
  Host.returns_of_answers (completes_questions v _ (List.mem_map_of_mem hc)).answers

theorem exists_explore_disk {s : Session RamDisk}
    (hs : s.Frame v (Hosts (Represents p rest array))) :
    ∃ (f : Findings) (s' : Session RamDisk),
      explore.effect s = (some (.ok f), s') ∧ s'.Frame v (Hosts (Represents p rest array)) :=
  exists_explore (fun _ hc => serves_represents (leavesMedium_of_question hc) v) (not_hosts_none _)
    (fulfils_identity hat) (returns_question _ Question.longCapacity_mem)
    (fulfils_shortCapacity hat) hs

end Answered

/-- **A discovery of the unit of the disk** ends well. -/
theorem exists_discover {u : LogicalUnit} (hu : u.IsAt p.address) (hopen : u.IsOpen)
    {host : Option (Host RamDisk)} (hhost : Hosts (Represents p rest array) host) :
    ∃ s', discover.effect (⟨u, host⟩ : Session RamDisk) = (some (.ok ()), s') ∧
      s'.unit.isReady = true := by
  let v := { u.cleared with state := .discovering }
  have hv : v.IsAt p.address := hu
  -- all that is asked of READ CAPACITY(16) is that the disk returns from it
  obtain ⟨f, s', hexplore, -⟩ := exists_explore_disk hv
    (s := ⟨{ u with state := .discovering }, host⟩) ⟨rfl, hhost⟩
  rw [effect_discover_of_isOpen hopen, hexplore]
  exact ⟨_, rfl, rfl⟩

/-! ## Visits -/

/-- On the way through a scan: the unit of the disk is ready, or it is not there yet; the private
block holds the array. -/
structure Searched (p : Profile) (rest : Bytes) (array : BlockArray) (base bus : Bus RamDisk) :
    Prop where
  holds : Bus.Holds base (Known p) (Hosts (Represents p rest array)) bus
  ready_of_mem : ∀ {u}, bus.units.get? p.address = some u → u.isReady = true

namespace Searched

variable {base bus : Bus RamDisk}

theorem readyAt_iff (h : Searched p rest array base bus) :
    bus.ReadyAt p.address ↔ (bus.units.get? p.address).isSome = true := by
  constructor
  · rintro ⟨u, hu, -⟩
    rw [hu]
    rfl
  · intro hsome
    obtain ⟨u, hu⟩ := Option.isSome_iff_exists.1 hsome
    exact ⟨u, hu, h.ready_of_mem hu⟩

variable (hp : p.blockSize ≠ 0) (h : Searched p rest array base bus) {a : Address}
  (ht : a.target < base.maxTargets) (hl : a.lun < base.maxLuns)

include h in
theorem limits : bus.maxTargets = base.maxTargets ∧ bus.maxLuns = base.maxLuns := by
  rw [← h.holds.emptied]
  exact ⟨rfl, rfl⟩

include h ht hl in
/-- A discovery at the address of the disk ends well, if no unit is there yet. -/
theorem exists_discoverAt_disk (ha : a = p.address) (hnone : bus.units.get? a = none) :
    ∃ bus', (Bus.discoverAt a).effect bus = (some (.ok ()), bus') ∧ bus'.ReadyAt a := by
  obtain ⟨htargets, hluns⟩ := h.limits
  obtain ⟨u, units, hadd, hu, -⟩ := Bus.effect_addUnit (htargets ▸ ht) (hluns ▸ hl)
  subst ha
  -- no unit was there, so it is a new one
  have hnew : u = LogicalUnit.new bus.number p.target p.lun bus.defaultTimeout :=
    hu.resolve_left fun h => nomatch hnone.symm.trans h
  have hat : u.IsAt p.address := hnew ▸ ⟨rfl, rfl⟩
  have hopen : u.IsOpen := hnew ▸ .inl rfl
  obtain ⟨s', hdiscover, hready⟩ := exists_discover hat hopen h.holds.host
  have heffect := Bus.effect_discoverAt hadd
  rw [hdiscover] at heffect
  exact ⟨_, heffect, s'.unit, UnitTable.get?_insert_self _ _ _, hready⟩

include h ht hl in
/-- At any other address a discovery comes to an end, and leaves the unit of the disk alone. -/
theorem exists_discoverAt_elsewhere (ha : a ≠ p.address) :
    ∃ answer bus', (Bus.discoverAt a).effect bus = (some answer, bus') ∧
      bus'.units.get? p.address = bus.units.get? p.address := by
  obtain ⟨htargets, hluns⟩ := h.limits
  have hunit : ∀ {u}, bus.units.get? a = some u → u.IsAt a := fun hu =>
    ⟨(h.holds.units hu).target, (h.holds.units hu).lun⟩
  obtain ⟨answer, bus', -, -, heffect, -, -, -, helsewhere⟩ :=
    Bus.exists_discoverAt (fun v _ _ hc => serves_represents (leavesMedium_of_question hc) v)
      (fun _ => returns_question) h.holds.host (htargets ▸ ht) (hluns ▸ hl) hunit
  exact ⟨answer, bus', heffect, helsewhere (Ne.symm ha)⟩

include hp h ht hl

/-- **A visit** comes to an end; it leaves a ready unit at the address of the disk if one was there
or if it is a visit of that address. -/
theorem exists_visit :
    ∃ found bus', (Bus.visit a).effect bus = (some found, bus') ∧
      Searched p rest array base bus' ∧
      (bus'.ReadyAt p.address ↔ bus.ReadyAt p.address ∨ p.address = a) := by
  -- however the visit ends, the units and the private block are as they have to be
  have hholds : ∀ {found bus'}, (Bus.visit a).effect bus = (some found, bus') →
      Bus.Holds base (Known p) (Hosts (Represents p rest array)) bus' := by
    intro found bus' heffect
    have hkept := Bus.keeps_visit (fun a _ _ => known_new p base.number a base.defaultTimeout)
      (keeps_discover_known hp (fun _ _ h => h.profile)
        (fun v _ hc => serves_represents (leavesMedium_of_question hc) v) a) bus h.holds
    rw [state_run, heffect] at hkept
    exact hkept
  by_cases hready : bus.ReadyAt a
  -- nothing is done where a unit is ready
  case pos =>
    refine ⟨true, bus, Bus.effect_visit_of_ready hready, h, (or_iff_left_of_imp ?_).symm⟩
    rintro rfl
    exact hready
  by_cases ha : a = p.address
  case pos =>
    -- a unit that is not ready at the address of the disk is none at all
    have hnone : bus.units.get? a = none := by
      cases hu : bus.units.get? a with
      | none => rfl
      | some u => exact absurd ⟨u, hu, h.ready_of_mem (ha ▸ hu)⟩ hready
    obtain ⟨bus', hdiscover, hready'⟩ := h.exists_discoverAt_disk ht hl ha hnone
    have heffect := Bus.effect_visit_of_discovered hready hdiscover
    refine ⟨true, bus', heffect, ⟨hholds heffect, ?_⟩, ?_⟩
    · obtain ⟨w, hw, hwReady⟩ := hready'
      intro u hu
      obtain rfl := Option.some.inj ((ha ▸ hu).symm.trans hw)
      exact hwReady
    · exact ⟨fun _ => .inr ha.symm, fun _ => ha ▸ hready'⟩
  case neg =>
    obtain ⟨answer, bus₁, hdiscover, hsame⟩ := h.exists_discoverAt_elsewhere ht hl ha
    -- the visited unit is kept or dropped, and neither touches the unit of the disk
    obtain ⟨found, bus', heffect, hsame'⟩ : ∃ found bus',
        (Bus.visit a).effect bus = (some found, bus') ∧
          bus'.units.get? p.address = bus.units.get? p.address := by
      have heffect := Bus.effect_visit_of_discovered hready hdiscover
      cases answer with
      | ok _ => exact ⟨_, _, heffect, hsame⟩
      | error _ => exact ⟨_, _, heffect, (UnitTable.get?_erase_of_ne _ ha).trans hsame⟩
    refine ⟨found, bus', heffect, ⟨hholds heffect, fun hu => h.ready_of_mem (hsame' ▸ hu)⟩, ?_⟩
    rw [Bus.readyAt_congr hsame', or_iff_left (Ne.symm ha)]

end Searched

/-- **Visits of several addresses** come to an end; they leave a ready unit at the address of the
disk if one was there or if it is one of them. -/
theorem Searched.exists_visitAll (hp : p.blockSize ≠ 0) {base : Bus RamDisk}
    {addresses : List Address}
    (hlimits : ∀ a ∈ addresses, a.target < base.maxTargets ∧ a.lun < base.maxLuns)
    {bus : Bus RamDisk} (h : Searched p rest array base bus) :
    ∃ found bus', (Bus.visitAll addresses).effect bus = (some found, bus') ∧
      Searched p rest array base bus' ∧
      (bus'.ReadyAt p.address ↔ bus.ReadyAt p.address ∨ p.address ∈ addresses) := by
  -- by induction on the addresses that are left; each visit leaves a bus to go on from
  induction addresses generalizing bus with
  | nil => exact ⟨[], bus, rfl, h, by simp⟩
  | cons a others ih =>
    obtain ⟨ht, hl⟩ := hlimits a List.mem_cons_self
    obtain ⟨found, bus₁, hvisit, h₁, hready₁⟩ := h.exists_visit hp ht hl
    obtain ⟨more, bus₂, hvisits, h₂, hready₂⟩ :=
      ih (fun b hb => hlimits b (List.mem_cons_of_mem a hb)) h₁
    refine ⟨if found then a :: more else more, bus₂, ?_, h₂, ?_⟩
    · unfold Bus.visitAll
      rw [effect_bind_of_answer hvisit, effect_bind_of_answer hvisits]
      rfl
    · rw [hready₂, hready₁, List.mem_cons, or_assoc]

/-- **A scan** comes to an end; it leaves a ready unit at the address of the disk if one was there or
if it tries that address. -/
theorem Searched.exists_scan (hp : p.blockSize ≠ 0) {base bus : Bus RamDisk}
    (h : Searched p rest array base bus) (hluns : bus.maxLuns ≠ 0) (allLuns : Bool) :
    ∃ found bus', (Bus.scan allLuns).effect bus = (some (.ok found), bus') ∧
      Searched p rest array base bus' ∧
      (bus'.ReadyAt p.address ↔ bus.ReadyAt p.address ∨ bus.InRange allLuns p.address) := by
  obtain ⟨htargets, hluns'⟩ := h.limits
  have hlimits : ∀ a ∈ bus.scanRange allLuns,
      a.target < base.maxTargets ∧ a.lun < base.maxLuns := by
    intro a ha
    obtain ⟨ht, hl, -⟩ := (Bus.mem_scanRange_iff hluns).1 ha
    exact ⟨htargets ▸ ht, hluns' ▸ hl⟩
  obtain ⟨found, bus', hvisits, h', hready⟩ := h.exists_visitAll hp hlimits
  have hhost : bus.host.isSome = true := by
    obtain ⟨_, _, _, hhost, -⟩ := h.holds.host
    rw [hhost]
    rfl
  refine ⟨found, _, Bus.scan_of_host hhost hvisits, ⟨⟨h'.holds.emptied, h'.holds.units,
    h'.holds.host⟩, h'.ready_of_mem⟩, ?_⟩
  rw [← Bus.mem_scanRange_iff hluns]
  exact hready

end RamDisk

end Scsi
