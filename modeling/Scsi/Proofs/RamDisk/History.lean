import Scsi.Proofs.Bus.Absence
import Scsi.Proofs.RamDisk.Discovery

/-!
# The history of a bus with a RAM disk

A bus is built over a disk, and then used in any way, with faults asked for on the way. As long as
it is not given up, it has the disk and a private block of the size that it was built with, and
every unit that is ready on it and did not stray has the block size of the disk.

## Main definitions

* `RamDisk.Injection`: a fault that is asked for
* `Bus.Call.OfUser`: the calls that do no more to the disk from outside than ask for faults
* `RamDisk.Known p a u`: what is known of a unit at the address `a`
* `RamDisk.Fixed p size`: what never changes of a disk and its private block

## Main results

* `RamDisk.exists_effect_dispose`: the end of use is never cut off
* `RamDisk.sustains_fixed`, `RamDisk.sustains_known`: every other call keeps what is fixed, and what is
  known of units that do not stray
* `RamDisk.fixed_after`, `RamDisk.known_or_strayed`: the bus has the disk until it is given up, and
  each of its units is known or strayed
-/

namespace Scsi

open Activity

/-- A fault that is asked for. -/
inductive RamDisk.Injection
  | busy (n : UInt32)
  | loss (n : UInt32)
  | check (sense : Sense)

/-- The disk after a fault was asked for. -/
def RamDisk.Injection.inject : Injection → RamDisk → RamDisk
  | busy n, disk => disk.injectBusy n
  | loss n, disk => disk.injectLoss n
  | check sense, disk => disk.injectCheck sense

/-- From outside of the bus, the call asks for faults at most. -/
def Bus.Call.OfUser (call : Bus.Call RamDisk) : Prop :=
  ∀ change, call = .adapter change → ∃ i : RamDisk.Injection, change = i.inject

namespace RamDisk

/-- The unit is at its address and has INQUIRY data of the length that units keep. If it is ready,
then its discovery is over and found out the block size of the disk. -/
structure Known (p : Profile) (a : Address) (u : LogicalUnit) : Prop where
  target : u.target = a.target
  lun : u.lun = a.lun
  length_inquiry : u.inquiry.length = Inquiry.size
  ready : u.isReady = true → u.blockSize = p.blockSize ∧ ¬ u.IsOpen

/-- The disk has the profile, and the private block has the size. -/
def Fixed (p : Profile) (size : Nat) (disk : RamDisk) (bytes : Bytes) : Prop :=
  disk.profile = p ∧ bytes.length = size

variable {p : Profile} {a : Address}

theorem Known.of_cleared {u : LogicalUnit} (h : Known p a u.cleared) : Known p a u :=
  ⟨h.target, h.lun, h.length_inquiry, h.ready⟩

theorem Known.cleared {u : LogicalUnit} (h : Known p a u) : Known p a u.cleared :=
  ⟨h.target, h.lun, h.length_inquiry, h.ready⟩

theorem Known.not_isReady {u : LogicalUnit} (h : Known p a u) (hu : u.IsOpen) :
    ¬ u.isReady = true := fun hready => (h.ready hready).2 hu

theorem Known.discovered {u w : LogicalUnit} {answer : Option (Except DiscoveryError Unit)}
    (hu : Known p a u)
    (h : u.Discovered (fun f => f.Sound ∧ f.capacity.blockSize = p.blockSize) answer w) :
    Known p a w := by
  -- a unit whose discovery could start stays without its operations until it is published
  have open_ : ∀ state, u.IsOpen → Known p a { u.cleared with state } := fun _ hopen =>
    ⟨hu.target, hu.lun, hu.length_inquiry, fun hready => absurd hready (hu.not_isReady hopen)⟩
  cases h with
  | refused _ => exact hu
  | crashed hopen hw => exact Known.of_cleared (hw ▸ open_ _ hopen)
  | failed hopen hw => exact Known.of_cleared (hw ▸ open_ _ hopen)
  | published _ hf hw =>
    refine Known.of_cleared (hw ▸ ⟨hu.target, hu.lun, hf.1.1, fun _ => ⟨hf.2, ?_⟩⟩)
    rintro (h | h) <;> exact nomatch h

theorem known_new (p : Profile) (bus : UInt8) (a : Address) (timeout : UInt32) :
    Known p a (LogicalUnit.new bus a.target a.lun timeout) :=
  ⟨rfl, rfl, Bytes.length_zeros _, fun h => nomatch h⟩

/-- A discovery keeps what is known, if it leaves the disk its profile. -/
theorem keeps_discover_known (hp : p.blockSize ≠ 0) {D : RamDisk → Bytes → Prop}
    (hD : ∀ disk bs, D disk bs → disk.profile = p)
    (hserves : ∀ v, ∀ c ∈ Question.all, Host.Serves v (Hosts D) c) (a : Address) :
    Keeps (Session.Has (Known p a) (Hosts D)) (discover : Activity (Session RamDisk) _) :=
  keeps_discover (fun _ _ => gives_explore_blockSize hp hD _ (hserves _))
    fun _ _ _ hu hleft => hu.discovered hleft

theorem Fixed.submit {size size' : Nat} {disk : RamDisk} {memory : Memory size'}
    (h : Fixed p size disk memory.toList) (c : Command) :
    Fixed p size ((RamDisk.submit c).effect (disk, memory)).2.1
      ((RamDisk.submit c).effect (disk, memory)).2.2.toList :=
  ⟨(profile_submit _ _ _).trans h.1,
    (Memory.length_toList _).trans ((Memory.length_toList memory).symm.trans h.2)⟩

theorem Fixed.write {size size' : Nat} {disk : RamDisk} {memory : Memory size'}
    (h : Fixed p size disk memory.toList) (offset : Nat) (bytes : Bytes) :
    Fixed p size disk (memory.write offset bytes).toList :=
  ⟨h.1, (Memory.length_toList _).trans ((Memory.length_toList memory).symm.trans h.2)⟩

theorem serves_fixed (size : Nat) (v : LogicalUnit) (c : Command) :
    Host.Serves v (Hosts (Fixed p size)) c :=
  Hosts.serves fun _ _ _ h => h.submit _

/-- A fault that is asked for is noted beside the profile. -/
theorem profile_inject (i : Injection) (disk : RamDisk) :
    (i.inject disk).profile = disk.profile := by
  cases i <;> rfl

/-- A fault that is asked for changes nothing that is fixed. -/
theorem Hosts.inject {size : Nat} (i : Injection) (host : Host RamDisk)
    (h : Hosts (Fixed p size) (some host)) :
    Hosts (Fixed p size) (some { host with adapter := host.adapter.map i.inject }) := by
  obtain ⟨disk, size', memory, ⟨⟩, h⟩ := h
  exact ⟨_, _, _, rfl, (profile_inject i disk).trans h.1, h.2⟩

/-- A disk holds nothing that it could crash on when it lets go. -/
theorem exists_effect_dispose (bus : Bus RamDisk) :
    ∃ left, Bus.dispose.effect bus = (some (), left) := by
  have hreturns : (Bus.dispose.effect bus).1.isSome = true := by
    refine Bus.isSome_dispose ?_
    rintro ⟨_ | disk, size, memory⟩ - <;> rfl
  obtain ⟨_, hanswer⟩ := Option.isSome_iff_exists.1 hreturns
  exact ⟨_, Prod.ext hanswer rfl⟩

theorem returns_dispose (bus : Bus RamDisk) : Bus.Call.dispose.Returns bus := by
  obtain ⟨left, heffect⟩ := exists_effect_dispose bus
  rw [Bus.Call.Returns, Bus.Call.run, isSome_map, answer_run, heffect]
  rfl

/-- What every call but the end of use keeps of disk and private block, they have as long as the bus
is not given up. -/
theorem hosts_after {D : RamDisk → Bytes → Prop} {built : Bus RamDisk}
    {history : List (Bus.Call RamDisk)} (hbuilt : Hosts D built.host)
    (hD : ∀ call ∈ history, call ≠ .dispose → ∀ base, call.Sustains base (fun _ _ => True) (Hosts D))
    (hhost : (Bus.after history built).host ≠ none) : Hosts D (Bus.after history built).host := by
  have hstart : Bus.Holds built.emptied (fun _ _ => True) (Hosts D) built :=
    ⟨rfl, fun _ => trivial, hbuilt⟩
  have hafter := Bus.Holds.after_or (R := fun _ _ => True)
    (fun call hmem hdispose => hD call hmem hdispose _) (fun call _ => Bus.sustains_absent call _)
    (fun bus _ => returns_dispose bus) (.inl hstart)
  rcases hafter with h | h
  · exact h.host
  -- a bus that was given up has no host interface
  · exact absurd h.host hhost

/-- **Every call but the end of use** keeps what is fixed of the disk. -/
theorem sustains_fixed {call : Bus.Call RamDisk} (hdispose : call ≠ .dispose) (huser : call.OfUser)
    (size : Nat) (base : Bus RamDisk) :
    call.Sustains base (fun _ _ => True) (Hosts (Fixed p size)) := by
  refine Bus.sustains_of_host (serves_fixed size)
    (fun _ => Hosts.keeps_call (fun _ _ _ h => h) _) (fun _ _ => Hosts.keeps_call (fun _ _ _ h => h) _)
    (Hosts.keeps_call (fun _ _ _ h => h) _) ?_ (fun h => absurd h hdispose) ?_
  · rintro offset bytes _ ⟨disk, size', memory, ⟨⟩, h⟩
    exact ⟨disk, size', _, rfl, h.write offset bytes⟩
  · rintro change hchange host hhost
    obtain ⟨i, rfl⟩ := huser change hchange
    exact hhost.inject i

/-- It keeps what is known of the unit at an address too, unless the unit strays. -/
theorem sustains_known (hp : p.blockSize ≠ 0) {call : Bus.Call RamDisk} (hdispose : call ≠ .dispose)
    (huser : call.OfUser) (hcall : ¬ call.StraysAt a) (size : Nat) (base : Bus RamDisk) :
    call.Sustains base (fun b u => b = a → Known p b u) (Hosts (Fixed p size)) where
  new b _ _ _ := known_new p base.number b base.defaultTimeout
  congr h hu hb := Known.of_cleared (h ▸ (hu hb).cleared)
  discover b _ := keeps_discover_if (fun _ _ _ => serves_fixed _ _ _)
    (keeps_discover_known hp (fun _ _ h => h.1) (fun _ _ _ => serves_fixed _ _ _) b)
  lend b loan hloan := by
    rintro u hu rfl
    have hdenied : Keeps (Session.Has (Known p b) (· = none))
        (Scsi.discover : Activity (Session loan.σ) _) :=
      keeps_discover (fun _ _ => gives_explore_of_no_host _)
        fun _ _ _ hu hleft => hu.discovered hleft
    exact Bus.Call.keeps_lent hcall hloan (Q := Known p b)
      (fun _ _ h hu => Known.of_cleared (h ▸ hu.cleared)) hdenied u (hu rfl)
  serves _ _ := serves_fixed _ _ _
  reset := (sustains_fixed hdispose huser size base).reset
  configureTarget := (sustains_fixed hdispose huser size base).configureTarget
  poll := (sustains_fixed hdispose huser size base).poll
  gone h := absurd h hdispose
  write := (sustains_fixed hdispose huser size base).write
  change := (sustains_fixed hdispose huser size base).change

/-- A bus that is built over a disk has the disk. -/
theorem hosts_new (p : Profile) (overflow : Overflow) (settings : BusSettings) :
    Hosts (Fixed p settings.privateSize)
      (Bus.new settings (some (RamDisk.new p overflow))).host :=
  ⟨_, _, .zeros _, rfl, rfl, Memory.length_toList _⟩

section History

variable {size : Nat} {built : Bus RamDisk} {history : List (Bus.Call RamDisk)}
  (hbuilt : Hosts (Fixed p size) built.host) (hhistory : ∀ call ∈ history, call.OfUser)
  (hhost : (Bus.after history built).host ≠ none)

include hbuilt hhistory hhost

/-- **After any history** the bus has the disk as long as it is not given up. -/
theorem fixed_after : Hosts (Fixed p size) (Bus.after history built).host :=
  hosts_after hbuilt
    (fun call hmem hdispose => sustains_fixed hdispose (hhistory call hmem) size) hhost

/-- **After any history** the unit at an address is known, as long as the bus is not given up, or it
strayed. -/
theorem known_or_strayed (hp : p.blockSize ≠ 0)
    (hunits : ∀ u, built.units.get? a = some u → Known p a u) {u : LogicalUnit}
    (hu : (Bus.after history built).units.get? a = some u) :
    Known p a u ∨ Bus.Strayed a history built := by
  suffices hor : ((Bus.after history built).host ≠ none → Known p a u) ∨
      Bus.Strayed a history built from hor.imp_left fun h => h hhost
  refine Bus.or_since (G := fun bus u => bus.host ≠ none → Known p a u) hu
    (fun v hv _ => hunits v hv) fun earlier call hle hnot hbefore w hw hsome => ?_
  have hmem : ∀ other ∈ earlier ++ [call], other.OfUser := fun other h =>
    hhistory other (hle.subset h)
  have hdispose : call ≠ .dispose := by
    rintro rfl
    exact hsome (Bus.Call.host_dispose _)
  have hhost' : (Bus.after earlier built).host ≠ none :=
    fun h => hsome (Bus.host_apply_of_no_host call h)
  have hholds : Bus.Holds (Bus.after earlier built).emptied (fun b u => b = a → Known p b u)
      (Hosts (Fixed p size)) (Bus.after earlier built) := by
    refine ⟨rfl, ?_, fixed_after hbuilt (fun other h => hmem other (List.mem_append_left _ h)) hhost'⟩
    rintro _ v hv rfl
    exact hbefore v hv hhost'
  have hlast : call.OfUser := hmem call (List.mem_append_right _ List.mem_cons_self)
  exact (hholds.apply (sustains_known hp hdispose hlast (fun h => hnot (.inl h)) _ _)).units hw rfl

end History

end RamDisk

end Scsi
