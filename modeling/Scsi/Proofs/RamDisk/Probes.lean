import Scsi.Proofs.Bus.Probes
import Scsi.Proofs.Bus.WithoutHost
import Scsi.Proofs.RamDisk.Scan

/-!
# What a scan asks of a RAM disk

Without faults ahead, a RAM disk answers all questions of a discovery that are sent to it, but
READ CAPACITY(16) only if its profile says so, and none that is sent elsewhere. So a scan asks one
question at each open address, and one or two more at the address of the disk if that is among
them. A second scan finds what the first one found.

## Main definitions

* `RamDisk.CalmWith p disk bytes`: the disk has the profile and no fault is ahead of it
* `RamDisk.Profile.Grants p c`: a disk with the profile answers the question

## Main results

* `RamDisk.exists_result_iff`: which questions get a reply
* `RamDisk.found_iff_of_probed`: what is found at each address, after how many questions
* `RamDisk.exists_probes_of_calm`: how many commands a scan sends
* `RamDisk.exists_scan_again`: a second scan finds the same and changes no unit
* `Bus.scan_probes`: what a scan asks of any adapter, and how much of a RAM disk
-/

namespace Scsi

open Activity

namespace RamDisk

variable {p : Profile} {size : Nat}

/-! ## Disks without faults ahead -/

/-- The disk has the profile, and no fault is ahead of it. -/
def CalmWith (p : Profile) (disk : RamDisk) (_ : Bytes) : Prop := disk.profile = p ∧ disk.Calm

/-- No submission brings a fault about. -/
theorem Calm.submit {disk : RamDisk} (h : disk.Calm) (c : Command) (memory : Memory size) :
    ((RamDisk.submit c).effect (disk, memory)).2.1.Calm := by
  by_cases hat : IsAt disk.profile c
  case neg =>
    rw [effect_submit_of_elsewhere hat]
    exact h.counted
  obtain ⟨hloss, hbusy, hcheck⟩ := h
  rw [effect_submit, if_neg (not_not_intro hat), if_neg (not_not_intro hloss),
    if_neg (not_not_intro hbusy), hcheck]
  cases disk.request? c with
  | none => exact Calm.counted ⟨hloss, hbusy, hcheck⟩
  | some request => exact (Calm.counted ⟨hloss, hbusy, hcheck⟩).leaves _

/-- A submission leaves the disk so. -/
theorem calmWith_submit (c : Command) (host : Host RamDisk) (h : Hosts (CalmWith p) (some host)) :
    Hosts (CalmWith p) (some ((Host.submit c).effect host).2) := by
  obtain ⟨disk, size, memory, ⟨⟩, hprofile, hcalm⟩ := h
  rw [effect_host_submit]
  exact ⟨_, _, _, rfl, (profile_submit _ _ _).trans hprofile, hcalm.submit c memory⟩

/-! ## Questions that get a reply -/

/-- A disk with the profile answers the question: it is sent to the disk, and the disk knows it. -/
def Profile.Grants (p : Profile) (c : Command) : Prop :=
  IsAt p c ∧ (c.cdb = Question.longCapacity.cdb → p.longCapacity = true)

instance (p : Profile) : DecidablePred p.Grants := fun _ => inferInstanceAs (Decidable (_ ∧ _))

/-- What is sent to the disk gets a reply exactly if the request for it ends well. -/
theorem exists_result_iff_good {disk : RamDisk} {c : Command} (hat : IsAt disk.profile c)
    (hcalm : disk.Calm) {request : Request} (hrequest : disk.request? c = some request)
    (memory : Memory size) :
    (∃ bs, Exchange.result
        ⟨c, ((Host.submit c).effect (⟨some disk, size, memory⟩ : Host RamDisk)).1⟩ = some (.ok bs)) ↔
      ∃ moved, (execute disk.counted memory c request).reply = .good moved := by
  rw [effect_host_submit_of_calm hat hcalm hrequest rfl, Exchange.exists_result_iff]
  constructor
  · exact fun h => (reply_of_outcome_answer h).1
  · rintro ⟨moved, hmoved⟩
    exact (outcome_answer_of_good hmoved).1

/-- **A question** gets a reply exactly if it is sent to the disk and the disk knows it. -/
theorem exists_result_iff {u : LogicalUnit} {c : Command} (hc : c ∈ u.questions)
    {host : Host RamDisk} (hhost : Hosts (CalmWith p) (some host)) :
    (∃ bs, Exchange.result ⟨c, ((Host.submit c).effect host).1⟩ = some (.ok bs)) ↔ p.Grants c := by
  obtain ⟨disk, size, memory, ⟨⟩, rfl, hcalm⟩ := hhost
  by_cases hat : IsAt disk.profile c
  case neg =>
    -- what is sent elsewhere is not delivered
    rw [effect_host_submit, effect_submit_of_elsewhere hat]
    simp [Exchange.result, Profile.Grants, hat]
  have hgrants : disk.profile.Grants c ↔
      (c.cdb = Question.longCapacity.cdb → disk.profile.longCapacity = true) := and_iff_right hat
  rw [hgrants]
  simp only [LogicalUnit.questions, Question.all, List.map_cons, List.map_nil, List.mem_cons,
    List.not_mem_nil, or_false] at hc
  rcases hc with rfl | rfl | rfl
  · have hrequest : disk.request? Question.identity = some .identity :=
      request?_of_not_overruns rfl not_false
    have hcdb : Question.identity.cdb ≠ Question.longCapacity.cdb := by decide
    rw [exists_result_iff_good hat hcalm hrequest]
    exact iff_of_true ⟨_, rfl⟩ fun h => absurd h hcdb
  · have hrequest : disk.request? Question.longCapacity =
        some (.serviceAction Opcode.readCapacity16Action) :=
        request?_of_not_overruns rfl not_false
    have hcdb : (Question.longCapacity.addressed u).cdb = Question.longCapacity.cdb := rfl
    rw [exists_result_iff_good hat hcalm hrequest, execute]
    cases hlong : disk.profile.longCapacity <;> simp [counted, hlong, answerData, answerCheck, hcdb]
  · have hrequest : disk.request? Question.shortCapacity = some .readCapacity10 :=
      request?_of_not_overruns rfl not_false
    have hcdb : Question.shortCapacity.cdb ≠ Question.longCapacity.cdb := by decide
    rw [exists_result_iff_good hat hcalm hrequest]
    exact iff_of_true ⟨_, rfl⟩ fun h => absurd h hcdb

/-! ## One address after the other -/

theorem grants_addressed_iff {u : LogicalUnit} {a : Address} (hat : u.IsAt a) (c : Command) :
    p.Grants (c.addressed u) ↔
      a = p.address ∧ (c.cdb = Question.longCapacity.cdb → p.longCapacity = true) := by
  have hsame : IsAt p (c.addressed u) ↔ a = p.address := by
    show u.target = p.target ∧ u.lun = p.lun ↔ _
    rw [hat.1, hat.2]
    obtain ⟨target, lun⟩ := a
    exact (Address.mk.injEq _ _ _ _).symm.to_iff
  exact and_congr hsame Iff.rfl

/-- **At each address** a unit is found exactly if it is that of the disk. One question is asked
elsewhere, and two or three there. -/
theorem found_iff_of_probed {asks : Address → List Command} {host host' : Host RamDisk}
    {probes : List Probe} (h : Host.Probed asks host probes host')
    (hhost : Hosts (CalmWith p) (some host)) :
    ∀ probe ∈ probes, (probe.found = true ↔ probe.address = p.address) ∧
      probe.commands.length =
        1 + if probe.address = p.address then (if p.longCapacity = true then 1 else 2) else 0 := by
  induction h with
  | nil => exact fun _ h => nomatch h
  | @cons u a sent answer host host₁ host₂ probes hat _ hcourse hhad _ ih =>
    refine List.forall_mem_cons.2 ⟨?_, ih (hhad.keeps (fun e _ => calmWith_submit e.sent) hhost)⟩
    have hgood : ∀ e ∈ sent, (∃ bs, e.result = some (.ok bs)) ↔ p.Grants e.sent := by
      intro e he
      obtain ⟨made, left, hmade, hsubmit⟩ :=
        hhad.made (fun e _ => calmWith_submit e.sent) hhost e he
      have hresult := exists_result_iff (hcourse.mem_questions he) hmade
      rwa [hsubmit] at hresult
    obtain ⟨hlength, hfound⟩ := hcourse.length_eq hgood
    have hidentity : Question.identity.cdb ≠ Question.longCapacity.cdb := by decide
    have hshort : Question.shortCapacity.cdb ≠ Question.longCapacity.cdb := by decide
    simp only [grants_addressed_iff hat, hidentity, hshort, false_implies, true_implies, and_true]
      at hlength hfound
    constructor
    · exact hfound.trans ⟨fun h => h.1, fun h => ⟨h, .inr h⟩⟩
    · rw [Probe.commands, List.length_map, hlength]
      by_cases ha : a = p.address <;> cases hlong : p.longCapacity <;> simp [ha]

/-! ## Scans -/

/-- Where the commands for one address are `extra` more than one, and one for every other, they are
as many more than the addresses, or as many as those if that address is not among them. -/
theorem length_flatMap_commands_of_extra {a : Address} {extra : Nat} {probes : List Probe}
    (hdistinct : (probes.map Probe.address).Nodup)
    (h : ∀ probe ∈ probes, probe.commands.length = 1 + if probe.address = a then extra else 0) :
    (probes.flatMap Probe.commands).length =
      probes.length + if a ∈ probes.map Probe.address then extra else 0 := by
  induction probes with
  | nil => rfl
  | cons probe rest ih =>
    obtain ⟨hnot, hrest⟩ := List.nodup_cons.1 hdistinct
    obtain ⟨hprobe, hprobes⟩ := List.forall_mem_cons.1 h
    rw [List.flatMap_cons, List.length_append, hprobe, ih hrest hprobes]
    simp only [List.map_cons, List.mem_cons, List.length_cons]
    by_cases ha : a = probe.address
    -- the address comes up once only
    · subst ha
      simp only [hnot, or_false, if_true, if_false]
      omega
    · simp only [ha, Ne.symm ha, false_or, if_false]
      omega

theorem answers_questions : ∀ u : LogicalUnit, ∀ c ∈ u.questions, HostAdapter.Answers RamDisk c :=
  fun u c hc => (completes_questions u c hc).answers

variable {bus : Bus RamDisk} (hbus : bus.Reachable) {disk : RamDisk} {memory : Memory size}
  (hhost : bus.host = some ⟨some disk, size, memory⟩) (hcalm : disk.Calm)

include hbus hhost hcalm

/-- **A scan** sends one command for each open address, and one or two more for that of the disk. -/
theorem exists_probes_of_calm (allLuns : Bool) :
    ∃ probes, Bus.Probes allLuns bus probes ∧
      ((Bus.Call.scan allLuns).contacts bus).length = probes.length +
        if disk.profile.address ∈ probes.map Probe.address then
          (if disk.profile.longCapacity = true then 1 else 2)
        else 0 := by
  obtain ⟨found, bus', probes, host', -, -, hprobed, haddresses, -, hcontacts⟩ :=
    hbus.exists_probed answers_questions hhost allLuns
  have hprobes := hbus.probes_of_probed hprobed haddresses hcontacts
  refine ⟨probes, hprobes, ?_⟩
  have hlengths := found_iff_of_probed (p := disk.profile) hprobed
    ⟨disk, size, memory, rfl, rfl, hcalm⟩
  rw [Bus.length_contacts_of_demands hcontacts]
  exact length_flatMap_commands_of_extra (hprobes.ordered.imp Address.ne_of_lt)
    fun probe hprobe => (hlengths probe hprobe).2

/-- Where a scan asks, the unit of the disk is found, and no other. -/
theorem readyAt_scan_iff {allLuns : Bool} {found : List Address} {bus' : Bus RamDisk}
    (hscan : (Bus.scan allLuns).effect bus = (some (.ok found), bus')) {a : Address}
    (ha : a ∈ bus.openAddresses allLuns) : bus'.ReadyAt a ↔ a = disk.profile.address := by
  obtain ⟨found', bus₁, probes, host', hscan', -, hprobed, haddresses, hready, -⟩ :=
    hbus.exists_probed answers_questions hhost allLuns
  obtain rfl : bus' = bus₁ := congrArg Prod.snd (hscan.symm.trans hscan')
  obtain ⟨probe, hprobe, rfl⟩ := List.mem_map.1 (haddresses ▸ ha)
  rw [← hready probe hprobe]
  exact (found_iff_of_probed (p := disk.profile) hprobed
    ⟨disk, size, memory, rfl, rfl, hcalm⟩ probe hprobe).1

/-- A scan leaves the disk its profile and brings no fault about. -/
theorem calmWith_scan {allLuns : Bool} {found : List Address} {bus' : Bus RamDisk}
    (hscan : (Bus.scan allLuns).effect bus = (some (.ok found), bus')) :
    Hosts (CalmWith disk.profile) bus'.host := by
  obtain ⟨found', bus₁, probes, host', hscan', hhost', hprobed, -⟩ :=
    hbus.exists_probed answers_questions hhost allLuns
  obtain rfl : bus' = bus₁ := congrArg Prod.snd (hscan.symm.trans hscan')
  rw [hhost']
  exact hprobed.had.keeps (fun e _ => calmWith_submit e.sent) ⟨disk, size, memory, rfl, rfl, hcalm⟩

/-- **A second scan** finds the same addresses and changes no unit, unless the discovery of the unit
of the disk was broken off before the first one. -/
theorem exists_scan_again (hidle : ¬ bus.DiscoveringAt disk.profile.address) (allLuns : Bool) :
    ∃ (found : List Address) (bus₁ bus₂ : Bus RamDisk),
      (Bus.scan allLuns).effect bus = (some (.ok found), bus₁) ∧
      (Bus.scan allLuns).effect bus₁ = (some (.ok found), bus₂) ∧
      ∀ a, bus₂.units.get? a = bus₁.units.get? a := by
  obtain ⟨found, bus₁, hscan, hresult⟩ :=
    hbus.exists_scanResult answers_questions (by rw [hhost]; rfl) allLuns
  have hbus₁ : bus₁.Reachable := by
    have hreachable := hbus.apply (.scan allLuns)
    rwa [Bus.Call.apply_scan, hscan] at hreachable
  obtain ⟨disk₁, size₁, memory₁, hhost₁, hprofile, hcalm₁⟩ := calmWith_scan hbus hhost hcalm hscan
  obtain ⟨found', bus₂, hscan', hresult'⟩ :=
    hbus₁.exists_scanResult answers_questions (by rw [hhost₁]; rfl) allLuns
  have hlimits : bus₁.emptied = bus.emptied := by
    rw [← Bus.emptied_scan allLuns bus, hscan]
  have hnew : ∀ a, bus₂.ReadyAt a → bus₁.ReadyAt a := by
    intro a hready₂
    by_cases hin : bus₁.InRange allLuns a
    case neg => exact (Bus.readyAt_congr (hresult'.elsewhere a hin)).1 hready₂
    have hin' := (Bus.inRange_congr hlimits).1 hin
    by_cases hready₁ : bus₁.ReadyAt a
    case pos => exact hready₁
    -- the first scan left no unit there, so the second one asked, and the unit is that of the disk
    have hidle₁ : ¬ bus₁.DiscoveringAt a := by
      rintro ⟨u, hu, -⟩
      exact hready₁ ⟨u, hu, hresult.ready a u hin' hu⟩
    obtain rfl : a = disk.profile.address := by
      rw [← hprofile]
      exact (readyAt_scan_iff hbus₁ hhost₁ hcalm₁ hscan'
        ((Bus.mem_openAddresses_iff hbus₁.maxLuns_ne_zero).2 ⟨hin, hready₁, hidle₁⟩)).1 hready₂
    -- but then it was ready before the first scan, or found by it
    by_cases hready : bus.ReadyAt disk.profile.address
    · obtain ⟨u, hu, huReady⟩ := hready
      exact ⟨u, (hresult.kept _ u hin' hu huReady).1, huReady⟩
    · exact (readyAt_scan_iff hbus hhost hcalm hscan
        ((Bus.mem_openAddresses_iff hbus.maxLuns_ne_zero).2 ⟨hin', hready, hidle⟩)).2 rfl
  obtain ⟨rfl, hunits⟩ := hresult.again hresult' hlimits hnew
  exact ⟨_, bus₁, bus₂, hscan, hscan', hunits⟩

end RamDisk

/-- **What a scan asks.** Without a host interface nothing is asked. Otherwise, of an adapter that
returns, it is the first questions of a discovery at each address of the range without a ready unit
or one in the middle of its discovery, in the order of the addresses, and nothing else. Of a RAM disk
without faults ahead it is one question at each of these addresses and, if the disk is at one of them,
one more there, or two if the disk does not know READ CAPACITY(16). A second scan then finds the same
addresses and changes no unit, unless the discovery of the unit of the disk was broken off. -/
theorem Bus.scan_probes (allLuns : Bool) :
    (∀ {σ : Type} [HostAdapter σ] (bus : Bus σ), bus.Reachable →
      (∀ u : LogicalUnit, ∀ c ∈ u.questions, HostAdapter.Answers σ c) →
      (bus.host = none → (Call.scan allLuns).contacts bus = []) ∧
      (bus.host.isSome = true → ∃ probes, Probes allLuns bus probes)) ∧
    ∀ (bus : Bus RamDisk) (disk : RamDisk) (size : Nat) (memory : Memory size), bus.Reachable →
      bus.host = some ⟨some disk, size, memory⟩ → disk.Calm →
      (∃ probes, Probes allLuns bus probes ∧
        ((Call.scan allLuns).contacts bus).length = probes.length +
          if disk.profile.address ∈ probes.map Probe.address then
            (if disk.profile.longCapacity = true then 1 else 2)
          else 0) ∧
      (¬ bus.DiscoveringAt disk.profile.address →
        ∃ (found : List Address) (bus₁ bus₂ : Bus RamDisk),
          (scan allLuns).effect bus = (some (.ok found), bus₁) ∧
          (scan allLuns).effect bus₁ = (some (.ok found), bus₂) ∧
          ∀ a, bus₂.units.get? a = bus₁.units.get? a) := by
  constructor
  · intro σ _ bus hbus hanswers
    exact ⟨fun hhost => contacts_of_no_host _ hhost,
      fun hhost => hbus.exists_probes hanswers hhost allLuns⟩
  · intro bus disk size memory hbus hhost hcalm
    exact ⟨RamDisk.exists_probes_of_calm hbus hhost hcalm allLuns,
      fun hidle => RamDisk.exists_scan_again hbus hhost hcalm hidle allLuns⟩

/-- A disk without READ CAPACITY(16) at the first of four addresses that no unit is at yet: a scan
sends two commands more than there are addresses. Without a host interface it sends none. -/
theorem Bus.scan_probes_fresh :
    let disk := RamDisk.new { RamDisk.Profile.disk 4 4 with longCapacity := false }
    let bus := Bus.new ⟨0, 2, 2, .empty, 1, 16, 0⟩ (some disk)
    let empty : Bus RamDisk := Bus.new ⟨0, 2, 2, .empty, 1, 0, 0⟩ none
    empty.host = none ∧ (Call.scan true).contacts empty = [] ∧
    bus.host = some ⟨some disk, 16, .zeros 16⟩ ∧ disk.Calm ∧
    ¬ bus.DiscoveringAt disk.profile.address ∧
    (∃ probes, Probes true bus probes) ∧
    (∃ probes, Probes true bus probes ∧
      ((Call.scan true).contacts bus).length = probes.length + 2) ∧
    ∃ (found : List Address) (bus₁ bus₂ : Bus RamDisk),
      (scan true).effect bus = (some (.ok found), bus₁) ∧
      (scan true).effect bus₁ = (some (.ok found), bus₂) ∧
      ∀ a, bus₂.units.get? a = bus₁.units.get? a := by
  intro disk bus empty
  have hcalm : disk.Calm := ⟨rfl, rfl, rfl⟩
  have hidle : ¬ bus.DiscoveringAt disk.profile.address := fun ⟨_, hu, _⟩ => nomatch hu
  obtain ⟨hany, hdisk⟩ := scan_probes true
  obtain ⟨⟨probes, hprobes, hlength⟩, hagain⟩ :=
    hdisk bus disk 16 (.zeros 16) (reachable_new _ _) rfl hcalm
  -- the address of the disk is one of the four
  have hmem : disk.profile.address ∈ probes.map Probe.address :=
    (hprobes.mem_iff _).2 ⟨⟨by decide, by decide, nofun⟩, (fun ⟨_, hu, _⟩ => nomatch hu), hidle⟩
  refine ⟨rfl, (hany empty (reachable_new _ _) RamDisk.answers_questions).1 rfl, rfl, hcalm, hidle,
    (hany bus (reachable_new _ _) RamDisk.answers_questions).2 rfl, ⟨probes, hprobes, ?_⟩,
    hagain hidle⟩
  rw [hlength, if_pos hmem]
  rfl

end Scsi
