import Mathlib.Algebra.Group.Nat.Defs
import Scsi.Proofs.Bus.Coherence
import Scsi.Proofs.Bus.Recording
import Scsi.Proofs.RamDisk.Discovery
import Scsi.Proofs.Session.Course

/-!
# Dialogues of a discovery

With an adapter that answers, the course of a discovery is a short dialogue: INQUIRY, then READ
CAPACITY in the 16-byte form if that succeeded, then the 10-byte form if the 16-byte form failed.
What the unit shows afterwards is read from the replies to INQUIRY and to the READ CAPACITY that
succeeded.

## Main definitions

* `Report`: what is read from the replies
* `Dialogue u exchanges report`: a dialogue with the unit `u` and the report it leads to
* `LogicalUnit.Shows`: the unit after a discovery with a report

## Main results

* `Course.exists_dialogue`: a course whose questions are completed is a dialogue
* `exists_dialogue`: a discovery over a recorder is a dialogue, and its unit shows the report
* `discover_dialogue`: so is every discovery of a unit of a reachable bus
-/

namespace Scsi

open Activity Session

/-! ## Reports -/

/-- What is read from the replies: the INQUIRY data, the address of the last block and the size of a
block. -/
structure Report where
  inquiry : Bytes
  lastBlock : Nat
  blockLength : Nat

namespace Report

/-- The report of a reply to READ CAPACITY(16), which has the address in 8 bytes. -/
def ofLong (inquiry capacity : Bytes) : Report where
  inquiry
  lastBlock := Bytes.number (Bytes.slice capacity 0 8)
  blockLength := Bytes.number (Bytes.slice capacity 8 4)

/-- The report of a reply to READ CAPACITY(10), which has the address in 4 bytes. -/
def ofShort (inquiry capacity : Bytes) : Report where
  inquiry
  lastBlock := Bytes.number (Bytes.slice capacity 0 4)
  blockLength := Bytes.number (Bytes.slice capacity 4 4)

/-- The reply that the report was read from. -/
def reply (report : Report) : CapacityReply :=
  ⟨UInt64.ofNat report.lastBlock, UInt32.ofNat report.blockLength⟩

/-- The findings that are published. -/
def findings (report : Report) : Findings := ⟨report.inquiry, report.reply.capacity⟩

end Report

/-- The dialogue of a discovery of `u`: the exchanges in order, and the report if all went well. The
reply to a READ CAPACITY(16) that failed has no part in the report. -/
inductive Dialogue (u : LogicalUnit) : List Exchange → Option Report → Prop
  | unidentified {i : Completion} (hi : ¬ i.Succeeds) :
    Dialogue u [i.exchange (Question.identity.addressed u)] none
  | long {i l : Completion} (hi : i.Succeeds) (hl : l.Succeeds) :
    Dialogue u
      [i.exchange (Question.identity.addressed u), l.exchange (Question.longCapacity.addressed u)]
      (some (.ofLong (Bytes.overlay i.bytes (Bytes.zeros 96)) (Bytes.overlay l.bytes (Bytes.zeros 32))))
  | short {i l s : Completion} (hi : i.Succeeds) (hl : ¬ l.Succeeds) (hs : s.Succeeds) :
    Dialogue u
      [i.exchange (Question.identity.addressed u), l.exchange (Question.longCapacity.addressed u),
        s.exchange (Question.shortCapacity.addressed u)]
      (some (.ofShort (Bytes.overlay i.bytes (Bytes.zeros 96)) (Bytes.overlay s.bytes (Bytes.zeros 8))))
  | sizeless {i l s : Completion} (hi : i.Succeeds) (hl : ¬ l.Succeeds) (hs : ¬ s.Succeeds) :
    Dialogue u
      [i.exchange (Question.identity.addressed u), l.exchange (Question.longCapacity.addressed u),
        s.exchange (Question.shortCapacity.addressed u)]
      none

/-! ## Courses over an adapter that answers -/

namespace Completion

variable {r : Completion} {c : Command}

theorem result_eq_ok_iff {bs : Bytes} : (r.exchange c).result = some (.ok bs) ↔
    r.Succeeds ∧ (r.record c).data.bytes = bs := by
  rw [Exchange.result_eq_ok_iff, Succeeds, and_assoc]
  constructor
  · rintro ⟨after, hanswer, hgood, hbytes⟩
    obtain ⟨hdelivered, rfl⟩ := Prod.mk.inj (Option.some.inj hanswer)
    exact ⟨hdelivered, hgood, hbytes⟩
  · rintro ⟨hdelivered, hgood, hbytes⟩
    exact ⟨_, congrArg (fun d => some (d, r.record c)) hdelivered, hgood, hbytes⟩

theorem not_succeeds_of_result {e : Error} (h : (r.exchange c).result = some (.error e)) :
    ¬ r.Succeeds := by
  intro hr
  exact nomatch h.symm.trans (result_eq_ok_iff.2 ⟨hr, rfl⟩)

/-- The reply to a question overlays the zeros of the buffer that came with it. -/
theorem of_result_ok {size : Nat} {bs : Bytes} (hdata : c.data = .input (Bytes.zeros size))
    (hlength : c.dataLength.toNat = size) (h : (r.exchange c).result = some (.ok bs)) :
    r.Succeeds ∧ bs = Bytes.overlay r.bytes (Bytes.zeros size) := by
  obtain ⟨hr, rfl⟩ := result_eq_ok_iff.1 h
  exact ⟨hr, bytes_record hdata (hlength.trans (Bytes.length_zeros size).symm)⟩

end Completion

/-- The answer that goes with a report: `f` of it, or an error if there is none. -/
def Report.Explains {ε α : Type} (report : Option Report) (answer : Except ε α) (f : Report → α) :
    Prop :=
  match report with
  | some found => answer = .ok (f found)
  | none => ∃ e, answer = .error e

/-- A question that was completed is one that was put. -/
theorem Exchange.exists_completion {e : Exchange} {c : Command} (hsent : e.sent = c)
    (he : ∃ (r : Completion) (d : Command), e = r.exchange d) : ∃ r : Completion, e = r.exchange c := by
  obtain ⟨r, d, rfl⟩ := he
  exact ⟨r, congrArg r.exchange hsent⟩

/-- **A course whose questions are completed** is a dialogue, and finds out what its report says. -/
theorem Course.exists_dialogue {u : LogicalUnit} {sent : List Exchange}
    {answer : Option (Except DiscoveryError Findings)} (h : Course u sent answer)
    (hsent : ∀ e ∈ sent, ∃ (r : Completion) (c : Command), e = r.exchange c) :
    ∃ (report : Option Report) (a : Except DiscoveryError Findings), answer = some a ∧
      Dialogue u sent report ∧ Report.Explains report a Report.findings := by
  have hanswer : answer ≠ none := by
    intro hnone
    obtain ⟨e, he, hcut⟩ := h.cut_iff.1 hnone
    obtain ⟨r, c, rfl⟩ := hsent e he
    exact nomatch hcut
  -- one case for each dialogue
  cases h with
  | cut => exact absurd rfl hanswer
  | sizeCut => exact absurd rfl hanswer
  | unidentified hi hidentity =>
    obtain ⟨i, rfl⟩ := Exchange.exists_completion hi (hsent _ (by simp))
    exact ⟨none, _, rfl, .unidentified (Completion.not_succeeds_of_result hidentity), _, rfl⟩
  | sizeless hi hidentity hsizing =>
    obtain ⟨i, rfl⟩ := Exchange.exists_completion hi (hsent _ (by simp))
    obtain ⟨hi, rfl⟩ := Completion.of_result_ok rfl rfl hidentity
    cases hsizing with
    | sizeless hl hlong hs hshort =>
      obtain ⟨l, rfl⟩ := Exchange.exists_completion hl (hsent _ (by simp))
      obtain ⟨s, rfl⟩ := Exchange.exists_completion hs (hsent _ (by simp))
      exact ⟨none, _, rfl, .sizeless hi (Completion.not_succeeds_of_result hlong)
        (Completion.not_succeeds_of_result hshort), _, rfl⟩
  | found hi hidentity hsizing =>
    obtain ⟨i, rfl⟩ := Exchange.exists_completion hi (hsent _ (by simp))
    obtain ⟨hi, rfl⟩ := Completion.of_result_ok rfl rfl hidentity
    cases hsizing with
    | long hl hlong =>
      obtain ⟨l, rfl⟩ := Exchange.exists_completion hl (hsent _ (by simp))
      obtain ⟨hl, rfl⟩ := Completion.of_result_ok rfl rfl hlong
      exact ⟨some _, _, rfl, .long hi hl, rfl⟩
    | short hl hlong hs hshort =>
      obtain ⟨l, rfl⟩ := Exchange.exists_completion hl (hsent _ (by simp))
      obtain ⟨s, rfl⟩ := Exchange.exists_completion hs (hsent _ (by simp))
      obtain ⟨hs, rfl⟩ := Completion.of_result_ok rfl rfl hshort
      exact ⟨some _, _, rfl, .short hi (Completion.not_succeeds_of_result hlong) hs, rfl⟩

/-! ## The unit afterwards -/

/-- The unit `w` is `u` after a discovery with a report. -/
structure LogicalUnit.Shows (u : LogicalUnit) (found : Report) (w : LogicalUnit) : Prop
    extends Published w where
  state : w.state = .ready
  isReady : w.isReady = true
  isPresent : w.isPresent = true
  inquiry : w.inquiry = found.inquiry
  capacity : w.capacity.toNat = (found.lastBlock + 1) % UInt64.size
  blockSize : w.blockSize.toNat = if found.blockLength = 0 then 512 else found.blockLength
  target : w.target = u.target
  lun : w.lun = u.lun
  number : w.number = u.number
  defaultTimeout : w.defaultTimeout = u.defaultTimeout

/-- The numbers of a report have the widths of the replies that they are read from. -/
theorem Dialogue.bounds {u : LogicalUnit} {dialogue : List Exchange} {found : Report}
    (h : Dialogue u dialogue (some found)) :
    found.inquiry.length = 96 ∧ found.lastBlock < UInt64.size ∧
      found.blockLength < UInt32.size := by
  cases h with
  | long hi hl =>
    exact ⟨Bytes.length_overlay _ _, Bytes.number_slice_lt _ 0 8, Bytes.number_slice_lt _ 8 4⟩
  | short hi hl hs =>
    have hlast : 256 ^ 4 ≤ UInt64.size := by decide
    exact ⟨Bytes.length_overlay _ _, Nat.lt_of_lt_of_le (Bytes.number_slice_lt _ 0 4) hlast,
      Bytes.number_slice_lt _ 4 4⟩

theorem Report.toNat_blockSize {found : Report} (h : found.blockLength < UInt32.size) :
    found.findings.capacity.blockSize.toNat =
      if found.blockLength = 0 then 512 else found.blockLength := by
  have hlength : (UInt32.ofNat found.blockLength).toNat = found.blockLength :=
    UInt32.toNat_ofNat_of_lt h
  have hzero : UInt32.ofNat found.blockLength = 0 ↔ found.blockLength = 0 := by
    rw [← UInt32.toNat_inj, hlength]
    rfl
  simp only [findings, reply, CapacityReply.capacity, hzero]
  split
  · rfl
  · exact hlength

theorem Report.toNat_blocks (found : Report) :
    found.findings.capacity.blocks.toNat = (found.lastBlock + 1) % UInt64.size := by
  show (UInt64.ofNat found.lastBlock + 1).toNat = _
  rw [UInt64.toNat_add, UInt64.toNat_ofNat']
  exact Nat.mod_add_mod _ _ _

theorem LogicalUnit.shows_publish {u w : LogicalUnit} (hu : u.cleared.Blank) {found : Report}
    (hinquiry : found.inquiry.length = 96) (hlength : found.blockLength < UInt32.size)
    (hw : w.cleared = u.cleared.publish found.findings) : u.Shows found w := by
  have hcoherent : w.cleared.Coherent := by
    rw [hw]
    exact coherent_publish hu ⟨hinquiry, CapacityReply.blockSize_capacity_ne_zero _⟩
  have field : ∀ {β : Type} (f : LogicalUnit → β), f w.cleared = f (u.cleared.publish found.findings) :=
    fun f => congrArg f hw
  have hstate : w.state = .ready := field LogicalUnit.state
  have hready : w.isReady = true := hcoherent.of_cleared.ready_iff_state.2 hstate
  exact {
    hcoherent.of_cleared.published hready with
    state := hstate
    isReady := hready
    isPresent := hcoherent.of_cleared.ready_iff_present.1 hready
    inquiry := field LogicalUnit.inquiry
    capacity := (congrArg UInt64.toNat (field LogicalUnit.capacity)).trans found.toNat_blocks
    blockSize :=
      (congrArg UInt32.toNat (field LogicalUnit.blockSize)).trans (Report.toNat_blockSize hlength)
    target := field LogicalUnit.target
    lun := field LogicalUnit.lun
    number := field LogicalUnit.number
    defaultTimeout := field LogicalUnit.defaultTimeout }

section

variable {σ : Type} [HostAdapter σ]

/-- The discovery of a blank unit over a recorder is a dialogue. -/
theorem exists_dialogue {u : LogicalUnit} (hblank : u.cleared.Blank) (hopen : u.IsOpen)
    (hc : ∀ c ∈ u.questions, HostAdapter.Completes σ c) {host : Host (Recorder σ)}
    (hadapter : host.adapter.isSome = true) :
    ∃ (dialogue : List Exchange) (report : Option Report) (answer : Except DiscoveryError Unit)
      (w : LogicalUnit) (host' : Host (Recorder σ)),
      Dialogue u dialogue report ∧
      discover.effect (⟨u, some host⟩ : Session (Recorder σ)) = (some answer, ⟨w, some host'⟩) ∧
      host'.exchanges = host.exchanges ++ dialogue ∧
      match report with
      | some found => answer = .ok () ∧ u.Shows found w
      | none => (∃ e, answer = .error e) ∧ w.cleared = { u.cleared with state := .failed } := by
  obtain ⟨dialogue, answer, w, host', hcourse, hhad, heffect, hw⟩ := effect_discover_course hopen host
  obtain ⟨hexchanges, hcompleted⟩ :=
    hhad.completed hadapter fun e he => hc e.sent (hcourse.mem_questions he)
  obtain ⟨report, a, rfl, hdialogue, hexplains⟩ := hcourse.exists_dialogue hcompleted
  refine ⟨dialogue, report, _, w, host', hdialogue, heffect, hexchanges, ?_⟩
  cases report with
  | some found =>
    -- what was found out appears on a unit that had nothing of it
    obtain rfl : a = .ok found.findings := hexplains
    obtain ⟨hinquiry, -, hlength⟩ := hdialogue.bounds
    exact ⟨rfl, LogicalUnit.shows_publish hblank hinquiry hlength hw⟩
  | none =>
    -- a discovery that failed leaves its mark only
    obtain ⟨e, rfl⟩ := hexplains
    exact ⟨⟨e, rfl⟩, hw⟩

/-- **A discovery is a dialogue.** It succeeds exactly if the dialogue has a report, and then the
unit shows the report; otherwise the unit is as before, but marked as failed. -/
theorem discover_dialogue {τ : Type} [HostAdapter τ] {bus : Bus τ} (hbus : bus.Reachable)
    {a : Address} {u : LogicalUnit} (hu : bus.units.get? a = some u)
    (hstate : u.state = .uninitialized ∨ u.state = .failed)
    (hc : ∀ c ∈ u.questions, HostAdapter.Completes σ c) {host : Host σ}
    (hadapter : host.adapter.isSome = true) :
    ∃ (dialogue : List Exchange) (report : Option Report) (answer : Except DiscoveryError Unit)
      (w : LogicalUnit) (host' : Host σ),
      Dialogue u dialogue report ∧
      (discover.run (⟨u, some host⟩ : Session σ)).answer = some answer ∧
      (discover.run (⟨u, some host⟩ : Session σ)).state = ⟨w, some host'⟩ ∧
      (discover.run (⟨u, some host⟩ : Session σ).recorded).state.exchanges = dialogue ∧
      match report with
      | some found => answer = .ok () ∧ u.Shows found w
      | none => (∃ e, answer = .error e) ∧ w.cleared = { u.cleared with state := .failed } := by
  obtain ⟨_, _, hholds⟩ := hbus.holds Bus.sustains_coherent
  have hcoherent : u.cleared.Coherent := hholds.units hu
  have hblank : u.cleared.Blank := hcoherent.blank (hcoherent.isReady_of_isOpen hstate)
  have hadapter' : host.recorded.adapter.isSome = true := by
    rw [← hadapter]
    exact Option.isSome_map
  obtain ⟨dialogue, report, answer, w, host', hdialogue, heffect, hexchanges, hreport⟩ :=
    exists_dialogue hblank hstate hc hadapter'
  rw [Host.exchanges_recorded, List.nil_append] at hexchanges
  have hrun := Session.run_of_through Observer.morphism.host.discover (⟨u, some host⟩ : Session σ)
  have heffect' : discover.effect (⟨u, some host⟩ : Session σ).recorded =
    (some answer, ⟨w, some host'⟩) := heffect
  rw [hrun, answer_run, state_run, heffect']
  exact ⟨dialogue, report, answer, w, host'.mapAdapter Observer.adapter, hdialogue, rfl, rfl,
    hexchanges, hreport⟩

end

/-- The discovery of a new unit by a small disk is a dialogue. -/
theorem discover_dialogue_ramDisk :
    let u := LogicalUnit.new 0 0 0 0
    let host := Host.new (some (RamDisk.new (.disk 4 4))) 16
    ∃ (dialogue : List Exchange) (report : Option Report) (answer : Except DiscoveryError Unit)
      (w : LogicalUnit) (host' : Host RamDisk),
      Dialogue u dialogue report ∧
      (discover.run (⟨u, some host⟩ : Session RamDisk)).answer = some answer ∧
      (discover.run (⟨u, some host⟩ : Session RamDisk)).state = ⟨w, some host'⟩ ∧
      (discover.run (⟨u, some host⟩ : Session RamDisk).recorded).state.exchanges = dialogue ∧
      match report with
      | some found => answer = .ok () ∧ u.Shows found w
      | none => (∃ e, answer = .error e) ∧ w.cleared = { u.cleared with state := .failed } := by
  let bus : Bus RamDisk :=
    Bus.after [.addUnit ⟨0, 0⟩]
      (Bus.new ⟨0, 1, 1, .empty, 1, 16, 0⟩ (some (RamDisk.new (.disk 4 4))))
  have hu : bus.units.get? ⟨0, 0⟩ = some (LogicalUnit.new 0 0 0 0) := by decide +kernel
  have hbus : bus.Reachable := ⟨_, _, _, rfl⟩
  exact discover_dialogue hbus hu (.inl rfl) (RamDisk.completes_questions _) rfl

end Scsi
