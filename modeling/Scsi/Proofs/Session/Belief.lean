import Mathlib.Data.List.Nodup
import Scsi.Proofs.Session.Discovery

/-!
# What a discovery believes

A reply to READ CAPACITY has 12 bytes at least in the 16-byte form, and 8 in the 10-byte form. The
readers of the replies count bytes, but those of the buffer that was lent for the reply, which has
them whatever arrived. How many bytes did arrive stands in the record, and is not looked at. So a
discovery believes every reply with a good status, and where a reply ends early it reads what the
buffer held before, which is zeros.

## Main definitions

* `Exchange.FallsShort`: it ended well with fewer bytes than are needed
* `Believes u sent w`: what decides which questions are asked and what becomes of the unit
* `Guarded u sent w`: no capacity is taken from a reply that fell short

## Main results

* `Course.believes`: a discovery believes by the status alone
* `Course.guarded_iff`: it is guarded against short replies exactly if there are none
-/

namespace Scsi

open Activity Session

namespace Exchange

/-- The command was delivered and ended with GOOD, and of the bytes that are needed some were moved,
but not all. -/
def FallsShort (e : Exchange) (needed : Nat) : Prop :=
  ∃ after, e.answer = some (true, after) ∧ after.status = Status.good.code ∧
    0 < after.actualLength.toNat ∧ after.actualLength.toNat < needed

theorem FallsShort.exists_endsWell {e : Exchange} {needed : Nat} (h : e.FallsShort needed) :
    ∃ bs, e.EndsWell bs := by
  obtain ⟨after, hanswer, hgood, -⟩ := h
  exact ⟨_, after, hanswer, .inl hgood, rfl⟩

/-- A question gets an error exactly if it came back and did not end well. -/
theorem exists_result_eq_error_iff {e : Exchange} :
    (∃ error, e.result = some (.error error)) ↔
      e.answer.isSome = true ∧ ∀ bs, ¬ e.EndsWell bs := by
  have hsome : e.result.isSome = e.answer.isSome := Option.isSome_map
  rw [← hsome]
  simp only [← result_eq_ok_iff]
  rcases e.result with _ | _ | _ <;> simp

end Exchange

/-- The three questions are told apart by their descriptor blocks. -/
theorem Question.addressed_ne (u : LogicalUnit) :
    Question.identity.addressed u ≠ Question.longCapacity.addressed u ∧
      Question.identity.addressed u ≠ Question.shortCapacity.addressed u ∧
      Question.longCapacity.addressed u ≠ Question.shortCapacity.addressed u := by
  have hcdb : ∀ {c d : Command}, c.cdb.length ≠ d.cdb.length → c.addressed u ≠ d.addressed u :=
    fun hne h => hne (congrArg (fun c => c.cdb.length) h)
  exact ⟨hcdb (by decide), hcdb (by decide), hcdb (by decide)⟩

/-- The unit shows the capacity. -/
def LogicalUnit.HasCapacity (w : LogicalUnit) (c : Capacity) : Prop :=
  w.capacity = c.blocks ∧ w.blockSize = c.blockSize

/-- After a discovery of `u` that asked the questions `sent` and left `w`: whether a reply is believed
is decided by the status that it came with. -/
structure Believes (u : LogicalUnit) (sent : List Exchange) (w : LogicalUnit) : Prop where
  /-- The 10-byte form is asked for exactly if the 16-byte form came back and did not end well. -/
  short_iff : (∃ s ∈ sent, s.sent = Question.shortCapacity.addressed u) ↔
    ∃ l ∈ sent, l.sent = Question.longCapacity.addressed u ∧ l.answer.isSome = true ∧
      ∀ bs, ¬ l.EndsWell bs
  /-- The unit is ready exactly if one of the two forms ended well. -/
  ready_iff : w.state = .ready ↔ ∃ e ∈ sent,
    (e.sent = Question.longCapacity.addressed u ∨ e.sent = Question.shortCapacity.addressed u) ∧
      ∃ bs, e.EndsWell bs
  /-- Its capacity is then read from the buffer of that form, whatever of it was moved. -/
  long : ∀ l ∈ sent, l.sent = Question.longCapacity.addressed u → ∀ bs, l.EndsWell bs →
    w.HasCapacity (longReply bs).capacity
  short : ∀ s ∈ sent, s.sent = Question.shortCapacity.addressed u → ∀ bs, s.EndsWell bs →
    w.HasCapacity (shortReply bs).capacity

/-- No capacity is taken from a reply that fell short: after a short reply in the 16-byte form the
10-byte form is asked for, and after a short reply in the 10-byte form the unit is not ready. -/
structure Guarded (u : LogicalUnit) (sent : List Exchange) (w : LogicalUnit) : Prop where
  long : ∀ l ∈ sent, l.sent = Question.longCapacity.addressed u → l.FallsShort 12 →
    ∃ s ∈ sent, s.sent = Question.shortCapacity.addressed u
  short : ∀ s ∈ sent, s.sent = Question.shortCapacity.addressed u → s.FallsShort 8 →
    w.state ≠ .ready

section

variable {u w : LogicalUnit} {sent : List Exchange}

/-! ## Replies and errors on the way -/

section Sizing

variable {answer : Option (Except ProbeError Capacity)} (h : Sizing u sent answer)

include h

/-- The 10-byte form is asked for exactly after an error of the 16-byte form. -/
theorem Sizing.short_iff : (∃ s ∈ sent, s.sent = Question.shortCapacity.addressed u) ↔
    ∃ l ∈ sent, l.sent = Question.longCapacity.addressed u ∧
      ∃ error, l.result = some (.error error) := by
  obtain ⟨-, -, hne⟩ := Question.addressed_ne u
  cases h <;> simp [*, hne.symm]

/-- A capacity is found out exactly if one of the two forms gets a reply. -/
theorem Sizing.found_iff : (∃ capacity, answer = some (.ok capacity)) ↔
    ∃ e ∈ sent, (e.sent = Question.longCapacity.addressed u ∨
      e.sent = Question.shortCapacity.addressed u) ∧ ∃ bs, e.result = some (.ok bs) := by
  cases h <;> simp [*]

/-- It is then the one in that reply. -/
theorem Sizing.capacity_eq : ∀ e ∈ sent, ∀ bs, e.result = some (.ok bs) →
    e.sent = Question.longCapacity.addressed u ∧ answer = some (.ok (longReply bs).capacity) ∨
      e.sent = Question.shortCapacity.addressed u ∧
        answer = some (.ok (shortReply bs).capacity) := by
  cases h <;> simp [*]

end Sizing

section Course

variable {answer : Option (Except DiscoveryError Findings)} (h : Course u sent answer)

include h

/-- The INQUIRY in front is none of the questions about the capacity. -/
theorem Course.short_iff : (∃ s ∈ sent, s.sent = Question.shortCapacity.addressed u) ↔
    ∃ l ∈ sent, l.sent = Question.longCapacity.addressed u ∧
      ∃ error, l.result = some (.error error) := by
  obtain ⟨hlong, hshort, -⟩ := Question.addressed_ne u
  cases h with
  | cut hi _ => simp [hi, hlong, hshort]
  | unidentified hi _ => simp [hi, hlong, hshort]
  | sizeCut hi _ hsizing => simp [hi, hlong, hshort, hsizing.short_iff]
  | sizeless hi _ hsizing => simp [hi, hlong, hshort, hsizing.short_iff]
  | found hi _ hsizing => simp [hi, hlong, hshort, hsizing.short_iff]

theorem Course.found_iff : (∃ f, answer = some (.ok f)) ↔
    ∃ e ∈ sent, (e.sent = Question.longCapacity.addressed u ∨
      e.sent = Question.shortCapacity.addressed u) ∧ ∃ bs, e.result = some (.ok bs) := by
  obtain ⟨hlong, hshort, -⟩ := Question.addressed_ne u
  cases h with
  | cut hi _ => simp [hi, hlong, hshort]
  | unidentified hi _ => simp [hi, hlong, hshort]
  | sizeCut hi _ hsizing => simp [hi, hlong, hshort, ← hsizing.found_iff]
  | sizeless hi _ hsizing => simp [hi, hlong, hshort, ← hsizing.found_iff]
  | found hi _ hsizing => simp [hi, hlong, hshort, ← hsizing.found_iff]

theorem Course.capacity_eq {e : Exchange} (he : e ∈ sent)
    (hasks : e.sent = Question.longCapacity.addressed u ∨
      e.sent = Question.shortCapacity.addressed u) {bs : Bytes} (hbs : e.result = some (.ok bs)) :
    ∃ inquiry capacity, answer = some (.ok ⟨inquiry, capacity⟩) ∧
      (e.sent = Question.longCapacity.addressed u ∧ capacity = (longReply bs).capacity ∨
        e.sent = Question.shortCapacity.addressed u ∧ capacity = (shortReply bs).capacity) := by
  obtain ⟨hlong, hshort, -⟩ := Question.addressed_ne u
  have hnot : e.sent ≠ Question.identity.addressed u := by
    rcases hasks with h | h <;> rw [h]
    · exact hlong.symm
    · exact hshort.symm
  cases h with
  | cut hi _ => exact absurd (List.mem_singleton.1 he ▸ hi) hnot
  | unidentified hi _ => exact absurd (List.mem_singleton.1 he ▸ hi) hnot
  | sizeCut hi _ hsizing =>
    have hmem := (List.mem_cons.1 he).resolve_left fun h => hnot (h ▸ hi)
    simpa using hsizing.capacity_eq e hmem bs hbs
  | sizeless hi _ hsizing =>
    have hmem := (List.mem_cons.1 he).resolve_left fun h => hnot (h ▸ hi)
    simpa using hsizing.capacity_eq e hmem bs hbs
  | found hi _ hsizing =>
    have hmem := (List.mem_cons.1 he).resolve_left fun h => hnot (h ▸ hi)
    exact ⟨_, _, rfl, by simpa using hsizing.capacity_eq e hmem bs hbs⟩

end Course

theorem LogicalUnit.state_concluded_eq_ready_iff {v : LogicalUnit}
    {answer : Option (Except DiscoveryError Findings)} :
    (v.concluded answer).state = .ready ↔ ∃ f, answer = some (.ok f) := by
  rcases answer with _ | _ | f <;> simp [concluded, publish]

/-- **A discovery believes by the status alone.** -/
theorem Course.believes {answer : Option (Except DiscoveryError Findings)}
    (h : Course u sent answer) (hw : w.cleared = u.cleared.concluded answer) :
    Believes u sent w := by
  obtain ⟨-, -, hne⟩ := Question.addressed_ne u
  have hstate : w.state = (u.cleared.concluded answer).state := congrArg (fun v => v.state) hw
  constructor
  case short_iff => simpa only [Exchange.exists_result_eq_error_iff] using h.short_iff
  case ready_iff =>
    rw [hstate, LogicalUnit.state_concluded_eq_ready_iff, h.found_iff]
    simp only [Exchange.result_eq_ok_iff]
  case long =>
    intro l hmem hl bs hbs
    obtain ⟨inquiry, capacity, rfl, hcapacity⟩ :=
      h.capacity_eq hmem (.inl hl) (Exchange.result_eq_ok_iff.2 hbs)
    rcases hcapacity with ⟨-, rfl⟩ | ⟨hs, -⟩
    · exact ⟨congrArg (fun v => v.capacity) hw, congrArg (fun v => v.blockSize) hw⟩
    · exact absurd (hl.symm.trans hs) hne
  case short =>
    intro s hmem hs bs hbs
    obtain ⟨inquiry, capacity, rfl, hcapacity⟩ :=
      h.capacity_eq hmem (.inr hs) (Exchange.result_eq_ok_iff.2 hbs)
    rcases hcapacity with ⟨hl, -⟩ | ⟨-, rfl⟩
    · exact absurd (hl.symm.trans hs) hne
    · exact ⟨congrArg (fun v => v.capacity) hw, congrArg (fun v => v.blockSize) hw⟩

/-- Each question is asked once. -/
theorem Course.eq_of_sent_eq {answer : Option (Except DiscoveryError Findings)}
    (h : Course u sent answer) {e e' : Exchange} (he : e ∈ sent) (he' : e' ∈ sent)
    (hsame : e.sent = e'.sent) : e = e' := by
  obtain ⟨hil, his, hls⟩ := Question.addressed_ne u
  have hquestions : u.questions.Nodup := by
    simp [LogicalUnit.questions, Question.all, hil, his, hls]
  obtain ⟨n, -, -, hsent⟩ := h.exists_take
  have hdistinct : (sent.map Exchange.sent).Nodup :=
    hsent ▸ (List.take_sublist n _).nodup hquestions
  exact List.inj_on_of_nodup_map hdistinct he he' hsame

/-- A discovery is guarded against short replies exactly if there are none. -/
theorem Course.guarded_iff {answer : Option (Except DiscoveryError Findings)}
    (h : Course u sent answer) (hbelieves : Believes u sent w) :
    Guarded u sent w ↔
      (∀ l ∈ sent, l.sent = Question.longCapacity.addressed u → ¬ l.FallsShort 12) ∧
        ∀ s ∈ sent, s.sent = Question.shortCapacity.addressed u → ¬ s.FallsShort 8 := by
  constructor
  · intro hguarded
    refine ⟨fun l hmem hl hshort => ?_, fun s hmem hs hshort => ?_⟩
    -- what falls short is believed, so the other form is not asked for
    · obtain ⟨l', hmem', hl', -, hnot⟩ := hbelieves.short_iff.1 (hguarded.long l hmem hl hshort)
      obtain ⟨bs, hbs⟩ := hshort.exists_endsWell
      obtain rfl := h.eq_of_sent_eq hmem hmem' (hl.trans hl'.symm)
      exact hnot bs hbs
    · exact hguarded.short s hmem hs hshort
        (hbelieves.ready_iff.2 ⟨s, hmem, .inr hs, hshort.exists_endsWell⟩)
  · rintro ⟨hlong, hshort⟩
    exact ⟨fun l hmem hl h => absurd h (hlong l hmem hl),
      fun s hmem hs h => absurd h (hshort s hmem hs)⟩

end

/-- **What a discovery believes.** It asks the first of its three questions, each once, and for the
10-byte form exactly if the 16-byte form came back without a good status. It succeeds, and the unit is
ready, exactly if one of the two forms ended well, and the capacity is then read from the buffer that
came back, whatever of it was moved. So a discovery is guarded against short replies exactly if it
gets none. -/
theorem discover_believes {σ : Type} [HostAdapter σ] {u : LogicalUnit}
    (hopen : u.state = .uninitialized ∨ u.state = .failed) (host : Host σ) :
    ∃ (sent : List Exchange) (w : LogicalUnit) (host' : Host σ),
      Host.Had host sent host' ∧
      (discover.effect (⟨u, some host⟩ : Session σ)).2 = ⟨w, some host'⟩ ∧
      ((discover.effect (⟨u, some host⟩ : Session σ)).1 = some (.ok ()) ↔ w.state = .ready) ∧
      (∃ n, 0 < n ∧ n ≤ 3 ∧ sent.map Exchange.sent = u.questions.take n) ∧
      Believes u sent w ∧
      (Guarded u sent w ↔
        (∀ l ∈ sent, l.sent = Question.longCapacity.addressed u → ¬ l.FallsShort 12) ∧
          ∀ s ∈ sent, s.sent = Question.shortCapacity.addressed u → ¬ s.FallsShort 8) := by
  obtain ⟨sent, answer, w, host', hcourse, hhad, heffect, hw⟩ := effect_discover_course hopen host
  have hbelieves := hcourse.believes hw
  refine ⟨sent, w, host', hhad, congrArg Prod.snd heffect, ?_, hcourse.exists_take, hbelieves,
    hcourse.guarded_iff hbelieves⟩
  have hstate : w.state = (u.cleared.concluded answer).state := congrArg (fun v => v.state) hw
  rw [heffect, hstate, LogicalUnit.state_concluded_eq_ready_iff]
  rcases answer with _ | _ | f <;> simp [Except.map]

/-- A reply to INQUIRY that is all zeros. -/
def Completion.zeroInquiry : Completion := ⟨true, Status.good.code, .empty, 96, Bytes.zeros 96⟩

/-- A reply in the 16-byte form that ends after the first four bytes of the address. -/
def Completion.briefCapacity : Completion := ⟨true, Status.good.code, .empty, 4, Bytes.zeros 4⟩

/-- A reply in the 10-byte form: 100 blocks of 512 bytes. -/
def Completion.hundredBlocks : Completion :=
  ⟨true, Status.good.code, .empty, 8, [0, 0, 0, 99, 0, 0, 2, 0]⟩

/-- A new unit whose reply in the 16-byte form ends early is ready after its discovery, with the
capacity of a reply that is all zeros. -/
theorem discover_believes_brief :
    let u := LogicalUnit.new 0 0 0 0
    let host : Host Scripted := Host.new
      (some ⟨[.zeroInquiry, .briefCapacity, .hundredBlocks]⟩) 16
    ∃ (sent : List Exchange) (w : LogicalUnit) (host' : Host Scripted),
      Host.Had host sent host' ∧
      (discover.effect (⟨u, some host⟩ : Session Scripted)).2 = ⟨w, some host'⟩ ∧
      Believes u sent w ∧ w.state = .ready ∧ w.capacity = 1 ∧ w.blockSize = 512 := by
  intro u host
  obtain ⟨sent, w, host', hhad, heffect, -, -, hbelieves, -⟩ := discover_believes (.inl rfl) host
    (u := u)
  have hleft : (discover.effect (⟨u, some host⟩ : Session Scripted)).2.unit.state = .ready ∧
      (discover.effect (⟨u, some host⟩ : Session Scripted)).2.unit.capacity = 1 ∧
      (discover.effect (⟨u, some host⟩ : Session Scripted)).2.unit.blockSize = 512 := by
    decide +kernel
  rw [heffect] at hleft
  exact ⟨sent, w, host', hhad, heffect, hbelieves, hleft⟩

/-- A reply in the 16-byte form with four bytes is published, and the 10-byte form, to which there is
a reply at hand, is not asked for: not every discovery is guarded against short replies. -/
theorem brief_reply_is_published :
    let u := LogicalUnit.new 0 0 0 0
    let host : Host Scripted := Host.new
      (some ⟨[.zeroInquiry, .briefCapacity, .hundredBlocks]⟩) 16
    let sent := [Completion.zeroInquiry.exchange (Question.identity.addressed u),
      Completion.briefCapacity.exchange (Question.longCapacity.addressed u)]
    ∃ (w : LogicalUnit) (host' : Host Scripted),
      Host.Had host sent host' ∧
      discover.effect (⟨u, some host⟩ : Session Scripted) = (some (.ok ()), ⟨w, some host'⟩) ∧
      w.state = .ready ∧ w.capacity = 1 ∧ ¬ Guarded u sent w := by
  intro u host sent
  refine ⟨_, ⟨some ⟨[.hundredBlocks]⟩, 16, .zeros 16⟩, ?_, rfl, rfl, rfl, ?_⟩
  · exact .cons (Scripted.effect_submit _ _ _) (.cons (Scripted.effect_submit _ _ _) .nil)
  · intro hguarded
    have hbrief : (Completion.briefCapacity.exchange
        (Question.longCapacity.addressed u)).FallsShort 12 := ⟨_, rfl, rfl, by decide, by decide⟩
    obtain ⟨s, hmem, hs⟩ := hguarded.long _ (by simp [sent]) rfl hbrief
    -- neither of the two questions that were asked is the 10-byte form
    obtain ⟨-, hne, hne'⟩ := Question.addressed_ne u
    rcases List.mem_cons.1 hmem with rfl | hmem
    · exact hne hs
    · obtain rfl := List.mem_singleton.1 hmem
      exact hne' hs

end Scsi
