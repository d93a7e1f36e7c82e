import Scsi.Proofs.Host.Completion
import Scsi.Session.Discovery

/-!
# The course of a discovery

A discovery is a series of submissions, each made on what the one before it left of the host
interface. Which question comes next is decided by how the questions so far were answered, and so is
what is found out in the end. This holds for every adapter, whatever it does with a record, and also
where it crashes.

## Main definitions

* `Question.identity`, `Question.longCapacity`, `Question.shortCapacity`: the questions
* `LogicalUnit.questions`: the questions, as they are sent for a unit
* `Host.Had host sent host'`: submissions were made one after the other, from `host` to `host'`
* `Exchange.Made I e`: the exchange was made on a host interface with `I`
* `Exchange.result`: what the sender of a question gets from what came back
* `Exchange.EndsWell`: the command was delivered and ended well
* `longReply`, `shortReply`: the numbers in a reply to READ CAPACITY
* `Sizing u sent answer`, `Course u sent answer`: the questions about the capacity, and all questions
  of a discovery of `u`, with what came back and what they find out

## Main results

* `Host.Had.keeps`, `Host.Had.made`: what its submissions keep, a series keeps, and each exchange of
  it was made with that
* `Exchange.result_eq_ok_iff`: a reply is what ended well
* `Course.exists_take`: a course asks the first questions of a discovery, in order
* `Course.length_eq`: which questions succeed decides how many are asked
* `exists_effect_ask`: the answer of a question is read off its exchange
* `effect_explore_course`: the questions of a discovery take a course
-/

namespace Scsi

open Activity Session

/-! ## Questions -/

namespace Question

/-- INQUIRY for the standard data. -/
def identity : Command :=
  .fresh (.inquiry 0 96 0) (.input (Bytes.zeros Inquiry.size)) 96

/-- READ CAPACITY in the 16-byte form. -/
def longCapacity : Command :=
  .fresh (.readCapacity16 32 0) (.input (Bytes.zeros CapacityReply.size16)) 32

/-- READ CAPACITY in the 10-byte form. -/
def shortCapacity : Command :=
  .fresh (.readCapacity10 0) (.input (Bytes.zeros CapacityReply.size10)) 8

theorem inquiry_zeros : Command.inquiry 0 (Bytes.zeros Inquiry.size) = .ok identity := rfl

theorem readCapacity16_zeros :
    Command.readCapacity Opcode.readCapacity16Action (Bytes.zeros CapacityReply.size16) =
      .ok longCapacity := rfl

theorem readCapacity10_zeros :
    Command.readCapacity 0 (Bytes.zeros CapacityReply.size10) = .ok shortCapacity := rfl

/-- The questions of a discovery. -/
def all : List Command := [identity, longCapacity, shortCapacity]

theorem longCapacity_mem : longCapacity ∈ all := .tail _ (.head _)

end Question

/-- The questions as they are sent for the unit. -/
def LogicalUnit.questions (u : LogicalUnit) : List Command :=
  Question.all.map fun c => c.addressed u

section

variable {σ : Type} [HostAdapter σ]

theorem ask_eq {size : Nat} {build : Bytes → Except Error Command} {c : Command}
    (h : build (Bytes.zeros size) = .ok c) :
    (ask size build : Activity (Session σ) _) = do
      let (outcome, after) ← perform c
      return outcome.map fun _ => after.data.bytes := by
  simp only [ask, h]

/-- A question that is delivered is answered with the buffer that comes back, if it ends well. -/
theorem effect_ask {size : Nat} {build : Bytes → Except Error Command} {c c' : Command}
    {u w : LogicalUnit} {host host' : Host σ} (h : build (Bytes.zeros size) = .ok c)
    (hw : w.cleared = u.cleared)
    (hsent : (Host.submit (c.addressed u)).effect host = (some (true, c'), host')) :
    (ask size build).effect (⟨w, some host⟩ : Session σ) =
      (some (c'.outcome.map fun _ => c'.data.bytes), ⟨u.completed c', some host'⟩) := by
  rw [ask_eq h, effect_bind_of_answer (effect_perform_of_delivered hw hsent), effect_pure]

/-- A question that is lost is answered with an error. -/
theorem effect_ask_of_lost {size : Nat} {build : Bytes → Except Error Command} {c c' : Command}
    {u w : LogicalUnit} {host host' : Host σ} (h : build (Bytes.zeros size) = .ok c)
    (hw : w.cleared = u.cleared)
    (hsent : (Host.submit (c.addressed u)).effect host = (some (false, c'), host')) :
    (ask size build).effect (⟨w, some host⟩ : Session σ) =
      (some (.error .protocolPhase), ⟨u.cleared, some host'⟩) := by
  rw [ask_eq h, effect_bind, effect_perform_of_host, Command.addressed_congr hw, hsent, ← hw]
  rfl

/-- Without a host interface the questions end with the first of them. -/
theorem effect_explore_of_no_host (u : LogicalUnit) :
    explore.effect (⟨u, none⟩ : Session σ) =
      (some (.error (.inquiryFailed .noInterface)), ⟨u.cleared, none⟩) := by
  have hask : probeInquiry.effect (⟨u, none⟩ : Session σ) =
      (some (.error .noInterface), ⟨u.cleared, none⟩) := by
    unfold probeInquiry
    rw [ask_eq Question.inquiry_zeros, effect_bind_of_answer (effect_perform_of_no_host _ u)]
    rfl
  unfold explore
  rw [effect_bind_of_answer hask]
  rfl

end

/-! ## Submissions one after the other -/

/-- Submissions were made one after the other, from `host` to `host'`. Each is an exchange, with what
came back to its caller. -/
inductive Host.Had {σ : Type} [HostAdapter σ] : Host σ → List Exchange → Host σ → Prop
  | nil {host : Host σ} : Had host [] host
  | cons {c : Command} {answer : Option (Bool × Command)} {host host₁ host₂ : Host σ}
      {sent : List Exchange} (h : (submit c).effect host = (answer, host₁))
      (hsent : Had host₁ sent host₂) : Had host (⟨c, answer⟩ :: sent) host₂

/-- The exchange was made on a host interface with `I`. -/
def Exchange.Made {σ : Type} [HostAdapter σ] (I : Host σ → Prop) (e : Exchange) : Prop :=
  ∃ host left, I host ∧ (Host.submit e.sent).effect host = (e.answer, left)

section

variable {σ : Type} [HostAdapter σ] {host host₁ host₂ : Host σ} {sent sent' : List Exchange}

theorem Host.Had.append (h : Had host sent host₁) (h' : Had host₁ sent' host₂) :
    Had host (sent ++ sent') host₂ := by
  induction h with
  | nil => exact h'
  | cons hsubmit _ ih => exact .cons hsubmit (ih h')

/-- What every submission of the series keeps, the series keeps. -/
theorem Host.Had.keeps {I : Host σ → Prop} (h : Had host sent host₁)
    (hI : ∀ e ∈ sent, ∀ host, I host → I ((submit e.sent).effect host).2) (hhost : I host) :
    I host₁ := by
  induction h with
  | nil => exact hhost
  | @cons c answer host host₁ host₂ sent hsubmit _ ih =>
    obtain ⟨hfirst, hrest⟩ := List.forall_mem_cons.1 hI
    have hkept := hfirst host hhost
    rw [hsubmit] at hkept
    exact ih hrest hkept

/-- Each exchange of a series was made with what the submissions keep. -/
theorem Host.Had.made {I : Host σ → Prop} (h : Had host sent host₁)
    (hI : ∀ e ∈ sent, ∀ host, I host → I ((submit e.sent).effect host).2) (hhost : I host) :
    ∀ e ∈ sent, e.Made I := by
  induction h with
  | nil => exact fun _ h => nomatch h
  | @cons c answer host host₁ host₂ sent hsubmit _ ih =>
    obtain ⟨hfirst, hrest⟩ := List.forall_mem_cons.1 hI
    have hkept := hfirst host hhost
    rw [hsubmit] at hkept
    exact List.forall_mem_cons.2 ⟨⟨host, host₁, hhost, hsubmit⟩, ih hrest hkept⟩

end

/-- Without an adapter every command is lost. -/
theorem Host.Had.lost {σ : Type} [HostAdapter σ] {host host' : Host σ} {sent : List Exchange}
    (h : Host.Had host sent host') (hadapter : host.adapter = none) :
    host' = host ∧ ∀ e ∈ sent, ∃ after, e.answer = some (false, after) := by
  induction h with
  | nil => exact ⟨rfl, fun _ h => nomatch h⟩
  | @cons c answer host host₁ host₂ sent hsubmit _ ih =>
    rw [effect_submit, effect_call_of_none hadapter] at hsubmit
    obtain ⟨rfl, rfl⟩ := Prod.mk.inj hsubmit
    obtain ⟨rfl, hall⟩ := ih hadapter
    exact ⟨rfl, List.forall_mem_cons.2 ⟨⟨_, rfl⟩, hall⟩⟩

/-! ## Answers -/

namespace Exchange

/-- What the sender of a question gets from what came back: the buffer if the command was delivered
and ended well, an error if not, and nothing after a crash. -/
def result (e : Exchange) : Option (Except Error Bytes) :=
  e.answer.map fun (delivered, after) =>
    if delivered then after.outcome.map fun _ => after.data.bytes else .error .protocolPhase

/-- The command was delivered and ended well, and the buffer came back with these bytes. -/
def EndsWell (e : Exchange) (bs : Bytes) : Prop :=
  ∃ after, e.answer = some (true, after) ∧
    (after.status = Status.good.code ∨ after.status = Status.intermediate.code) ∧
    after.data.bytes = bs

/-- A question gets a reply exactly if it was delivered and ended well. -/
theorem result_eq_ok_iff {e : Exchange} {bs : Bytes} : e.result = some (.ok bs) ↔ e.EndsWell bs := by
  obtain ⟨sent, _ | ⟨_ | _, after⟩⟩ := e
  · simp [result, EndsWell]
  · simp [result, EndsWell]
  · have hresult : result ⟨sent, some (true, after)⟩ =
        some (after.outcome.map fun _ => after.data.bytes) := rfl
    have hmap : (after.outcome.map fun _ => after.data.bytes) = .ok bs ↔
        after.outcome = .ok () ∧ after.data.bytes = bs := by
      cases after.outcome <;> simp [Except.map]
    rw [hresult, Option.some.injEq, hmap, Command.outcome_eq_ok_iff_code]
    simp [EndsWell]

section

variable {σ : Type} [HostAdapter σ] {v : LogicalUnit} {H : Option (Host σ) → Prop} {c : Command}
  {e : Exchange} (h : e.Made fun host => H (some host)) (hsent : e.sent = c.addressed v)

include h hsent

/-- A reply to a question is what the adapter replies. -/
theorem Made.reply {A : Bytes → Prop} (hA : Host.Replies v H c A) {bs : Bytes}
    (hresult : e.result = some (.ok bs)) : A bs := by
  obtain ⟨host, left, hhost, hsubmit⟩ := h
  obtain ⟨after, hanswer, hstatus, rfl⟩ := result_eq_ok_iff.1 hresult
  rw [hsent, hanswer] at hsubmit
  exact hA host left after hhost hsubmit (Command.outcome_eq_ok_iff_code.2 hstatus)

/-- A question that the adapter returns from has an answer. -/
theorem Made.isSome_answer (hc : Host.Returns v H c) : e.answer.isSome = true := by
  obtain ⟨host, left, hhost, hsubmit⟩ := h
  have hanswer := hc host hhost
  rwa [← hsent, hsubmit] at hanswer

/-- A question that the adapter fulfils gets a reply. -/
theorem Made.exists_reply (hc : Host.Fulfils v H c) : ∃ bs, e.result = some (.ok bs) := by
  obtain ⟨host, left, hhost, hsubmit⟩ := h
  obtain ⟨after, host', hdelivered, hok⟩ := hc host hhost
  rw [hsent, hdelivered] at hsubmit
  have hanswer : e.answer = some (true, after) := (Prod.mk.inj hsubmit).1.symm
  exact ⟨_, result_eq_ok_iff.2 ⟨after, hanswer, Command.outcome_eq_ok_iff_code.1 hok, rfl⟩⟩

end

end Exchange

/-- The numbers in a reply to READ CAPACITY(16). -/
def longReply (bs : Bytes) : CapacityReply :=
  ⟨UInt64.ofNat (Bytes.number (bs.slice 0 8)), UInt32.ofNat (Bytes.number (bs.slice 8 4))⟩

/-- The numbers in a reply to READ CAPACITY(10). -/
def shortReply (bs : Bytes) : CapacityReply :=
  ⟨UInt64.ofNat (Bytes.number (bs.slice 0 4)), UInt32.ofNat (Bytes.number (bs.slice 4 4))⟩

/-- The bytes of a reply that are enough for READ CAPACITY(16) are read. -/
theorem ofBytes16_of_length {bs : Bytes} (h : 12 ≤ bs.length) :
    CapacityReply.ofBytes16 bs = .ok (longReply bs) := if_neg (Nat.not_lt.2 h)

/-- The bytes of a reply that are enough for READ CAPACITY(10) are read. -/
theorem ofBytes10_of_length {bs : Bytes} (h : 8 ≤ bs.length) :
    CapacityReply.ofBytes10 bs = .ok (shortReply bs) := if_neg (Nat.not_lt.2 h)

/-- The questions about the capacity of `u` with what came back, and the capacity that they find out:
the 16-byte form, and the 10-byte form after an error. The answer is missing after a crash. -/
inductive Sizing (u : LogicalUnit) : List Exchange → Option (Except ProbeError Capacity) → Prop
  | longCut {l : Exchange} (hl : l.sent = Question.longCapacity.addressed u)
      (hresult : l.result = none) : Sizing u [l] none
  | long {l : Exchange} {bs : Bytes} (hl : l.sent = Question.longCapacity.addressed u)
      (hresult : l.result = some (.ok bs)) : Sizing u [l] (some (.ok (longReply bs).capacity))
  | shortCut {l s : Exchange} {e : Error} (hl : l.sent = Question.longCapacity.addressed u)
      (hresult : l.result = some (.error e)) (hs : s.sent = Question.shortCapacity.addressed u)
      (hresult' : s.result = none) : Sizing u [l, s] none
  | short {l s : Exchange} {e : Error} {bs : Bytes}
      (hl : l.sent = Question.longCapacity.addressed u) (hresult : l.result = some (.error e))
      (hs : s.sent = Question.shortCapacity.addressed u) (hresult' : s.result = some (.ok bs)) :
      Sizing u [l, s] (some (.ok (shortReply bs).capacity))
  | sizeless {l s : Exchange} {e e' : Error} (hl : l.sent = Question.longCapacity.addressed u)
      (hresult : l.result = some (.error e)) (hs : s.sent = Question.shortCapacity.addressed u)
      (hresult' : s.result = some (.error e')) : Sizing u [l, s] (some (.error (.command e')))

/-- The questions of a discovery of `u` with what came back, and what they find out: INQUIRY, and
after a reply the questions about the capacity. The answer is missing after a crash. -/
inductive Course (u : LogicalUnit) : List Exchange → Option (Except DiscoveryError Findings) → Prop
  | cut {i : Exchange} (hi : i.sent = Question.identity.addressed u) (hresult : i.result = none) :
      Course u [i] none
  | unidentified {i : Exchange} {e : Error} (hi : i.sent = Question.identity.addressed u)
      (hresult : i.result = some (.error e)) : Course u [i] (some (.error (.inquiryFailed e)))
  | sizeCut {i : Exchange} {inquiry : Bytes} {sent : List Exchange}
      (hi : i.sent = Question.identity.addressed u) (hresult : i.result = some (.ok inquiry))
      (hsizing : Sizing u sent none) : Course u (i :: sent) none
  | sizeless {i : Exchange} {inquiry : Bytes} {sent : List Exchange} {e : ProbeError}
      (hi : i.sent = Question.identity.addressed u) (hresult : i.result = some (.ok inquiry))
      (hsizing : Sizing u sent (some (.error e))) :
      Course u (i :: sent) (some (.error (.capacityFailed e)))
  | found {i : Exchange} {inquiry : Bytes} {sent : List Exchange} {capacity : Capacity}
      (hi : i.sent = Question.identity.addressed u) (hresult : i.result = some (.ok inquiry))
      (hsizing : Sizing u sent (some (.ok capacity))) :
      Course u (i :: sent) (some (.ok ⟨inquiry, capacity⟩))

/-- How far the discovery of a unit is has no part in the questions about its capacity. -/
theorem Sizing.of_state {u : LogicalUnit} {state : DiscoveryState} {sent : List Exchange}
    {answer : Option (Except ProbeError Capacity)} (h : Sizing { u with state } sent answer) :
    Sizing u sent answer := by
  cases h with
  | longCut hl hresult => exact .longCut hl hresult
  | long hl hresult => exact .long hl hresult
  | shortCut hl hresult hs hresult' => exact .shortCut hl hresult hs hresult'
  | short hl hresult hs hresult' => exact .short hl hresult hs hresult'
  | sizeless hl hresult hs hresult' => exact .sizeless hl hresult hs hresult'

/-- How far the discovery of a unit is has no part in its course. -/
theorem Course.of_state {u : LogicalUnit} {state : DiscoveryState} {sent : List Exchange}
    {answer : Option (Except DiscoveryError Findings)} (h : Course { u with state } sent answer) :
    Course u sent answer := by
  cases h with
  | cut hi hresult => exact .cut hi hresult
  | unidentified hi hresult => exact .unidentified hi hresult
  | sizeCut hi hresult hsizing => exact .sizeCut hi hresult hsizing.of_state
  | sizeless hi hresult hsizing => exact .sizeless hi hresult hsizing.of_state
  | found hi hresult hsizing => exact .found hi hresult hsizing.of_state

/-- The questions of a course are the first ones of a discovery, in order. -/
theorem Course.exists_take {u : LogicalUnit} {sent : List Exchange}
    {answer : Option (Except DiscoveryError Findings)} (h : Course u sent answer) :
    ∃ n, 0 < n ∧ n ≤ 3 ∧ sent.map Exchange.sent = u.questions.take n := by
  have hquestions : u.questions = [Question.identity.addressed u, Question.longCapacity.addressed u,
    Question.shortCapacity.addressed u] := rfl
  have hsizing : ∀ {sent : List Exchange} {answer : Option (Except ProbeError Capacity)},
      Sizing u sent answer → ∃ n, n ≤ 2 ∧ sent.map Exchange.sent =
        [Question.longCapacity.addressed u, Question.shortCapacity.addressed u].take n := by
    intro sent answer h
    cases h with
    | longCut hl _ => exact ⟨1, by decide, by simp [hl]⟩
    | long hl _ => exact ⟨1, by decide, by simp [hl]⟩
    | shortCut hl _ hs _ => exact ⟨2, by decide, by simp [hl, hs]⟩
    | short hl _ hs _ => exact ⟨2, by decide, by simp [hl, hs]⟩
    | sizeless hl _ hs _ => exact ⟨2, by decide, by simp [hl, hs]⟩
  have hcons : ∀ {i : Exchange} {sent : List Exchange} {answer : Option (Except ProbeError Capacity)},
      i.sent = Question.identity.addressed u → Sizing u sent answer →
        ∃ n, 0 < n ∧ n ≤ 3 ∧ (i :: sent).map Exchange.sent = u.questions.take n := by
    intro i sent answer hi h
    obtain ⟨n, hn, hsent⟩ := hsizing h
    exact ⟨n + 1, Nat.succ_pos n, Nat.succ_le_succ hn, by simp [hquestions, hi, hsent]⟩
  cases h with
  | cut hi _ => exact ⟨1, by decide, by decide, by simp [hquestions, hi]⟩
  | unidentified hi _ => exact ⟨1, by decide, by decide, by simp [hquestions, hi]⟩
  | sizeCut hi _ h => exact hcons hi h
  | sizeless hi _ h => exact hcons hi h
  | found hi _ h => exact hcons hi h

/-! ## Courses that are not cut off -/

theorem Exchange.result_eq_none_iff {e : Exchange} : e.result = none ↔ e.answer = none :=
  Option.map_eq_none_iff

/-- A command that was delivered gets a reply exactly if it ended well. -/
theorem Exchange.exists_result_iff {c after : Command} :
    (∃ bs, result ⟨c, some (true, after)⟩ = some (.ok bs)) ↔ after.outcome = .ok () := by
  simp only [result, Option.map_some, if_true, Option.some.injEq]
  cases after.outcome <;> simp [Except.map]

/-- All that is sent in a course is questions. -/
theorem Course.mem_questions {u : LogicalUnit} {sent : List Exchange}
    {answer : Option (Except DiscoveryError Findings)} (h : Course u sent answer) {e : Exchange}
    (he : e ∈ sent) : e.sent ∈ u.questions := by
  obtain ⟨n, -, -, htake⟩ := h.exists_take
  exact List.mem_of_mem_take (htake ▸ List.mem_map_of_mem he)

/-- A course is cut off exactly if one of its questions is not answered. -/
theorem Course.cut_iff {u : LogicalUnit} {sent : List Exchange}
    {answer : Option (Except DiscoveryError Findings)} (h : Course u sent answer) :
    answer = none ↔ ∃ e ∈ sent, e.answer = none := by
  have hsizing : ∀ {sent : List Exchange} {answer : Option (Except ProbeError Capacity)},
      Sizing u sent answer → (answer = none ↔ ∃ e ∈ sent, e.result = none) := by
    intro sent answer h
    cases h <;> simp [*]
  simp only [← Exchange.result_eq_none_iff]
  cases h with
  | cut _ hresult => simp [hresult]
  | unidentified _ hresult => simp [hresult]
  | sizeCut _ hresult h => simpa [hresult] using hsizing h
  | sizeless _ hresult h => simpa [hresult] using hsizing h
  | found _ hresult h => simpa [hresult] using hsizing h

/-- A course with an answer to each of its questions finds something out, or fails. -/
theorem Course.isSome_answer {u : LogicalUnit} {sent : List Exchange}
    {answer : Option (Except DiscoveryError Findings)} (h : Course u sent answer)
    (hsent : ∀ e ∈ sent, e.answer.isSome = true) : answer.isSome = true := by
  rw [Option.isSome_iff_ne_none, ne_eq, h.cut_iff]
  rintro ⟨e, he, hnone⟩
  exact Option.isSome_iff_ne_none.1 (hsent e he) hnone

/-- **Which questions succeed** decides how many are asked and how the course ends: INQUIRY is the
last one if it fails, the 16-byte form if it succeeds, and the 10-byte form otherwise. -/
theorem Course.length_eq {u : LogicalUnit} {sent : List Exchange}
    {answer : Except DiscoveryError Findings} (h : Course u sent (some answer))
    {Good : Command → Prop} [DecidablePred Good]
    (hgood : ∀ e ∈ sent, (∃ bs, e.result = some (.ok bs)) ↔ Good e.sent) :
    sent.length =
        (if Good (Question.identity.addressed u) then
          if Good (Question.longCapacity.addressed u) then 2 else 3
        else 1) ∧
      (answer.isOk = true ↔ Good (Question.identity.addressed u) ∧
        (Good (Question.longCapacity.addressed u) ∨
          Good (Question.shortCapacity.addressed u))) := by
  have hok : ∀ e ∈ sent, ∀ {c bs}, e.sent = c → e.result = some (.ok bs) → Good c :=
    fun e he _ bs hc hresult => hc ▸ (hgood e he).1 ⟨bs, hresult⟩
  have herror : ∀ e ∈ sent, ∀ {c error}, e.sent = c → e.result = some (.error error) → ¬ Good c := by
    intro e he c error hc hresult hgood'
    obtain ⟨bs, hbs⟩ := (hgood e he).2 (hc ▸ hgood')
    exact nomatch hresult.symm.trans hbs
  cases h with
  | unidentified hi hresult =>
    have hidentity := herror _ (by simp) hi hresult
    simp [hidentity, Except.isOk, Except.toBool]
  | sizeless hi hresult hsizing =>
    have hidentity := hok _ (by simp) hi hresult
    cases hsizing with
    | sizeless hl hlong hs hshort =>
      have hlong' := herror _ (by simp) hl hlong
      have hshort' := herror _ (by simp) hs hshort
      simp [hidentity, hlong', hshort', Except.isOk, Except.toBool]
  | found hi hresult hsizing =>
    have hidentity := hok _ (by simp) hi hresult
    cases hsizing with
    | long hl hlong =>
      have hlong' := hok _ (by simp) hl hlong
      simp [hidentity, hlong', Except.isOk, Except.toBool]
    | short hl hlong hs hshort =>
      have hlong' := herror _ (by simp) hl hlong
      have hshort' := hok _ (by simp) hs hshort
      simp [hidentity, hlong', hshort', Except.isOk, Except.toBool]

section

variable {σ : Type} [HostAdapter σ] {u w : LogicalUnit} (hw : w.cleared = u.cleared)

include hw

/-- **A question** is one submission, and its answer is read off the exchange. -/
theorem exists_effect_ask {size : Nat} {build : Bytes → Except Error Command} {c : Command}
    (hbuild : build (Bytes.zeros size) = .ok c) (host : Host σ) :
    ∃ (e : Exchange) (v : LogicalUnit) (host' : Host σ),
      e.sent = c.addressed u ∧ (Host.submit e.sent).effect host = (e.answer, host') ∧
      (ask size build).effect (⟨w, some host⟩ : Session σ) = (e.result, ⟨v, some host'⟩) ∧
      v.cleared = u.cleared ∧ ∀ bs, e.result = some (.ok bs) → bs.length = c.data.length := by
  rcases hsent : (Host.submit (c.addressed u)).effect host with ⟨_ | ⟨_ | _, after⟩, host'⟩
  -- the adapter crashed, lost the command, or delivered it
  · refine ⟨⟨c.addressed u, none⟩, w.cleared, host', rfl, hsent, ?_, hw, fun _ h => nomatch h⟩
    rw [ask_eq hbuild, effect_bind, effect_perform_of_host, Command.addressed_congr hw, hsent]
    rfl
  · exact ⟨⟨c.addressed u, some (false, after)⟩, u.cleared, host', rfl, hsent,
      effect_ask_of_lost hbuild hw hsent, rfl, fun _ h => nomatch h⟩
  · refine ⟨⟨c.addressed u, some (true, after)⟩, u.completed after, host', rfl, hsent,
      effect_ask hbuild hw hsent, LogicalUnit.cleared_completed _ _, fun bs hbs => ?_⟩
    have hresult : (after.outcome.map fun _ => after.data.bytes) = .ok bs := Option.some.inj hbs
    have hlength : after.data.length = (c.addressed u).data.length := Host.length_data_of_submit hsent
    cases houtcome : after.outcome with
    | error e =>
      rw [houtcome] at hresult
      exact nomatch hresult
    | ok _ =>
      rw [houtcome] at hresult
      obtain rfl := Except.ok.inj hresult
      exact hlength

/-- The 16-byte form is asked for once, and its answer is that of the exchange. -/
theorem exists_effect_probeCapacity16 (host : Host σ) :
    ∃ (l : Exchange) (v : LogicalUnit) (host' : Host σ),
      l.sent = Question.longCapacity.addressed u ∧
      (Host.submit l.sent).effect host = (l.answer, host') ∧
      probeCapacity16.effect (⟨w, some host⟩ : Session σ) =
        (l.result.map fun r => (r.map fun bs => (longReply bs).capacity).mapError .command,
          ⟨v, some host'⟩) ∧
      v.cleared = u.cleared := by
  obtain ⟨l, v, host', hl, hsent, heffect, hv, hlength⟩ :=
    exists_effect_ask hw Question.readCapacity16_zeros host
  refine ⟨l, v, host', hl, hsent, ?_, hv⟩
  unfold probeCapacity16
  rcases hresult : l.result with _ | e | bs
  all_goals rw [hresult] at heffect
  · exact effect_bind_of_crash heffect _
  · rw [effect_bind_of_answer heffect]
    rfl
  · have hread : CapacityReply.ofBytes16 bs = .ok (longReply bs) := by
      refine ofBytes16_of_length ?_
      rw [hlength bs hresult]
      decide
    rw [effect_bind_of_answer heffect]
    simp only [hread]
    rfl

/-- The 10-byte form is asked for once, and its answer is that of the exchange. -/
theorem exists_effect_probeCapacity10 (host : Host σ) :
    ∃ (s : Exchange) (v : LogicalUnit) (host' : Host σ),
      s.sent = Question.shortCapacity.addressed u ∧
      (Host.submit s.sent).effect host = (s.answer, host') ∧
      probeCapacity10.effect (⟨w, some host⟩ : Session σ) =
        (s.result.map fun r => (r.map fun bs => (shortReply bs).capacity).mapError .command,
          ⟨v, some host'⟩) ∧
      v.cleared = u.cleared := by
  obtain ⟨s, v, host', hs, hsent, heffect, hv, hlength⟩ :=
    exists_effect_ask hw Question.readCapacity10_zeros host
  refine ⟨s, v, host', hs, hsent, ?_, hv⟩
  unfold probeCapacity10
  rcases hresult : s.result with _ | e | bs
  all_goals rw [hresult] at heffect
  · exact effect_bind_of_crash heffect _
  · rw [effect_bind_of_answer heffect]
    rfl
  · have hread : CapacityReply.ofBytes10 bs = .ok (shortReply bs) := by
      refine ofBytes10_of_length ?_
      rw [hlength bs hresult]
      decide
    rw [effect_bind_of_answer heffect]
    simp only [hread]
    -- an answer at the limit of the form is only reported
    split <;> rfl

/-- The questions about the capacity are a sizing. -/
theorem exists_effect_probeCapacity (host : Host σ) :
    ∃ (sent : List Exchange) (answer : Option (Except ProbeError Capacity)) (v : LogicalUnit)
      (host' : Host σ),
      Sizing u sent answer ∧ Host.Had host sent host' ∧
      probeCapacity.effect (⟨w, some host⟩ : Session σ) = (answer, ⟨v, some host'⟩) ∧
      v.cleared = u.cleared := by
  obtain ⟨l, v, host₁, hl, hsent, heffect, hv⟩ := exists_effect_probeCapacity16 hw host
  unfold probeCapacity
  rcases hresult : l.result with _ | e | bs
  all_goals rw [hresult] at heffect
  · exact ⟨[l], none, v, host₁, .longCut hl hresult, .cons hsent .nil,
      effect_bind_of_crash heffect _, hv⟩
  -- only after an error the other form is asked for
  · obtain ⟨s, v', host₂, hs, hsent', heffect', hv'⟩ := exists_effect_probeCapacity10 hv host₁
    have hhad : Host.Had host [l, s] host₂ := .cons hsent (.cons hsent' .nil)
    rw [effect_bind_of_answer heffect]
    change ∃ sent answer v host', _ ∧ _ ∧ (getUnit >>= _).effect _ = _ ∧ _
    rw [effect_bind_of_answer (effect_getUnit _), effect_bind_of_answer (effect_note _ _ _ _ _ _)]
    rcases hresult' : s.result with _ | e' | bs
    all_goals rw [hresult'] at heffect'
    · exact ⟨_, _, v', host₂, .shortCut hl hresult hs hresult', hhad, heffect', hv'⟩
    · exact ⟨_, _, v', host₂, .sizeless hl hresult hs hresult', hhad, heffect', hv'⟩
    · exact ⟨_, _, v', host₂, .short hl hresult hs hresult', hhad, heffect', hv'⟩
  · rw [effect_bind_of_answer heffect]
    exact ⟨[l], _, v, host₁, .long hl hresult, .cons hsent .nil, rfl, hv⟩

/-- **The questions of a discovery** take a course. -/
theorem effect_explore_course (host : Host σ) :
    ∃ (sent : List Exchange) (answer : Option (Except DiscoveryError Findings)) (v : LogicalUnit)
      (host' : Host σ),
      Course u sent answer ∧ Host.Had host sent host' ∧
      explore.effect (⟨w, some host⟩ : Session σ) = (answer, ⟨v, some host'⟩) ∧
      v.cleared = u.cleared := by
  obtain ⟨i, v, host₁, hi, hsent, heffect, hv, -⟩ :=
    exists_effect_ask hw Question.inquiry_zeros host
  unfold explore probeInquiry
  rcases hresult : i.result with _ | e | inquiry
  all_goals rw [hresult] at heffect
  · exact ⟨[i], none, v, host₁, .cut hi hresult, .cons hsent .nil,
      effect_bind_of_crash heffect _, hv⟩
  · rw [effect_bind_of_answer heffect]
    exact ⟨[i], _, v, host₁, .unidentified hi hresult, .cons hsent .nil, rfl, hv⟩
  · obtain ⟨sent, answer, v', host₂, hsizing, hhad, hcapacity, hv'⟩ :=
      exists_effect_probeCapacity hv host₁
    rw [effect_bind_of_answer heffect]
    rcases answer with _ | e | capacity
    · exact ⟨i :: sent, none, v', host₂, .sizeCut hi hresult hsizing, .cons hsent hhad,
        effect_bind_of_crash hcapacity _, hv'⟩
    · refine ⟨i :: sent, _, v', host₂, .sizeless hi hresult hsizing, .cons hsent hhad, ?_, hv'⟩
      exact (effect_bind_of_answer hcapacity _).trans rfl
    · refine ⟨i :: sent, _, v', host₂, .found hi hresult hsizing, .cons hsent hhad, ?_, hv'⟩
      exact (effect_bind_of_answer hcapacity _).trans rfl

end

end Scsi
