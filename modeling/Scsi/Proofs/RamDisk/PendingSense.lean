import Scsi.Proofs.RamDisk.Asking

/-!
# Pending sense of a RAM disk

The sense that waits in a disk is that of the last condition it answered with, unless a command
ended well or the disk was reset since then. What a command was answered with is read off the
answer; where sense was not asked for, off the answer that the command gets when it asks.

## Main definitions

* `RamDisk.Signal`: what a step says about sense
* `RamDisk.signals steps s`: what some steps say, in order
* `RamDisk.Outstanding signals sense`: the last condition, if nothing ended it
* `RamDisk.Delivers s sense`: a REQUEST SENSE that ends well now is answered with the sense
* `RamDisk.KeepsSense signals s`: the disk has what was signalled, and hands it out

## Main results

* `RamDisk.pending_apply`: the signal of a step decides which sense waits after it
* `RamDisk.pending_after_iff`: the sense that waits after some steps is the outstanding one
* `RamDisk.delivers_pending`, `RamDisk.exists_good_of_calm`: a REQUEST SENSE is answered with the
  sense that waits, and ends well if no fault is ahead
* `RamDisk.exists_perform_of_check`: sense that comes with an error waits in the disk too
* `RamDisk.keeps_sense`: a disk keeps sense through any steps
-/

namespace Scsi

open Activity

/-! ## Sense in bytes -/

/-- Sense is read from the first bytes alone. -/
theorem Sense.ofBytes?_congr {bs bs' : Bytes}
    (h : bs.take Sense.minimumSize = bs'.take Sense.minimumSize) :
    Sense.ofBytes? bs = Sense.ofBytes? bs' := by
  have hlength : min Sense.minimumSize bs.length = min Sense.minimumSize bs'.length := by
    rw [← List.length_take, ← List.length_take, h]
  have hshort : bs.length < Sense.minimumSize ↔ bs'.length < Sense.minimumSize := by omega
  have hbyte : ∀ i < Sense.minimumSize, bs.byteAt i = bs'.byteAt i := by
    intro i hi
    rw [Bytes.byteAt, Bytes.byteAt, List.getD_eq_getElem?_getD, List.getD_eq_getElem?_getD,
      ← List.getElem?_take_of_lt hi, h, List.getElem?_take_of_lt hi]
  simp only [ofBytes?, hshort, hbyte 2 (by decide), hbyte 12 (by decide), hbyte 13 (by decide)]

/-- Sense that is read from bytes has a key of four bits. -/
theorem Sense.masked_of_ofBytes? {bs : Bytes} {sense : Sense}
    (h : Sense.ofBytes? bs = some sense) : sense.masked = sense := by
  unfold ofBytes? at h
  split at h
  · exact nomatch h
  · obtain rfl := Option.some.inj h
    simp only [masked, UInt8.and_assoc, UInt8.and_self]

namespace RamDisk

variable {size : Nat}

/-! ## Signals -/

/-- What a step says about sense: there is a condition, a command ended well, the disk was reset, or
nothing. -/
inductive Signal
  | condition (sense : Sense)
  | good
  | reset
  | other
deriving DecidableEq

/-- The signal in the answer to a command that asked for sense. -/
def Signal.ofAnswer : Option (Bool × Command) → Signal
  | some (true, c) =>
    if c.status = Status.good.code then good
    else if c.status = Status.checkCondition.code then
      match Sense.ofBytes? c.sense.bytes with
      | some sense => condition sense
      | none => other
    else other
  | _ => other

/-- The signal of a step in a state; a command that does not ask for sense has that of the same
command asking for it. -/
def Step.signal : Step → RamDisk × Memory size → Signal
  | submit c, s => .ofAnswer ((RamDisk.submit c.asking).effect s).1
  | inject _, _ => .other
  | reset _, _ => .reset

/-- The signals of some steps, the first of the list first. -/
def signals : List Step → RamDisk × Memory size → List Signal
  | [], _ => []
  | step :: steps, s => step.signal s :: signals steps (step.apply s)

theorem Signal.exists_of_condition {answer : Option (Bool × Command)} {sense : Sense}
    (h : Signal.ofAnswer answer = .condition sense) :
    ∃ c, answer = some (true, c) ∧ Sense.ofBytes? c.sense.bytes = some sense := by
  unfold Signal.ofAnswer at h
  split at h
  · split at h
    · exact nomatch h
    split at h
    · split at h
      · next hread =>
        obtain rfl := Signal.condition.inj h
        exact ⟨_, rfl, hread⟩
      · exact nomatch h
    · exact nomatch h
  · exact nomatch h

theorem Step.masked_of_signal {step : Step} {s : RamDisk × Memory size} {sense : Sense}
    (h : step.signal s = .condition sense) : sense.masked = sense := by
  cases step with
  | submit c =>
    obtain ⟨_, -, hread⟩ := Signal.exists_of_condition h
    exact Sense.masked_of_ofBytes? hread
  | inject i => exact nomatch h
  | reset flags => exact nomatch h

/-- The last condition that was signalled has the sense, and no good end and no reset was signalled
after it. -/
def Outstanding (signals : List Signal) (sense : Sense) : Prop :=
  ∃ earlier later, signals = earlier ++ .condition sense :: later ∧ ∀ signal ∈ later, signal = .other

/-- The sense that waits after a signal, given that which waited before it. -/
def Signal.leaves (pending : Option Sense) : Signal → Option Sense
  | condition sense => some sense
  | good => none
  | reset => none
  | other => pending

/-! ## One step -/

/-- The signal in the reply of the target. -/
def Execution.signal (e : Execution size) : Signal :=
  match e.reply with
  | .good _ => .good
  | .check sense => .condition sense

theorem pending_leaves (e : Execution size) (disk : RamDisk) :
    (e.leaves disk).pending = e.signal.leaves disk.pending := by
  unfold Execution.leaves Execution.signal
  cases e.reply <;> rfl

/-- A condition in the reply has a key of four bits. -/
def Execution.IsMasked (e : Execution size) : Prop :=
  ∀ sense, e.reply = .check sense → sense.masked = sense

theorem isMasked_answerCheck {sense : Sense} (h : sense.masked = sense) (memory : Memory size)
    (c : Command) : (answerCheck memory c sense).IsMasked := by
  rintro _ ⟨⟩
  exact h

/-- The conditions of the target itself have keys of four bits. -/
theorem isMasked_execute (disk : RamDisk) (memory : Memory size) (c : Command) (request : Request) :
    (execute disk memory c request).IsMasked := by
  intro sense h
  cases condition_execute h <;> rfl

/-- A reply is signalled as it is if sense was asked for. -/
theorem ofAnswer_answer_asking {e : Execution size} (hmasked : e.IsMasked) :
    Signal.ofAnswer (some (true, e.asking.answer)) = e.signal := by
  cases h : e.reply with
  | good moved =>
    simp only [Signal.ofAnswer, Execution.answer, Execution.signal, Execution.asking, h, if_true]
  | check sense =>
    have hstatus : e.asking.answer.status = Status.checkCondition.code := status_answer_of_check h
    have hsense : Sense.ofBytes? e.asking.answer.sense.bytes = some sense.masked :=
      sense_answer_of_check h (Flags.contains_union_right _ _)
    have hne : Status.checkCondition.code ≠ Status.good.code := by decide
    simp only [Signal.ofAnswer, Execution.signal, hstatus, hsense, h, hmasked sense h, if_neg hne,
      if_true]

/-- **The signal of a step** decides which sense waits after it. -/
theorem pending_apply (step : Step) {s : RamDisk × Memory size} (h : s.1.Masked) :
    (step.apply s).1.pending = (step.signal s).leaves s.1.pending := by
  cases step with
  | inject i => cases i <;> rfl
  | reset flags => rfl
  | submit c =>
    obtain ⟨disk, memory⟩ := s
    have hcourse : disk.course c.asking = disk.course c := rfl
    simp only [Step.apply, Step.signal, effect_submit_course, hcourse]
    cases hcheck : disk.course c with
    | checked sense =>
      have hmasked : sense.masked = sense := h sense (checkAhead_of_course hcheck)
      exact (pending_leaves _ _).trans (congrArg (Signal.leaves _)
        (ofAnswer_answer_asking (isMasked_answerCheck hmasked memory c)).symm)
    | executed request =>
      simp only [Course.ended, Execution.ended, execute_asking,
        ofAnswer_answer_asking (isMasked_execute _ _ _ _), pending_leaves]
      rfl
    | _ => rfl

/-! ## Many steps -/

theorem outstanding_cons {signal : Signal} {signals : List Signal} {sense : Sense} :
    Outstanding (signal :: signals) sense ↔
      Outstanding signals sense ∨ signal = .condition sense ∧ ∀ later ∈ signals, later = .other := by
  constructor
  · rintro ⟨earlier, later, heq, hlater⟩
    cases earlier with
    | nil =>
      obtain ⟨rfl, rfl⟩ := List.cons.inj heq
      exact .inr ⟨rfl, hlater⟩
    | cons first earlier => exact .inl ⟨earlier, later, (List.cons.inj heq).2, hlater⟩
  · rintro (⟨earlier, later, rfl, hlater⟩ | ⟨rfl, hlater⟩)
    · exact ⟨signal :: earlier, later, rfl, hlater⟩
    · exact ⟨[], signals, rfl, hlater⟩

/-- Sense that waits after some signals is outstanding, or it waited before them and none of them says
anything. -/
theorem foldl_leaves_eq_some_iff (signals : List Signal) (pending : Option Sense) (sense : Sense) :
    signals.foldl Signal.leaves pending = some sense ↔
      Outstanding signals sense ∨ pending = some sense ∧ ∀ signal ∈ signals, signal = .other := by
  -- by induction on the signals that are left, with the sense that waits when the first of them comes
  induction signals generalizing pending with
  | nil => simp [Outstanding]
  | cons signal signals ih =>
    rw [List.foldl_cons, ih, outstanding_cons]
    cases signal <;> simp [Signal.leaves]

theorem pending_after (steps : List Step) {s : RamDisk × Memory size} (h : s.1.Masked) :
    (after steps s).1.pending = (signals steps s).foldl Signal.leaves s.1.pending := by
  induction steps generalizing s with
  | nil => rfl
  | cons step steps ih =>
    rw [after_cons, ih (h.apply step), pending_apply step h]
    rfl

theorem Signal.of_leaves {pending : Option Sense} {signal : Signal} {sense : Sense}
    (h : signal.leaves pending = some sense) : signal = .condition sense ∨ pending = some sense := by
  cases signal with
  | condition sense' => exact .inl (congrArg Signal.condition (Option.some.inj h))
  | good => exact nomatch h
  | reset => exact nomatch h
  | other => exact .inr h

/-- The condition that is ahead and the sense that waits have keys of four bits. -/
structure KeysMasked (disk : RamDisk) : Prop where
  ahead : disk.Masked
  waiting : ∀ sense, disk.pending = some sense → sense.masked = sense

theorem keysMasked_new (p : Profile) (overflow : Overflow) : (new p overflow).KeysMasked where
  ahead _ h := nomatch h
  waiting _ h := nomatch h

theorem KeysMasked.apply (step : Step) {s : RamDisk × Memory size} (h : s.1.KeysMasked) :
    (step.apply s).1.KeysMasked := by
  refine ⟨h.ahead.apply step, fun sense hsense => ?_⟩
  rw [pending_apply step h.ahead] at hsense
  -- the step signalled the sense, or it waited before
  rcases Signal.of_leaves hsense with hsignal | hbefore
  · exact Step.masked_of_signal hsignal
  · exact h.waiting sense hbefore

theorem keysMasked_after (steps : List Step) {s : RamDisk × Memory size} (h : s.1.KeysMasked) :
    (after steps s).1.KeysMasked :=
  after_induction (P := fun s => s.1.KeysMasked) (fun step _ => KeysMasked.apply step) steps h

/-- **The sense that waits** after some steps is the outstanding one, if none waited before them. -/
theorem pending_after_iff (steps : List Step) {s : RamDisk × Memory size} (h : s.1.Masked)
    (hnone : s.1.pending = none) (sense : Sense) :
    (after steps s).1.pending = some sense ↔ Outstanding (signals steps s) sense := by
  rw [pending_after steps h, hnone, foldl_leaves_eq_some_iff]
  simp

theorem pending_of_quiet {steps : List Step} {s : RamDisk × Memory size} (h : s.1.Masked)
    (hnone : s.1.pending = none) (hquiet : ∀ sense, .condition sense ∉ signals steps s) :
    (after steps s).1.pending = none := by
  cases hpending : (after steps s).1.pending with
  | none => rfl
  | some sense =>
    obtain ⟨earlier, later, heq, -⟩ := (pending_after_iff steps h hnone sense).1 hpending
    refine absurd ?_ (hquiet sense)
    rw [heq]
    exact List.mem_append_right _ List.mem_cons_self

/-! ## Answers -/

theorem signal_of_good {c r : Command} {s : RamDisk × Memory size}
    (h : ((submit c).effect s).1 = some (true, r)) (hstatus : r.status = Status.good.code) :
    Step.signal (.submit c) s = .good := by
  obtain ⟨r', hr', hsame⟩ := exists_asking h
  simp only [Step.signal, hr', Signal.ofAnswer, hsame, hstatus, if_true]

theorem signal_of_lost {c r : Command} {s : RamDisk × Memory size}
    (h : ((submit c).effect s).1 = some (false, r)) : Step.signal (.submit c) s = .other := by
  obtain ⟨r', hr', -⟩ := exists_asking h
  simp only [Step.signal, hr', Signal.ofAnswer]

theorem signal_of_busy {c r : Command} {s : RamDisk × Memory size}
    (h : ((submit c).effect s).1 = some (true, r)) (hstatus : r.status = Status.busy.code) :
    Step.signal (.submit c) s = .other := by
  obtain ⟨r', hr', hsame⟩ := exists_asking h
  have hgood : Status.busy.code ≠ Status.good.code := by decide
  have hcheck : Status.busy.code ≠ Status.checkCondition.code := by decide
  simp only [Step.signal, hr', Signal.ofAnswer, hsame, hstatus, if_neg hgood, if_neg hcheck]

theorem signal_of_check {c r : Command} {s : RamDisk × Memory size}
    (h : ((submit c).effect s).1 = some (true, r))
    (hstatus : r.status = Status.checkCondition.code) :
    ∃ sense, Step.signal (.submit c) s = .condition sense := by
  obtain ⟨r', hr', hsame⟩ := exists_asking h
  have hstatus' : r'.status = Status.checkCondition.code := hsame.trans hstatus
  obtain ⟨sense, hsense⟩ :=
    exists_sense_of_check (c := c.asking) (Flags.contains_union_right _ _) hr' hstatus'
  have hne : Status.checkCondition.code ≠ Status.good.code := by decide
  refine ⟨sense, ?_⟩
  simp only [Step.signal, hr', Signal.ofAnswer, hstatus', if_neg hne, if_true, hsense]

/-! ## REQUEST SENSE -/

/-- The command is a REQUEST SENSE with room for key, code and qualifier. -/
def AsksSense (c : Command) : Prop :=
  c.cdb.bytes.byteAt 0 = Opcode.requestSense ∧
    ∃ part, c.dataIn = some part ∧ Sense.minimumSize ≤ part.length

/-- A REQUEST SENSE that ends well now is answered with the sense. -/
def Delivers (s : RamDisk × Memory size) (sense : Sense) : Prop :=
  ∀ c r s', AsksSense c → (submit c).effect s = (some (true, r), s') →
    r.status = Status.good.code → Sense.ofBytes? r.data.bytes = some sense

theorem request_of_requestSense {bs : Bytes} (h : bs.byteAt 0 = Opcode.requestSense) :
    Request.ofBytes? bs = some .requestSense := by
  have hneeded : Request.needed Opcode.requestSense = 1 := rfl
  have hlength : ¬ bs.length < 1 := by
    intro hshort
    obtain rfl : bs = [] := List.eq_nil_of_length_eq_zero (by omega)
    exact absurd h (by decide)
  rw [Request.ofBytes?, h, hneeded, if_neg hlength, Request.decode, h]
  rfl

/-- A data-in part is the front of memory that may be written to. -/
theorem received_of_dataIn {c : Command} {part : Bytes} (h : c.dataIn = some part) :
    part.length ≤ c.data.bytes.length ∧
      ∀ new, (c.data.received new).bytes = new.overlay c.data.bytes := by
  unfold Command.dataIn DataBuffer.inPhase at h
  cases hdata : c.data with
  | none =>
    rw [hdata] at h
    exact nomatch h
  | output buffer =>
    rw [hdata] at h
    exact nomatch h
  | input buffer =>
    simp only [hdata, Option.ite_none_right_eq_some] at h
    obtain ⟨-, ⟨⟩⟩ := h
    exact ⟨List.length_take_le' _ _, fun _ => rfl⟩
  | bidirectional buffer =>
    simp only [hdata, Option.ite_none_right_eq_some] at h
    obtain ⟨-, ⟨⟩⟩ := h
    exact ⟨List.length_take_le' _ _, fun _ => rfl⟩

/-- Sense is read from the buffer that sense data was written to. -/
theorem ofBytes?_fill {c : Command} {part bs : Bytes} (hpart : c.dataIn = some part)
    (hroom : Sense.minimumSize ≤ part.length) (hlength : Sense.minimumSize ≤ bs.length) :
    Sense.ofBytes? (c.fill bs).data.bytes = Sense.ofBytes? bs := by
  obtain ⟨hmemory, hreceived⟩ := received_of_dataIn hpart
  have hfilled : (c.fill bs).data.bytes = Bytes.overlay (bs.take part.length) c.data.bytes := by
    simp only [Command.fill, hpart, hreceived]
  have hwritten : Sense.minimumSize ≤ (bs.take part.length).length := by
    rw [List.length_take]
    omega
  apply Sense.ofBytes?_congr
  rw [hfilled, Bytes.take_overlay hwritten (Nat.le_trans hroom hmemory), List.take_take,
    Nat.min_eq_left hroom]

theorem delivers_pending {s : RamDisk × Memory size} (h : s.1.KeysMasked) :
    Delivers s (s.1.pending.getD .zero) := by
  rintro c r s' ⟨hopcode, part, hpart, hroom⟩ hended hstatus
  have hok : r.outcome = .ok () := by
    rw [Command.outcome_eq_ok_iff, hstatus]
    exact .inl rfl
  obtain ⟨request, moved, hrequest, -, hdata⟩ := exists_request_of_ok hended hok
  obtain rfl := Option.some.inj (hrequest.symm.trans (request_of_requestSense hopcode))
  have hwritten : r.data = (c.fill (senseData s.1.pending)).data := hdata
  have hmasked : (s.1.pending.getD .zero).masked = s.1.pending.getD .zero := by
    cases hpending : s.1.pending with
    | none => rfl
    | some sense => exact h.waiting sense hpending
  have hlength : Sense.minimumSize ≤ (senseData s.1.pending).length := by
    rw [senseData, Sense.length_toBytes]
    decide
  calc Sense.ofBytes? r.data.bytes
      = Sense.ofBytes? (senseData s.1.pending) := by
        rw [hwritten, ofBytes?_fill hpart hroom hlength]
    _ = some (s.1.pending.getD .zero).masked := Sense.ofBytes?_written _
    _ = some (s.1.pending.getD .zero) := by rw [hmasked]

/-- A REQUEST SENSE ends well if no fault is ahead. -/
theorem exists_good_of_calm {s : RamDisk × Memory size} (hcalm : s.1.Calm) {c : Command}
    (hat : IsAt s.1.profile c) (hopcode : c.cdb.bytes.byteAt 0 = Opcode.requestSense) :
    ∃ r s', (submit c).effect s = (some (true, r), s') ∧ r.status = Status.good.code :=
  have hrequest := request?_of_not_overruns (request_of_requestSense hopcode) not_false
  ⟨_, _, effect_submit_of_calm hat hcalm hrequest s.2, rfl⟩

/-! ## Commands of a unit -/

/-- The sense of a CHECK CONDITION to a command of a unit waits in the disk, comes with the error
and is put down on the unit. -/
theorem exists_perform_of_check {c r : Command} {u : LogicalUnit} {s s' : RamDisk × Memory size}
    (hmasked : s.1.Masked) (h : (submit (c.addressed u)).effect s = (some (true, r), s'))
    (hstatus : r.status = Status.checkCondition.code) :
    ∃ sense record, s'.1.pending = some sense ∧
      (perform c).effect (⟨u, some ⟨some s.1, size, s.2⟩⟩ : Session RamDisk) =
        (some (.error (.checkCondition (some sense)), record),
          ⟨{ u with sense, lastActual := 0 }, some ⟨some s'.1, size, s'.2⟩⟩) := by
  have hanswer : ((submit (c.addressed u)).effect s).1 = some (true, r) := by rw [h]
  obtain ⟨sense, hsignal⟩ := signal_of_check hanswer hstatus
  have hsense : Sense.ofBytes? r.sense.bytes = some sense := by
    obtain ⟨r', hr', hread⟩ := Signal.exists_of_condition hsignal
    rw [Command.asking_addressed, hanswer] at hr'
    obtain ⟨⟩ := hr'
    exact hread
  have hpending := pending_apply (.submit (c.addressed u)) hmasked
  rw [hsignal] at hpending
  have hsettled : ((c.addressed u).settled r).outcome = .error (.checkCondition (some sense)) := by
    have hstatus' : ((c.addressed u).settled r).status = Status.checkCondition.code := hstatus
    have hsense' : Sense.ofBytes? ((c.addressed u).settled r).sense.bytes = some sense := hsense
    rw [Command.outcome, hstatus', hsense']
    rfl
  refine ⟨sense, (c.addressed u).settled r, ?_, ?_⟩
  · rw [Step.apply, h] at hpending
    exact hpending
  · rw [effect_perform_of_host, effect_host_submit, h]
    simp only [Option.map_some, hsettled, LogicalUnit.completed, Error.sense?, Option.getD_some]

/-! ## The disk keeps sense -/

/-- After the signals the disk has the sense that they leave outstanding, and hands it out. -/
structure KeepsSense (signals : List Signal) (s : RamDisk × Memory size) : Prop where
  /-- The sense that waits is the outstanding one, and none waits if none is outstanding. -/
  pending_iff : ∀ sense, s.1.pending = some sense ↔ Outstanding signals sense
  delivers : Delivers s (s.1.pending.getD .zero)
  serves : s.1.Calm → ∀ c, AsksSense c → IsAt s.1.profile c →
    ∃ r s', (submit c).effect s = (some (true, r), s') ∧ r.status = Status.good.code
  /-- Once sense was delivered there is none until the next condition. -/
  delivered : ∀ c r s', AsksSense c → (submit c).effect s = (some (true, r), s') →
    r.status = Status.good.code → ∀ steps, (∀ sense, .condition sense ∉ RamDisk.signals steps s') →
      Delivers (after steps s') .zero
  /-- The sense of a CHECK CONDITION to a command of a unit is with the error, on the unit and in
  the disk. -/
  perform : ∀ c u r s', (submit (c.addressed u)).effect s = (some (true, r), s') →
    r.status = Status.checkCondition.code → ∃ sense record, s'.1.pending = some sense ∧
      (perform c).effect (⟨u, some ⟨some s.1, size, s.2⟩⟩ : Session RamDisk) =
        (some (.error (.checkCondition (some sense)), record),
          ⟨{ u with sense, lastActual := 0 }, some ⟨some s'.1, size, s'.2⟩⟩)
  elsewhere : ∀ c, ¬ IsAt s.1.profile c →
    ∃ s', (submit c).effect s = (some (false, c), s') ∧ s'.1.pending = s.1.pending
  lost : ∀ c r s', (submit c).effect s = (some (false, r), s') → s'.1.pending = s.1.pending
  busy : ∀ c r s', (submit c).effect s = (some (true, r), s') → r.status = Status.busy.code →
    s'.1.pending = s.1.pending

/-- **A disk keeps sense** through any steps: what waits is the sense of the last condition, unless
it was ended. -/
theorem keeps_sense (p : Profile) (overflow : Overflow) (memory : Memory size)
    (steps : List Step) :
    KeepsSense (signals steps (new p overflow, memory)) (after steps (new p overflow, memory)) := by
  have hmasked : (after steps (new p overflow, memory)).1.KeysMasked :=
    keysMasked_after steps (keysMasked_new p overflow)
  have hiff := pending_after_iff steps (s := (new p overflow, memory))
    (keysMasked_new p overflow).ahead rfl
  generalize after steps (new p overflow, memory) = s at hmasked hiff ⊢
  -- what a submission leaves, whatever it answers
  have hleft : ∀ c answer s', (submit c).effect s = (answer, s') →
      s'.1.KeysMasked ∧ s'.1.pending = (Step.signal (.submit c) s).leaves s.1.pending := by
    intro c answer s' hended
    have hs' : Step.apply (.submit c) s = s' := congrArg Prod.snd hended
    rw [← hs']
    exact ⟨hmasked.apply _, pending_apply _ hmasked.ahead⟩
  refine ⟨hiff, delivers_pending hmasked,
    fun hcalm c hasks hat => exists_good_of_calm hcalm hat hasks.1, ?_,
    fun c u r s' => exists_perform_of_check hmasked.ahead, ?_, ?_, ?_⟩
  · intro c r s' hasks hended hstatus between hquiet
    obtain ⟨hmasked', hpending⟩ := hleft c _ s' hended
    rw [signal_of_good (congrArg Prod.fst hended) hstatus] at hpending
    have hdelivers := delivers_pending (keysMasked_after between hmasked')
    rw [pending_of_quiet hmasked'.ahead hpending hquiet] at hdelivers
    exact hdelivers
  · intro c hat
    exact ⟨_, effect_submit_of_elsewhere hat s.2, rfl⟩
  · intro c r s' hended
    obtain ⟨-, hpending⟩ := hleft c _ s' hended
    rw [signal_of_lost (congrArg Prod.fst hended)] at hpending
    exact hpending
  · intro c r s' hended hstatus
    obtain ⟨-, hpending⟩ := hleft c _ s' hended
    rw [signal_of_busy (congrArg Prod.fst hended) hstatus] at hpending
    exact hpending

/-- A BUSY answer does not take the sense of a condition away. -/
example :
    let steps : List Step := [.inject (.check ⟨0x16, 0x29, 0⟩), .submit .testUnitReady,
      .inject (.busy 1), .submit .testUnitReady]
    let s : RamDisk × Memory 16 := (new (.disk 4 4), Memory.zeros 16)
    signals steps s = [.other, .condition ⟨0x06, 0x29, 0⟩, .other, .other] ∧
      (after steps s).1.pending = some ⟨0x06, 0x29, 0⟩ := by
  decide

end RamDisk

end Scsi
