import Scsi.Proofs.RamDisk.History

/-!
# Runs of a RAM disk

Commands are submitted to a disk, faults are asked for, and it is reset, one after the other and in
any order. A submission that crashes is over, and the next step goes on from what it left.

## Main definitions

* `RamDisk.course`: what becomes of a submission
* `RamDisk.numbered`: the disk with another count of submissions
* `RamDisk.Step`: what is done with a disk from outside
* `RamDisk.Step.apply`: disk and private block after a step
* `RamDisk.after steps s`: disk and private block after some steps
* `Sense.masked`: sense whose key is cut to its four bits
* `RamDisk.Expects P`: the condition that a disk was asked for has the property
* `RamDisk.Masked`: the condition that a disk was asked for has a key of four bits

## Main results

* `Sense.ofBytes?_written`: sense is read back up to the four bits of its key
* `RamDisk.data_answer`, `RamDisk.status_answer_of_check`, `RamDisk.sense_answer_of_check`: data,
  status and sense of an answer
* `RamDisk.effect_submit_course`: a submission ends as its course says
* `RamDisk.effect_submit_numbered`: the count of earlier submissions has no part in one
* `RamDisk.profile_after`: the profile of a disk never changes
* `RamDisk.masked_after`: a condition that is ahead keeps a key of four bits
-/

namespace Scsi

open Activity

/-- The sense with its key cut to the four bits that sense data has for it. -/
def Sense.masked (s : Sense) : Sense := { s with key := s.key &&& 0x0F }

@[simp] theorem Sense.masked_masked (s : Sense) : s.masked.masked = s.masked := by
  simp only [masked, UInt8.and_assoc, UInt8.and_self]

/-- Sense data that was written for some sense is read back up to the four bits of the key. -/
theorem Sense.ofBytes?_written (s : Sense) :
    Sense.ofBytes? (Sense.toBytes (SenseKey.ofByte s.key) s.asc s.ascq) = some s.masked := by
  rw [ofBytes?_toBytes, SenseKey.code_ofByte, UInt8.and_assoc, UInt8.and_self, masked]

namespace RamDisk

variable {size : Nat}

/-! ## What comes with an answer -/

/-- How a request ends has no part in the data of its record. -/
theorem data_answer (e : Execution size) : e.answer.data = e.command.data := by
  unfold Execution.answer
  cases e.reply with
  | good moved => rfl
  | check sense =>
    dsimp only
    split <;> rfl

theorem status_answer_of_check {e : Execution size} {sense : Sense} (h : e.reply = .check sense) :
    e.answer.status = Status.checkCondition.code := by
  simp only [Execution.answer, h]

/-- Sense that was asked for goes along with a condition. -/
theorem sense_answer_of_check {e : Execution size} {sense : Sense} (h : e.reply = .check sense)
    (hasked : e.command.flags.contains CommandFlags.autosense = true) :
    Sense.ofBytes? e.answer.sense.bytes = some sense.masked := by
  simp only [Execution.answer, h, hasked, if_true, Command.withSense, SenseBuffer.bytes_store]
  rw [List.take_of_length_le (by rw [Sense.length_toBytes]; decide), Sense.ofBytes?_written]

/-! ## The course of a submission -/

/-- What becomes of a submission: it goes to another address, meets a fault, crashes the adapter or
is executed. -/
inductive Course
  | elsewhere
  | lost
  | busy
  | checked (sense : Sense)
  | crashed
  | executed (request : Request)

/-- What becomes of a submission to the disk. -/
def course (disk : RamDisk) (c : Command) : Course :=
  if ¬ IsAt disk.profile c then .elsewhere
  else if disk.lossesAhead ≠ 0 then .lost
  else if disk.busyAhead ≠ 0 then .busy
  else
    match disk.checkAhead with
    | some sense => .checked sense
    | none =>
      match disk.request? c with
      | none => .crashed
      | some request => .executed request

theorem checkAhead_of_course {disk : RamDisk} {c : Command} {sense : Sense}
    (h : disk.course c = .checked sense) : disk.checkAhead = some sense := by
  unfold course at h
  split at h
  · exact nomatch h
  split at h
  · exact nomatch h
  split at h
  · exact nomatch h
  split at h
  · next sense' hcheck =>
    obtain rfl := Course.checked.inj h
    exact hcheck
  · split at h <;> exact nomatch h

theorem request_of_course {disk : RamDisk} {c : Command} {request : Request}
    (h : disk.course c = .executed request) : Request.ofBytes? c.cdb.bytes = some request := by
  unfold course at h
  split at h
  · exact nomatch h
  split at h
  · exact nomatch h
  split at h
  · exact nomatch h
  split at h
  · exact nomatch h
  · split at h
    · exact nomatch h
    · next hrequest =>
      obtain rfl := Course.executed.inj h
      exact (request?_eq_some_iff.1 hrequest).1

/-- What the disk did for a request, as the end of the submission. -/
def Execution.ended (e : Execution size) (disk : RamDisk) :
    Option (Bool × Command) × (RamDisk × Memory size) :=
  (some (true, e.answer), (e.leaves disk, e.memory))

/-- How a submission ends that takes the given course. -/
def Course.ended (c : Command) (disk : RamDisk) (memory : Memory size) :
    Course → Option (Bool × Command) × (RamDisk × Memory size)
  | elsewhere => (some (false, c), (disk.counted, memory))
  | lost => (some (false, c), ({ disk.counted with lossesAhead := disk.lossesAhead - 1 }, memory))
  | busy =>
    (some (true, { c with status := Status.busy.code }),
      ({ disk.counted with busyAhead := disk.busyAhead - 1 }, memory))
  | checked sense => (answerCheck memory c sense).ended { disk.counted with checkAhead := none }
  | crashed => (none, (disk.counted, memory))
  | executed request => (execute disk.counted memory c request).ended disk.counted

theorem effect_submit_course (disk : RamDisk) (memory : Memory size) (c : Command) :
    (submit c).effect (disk, memory) = (disk.course c).ended c disk memory := by
  rw [effect_submit, course]
  split
  · rfl
  split
  · rfl
  split
  · rfl
  cases disk.checkAhead with
  | some sense => rfl
  | none => cases disk.request? c <;> rfl

/-! ## The count of submissions -/

/-- The disk with another count of submissions. -/
def numbered (disk : RamDisk) (n : Nat) : RamDisk := { disk with submitted := n }

/-- What a request does has nothing to do with how many commands were submitted. -/
theorem execute_numbered (disk : RamDisk) (n : Nat) (memory : Memory size) (c : Command)
    (request : Request) :
    execute (disk.numbered n) memory c request = execute disk memory c request := by
  cases request <;> rfl

theorem execute_counted (disk : RamDisk) (memory : Memory size) (c : Command) (request : Request) :
    execute disk.counted memory c request = execute disk memory c request :=
  execute_numbered disk (disk.submitted + 1) memory c request

theorem leaves_numbered (e : Execution size) (disk : RamDisk) (n : Nat) :
    e.leaves (disk.numbered n) = (e.leaves disk).numbered n := by
  unfold Execution.leaves
  split <;> rfl

/-- **The count of submissions** has no part in what a submission answers and leaves. -/
theorem effect_submit_numbered (c : Command) (disk : RamDisk) (n : Nat) (memory : Memory size) :
    (submit c).effect (disk.numbered n, memory) =
      let ended := (submit c).effect (disk, memory)
      (ended.1, (ended.2.1.numbered (n + 1), ended.2.2)) := by
  have hcourse : (disk.numbered n).course c = disk.course c := rfl
  rw [effect_submit_course, effect_submit_course, hcourse]
  cases disk.course c with
  | checked sense => rfl
  | executed request =>
    have hcounted : (disk.numbered n).counted = disk.counted.numbered (n + 1) := rfl
    simp only [Course.ended, Execution.ended, hcounted, execute_numbered, leaves_numbered]
  | _ => rfl

/-! ## Steps -/

/-- What is done with a disk from outside. -/
inductive Step
  | submit (c : Command)
  | inject (i : Injection)
  | reset (flags : ResetFlags)

/-- Disk and private block after a step, whether it came to its end or crashed. -/
def Step.apply : Step → RamDisk × Memory size → RamDisk × Memory size
  | submit c, s => ((RamDisk.submit c).effect s).2
  | inject i, s => (i.inject s.1, s.2)
  | reset flags, s => ((HostAdapter.reset flags : Activity (RamDisk × Memory size) Bool).effect s).2

/-- Disk and private block after some steps, the first of the list first. -/
def after (steps : List Step) (s : RamDisk × Memory size) : RamDisk × Memory size :=
  steps.foldl (fun s step => step.apply s) s

@[simp] theorem after_nil (s : RamDisk × Memory size) : after [] s = s := rfl

@[simp] theorem after_cons (step : Step) (steps : List Step) (s : RamDisk × Memory size) :
    after (step :: steps) s = after steps (step.apply s) := rfl

/-- What every step keeps, all steps keep. -/
theorem after_induction {P : RamDisk × Memory size → Prop}
    (hstep : ∀ (step : Step) s, P s → P (step.apply s)) (steps : List Step)
    {s : RamDisk × Memory size} (h : P s) : P (after steps s) := by
  -- by induction on the steps that are left, from whatever state the first of them starts
  induction steps generalizing s with
  | nil => exact h
  | cons step steps ih => exact ih (hstep step s h)

/-- The profile of a disk never changes. -/
theorem profile_after (steps : List Step) (s : RamDisk × Memory size) :
    (after steps s).1.profile = s.1.profile := by
  refine after_induction (P := fun s' => s'.1.profile = s.1.profile) ?_ steps rfl
  intro step s' h
  cases step with
  | submit c => exact (profile_submit c s'.1 s'.2).trans h
  | inject i => exact (profile_inject i s'.1).trans h
  | reset flags => exact h

/-- The condition that the disk was asked for, if there is one, has the property. -/
def Expects (P : Sense → Prop) (disk : RamDisk) : Prop :=
  ∀ sense, disk.checkAhead = some sense → P sense

theorem Expects.leaves {P : Sense → Prop} {disk : RamDisk} (h : disk.Expects P)
    (e : Execution size) : (e.leaves disk).Expects P := by
  unfold Execution.leaves
  split <;> exact h

/-- A submission asks for no condition. -/
theorem Expects.submit {P : Sense → Prop} {disk : RamDisk} (h : disk.Expects P) (c : Command)
    (memory : Memory size) : ((RamDisk.submit c).effect (disk, memory)).2.1.Expects P := by
  rw [effect_submit_course]
  cases disk.course c with
  | checked sense =>
    -- the condition is answered, and none is left
    have hanswered : ({ disk.counted with checkAhead := none } : RamDisk).Expects P :=
      fun _ h => nomatch h
    exact hanswered.leaves _
  | executed request =>
    have hcounted : disk.counted.Expects P := h
    exact hcounted.leaves _
  | _ => exact h

/-- The condition that the disk was asked for, if there is one, has a key of four bits. -/
def Masked (disk : RamDisk) : Prop := ∀ sense, disk.checkAhead = some sense → sense.masked = sense

theorem Masked.apply (step : Step) {s : RamDisk × Memory size} (h : s.1.Masked) :
    (step.apply s).1.Masked := by
  cases step with
  | submit c => exact Expects.submit h c s.2
  | inject i =>
    cases i with
    | busy n => exact h
    | loss n => exact h
    | check sense =>
      rintro _ ⟨⟩
      exact sense.masked_masked
  | reset flags => exact fun _ h => nomatch h

theorem masked_after (steps : List Step) {s : RamDisk × Memory size} (h : s.1.Masked) :
    (after steps s).1.Masked :=
  after_induction (P := fun s => s.1.Masked) (fun step _ => Masked.apply step) steps h

end RamDisk

end Scsi
