import Scsi.Proofs.RamDisk.Run

/-!
# Submissions that ask for sense

Whether a command asks for sense has no part in what a RAM disk does with it: the disk is left the
same, and the answers differ in flags and sense alone. So what a command is answered with can be
read off the answer that it gets when it asks for sense.

## Main definitions

* `Command.asking`: the command with sense asked for
* `RamDisk.Execution.asking`: the same request with sense asked for
* `RamDisk.plain`: an answer apart from flags and sense

## Main results

* `RamDisk.execute_asking`: asking for sense has no part in what a request does
* `RamDisk.submit_asking`: a submission that asks for sense, and the same that does not
* `RamDisk.exists_asking`: the two are answered with the same status
* `RamDisk.exists_sense_of_check`: a CHECK CONDITION comes with the sense that was asked for
-/

namespace Scsi

open Activity

/-- The command with sense asked for. -/
def Command.asking (c : Command) : Command := { c with flags := c.flags ∪ CommandFlags.autosense }

/-- A command of a unit asks for sense already. -/
theorem Command.asking_addressed (c : Command) (u : LogicalUnit) :
    (c.addressed u).asking = c.addressed u := by
  simp only [Command.asking, Command.addressed, Flags.union_union_self]

theorem Command.flags_fill (c : Command) (bs : Bytes) : (c.fill bs).flags = c.flags := by
  unfold Command.fill
  split <;> rfl

theorem Command.fill_asking (c : Command) (bs : Bytes) : c.asking.fill bs = (c.fill bs).asking := by
  have hpart : c.asking.dataIn = c.dataIn := rfl
  unfold Command.fill
  rw [hpart]
  cases c.dataIn <;> rfl

namespace RamDisk

variable {size : Nat}

/-- The same request with sense asked for. -/
def Execution.asking (e : Execution size) : Execution size := { e with command := e.command.asking }

theorem answerData_asking (memory : Memory size) (c : Command) (bs : Bytes) :
    answerData memory c.asking bs = (answerData memory c bs).asking := by
  simp only [answerData, Execution.asking, Command.fill_asking]
  rfl

/-- **Asking for sense** has no part in what a request does. -/
theorem execute_asking (disk : RamDisk) (memory : Memory size) (c : Command) (request : Request) :
    execute disk memory c.asking request = (execute disk memory c request).asking := by
  cases request with
  | noData => rfl
  | identity => exact answerData_asking _ _ _
  | requestSense => exact answerData_asking _ _ _
  | readCapacity10 => exact answerData_asking _ _ _
  | unknown => rfl
  | productData page =>
    simp only [execute]
    split
    · exact answerData_asking _ _ _
    · split
      · exact answerData_asking _ _ _
      · rfl
  | serviceAction action =>
    simp only [execute]
    split
    · exact answerData_asking _ _ _
    · rfl
  | transfer access address count =>
    have hin : c.asking.dataIn = c.dataIn := rfl
    have hout : c.asking.dataOut = c.dataOut := rfl
    simp only [execute, moveBlocks, hin, hout]
    split
    · rfl
    split
    · rfl
    cases access with
    | read =>
      cases c.dataIn with
      | none => rfl
      | some room =>
        dsimp only
        split
        · simp only [Execution.asking, Command.fill_asking]
        · rfl
    | write =>
      cases c.dataOut with
      | none => rfl
      | some source =>
        dsimp only
        split <;> rfl

/-- A record apart from what asking for sense is about. -/
def plain (answer : Bool × Command) : Bool × Command :=
  (answer.1, { answer.2 with flags := .empty, sense := .empty })

theorem plain_answer_asking (e : Execution size) :
    plain (true, e.asking.answer) = plain (true, e.answer) := by
  have hreply : e.asking.reply = e.reply := rfl
  unfold Execution.answer
  rw [hreply]
  cases e.reply with
  | good moved => rfl
  | check sense =>
    dsimp only
    split <;> split <;> rfl

/-- **A submission that asks for sense** leaves what the same submission leaves that does not, and
is answered alike apart from flags and sense. -/
theorem submit_asking (c : Command) (s : RamDisk × Memory size) :
    ((submit c.asking).effect s).1.map plain = ((submit c).effect s).1.map plain ∧
      ((submit c.asking).effect s).2 = ((submit c).effect s).2 := by
  obtain ⟨disk, memory⟩ := s
  have hcourse : disk.course c.asking = disk.course c := rfl
  have hended : ∀ (e : Execution size) (disk : RamDisk),
      (e.asking.ended disk).1.map plain = (e.ended disk).1.map plain ∧
        (e.asking.ended disk).2 = (e.ended disk).2 :=
    fun e disk => ⟨congrArg some (plain_answer_asking e), rfl⟩
  rw [effect_submit_course, effect_submit_course, hcourse]
  cases disk.course c with
  | checked sense => exact hended (answerCheck memory c sense) _
  | executed request =>
    simp only [Course.ended, execute_asking]
    exact hended _ _
  | _ => exact ⟨rfl, rfl⟩

/-- The answer to the command that asks for sense is delivered alike, with the same status. -/
theorem exists_asking {c r : Command} {delivered : Bool} {s : RamDisk × Memory size}
    (h : ((submit c).effect s).1 = some (delivered, r)) :
    ∃ r', ((submit c.asking).effect s).1 = some (delivered, r') ∧ r'.status = r.status := by
  have hplain := (submit_asking c s).1
  rw [h] at hplain
  obtain ⟨⟨_, r'⟩, hr', heq⟩ := Option.map_eq_some_iff.1 hplain
  obtain ⟨rfl, hrecord⟩ := Prod.mk.inj heq
  exact ⟨r', hr', (congrArg Command.status hrecord :)⟩

/-- A CHECK CONDITION comes with the sense if it was asked for. -/
theorem exists_sense_of_check {c r : Command} {s : RamDisk × Memory size}
    (hasked : c.flags.contains CommandFlags.autosense = true)
    (h : ((submit c).effect s).1 = some (true, r))
    (hstatus : r.status = Status.checkCondition.code) :
    ∃ sense, Sense.ofBytes? r.sense.bytes = some sense := by
  obtain ⟨disk, memory⟩ := s
  rw [effect_submit_course] at h
  generalize disk.course c = course at h
  cases course with
  | elsewhere => exact nomatch h
  | lost => exact nomatch h
  | crashed => exact nomatch h
  | busy =>
    obtain ⟨⟩ := h
    have hne : Status.busy.code ≠ Status.checkCondition.code := by decide
    exact absurd hstatus hne
  | checked sense =>
    obtain ⟨⟩ := h
    exact ⟨_, sense_answer_of_check rfl hasked⟩
  | executed request =>
    obtain ⟨⟩ := h
    cases hreply : (execute disk.counted memory c request).reply with
    | good moved =>
      simp only [Execution.answer, hreply] at hstatus
      exact absurd hstatus (by decide)
    | check sense =>
      obtain ⟨bs, hbs⟩ := exists_command_execute disk.counted memory c request
      refine ⟨_, sense_answer_of_check hreply ?_⟩
      rw [hbs, Command.flags_fill]
      exact hasked

end RamDisk

end Scsi
