import Scsi.Proofs.RamDisk.Run

/-!
# Faults ahead of a RAM disk

The faults that a disk was asked for lie ahead in a fixed order: the losses, the BUSY answers and
the condition. Each command that is addressed to the disk meets the first of those that are left and
takes it away; once none is left, commands are executed. Commands to other addresses are lost and
take nothing away.

## Main definitions

* `RamDisk.Fault`: a fault that a command meets
* `RamDisk.schedule losses busies check`: the faults in the order in which commands meet them
* `RamDisk.facing`: a disk with given faults ahead
* `RamDisk.faults`: the faults that are ahead of a disk
* `RamDisk.Undisturbed`: a submission is answered and leaves medium and pending sense alone
* `RamDisk.Fault.Befalls`: how a submission ends that meets a fault, or none

## Main results

* `RamDisk.faults_submit`: a command that is addressed to the disk takes the first fault away
* `RamDisk.faults_after`: so some commands take as many faults away as are addressed to the disk
* `RamDisk.schedule_met`: the commands at the disk meet the faults of its schedule in order
-/

namespace Scsi.RamDisk

open Activity

variable {size : Nat}

/-- A fault that a command meets. -/
inductive Fault
  | loss
  | busy
  | check (sense : Sense)
deriving DecidableEq

/-- So many losses, so many BUSY answers, and the condition if there is one. -/
def schedule (losses busies : Nat) (check : Option Sense) : List Fault :=
  List.replicate losses .loss ++ (List.replicate busies .busy ++ (check.map Fault.check).toList)

/-- The disk after so many losses, so many BUSY answers and, if it is given, a condition were asked
for. -/
def facing (disk : RamDisk) (losses busies : UInt32) : Option Sense → RamDisk
  | some sense => ((disk.injectLoss losses).injectBusy busies).injectCheck sense
  | none => { (disk.injectLoss losses).injectBusy busies with checkAhead := none }

/-- The faults that are ahead of the disk. -/
def faults (disk : RamDisk) : List Fault :=
  schedule disk.lossesAhead.toNat disk.busyAhead.toNat disk.checkAhead

theorem faults_facing (disk : RamDisk) (losses busies : UInt32) (check : Option Sense) :
    (disk.facing losses busies check).faults =
      schedule losses.toNat busies.toNat (check.map Sense.masked) := by
  cases check <;> rfl

theorem profile_facing (disk : RamDisk) (losses busies : UInt32) (check : Option Sense) :
    (disk.facing losses busies check).profile = disk.profile := by
  cases check <;> rfl

theorem masked_facing (disk : RamDisk) (losses busies : UInt32) (check : Option Sense) :
    (disk.facing losses busies check).Masked := by
  cases check with
  | none => exact fun _ h => nomatch h
  | some sense =>
    rintro _ ⟨⟩
    exact sense.masked_masked

/-! ## The first fault -/

theorem toNat_eq_succ {n : UInt32} (h : n ≠ 0) : n.toNat = (n - 1).toNat + 1 := by
  have hpos : n.toNat ≠ 0 := fun h' => h (UInt32.toNat.inj h')
  have hone : (1 : UInt32).toNat = 1 := rfl
  have hle : (1 : UInt32) ≤ n := by
    rw [UInt32.le_iff_toNat_le]
    omega
  rw [UInt32.toNat_sub_of_le _ _ hle, hone]
  omega

theorem faults_of_loss {disk : RamDisk} (h : disk.lossesAhead ≠ 0) :
    disk.faults = .loss :: faults { disk with lossesAhead := disk.lossesAhead - 1 } := by
  simp only [faults, schedule, toNat_eq_succ h, List.replicate_succ, List.cons_append]

theorem faults_of_busy {disk : RamDisk} (hloss : disk.lossesAhead = 0) (h : disk.busyAhead ≠ 0) :
    disk.faults = .busy :: faults { disk with busyAhead := disk.busyAhead - 1 } := by
  simp only [faults, schedule, hloss, UInt32.toNat_zero, toNat_eq_succ h, List.replicate_succ,
    List.replicate_zero, List.cons_append, List.nil_append]

theorem faults_of_check {disk : RamDisk} (hloss : disk.lossesAhead = 0)
    (hbusy : disk.busyAhead = 0) : disk.faults = (disk.checkAhead.map Fault.check).toList := by
  simp only [faults, schedule, hloss, hbusy, UInt32.toNat_zero, List.replicate_zero,
    List.nil_append]

theorem faults_leaves (e : Execution size) (disk : RamDisk) : (e.leaves disk).faults = disk.faults := by
  unfold Execution.leaves
  split <;> rfl

/-! ## What is left after a submission -/

theorem faults_submit_of_elsewhere {disk : RamDisk} {c : Command} (h : ¬ IsAt disk.profile c)
    (memory : Memory size) : ((submit c).effect (disk, memory)).2.1.faults = disk.faults := by
  rw [effect_submit_of_elsewhere h]
  rfl

/-- **A command that is addressed to the disk** takes the first fault away. -/
theorem faults_submit {disk : RamDisk} {c : Command} (h : IsAt disk.profile c)
    (memory : Memory size) : ((submit c).effect (disk, memory)).2.1.faults = disk.faults.tail := by
  rw [effect_submit, if_neg (not_not_intro h)]
  by_cases hloss : disk.lossesAhead = 0
  case neg =>
    rw [if_pos hloss, faults_of_loss hloss]
    rfl
  rw [if_neg (not_not_intro hloss)]
  by_cases hbusy : disk.busyAhead = 0
  case neg =>
    rw [if_pos hbusy, faults_of_busy hloss hbusy]
    rfl
  rw [if_neg (not_not_intro hbusy), faults_of_check hloss hbusy]
  -- past losses and BUSY answers at most the condition is left
  have hrest : ∀ disk' : RamDisk, disk'.lossesAhead = disk.lossesAhead →
      disk'.busyAhead = disk.busyAhead → disk'.checkAhead = none → disk'.faults = [] := by
    intro disk' hloss' hbusy' hcheck'
    rw [faults_of_check (hloss'.trans hloss) (hbusy'.trans hbusy), hcheck']
    rfl
  cases hcheck : disk.checkAhead with
  | some sense => exact (faults_leaves _ _).trans (hrest _ rfl rfl rfl)
  | none =>
    cases disk.request? c with
    | none => exact hrest _ rfl rfl hcheck
    | some request => exact (faults_leaves _ _).trans (hrest _ rfl rfl hcheck)

/-- **Some commands** take as many faults away as are addressed to the disk. -/
theorem faults_after (cs : List Command) (s : RamDisk × Memory size) :
    (after (cs.map .submit) s).1.faults =
      s.1.faults.drop (cs.countP fun c => IsAt s.1.profile c) := by
  -- by induction on the commands that are left, with the faults that the first of them finds
  induction cs generalizing s with
  | nil => rfl
  | cons c cs ih =>
    have hprofile : (Step.apply (.submit c) s).1.profile = s.1.profile := profile_submit c s.1 s.2
    rw [List.map_cons, after_cons, ih, hprofile, List.countP_cons]
    by_cases h : IsAt s.1.profile c
    · have htail : (Step.apply (.submit c) s).1.faults = s.1.faults.tail := faults_submit h s.2
      rw [htail, List.drop_tail, if_pos (decide_eq_true h)]
    · have hsame : (Step.apply (.submit c) s).1.faults = s.1.faults :=
        faults_submit_of_elsewhere h s.2
      rw [hsame, decide_eq_false h]
      rfl

/-! ## How a submission ends -/

/-- The submission is answered, and medium and pending sense are as they were. -/
structure Undisturbed (s : RamDisk × Memory size)
    (ended : Option (Bool × Command) × (RamDisk × Memory size)) (answer : Bool × Command) :
    Prop where
  answer : ended.1 = some answer
  medium : ended.2.2 = s.2
  pending : ended.2.1.pending = s.1.pending

/-- The submission is answered with CHECK CONDITION; the sense goes along if it was asked for, and
is pending from now on. -/
structure Checked (c : Command) (s : RamDisk × Memory size)
    (ended : Option (Bool × Command) × (RamDisk × Memory size)) (sense : Sense) : Prop where
  answer : ∃ record, ended.1 = some (true, record) ∧
    record.status = Status.checkCondition.code ∧ record.data = c.data ∧
    (c.flags.contains CommandFlags.autosense = true →
      Sense.ofBytes? record.sense.bytes = some sense)
  medium : ended.2.2 = s.2
  pending : ended.2.1.pending = some sense

/-- The submission ends as the request in the descriptor block does, and crashes if looking at the
request does. -/
def Executed (c : Command) (s : RamDisk × Memory size)
    (ended : Option (Bool × Command) × (RamDisk × Memory size)) : Prop :=
  match s.1.request? c with
  | none => ended.1 = none ∧ ended.2.2 = s.2 ∧ ended.2.1.pending = s.1.pending
  | some request =>
    let e := execute s.1 s.2 c request
    ended.1 = some (true, e.answer) ∧ ended.2.2 = e.memory ∧
      ended.2.1.pending = (e.leaves s.1).pending

/-- How the submission of a command to the disk ends that meets a fault, or none. -/
def Fault.Befalls (c : Command) (s : RamDisk × Memory size)
    (ended : Option (Bool × Command) × (RamDisk × Memory size)) : Option Fault → Prop
  | some .loss => Undisturbed s ended (false, c)
  | some .busy => Undisturbed s ended (true, { c with status := Status.busy.code })
  | some (.check sense) => Checked c s ended sense
  | none => Executed c s ended

theorem checked_answerCheck {sense : Sense} (h : sense.masked = sense) (c : Command)
    (s : RamDisk × Memory size) (disk : RamDisk) :
    let e := answerCheck s.2 c sense
    Checked c s (some (true, e.answer), (e.leaves disk, e.memory)) sense := by
  intro e
  refine ⟨⟨e.answer, rfl, status_answer_of_check rfl, data_answer e, fun hasked => ?_⟩, rfl, rfl⟩
  rw [sense_answer_of_check rfl hasked, h]

theorem executed_of_request (c : Command) (disk : RamDisk) (memory : Memory size) :
    Executed c (disk, memory)
      (match disk.request? c with
      | none => (none, (disk.counted, memory))
      | some request =>
        let e := execute disk.counted memory c request
        (some (true, e.answer), (e.leaves disk.counted, e.memory))) := by
  unfold Executed
  dsimp only
  cases disk.request? c with
  | none => exact ⟨rfl, rfl, rfl⟩
  | some request =>
    simp only [execute_counted, true_and]
    unfold Execution.leaves
    split <;> rfl

/-- **A command that is addressed to the disk** meets the first of the faults that are ahead. -/
theorem befalls_submit {disk : RamDisk} (hmasked : disk.Masked) {c : Command}
    (h : IsAt disk.profile c) (memory : Memory size) :
    Fault.Befalls c (disk, memory) ((submit c).effect (disk, memory)) disk.faults.head? := by
  rw [effect_submit, if_neg (not_not_intro h)]
  by_cases hloss : disk.lossesAhead = 0
  case neg =>
    rw [if_pos hloss, faults_of_loss hloss]
    exact ⟨rfl, rfl, rfl⟩
  rw [if_neg (not_not_intro hloss)]
  by_cases hbusy : disk.busyAhead = 0
  case neg =>
    rw [if_pos hbusy, faults_of_busy hloss hbusy]
    exact ⟨rfl, rfl, rfl⟩
  rw [if_neg (not_not_intro hbusy), faults_of_check hloss hbusy]
  cases hcheck : disk.checkAhead with
  | some sense => exact checked_answerCheck (hmasked sense hcheck) c (disk, memory) _
  | none => exact executed_of_request c disk memory

/-! ## The schedule -/

theorem count_loss_schedule (losses busies n : Nat) (check : Option Sense) :
    ((schedule losses busies check).drop n).count .loss = losses - n := by
  have hrest : ((List.replicate busies Fault.busy ++ (check.map Fault.check).toList).drop
      (n - (List.replicate losses Fault.loss).length)).count .loss = 0 := by
    refine List.count_eq_zero_of_not_mem fun hmem => ?_
    have hmem := List.mem_of_mem_drop hmem
    simp at hmem
  rw [schedule, List.drop_append, List.count_append, hrest, List.drop_replicate,
    List.count_replicate_self, Nat.add_zero]

theorem count_busy_schedule (losses busies n : Nat) (check : Option Sense) :
    ((schedule losses busies check).drop n).count .busy = busies - (n - losses) := by
  have hloss : ((List.replicate losses Fault.loss).drop n).count .busy = 0 := by
    refine List.count_eq_zero_of_not_mem fun hmem => ?_
    have hmem := List.mem_of_mem_drop hmem
    simp at hmem
  have hcheck : (((check.map Fault.check).toList).drop
      (n - losses - (List.replicate busies Fault.busy).length)).count .busy = 0 := by
    refine List.count_eq_zero_of_not_mem fun hmem => ?_
    have hmem := List.mem_of_mem_drop hmem
    simp at hmem
  rw [schedule, List.drop_append, List.count_append, hloss, List.length_replicate, List.drop_append,
    List.count_append, hcheck, List.drop_replicate, List.count_replicate_self, Nat.zero_add,
    Nat.add_zero]

theorem lossesAhead_eq (disk : RamDisk) : disk.lossesAhead.toNat = disk.faults.count .loss :=
  (count_loss_schedule _ _ 0 _).symm

theorem busyAhead_eq (disk : RamDisk) : disk.busyAhead.toNat = disk.faults.count .busy := by
  have h := count_busy_schedule disk.lossesAhead.toNat disk.busyAhead.toNat 0 disk.checkAhead
  rw [Nat.zero_sub, Nat.sub_zero] at h
  exact h.symm

/-- **The schedule is met in order.** From any disk with given faults ahead and after any commands, a
command that is addressed to the disk meets the fault whose place in the schedule is the number of
those before it that were addressed to the disk too, and is executed if there are not so many faults.
A command to another address is lost. The counters go down by one for each fault that was met, and
never below zero. -/
theorem schedule_met (disk : RamDisk) (losses busies : UInt32) (check : Option Sense)
    (memory : Memory size) (earlier : List Command) (c : Command) :
    let s := after (earlier.map .submit) (disk.facing losses busies check, memory)
    let ended := (submit c).effect s
    let met := earlier.countP fun c => IsAt disk.profile c
    (IsAt disk.profile c → Fault.Befalls c s ended
      (schedule losses.toNat busies.toNat (check.map Sense.masked))[met]?) ∧
    (¬ IsAt disk.profile c → Undisturbed s ended (false, c)) ∧
    s.1.lossesAhead.toNat = losses.toNat - met ∧
    s.1.busyAhead.toNat = busies.toNat - (met - losses.toNat) := by
  intro s ended met
  have hprofile : s.1.profile = disk.profile :=
    (profile_after _ _).trans (profile_facing disk losses busies check)
  have hmasked : s.1.Masked := masked_after _ (masked_facing disk losses busies check)
  have hfaults : s.1.faults =
      (schedule losses.toNat busies.toNat (check.map Sense.masked)).drop met := by
    have hleft := faults_after earlier (disk.facing losses busies check, memory)
    rw [faults_facing, profile_facing] at hleft
    exact hleft
  refine ⟨fun h => ?_, fun h => ?_, ?_, ?_⟩
  · have hmet := befalls_submit hmasked (hprofile ▸ h) s.2
    rw [hfaults, List.head?_drop] at hmet
    exact hmet
  · have hlost : ended = (some (false, c), (s.1.counted, s.2)) :=
      effect_submit_of_elsewhere (hprofile ▸ h) s.2
    rw [hlost]
    exact ⟨rfl, rfl, rfl⟩
  · rw [lossesAhead_eq, hfaults, count_loss_schedule]
  · rw [busyAhead_eq, hfaults, count_busy_schedule]

end Scsi.RamDisk
