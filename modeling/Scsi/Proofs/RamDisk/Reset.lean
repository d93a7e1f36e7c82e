import Scsi.Proofs.RamDisk.Run

/-!
# What a reset of a RAM disk leaves

A reset takes away pending sense, the BUSY answers that are ahead and the condition that is ahead.
The losses that are ahead stay, so a disk that was reset is as good as a new one exactly if no loss
is ahead of it. How many commands were submitted so far has no part in any answer.

## Main definitions

* `RamDisk.answers cs s`: what the disk answers to some submissions
* `RamDisk.Indistinct`: no submissions tell two states apart

## Main results

* `RamDisk.indistinct_numbered`: the count of submissions does not show
* `RamDisk.reset_keeps_losses`: after a reset a disk is a new one with the same losses ahead
-/

namespace Scsi.RamDisk

open Activity

variable {size : Nat}

/-! ## Answers -/

/-- What the disk answers to some submissions, the first of the list first; the answer is missing
where the adapter crashed. -/
def answers : List Command → RamDisk × Memory size → List (Option (Bool × Command))
  | [], _ => []
  | c :: cs, s => ((submit c).effect s).1 :: answers cs (Step.apply (.submit c) s)

/-- No submissions tell the two states apart, neither by their answers nor by the medium. -/
def Indistinct (s s' : RamDisk × Memory size) : Prop :=
  ∀ cs : List Command,
    answers cs s = answers cs s' ∧ (after (cs.map .submit) s).2 = (after (cs.map .submit) s').2

theorem Indistinct.symm {s s' : RamDisk × Memory size} (h : Indistinct s s') : Indistinct s' s :=
  fun cs => ⟨(h cs).1.symm, (h cs).2.symm⟩

theorem Indistinct.trans {s s' s'' : RamDisk × Memory size} (h : Indistinct s s')
    (h' : Indistinct s' s'') : Indistinct s s'' :=
  fun cs => ⟨(h cs).1.trans (h' cs).1, (h cs).2.trans (h' cs).2⟩

theorem indistinct_numbered (disk : RamDisk) (n : Nat) (memory : Memory size) :
    Indistinct (disk.numbered n, memory) (disk, memory) := by
  intro cs
  -- by induction on the submissions that are left, with the count that the first of them finds
  induction cs generalizing disk n memory with
  | nil => exact ⟨rfl, rfl⟩
  | cons c cs ih =>
    have hstep := effect_submit_numbered c disk n memory
    obtain ⟨hanswers, hmedium⟩ := ih ((submit c).effect (disk, memory)).2.1 (n + 1)
      ((submit c).effect (disk, memory)).2.2
    constructor
    · rw [answers, answers, Step.apply, hstep, hanswers]
      rfl
    · rw [List.map_cons, after_cons, after_cons, Step.apply, hstep, hmedium]
      rfl

/-! ## Resets -/

/-- What a reset leaves of a disk is a new disk with the same losses ahead, apart from the count of
submissions. -/
theorem effect_reset (disk : RamDisk) (flags : ResetFlags) (memory : Memory size) :
    (HostAdapter.reset flags : Activity (RamDisk × Memory size) Bool).effect (disk, memory) =
      (some true,
        (((new disk.profile disk.overflow).injectLoss disk.lossesAhead).numbered disk.submitted,
          memory)) := rfl

/-- TEST UNIT READY for the disk. -/
def readiness (p : Profile) : Command :=
  { Command.testUnitReady with target := p.target, lun := p.lun }

/-- A loss that is ahead shows. -/
theorem not_indistinct_of_loss (disk : RamDisk) (memory : Memory size)
    (hloss : disk.lossesAhead ≠ 0) :
    ¬ Indistinct (disk, memory) (new disk.profile disk.overflow, memory) := by
  intro h
  have hat : IsAt disk.profile (readiness disk.profile) := ⟨rfl, rfl⟩
  have hatNew : IsAt (new disk.profile disk.overflow).profile (readiness disk.profile) := hat
  have hlost : ((submit (readiness disk.profile)).effect (disk, memory)).1 =
      some (false, readiness disk.profile) := by
    rw [effect_submit, if_neg (not_not_intro hat), if_pos hloss]
  have hrequest : (new disk.profile disk.overflow).request? (readiness disk.profile) =
      some .noData :=
    request?_of_not_overruns rfl not_false
  have hcalm : (new disk.profile disk.overflow).Calm := ⟨rfl, rfl, rfl⟩
  have hanswered : ((submit (readiness disk.profile)).effect (new disk.profile disk.overflow, memory)).1 =
      some (true, readiness disk.profile) := by
    rw [effect_submit_of_calm hatNew hcalm hrequest]
    rfl
  have hsame : ((submit (readiness disk.profile)).effect (disk, memory)).1 =
      ((submit (readiness disk.profile)).effect (new disk.profile disk.overflow, memory)).1 :=
    (List.cons.inj (h [readiness disk.profile]).1).1
  rw [hlost, hanswered] at hsame
  exact nomatch hsame

/-- **A reset keeps the losses.** It succeeds, and no submissions tell the disk afterwards from a new
one of the same profile with the same losses ahead, over the same private block. So the disk is as
good as new exactly if no loss is ahead. -/
theorem reset_keeps_losses (disk : RamDisk) (flags : ResetFlags) (memory : Memory size) :
    let ended :=
      (HostAdapter.reset flags : Activity (RamDisk × Memory size) Bool).effect (disk, memory)
    let fresh := new disk.profile disk.overflow
    ended.1 = some true ∧
    Indistinct ended.2 (fresh.injectLoss disk.lossesAhead, memory) ∧
    (Indistinct ended.2 (fresh, memory) ↔ disk.lossesAhead = 0) := by
  intro ended fresh
  have hended : ended = (some true,
      ((fresh.injectLoss disk.lossesAhead).numbered disk.submitted, memory)) :=
    effect_reset disk flags memory
  rw [hended]
  have hlosses := indistinct_numbered (fresh.injectLoss disk.lossesAhead) disk.submitted memory
  refine ⟨rfl, hlosses, fun h => ?_, fun h => ?_⟩
  -- a loss that is ahead would show on a command, and nothing else is ahead after a reset
  · refine Decidable.of_not_not fun hloss => ?_
    exact not_indistinct_of_loss (fresh.injectLoss disk.lossesAhead) memory hloss
      (hlosses.symm.trans h)
  · have hnew : fresh.injectLoss disk.lossesAhead = fresh := by
      rw [h]
      rfl
    rw [hnew] at hlosses ⊢
    exact hlosses

/-- A loss that was asked for before a reset meets the first command after it. -/
theorem reset_keeps_loss_of_small_disk :
    let disk := (new (.disk 4 4)).injectLoss 1
    let ended := (HostAdapter.reset (Flags.single 0) : Activity (RamDisk × Memory 16) Bool).effect
      (disk, Memory.zeros 16)
    answers [readiness (.disk 4 4)] ended.2 = [some (false, readiness (.disk 4 4))] ∧
    answers [readiness (.disk 4 4)] (new (.disk 4 4), Memory.zeros 16) =
      [some (true, readiness (.disk 4 4))] := by
  decide

end Scsi.RamDisk
