import Scsi.Proofs.Session.Attempt

/-!
# Nothing stale takes part in a submission

Records and units are used again and again, and each use leaves something on them: an address, a
status, sense and counts. A submission is a function of the request alone. Two records of the same
request, sent for units that differ in what their last commands left, are sent as the same record,
and nothing tells the two runs apart afterwards: no answer, no unit, no adapter and no event.

## Main definitions

* `Command.SameRequest`: two records of the same request, whatever is left on them

## Main results

* `Command.SameRequest.addressed_eq`: they are sent as the same record
* `run_perform`: a submission starts from an addressed record and a unit without traces
* `contacts_perform`: it asks one thing of the adapter
* `perform_forgets`: records of the same request are submitted alike
-/

namespace Scsi

open Activity Session

/-! ## Records of one request -/

namespace Command

/-- Two records of the same request. Where they were last sent and what came back is no part of it,
and neither is whether they ask for sense, which is asked for in any case. -/
structure SameRequest (c d : Command) : Prop where
  cdb : c.cdb = d.cdb
  data : c.data = d.data
  dataLength : c.dataLength = d.dataLength
  timeout : c.timeout = d.timeout
  retries : c.retries = d.retries
  /-- All flags but AUTOSENSE, which is bit 0. -/
  flags : ∀ i, i ≠ 0 → c.flags.bits.toBitVec.getLsbD i = d.flags.bits.toBitVec.getLsbD i

/-- Records of the same request are addressed alike: each field of what is sent belongs to the
request, or is set anew. -/
theorem SameRequest.addressed_eq {c d : Command} (h : c.SameRequest d) (u : LogicalUnit) :
    c.addressed u = d.addressed u := by
  have hflags : c.flags ∪ CommandFlags.autosense = d.flags ∪ CommandFlags.autosense :=
    Flags.union_single_congr h.flags
  simp only [addressed, cleared, h.cdb, h.data, h.dataLength, h.timeout, h.retries, hflags]

/-- Addressing a record again changes nothing. -/
theorem addressed_addressed (c : Command) (u : LogicalUnit) :
    (c.addressed u).addressed u = c.addressed u := by
  by_cases htimeout : c.timeout = 0 <;>
    simp [addressed, cleared, Flags.union_union_self, htimeout]

end Command

/-! ## One submission -/

variable {σ : Type} [HostAdapter σ]

/-- What is left on record and unit is gone before anything looks at it. -/
theorem run_perform (c : Command) (u : LogicalUnit) (host : Option (Host σ)) :
    (perform c).run (⟨u, host⟩ : Session σ) = (perform (c.addressed u)).run ⟨u.cleared, host⟩ := by
  have haddressed : (c.addressed u).addressed u.cleared = c.addressed u := by
    rw [Command.addressed_congr u.cleared_cleared, Command.addressed_addressed]
  unfold perform
  rw [run_get_bind, run_get_bind]
  dsimp only
  rw [haddressed]
  rfl

/-- One thing is asked of the adapter, whatever comes of it, and nothing without an interface. -/
theorem contacts_perform (c : Command) (u : LogicalUnit) (host : Option (Host σ)) :
    (UnitCall.perform c).contacts (⟨u, host⟩ : Session σ) =
      host.toList.map fun h => ⟨h.memory.toList, .submit (c.addressed u)⟩ := by
  have hstate : (UnitCall.perform c).contacts (⟨u, host⟩ : Session σ) =
      ((perform c).effect (Session.monitored ⟨u, host⟩)).2.contacts := by
    rw [UnitCall.contacts, state_run, UnitCall.run, effect_map]
  rw [hstate]
  cases host with
  | none =>
    change ((perform c).effect (⟨u, none⟩ : Session (Monitor σ))).2.contacts = _
    rw [effect_perform_of_no_host]
    rfl
  | some host =>
    have hsent := Host.contacts_submit (c.addressed u) (rfl : host.monitored.adapter.isSome = true)
    change ((perform c).effect (⟨u, some host.monitored⟩ : Session (Monitor σ))).2.contacts = _
    rw [effect_perform_of_host]
    -- the adapter crashed, lost the command, or delivered it
    rcases h : (Host.submit (c.addressed u)).effect host.monitored with ⟨_ | ⟨_ | _, c'⟩, host'⟩
    all_goals
      rw [h] at hsent
      exact hsent

/-! ## Two submissions -/

/-- **Nothing stale takes part in a submission.** Two records of the same request are submitted for
units that are the same apart from their sense and their last count, over any adapter in any state,
or without an interface. The same record is sent, once, with the same private block; and the runs
end alike, with the same answer, record, unit, adapter, private block and events, be it after a
success, a lost command, a failure or a crash. -/
theorem perform_forgets {c d : Command} {u v : LogicalUnit} (hrequest : c.SameRequest d)
    (hunit : u.cleared = v.cleared) (host : Option (Host σ)) :
    (UnitCall.perform c).contacts (⟨u, host⟩ : Session σ) =
        host.toList.map (fun h => ⟨h.memory.toList, .submit (c.addressed u)⟩) ∧
      (UnitCall.perform d).contacts (⟨v, host⟩ : Session σ) =
        (UnitCall.perform c).contacts (⟨u, host⟩ : Session σ) ∧
      (perform d).run (⟨v, host⟩ : Session σ) = (perform c).run ⟨u, host⟩ := by
  have haddressed : d.addressed v = c.addressed u := by
    rw [← hrequest.addressed_eq v, Command.addressed_congr hunit]
  refine ⟨contacts_perform c u host, ?_, ?_⟩
  · rw [contacts_perform, contacts_perform, haddressed]
  · rw [run_perform d v, run_perform c u, haddressed, hunit]

/-- A record and a unit that are new, and others that went through a MEDIUM ERROR of another unit,
over a disk whose next command fails with NOT READY. -/
theorem perform_forgets_medium_error :
    let c := Command.testUnitReady
    let d := { c with
      target := 5, lun := 1, flags := CommandFlags.autosense, actualLength := 512, status := 0x02,
      sense := .store (Sense.toBytes .mediumError 0x11 0) }
    let u := LogicalUnit.new 0 0 0 0
    let v := { u with sense := ⟨3, 0x11, 0⟩, lastActual := 512 }
    let host := Host.new (some ((RamDisk.new (.disk 4 4)).injectCheck ⟨2, 4, 1⟩)) 16
    c.SameRequest d ∧ u.cleared = v.cleared ∧ c ≠ d ∧ u ≠ v ∧
      (UnitCall.perform d).contacts (⟨v, some host⟩ : Session RamDisk) =
        [⟨Bytes.zeros 16, .submit (c.addressed u)⟩] ∧
      (perform d).run (⟨v, some host⟩ : Session RamDisk) = (perform c).run ⟨u, some host⟩ := by
  intro c d u v host
  have hrequest : c.SameRequest d := by
    refine ⟨rfl, rfl, rfl, rfl, rfl, ?_⟩
    intro i hi
    change (0#32).getLsbD i = (1#32).getLsbD i
    rw [BitVec.getLsbD_zero, BitVec.getLsbD_one]
    simp [hi]
  obtain ⟨hsent, hsame, hrun⟩ := perform_forgets hrequest (rfl : u.cleared = v.cleared) (some host)
  refine ⟨hrequest, rfl, by decide, by decide, hsame.trans (hsent.trans ?_), hrun⟩
  decide +kernel

end Scsi
