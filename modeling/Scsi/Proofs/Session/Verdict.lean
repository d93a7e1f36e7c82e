import Scsi.Proofs.Session.Submission
import Scsi.RamDisk.Basic

/-!
# What a submission leaves

Three things tell a caller how a command went: the result, the sense on the unit and the count of
moved bytes on the unit. After a submission they tell the same story, whatever an earlier command
left there: the bytes of the completed record decide the result, and the result decides the rest.

## Main definitions

* `Command.verdict`: the result that the bytes of a completed record stand for
* `carriedSense`, `countOf`: the sense that a result carries, and the count that it lets through
* `Settles`: what a submission leaves, from the session before it

## Main results

* `Command.outcome_eq_verdict`: the outcome of a record is read off its bytes
* `perform_settles`: every submission from which the adapter returns settles its session
-/

namespace Scsi

open Activity

/-! ## The bytes of a completed record -/

/-- The sense in the bytes of a completed record: 14 of them are enough. -/
def Command.senseCarried (c : Command) : Option Sense :=
  if 14 ≤ c.sense.bytes.length then
    some ⟨c.sense.bytes.byteAt 2 &&& 0x0F, c.sense.bytes.byteAt 12, c.sense.bytes.byteAt 13⟩
  else none

/-- The result that the bytes of a completed record stand for: the status byte decides, and sense
goes along with a CHECK CONDITION alone. -/
def Command.verdict (c : Command) : Except Error Unit :=
  if c.status = 0x00 ∨ c.status = 0x10 then .ok ()
  else if c.status = 0x02 then .error (.checkCondition c.senseCarried)
  else if c.status = 0x08 then .error .busy
  else .error .protocolPhase

theorem Command.ofBytes?_eq_senseCarried (c : Command) :
    Sense.ofBytes? c.sense.bytes = c.senseCarried := by
  unfold Sense.ofBytes? senseCarried Sense.minimumSize
  by_cases h : c.sense.bytes.length < 14
  · rw [if_pos h, if_neg (Nat.not_le.2 h)]
  · rw [if_neg h, if_pos (Nat.le_of_not_lt h)]

/-- The outcome of a record is read off its bytes. -/
theorem Command.outcome_eq_verdict (c : Command) : c.outcome = c.verdict := by
  have hcode := Status.code_ofByte c.status
  unfold outcome verdict
  -- a status with a name has one byte; a byte without a name is none of those that matter here
  cases h : Status.ofByte c.status with
  | other code =>
    have hname : ∀ b, Status.ofByte b ≠ .other code → c.status ≠ b := by
      rintro b hb rfl
      exact hb h
    simp [hname 0x00 nofun, hname 0x10 nofun, hname 0x02 nofun, hname 0x08 nofun]
  | _ =>
    rw [h] at hcode
    rw [← hcode]
    simp [Status.code, ofBytes?_eq_senseCarried]

/-! ## The result on the unit -/

/-- The sense that a result carries, zero if it carries none. -/
def carriedSense : Except Error Unit → Sense
  | .error (.checkCondition (some sense)) => sense
  | _ => .zero

/-- The count of moved bytes that stands after a result: that of the record if the command ended
well. -/
def countOf (record : Command) : Except Error Unit → UInt32
  | .ok _ => record.actualLength
  | .error _ => 0

theorem LogicalUnit.completed_eq (u : LogicalUnit) (c : Command) :
    u.completed c =
      { u with sense := carriedSense c.outcome, lastActual := countOf c c.outcome } := by
  unfold completed
  cases c.outcome with
  | ok _ => rfl
  | error e => cases e with
    | checkCondition sense => cases sense <;> rfl
    | _ => rfl

variable {σ : Type} [HostAdapter σ]

/-- What a submission of `c` leaves of a session with the unit `u` and the interface `host`: a result,
the record afterwards and a session. -/
structure Settles (c : Command) (u : LogicalUnit) (host : Option (Host σ))
    (result : Except Error Unit) (record : Command) (left : Session σ) : Prop where
  /-- Without an interface nothing is sent, and there is none afterwards. -/
  dropped : host = none → result = .error .noInterface ∧ record = c.addressed u ∧ left.host = none
  /-- What the adapter made of the record decides: it was not delivered, or its bytes tell. -/
  sent : ∀ h, host = some h → ∃ (delivered : Bool) (h' : Host σ),
    (Host.submit (c.addressed u)).effect h = (some (delivered, record), h') ∧
      left.host = some h' ∧
      result = if delivered then record.verdict else .error .protocolPhase
  /-- Sense and count are those of this result, and all else is as it was. -/
  unit : left.unit = { u with sense := carriedSense result, lastActual := countOf record result }

/-- **A submission settles its session.** If the adapter returns from it, it ends with a result and a
record; the bytes of the record decide the result, and the result decides what the unit carries
afterwards, whatever it carried before. -/
theorem perform_settles (c : Command) (u : LogicalUnit) (host : Option (Host σ))
    (hreturns : ∀ h, host = some h →
      ((Host.submit (c.addressed u)).effect h).1.isSome = true) :
    ∃ result record left,
      (perform c).effect (⟨u, host⟩ : Session σ) = (some (result, record), left) ∧
        Settles c u host result record left := by
  cases host with
  | none =>
    refine ⟨_, _, _, effect_perform_of_no_host c u, fun _ => ⟨rfl, rfl, rfl⟩, ?_, rfl⟩
    rintro h ⟨⟩
  | some host =>
    have hanswer := hreturns host rfl
    rw [effect_perform_of_host]
    rcases hsubmit : (Host.submit (c.addressed u)).effect host with ⟨_ | ⟨delivered, record⟩, host'⟩
    · rw [hsubmit] at hanswer
      exact nomatch hanswer
    · cases delivered with
      -- the record was lost, so its bytes do not count
      | false =>
        refine ⟨_, _, _, rfl, nofun, ?_, rfl⟩
        rintro _ ⟨⟩
        exact ⟨false, host', hsubmit, rfl, rfl⟩
      | true =>
        refine ⟨_, _, _, rfl, nofun, ?_, u.completed_eq record⟩
        rintro _ ⟨⟩
        exact ⟨true, host', hsubmit, rfl, record.outcome_eq_verdict⟩

/-- A unit with stale sense and a stale count, over a disk that was asked for a MEDIUM ERROR. -/
theorem perform_settles_stale :
    let u := { LogicalUnit.new 0 0 0 0 with sense := ⟨2, 4, 1⟩, lastActual := 512 }
    let host := Host.new (some ((RamDisk.new (.disk 4 4)).injectCheck ⟨3, 0x11, 0⟩)) 16
    (∀ h, some host = some h →
      ((Host.submit (Command.testUnitReady.addressed u)).effect h).1.isSome = true) ∧
    ∃ result record left,
      (perform .testUnitReady).effect (⟨u, some host⟩ : Session RamDisk) =
          (some (result, record), left) ∧
        Settles .testUnitReady u (some host) result record left ∧
        result = .error (.checkCondition (some ⟨3, 0x11, 0⟩)) ∧
        left.unit = { u with sense := ⟨3, 0x11, 0⟩, lastActual := 0 } := by
  intro u host
  have hreturns : ∀ h, some host = some h →
      ((Host.submit (Command.testUnitReady.addressed u)).effect h).1.isSome = true := by
    rintro _ ⟨⟩
    rfl
  obtain ⟨result, record, left, heffect, hsettles⟩ :=
    perform_settles .testUnitReady u (some host) hreturns
  obtain ⟨delivered, host', hsubmit, -, hresult⟩ := hsettles.sent host rfl
  -- the disk delivers the record with 18 bytes of sense
  have hrecord : ((Host.submit (Command.testUnitReady.addressed u)).effect host).1 =
      some (true, { Command.testUnitReady.addressed u with
        status := 0x02, sense := .store (Sense.toBytes .mediumError 0x11 0) }) := by
    decide +kernel
  rw [hsubmit] at hrecord
  obtain ⟨rfl, rfl⟩ := Prod.mk.inj (Option.some.inj hrecord)
  have hcarried : Command.senseCarried { Command.testUnitReady.addressed u with
      status := 0x02, sense := .store (Sense.toBytes .mediumError 0x11 0) } =
      some ⟨3, 0x11, 0⟩ := by
    decide +kernel
  have hcondition : result = .error (.checkCondition (some ⟨3, 0x11, 0⟩)) := by
    rw [hresult, if_pos rfl, Command.verdict, if_neg (by decide), if_pos rfl, hcarried]
  refine ⟨hreturns, result, _, left, heffect, hsettles, hcondition, ?_⟩
  rw [hsettles.unit, hcondition]
  rfl

end Scsi
