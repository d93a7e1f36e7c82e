import Scsi.Proofs.Bus.Return
import Scsi.Proofs.Command.Acceptance
import Scsi.Proofs.Session.Transfer
import Scsi.RamDisk.Basic

/-!
# The count of moved bytes

A unit carries the count of bytes that its last command moved. A block operation that fails leaves
the count at zero, wherever it failed and whatever was there before; one that goes well leaves the
count of the adapter, or of the whole transfer if the adapter counted nothing.

## Main definitions

* `UnitCall.IsBlockOperation`: the call is a transfer, a cache flush or the passing of a command
* `Session.Delivered s c record`: the adapter delivers the command and leaves the record
* `Session.Moves s t count`: the count is that of a transfer
* `Tally P`: how a result and a count go together
* `UnitCall.Counted`: what a block operation leaves as count, by its answer

## Main results

* `tally_perform`, `tally_transfer`: results of submissions and transfers go together with the count
* `UnitCall.counts_own_bytes_only`: every block operation leaves the count of its own bytes
-/

namespace Scsi

open Activity Session

/-! ## What is counted -/

/-- The call is a block operation: a transfer, a cache flush or the passing of a command. -/
def UnitCall.IsBlockOperation : UnitCall → Prop
  | read32 _ _ _ | write32 _ _ _ | read64 _ _ _ | write64 _ _ _ | synchronizeCache
  | passThrough _ => True
  | _ => False

/-- The call went well. -/
def UnitAnswer.isOk : UnitAnswer → Bool
  | done r | completed r _ => r.isOk
  | moved r | filled r _ => r.isOk
  | discovered r => r.isOk

/-- The count that a transfer is answered with. -/
def UnitAnswer.moved? : UnitAnswer → Option UInt32
  | moved (.ok n) | filled (.ok n) _ => some n
  | _ => none

variable {σ : Type} [HostAdapter σ]

/-- Sent for the unit of the session, the command is delivered and the adapter leaves the record. -/
def Session.Delivered (s : Session σ) (c record : Command) : Prop :=
  ∃ host adapter, s.host = some host ∧ host.adapter = some adapter ∧
    ((HostAdapter.submit (c.addressed s.unit)).run (adapter, host.memory)).answer =
      some (true, record)

/-- The transfer makes a command that is delivered, and the adapter counted so many bytes, or it
counted none and they are all bytes of the transfer. -/
def Session.Moves (s : Session σ) (t : Transfer) (count : UInt32) : Prop :=
  ∃ c record, Command.transfer t.block t.count s.unit.blockSize t.data t.access t.form = .ok c ∧
    s.Delivered c record ∧
    count.toNat =
      if record.actualLength ≠ 0 then record.actualLength.toNat
      else t.count.toNat * s.unit.blockSize.toNat

/-- How a result and the count on the unit go together: an error leaves the count at zero, and what
is answered otherwise goes together with the count as `P` says. -/
inductive Tally {α : Type} (P : α → UInt32 → Prop) : Except Error α → UInt32 → Prop
  | failed (e : Error) : Tally P (.error e) 0
  | moved {a : α} {count : UInt32} (h : P a count) : Tally P (.ok a) count

namespace Tally

variable {α : Type} {P Q : α → UInt32 → Prop} {result : Except Error α} {count : UInt32}

theorem mono (h : Tally P result count) (hPQ : ∀ a n, P a n → Q a n) : Tally Q result count := by
  cases h with
  | failed e => exact .failed e
  | moved h => exact .moved (hPQ _ _ h)

theorem eq_zero (h : Tally P result count) (herror : result.isOk = false) : count = 0 := by
  cases h with
  | failed e => rfl
  | moved h => exact nomatch herror

theorem exists_of_isOk (h : Tally P result count) (hok : result.isOk = true) :
    ∃ a, result = .ok a ∧ P a count := by
  cases h with
  | failed e => exact nomatch hok
  | moved h => exact ⟨_, rfl, h⟩

end Tally

/-- What a block operation leaves as count on the unit of the session, by its answer. -/
structure UnitCall.Counted (call : UnitCall) (s : Session σ) (answer : UnitAnswer)
    (count : UInt32) : Prop where
  failed : answer.isOk = false → count = 0
  transferred : ∀ t, call.transfer? = some t → answer.isOk = true →
    answer.moved? = some count ∧ s.Moves t count
  synchronized : call = .synchronizeCache → answer.isOk = true →
    ∃ record, s.Delivered .synchronizeCache record ∧ count = record.actualLength
  passedThrough : ∀ c, call = .passThrough c → answer.isOk = true →
    ∃ record, s.Delivered c record ∧ count = record.actualLength ∧
      answer = .completed (.ok ()) ((c.addressed s.unit).settled record)

/-! ## Submissions -/

/-- What comes back delivered is the record that the adapter left, settled. -/
theorem Host.exists_of_submit {c after : Command} {host host' : Host σ}
    (h : (submit c).effect host = (some (true, after), host')) :
    ∃ adapter record, host.adapter = some adapter ∧ after = c.settled record ∧
      ((HostAdapter.submit c).run (adapter, host.memory)).answer = some (true, record) := by
  rw [effect_submit, ← effect_map] at h
  obtain ⟨⟨_, record⟩, hcall, hsettled⟩ := exists_of_effect_map h
  obtain ⟨rfl, rfl⟩ := Prod.mk.inj hsettled
  cases hadapter : host.adapter with
  | none =>
    -- without an adapter nothing is delivered
    rw [effect_call_of_none hadapter] at hcall
    exact nomatch (Prod.mk.inj hcall).1
  | some adapter =>
    rw [effect_call_of_some hadapter] at hcall
    exact ⟨adapter, record, rfl, rfl, (Prod.mk.inj hcall).1⟩

omit [HostAdapter σ] in
theorem LogicalUnit.tally_completed (u : LogicalUnit) (c : Command) :
    Tally (fun _ count => count = c.actualLength) c.outcome (u.completed c).lastActual := by
  unfold completed
  cases c.outcome with
  | error e => exact .failed e
  | ok _ => exact .moved rfl

/-- A submission leaves the count of its own record, whatever the count was before. -/
theorem tally_perform {c after : Command} {s left : Session σ} {result : Except Error Unit}
    (h : (perform c).effect s = (some (result, after), left)) :
    Tally (fun _ count => ∃ record, s.Delivered c record ∧ count = record.actualLength ∧
      after = (c.addressed s.unit).settled record) result left.unit.lastActual := by
  obtain ⟨u, _ | host⟩ := s
  · rw [effect_perform_of_no_host] at h
    cases h
    exact .failed _
  rw [effect_perform_of_host] at h
  -- the adapter crashed, lost the command, or delivered it
  rcases hsubmit : (Host.submit (c.addressed u)).effect host with ⟨_ | ⟨_ | _, c'⟩, host'⟩
  all_goals
    rw [hsubmit] at h
    cases h
  · exact .failed _
  · obtain ⟨adapter, record, hadapter, hsettled, hrecord⟩ := Host.exists_of_submit hsubmit
    refine (u.tally_completed after).mono fun _ count hcount => ?_
    -- settling a record leaves its count alone
    have hsame : after.actualLength = record.actualLength := by rw [hsettled]; rfl
    exact ⟨record, ⟨host, adapter, rfl, hadapter, hrecord⟩, hcount.trans hsame, hsettled⟩

/-! ## Block operations -/

/-- A transfer leaves the count that it answers with. -/
theorem tally_transfer {t : Transfer} {s left : Session σ} {result : Except Error UInt32}
    {data : DataBuffer} (h : t.work.effect s = (some (result, data), left)) :
    Tally (fun n count => n = count ∧ s.Moves t count) result left.unit.lastActual := by
  obtain ⟨u, host⟩ := s
  unfold Transfer.work at h
  cases hu : u.operations with
  | unsupported =>
    rw [effect_transfer_of_unsupported hu] at h
    cases h
    exact .failed _
  | ready =>
    cases hc : Command.transfer t.block t.count u.blockSize t.data t.access t.form with
    | error e =>
      rw [effect_transfer_of_refused hu hc] at h
      cases h
      exact .failed _
    | ok c =>
      rw [effect_transfer_of_made hu hc] at h
      rcases hsent : (perform c).effect (⟨{ u with lastActual := 0 }, host⟩ : Session σ) with
        ⟨_ | ⟨outcome, after⟩, ended⟩
      all_goals rw [hsent] at h
      · exact nomatch h
      have htally := tally_perform hsent
      cases outcome with
      | error e =>
        cases h
        rw [htally.eq_zero rfl]
        exact .failed e
      | ok _ =>
        obtain ⟨-, -, record, hdelivered, -, rfl⟩ := htally.exists_of_isOk rfl
        cases h
        refine .moved ⟨rfl, c, record, hc, hdelivered, ?_⟩
        -- a command that was made counts the bytes of its transfer
        have hlength := (Command.transfer_eq_ok_iff.1 hc).1.encodes.dataLength
        rw [← (Command.transfer_eq_ok_iff.1 hc).2] at hlength
        show (if record.actualLength ≠ 0 then record.actualLength else c.dataLength).toNat = _
        rw [apply_ite UInt32.toNat, hlength]

theorem tally_synchronizeCache {s left : Session σ} {result : Except Error Unit}
    (h : synchronizeCache.effect s = (some result, left)) :
    Tally (fun _ count => ∃ record, s.Delivered .synchronizeCache record ∧
      count = record.actualLength) result left.unit.lastActual := by
  obtain ⟨u, host⟩ := s
  cases hu : u.operations with
  | unsupported =>
    rw [effect_synchronizeCache_of_unsupported hu] at h
    cases h
    exact .failed _
  | ready =>
    rw [effect_synchronizeCache_of_ready hu, ← effect_map] at h
    obtain ⟨⟨_, after⟩, hsent, rfl⟩ := exists_of_effect_map h
    exact (tally_perform hsent).mono fun _ _ ⟨record, hdelivered, hcount, _⟩ =>
      ⟨record, hdelivered, hcount⟩

theorem tally_passThrough {c after : Command} {s left : Session σ} {result : Except Error Unit}
    (h : (passThrough c).effect s = (some (result, after), left)) :
    Tally (fun _ count => ∃ record, s.Delivered c record ∧ count = record.actualLength ∧
      after = (c.addressed s.unit).settled record) result left.unit.lastActual := by
  obtain ⟨u, host⟩ := s
  cases hu : u.operations with
  | unsupported =>
    rw [effect_passThrough_of_unsupported hu] at h
    cases h
    exact .failed _
  | ready =>
    rw [effect_passThrough_of_ready hu] at h
    exact tally_perform h

/-! ## Calls of a handle -/

omit [HostAdapter σ] in
theorem Transfer.isOk_answerOf (t : Transfer) (result : Except Error UInt32) (data : DataBuffer) :
    (t.answerOf (result, data)).isOk = result.isOk := by
  unfold answerOf
  cases t.access <;> rfl

omit [HostAdapter σ] in
theorem Transfer.moved?_answerOf (t : Transfer) (n : UInt32) (data : DataBuffer) :
    (t.answerOf (.ok n, data)).moved? = some n := by
  unfold answerOf
  cases t.access <;> rfl

namespace UnitCall

variable {s left : Session σ} {answer : UnitAnswer}

theorem counted_of_transfer {call : UnitCall} {t : Transfer} (ht : call.transfer? = some t)
    (h : call.run.effect s = (some answer, left)) :
    call.Counted s answer left.unit.lastActual := by
  rw [Transfer.effect_run ht, ← effect_map] at h
  obtain ⟨⟨result, data⟩, hwork, rfl⟩ := exists_of_effect_map h
  have htally := tally_transfer hwork
  refine ⟨?_, ?_, ?_, ?_⟩
  · intro herror
    exact htally.eq_zero (t.isOk_answerOf result data ▸ herror)
  · intro t' ht' hok
    obtain rfl := Option.some.inj (ht.symm.trans ht')
    obtain ⟨n, rfl, hcount, hmoves⟩ := htally.exists_of_isOk (t.isOk_answerOf result data ▸ hok)
    exact ⟨hcount ▸ t.moved?_answerOf n data, hmoves⟩
  · rintro rfl
    exact nomatch ht
  · rintro c rfl
    exact nomatch ht

theorem counted_synchronizeCache (h : synchronizeCache.run.effect s = (some answer, left)) :
    synchronizeCache.Counted s answer left.unit.lastActual := by
  obtain ⟨result, hflush, rfl⟩ := exists_of_effect_map h
  have htally := tally_synchronizeCache hflush
  refine ⟨htally.eq_zero, ?_, ?_, ?_⟩
  · rintro t ⟨⟩
  · intro _ hok
    obtain ⟨-, -, hcount⟩ := htally.exists_of_isOk hok
    exact hcount
  · rintro c ⟨⟩

theorem counted_passThrough {c : Command}
    (h : (passThrough c).run.effect s = (some answer, left)) :
    (passThrough c).Counted s answer left.unit.lastActual := by
  obtain ⟨⟨result, after⟩, hsent, rfl⟩ := exists_of_effect_map h
  have htally := tally_passThrough hsent
  refine ⟨htally.eq_zero, ?_, ?_, ?_⟩
  · rintro t ⟨⟩
  · rintro ⟨⟩
  · rintro _ ⟨⟩ hok
    obtain ⟨⟨⟩, rfl, record, hdelivered, hcount, rfl⟩ := htally.exists_of_isOk hok
    exact ⟨record, hdelivered, hcount, rfl⟩

/-- **A block operation counts its own bytes and no others.** On a unit with or without block
operations, with or without a host interface, and over any adapter, it leaves no count where it
failed, for whatever reason; the count of a transfer is the one that it answers with, and the count
of a passed command or a flush is that of its record. Nothing of an earlier count is left. It comes
to its end if the adapter returns from commands. -/
theorem counts_own_bytes_only {call : UnitCall} (hcall : call.IsBlockOperation) (s : Session σ) :
    ((∀ c, HostAdapter.Answers σ c) → (call.run.run s).answer.isSome = true) ∧
      ∀ answer, (call.run.run s).answer = some answer →
        call.Counted s answer (call.run.run s).state.unit.lastActual := by
  have hends (hanswers : ∀ c, HostAdapter.Answers σ c) : (call.run.effect s).1.isSome = true :=
    (ends_run (H := fun _ => True) (fun c _ u =>
      ⟨fun _ _ => trivial, Host.returns_of_answers (hanswers (c.addressed u))⟩) s trivial).2
  refine ⟨hends, ?_⟩
  intro answer hanswer
  have heffect : call.run.effect s = (some answer, (call.run.run s).state) :=
    Prod.ext hanswer rfl
  cases call with
  | read32 | write32 | read64 | write64 => exact counted_of_transfer rfl heffect
  | synchronizeCache => exact counted_synchronizeCache heffect
  | passThrough c => exact counted_passThrough heffect
  | _ => exact hcall.elim

/-- A read past the end of a disk and one of its first block, on a unit with a stale count. -/
theorem counts_own_bytes_only_disk :
    let u := { LogicalUnit.new 0 0 0 0 with
      operations := .ready, blockSize := 4, lastActual := 512 }
    let s : Session RamDisk := ⟨u, some (.new (some (RamDisk.new (.disk 4 4))) 16)⟩
    let past := read32 4 1 [1, 2, 3, 4]
    let first := read32 0 1 [1, 2, 3, 4]
    past.IsBlockOperation ∧ first.IsBlockOperation ∧ ∃ refused filled,
      (past.run.run s).answer = some refused ∧ refused.isOk = false ∧
      (past.run.run s).state.unit.lastActual = 0 ∧
      (first.run.run s).answer = some filled ∧ filled.moved? = some 4 ∧
      (first.run.run s).state.unit.lastActual = 4 := by
  intro u s past first
  have hpast : (past.run.run s).answer.map UnitAnswer.isOk = some false := by decide +kernel
  have hfirst : (first.run.run s).answer.map (fun a => (a.isOk, a.moved?)) =
      some (true, some 4) := by decide +kernel
  obtain ⟨refused, hrefused, herror⟩ := Option.map_eq_some_iff.1 hpast
  obtain ⟨filled, hfilled, hread⟩ := Option.map_eq_some_iff.1 hfirst
  obtain ⟨hok, hmoved⟩ := Prod.mk.inj hread
  obtain ⟨-, hpastCounted⟩ := counts_own_bytes_only (show past.IsBlockOperation from trivial) s
  obtain ⟨-, hfirstCounted⟩ := counts_own_bytes_only (show first.IsBlockOperation from trivial) s
  have hzero := (hpastCounted _ hrefused).failed herror
  obtain ⟨hcount, -⟩ := (hfirstCounted _ hfilled).transferred _ rfl hok
  exact ⟨trivial, trivial, refused, filled, hrefused, herror, hzero, hfilled, hmoved,
    Option.some.inj (hcount.symm.trans hmoved)⟩

end UnitCall

end Scsi
