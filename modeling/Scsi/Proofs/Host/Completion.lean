import Scsi.Proofs.Bytes
import Scsi.Proofs.Session.Submission

/-!
# Completions and exchanges

An adapter that keeps to its part fills in a completion and leaves the rest of the record alone:
status and sense, the count of bytes that were moved, and bytes of the data-in part.

## Main definitions

* `Completion`: what an adapter fills in, and whether it delivered the command at all
* `Completion.record`: the record of a command with a completion filled in
* `Completion.Succeeds`: the command was delivered and ended well
* `Exchange`: a command and what came back
* `Exchange.settled`: the same as the sender of the command gets it
* `Completion.exchange`: the exchange of a command that is completed
* `HostAdapter.Answers`, `HostAdapter.Completes`: the adapter returns from a command in every state,
  and does nothing but fill in a completion
* `Scripted`: an adapter with completions that were laid down beforehand

## Main results

* `Completion.settled_record`: what was filled in is what comes back to the caller
* `Completion.bytes_record`: the reply overlays the buffer of the caller
-/

namespace Scsi

open Activity

/-- What an adapter fills in. -/
structure Completion where
  /-- Whether the command was delivered. -/
  delivered : Bool
  status : UInt8
  sense : SenseBuffer
  actualLength : UInt32
  /-- The bytes for the data-in part; those past its end have no place. -/
  bytes : Bytes

theorem DataBuffer.settled_received (new : Bytes) (d : DataBuffer) :
    d.settled (received new d) = received new d := by
  cases d with
  | none => rfl
  | output bs => rfl
  | input bs =>
    exact congrArg DataBuffer.input (Bytes.overlay_self_length (Bytes.length_overlay new bs))
  | bidirectional bs =>
    exact congrArg DataBuffer.bidirectional
      (Bytes.overlay_self_length (Bytes.length_overlay new bs))

/-- A command ended well if its status byte is that of GOOD or of INTERMEDIATE. -/
theorem Command.outcome_eq_ok_iff_code {c : Command} :
    c.outcome = .ok () ↔
      c.status = Status.good.code ∨ c.status = Status.intermediate.code := by
  -- a status is told by one byte only
  have hbyte : ∀ status, Status.ofByte status.code = status →
      (Status.ofByte c.status = status ↔ c.status = status.code) := by
    intro status hstatus
    constructor
    · intro h
      rw [← h, Status.code_ofByte]
    · intro h
      rw [h, hstatus]
  rw [Command.outcome_eq_ok_iff]
  exact or_congr (hbyte .good rfl) (hbyte .intermediate rfl)

namespace Completion

/-- The record of a command with the completion filled in. -/
def record (r : Completion) (c : Command) : Command :=
  { c.fill r.bytes with status := r.status, sense := r.sense, actualLength := r.actualLength }

/-- The command was delivered and ended well. -/
def Succeeds (r : Completion) : Prop :=
  r.delivered = true ∧ (r.status = Status.good.code ∨ r.status = Status.intermediate.code)

theorem settled_record (r : Completion) (c : Command) : c.settled (r.record c) = r.record c := by
  unfold record Command.fill
  cases c.dataIn with
  | none =>
    show ({ c with data := c.data.settled c.data, status := _, sense := _, actualLength := _ } :
      Command) = _
    rw [DataBuffer.settled_self]
  | some part =>
    show ({ c with data := c.data.settled (c.data.received _), status := _, sense := _,
                   actualLength := _ } : Command) = _
    rw [DataBuffer.settled_received]

/-- Over a buffer that the data-in part makes up, the reply overlays the bytes that were there. -/
theorem bytes_record {r : Completion} {c : Command} {buffer : Bytes} (hdata : c.data = .input buffer)
    (hlength : c.dataLength.toNat = buffer.length) :
    (r.record c).data.bytes = Bytes.overlay r.bytes buffer := by
  -- the data-in part is the buffer as a whole
  have hpart : c.dataIn = some buffer := by
    rw [Command.dataIn, hdata, hlength]
    simp only [DataBuffer.inPhase, Nat.le_refl, if_true, List.take_length]
  show (c.fill r.bytes).data.bytes = _
  unfold Command.fill
  rw [hpart, hdata]
  exact Bytes.overlay_take r.bytes buffer

end Completion

/-- A command that was submitted and what came back: whether it was delivered and the record, or
nothing after a crash. -/
structure Exchange where
  sent : Command
  answer : Option (Bool × Command)

/-- The exchange as the sender gets it, while the adapter has no say in what it was not given. -/
def Exchange.settled (e : Exchange) : Exchange :=
  ⟨e.sent, e.answer.map fun (delivered, after) => (delivered, e.sent.settled after)⟩

/-- The exchange of a command that is completed. -/
def Completion.exchange (r : Completion) (c : Command) : Exchange :=
  ⟨c, some (r.delivered, r.record c)⟩

namespace HostAdapter

/-- The adapter returns from the command, whatever its state is. -/
def Answers (σ : Type) [HostAdapter σ] (c : Command) : Prop :=
  ∀ (size : Nat) (s : σ × Memory size), ((submit c).run s).answer.isSome = true

/-- The adapter returns from the command, whatever its state is, and only fills in a completion. -/
def Completes (σ : Type) [HostAdapter σ] (c : Command) : Prop :=
  ∀ (size : Nat) (s : σ × Memory size),
    ∃ r : Completion, ((submit c).run s).answer = some (r.delivered, r.record c)

theorem Completes.answers {σ : Type} [HostAdapter σ] {c : Command} (h : Completes σ c) :
    Answers σ c := by
  intro size s
  obtain ⟨r, hr⟩ := h size s
  rw [hr]
  rfl

end HostAdapter

/-- An adapter that returns from a command does so behind every host interface. -/
theorem Host.isSome_submit_of_answers {σ : Type} [HostAdapter σ] {c : Command}
    (hc : HostAdapter.Answers σ c) (host : Host σ) :
    ((submit c).effect host).1.isSome = true := by
  -- without an adapter the submission is answered at once
  obtain ⟨_ | state, size, memory⟩ := host
  · rw [effect_submit, effect_call_of_none rfl]
    rfl
  · have h := hc size (state, memory)
    rw [answer_run] at h
    rw [effect_submit, effect_call_of_some rfl]
    simpa using h

theorem Host.returns_of_answers {σ : Type} [HostAdapter σ] {v : LogicalUnit}
    {H : Option (Host σ) → Prop} {c : Command} (hc : HostAdapter.Answers σ (c.addressed v)) :
    Host.Returns v H c := fun host _ => isSome_submit_of_answers hc host

/-- An adapter whose completions were laid down beforehand: each command gets the next one, and what
comes after the last is lost. -/
structure Scripted where
  completions : List Completion

namespace Scripted

instance : HostAdapter Scripted where
  submit c := do
    let (script, _) ← get
    match script.completions with
    | [] => return (false, c)
    | r :: rest =>
      modify fun s => (⟨rest⟩, s.2)
      return (r.delivered, r.record c)

/-- A command comes back with the next completion. -/
theorem effect_submit {r : Completion} {rest : List Completion} (c : Command) (size : Nat)
    (memory : Memory size) :
    (Host.submit c).effect (⟨some ⟨r :: rest⟩, size, memory⟩ : Host Scripted) =
      (some (r.delivered, r.record c), ⟨some ⟨rest⟩, size, memory⟩) := by
  rw [Host.effect_submit, Host.effect_call_of_some rfl]
  show (some (r.delivered, c.settled (r.record c)), _) = _
  rw [Completion.settled_record]
  rfl

end Scripted

end Scsi
