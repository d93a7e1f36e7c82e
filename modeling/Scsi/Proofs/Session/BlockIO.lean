import Scsi.Proofs.Session.Submission
import Scsi.Session.BlockIO

/-!
# Effects of block operations

A block operation of a unit is refused before its discovery, refused on account of its arguments, or
sent as one command. In each case the unit differs afterwards at most in what its last command left
on it.

## Main results

* `effect_transfer_of_refused`, `effect_transfer_of_made`: a transfer that makes no command, and one
  that makes one
* `effect_transfer_of_ok`, `effect_transfer_of_failed`: a transfer whose command was delivered
* `effect_transfer_of_unsupported`, `effect_synchronizeCache_of_unsupported`,
  `effect_passThrough_of_unsupported`: block operations of a unit that has none
* `keeps_transfer`, `keeps_synchronizeCache`, `keeps_passThrough`, `keeps_requestSense`: block
  operations keep the frame of their session
-/

namespace Scsi

open Activity Session

variable {σ : Type} [HostAdapter σ]

/-! ## Effects -/

section Effect

variable {block : UInt64} {count : UInt32} {data : DataBuffer} {access : Access} {form : CdbForm}
  {u : LogicalUnit}

theorem effect_transfer_of_refused (hu : u.operations = .ready) {e : Error}
    (hc : Command.transfer block count u.blockSize data access form = .error e)
    (host : Option (Host σ)) :
    (transfer block count data access form).effect (⟨u, host⟩ : Session σ) =
      (some (.error e, data), ⟨{ u with lastActual := 0 }, host⟩) := by
  simp only [transfer, effect_bind, effect_getUnit, hu, effect_setLastActual, hc, effect_pure]

/-- A transfer that makes a command submits it, and a submission that ends well decides the count. -/
theorem effect_transfer_of_made (hu : u.operations = .ready) {c : Command}
    (hc : Command.transfer block count u.blockSize data access form = .ok c)
    (host : Option (Host σ)) :
    (transfer block count data access form).effect (⟨u, host⟩ : Session σ) =
      match (perform c).effect (⟨{ u with lastActual := 0 }, host⟩ : Session σ) with
      | (none, left) => (none, left)
      | (some (.error e, after), left) => (some (.error e, after.data), left)
      | (some (.ok (), after), left) =>
        let moved := if after.actualLength ≠ 0 then after.actualLength else c.dataLength
        (some (.ok moved, after.data),
          { left with unit := { left.unit with lastActual := moved } }) := by
  rcases hsent : (perform c).effect (⟨{ u with lastActual := 0 }, host⟩ : Session σ) with
    ⟨_ | ⟨outcome, after⟩, left⟩
  all_goals
    unfold transfer
    rw [effect_bind_of_answer (effect_getUnit _)]
    simp only [hu, hc]
    rw [effect_bind_of_answer (effect_setLastActual _ _)]
  · exact effect_bind_of_crash hsent _
  · rw [effect_bind_of_answer hsent]
    cases outcome <;> rfl

/-- What a transfer makes of the outcome of its command. -/
theorem effect_transfer_of_command (hu : u.operations = .ready) {c : Command}
    (hc : Command.transfer block count u.blockSize data access form = .ok c) {host host' : Host σ}
    {c' : Command} (hsent : (Host.submit (c.addressed u)).effect host = (some (true, c'), host')) :
    (transfer block count data access form).effect (⟨u, some host⟩ : Session σ) =
      match c'.outcome with
      | .error e => (some (.error e, c'.data), ⟨u.completed c', some host'⟩)
      | .ok () =>
        let moved := if c'.actualLength ≠ 0 then c'.actualLength else c.dataLength
        (some (.ok moved, c'.data), ⟨{ u.completed c' with lastActual := moved }, some host'⟩) := by
  -- the count noted before the command is sent is lost when it is completed
  have sent : (perform c).effect (⟨{ u with lastActual := 0 }, some host⟩ : Session σ) =
      (some (c'.outcome, c'), ⟨u.completed c', some host'⟩) :=
    effect_perform_of_delivered rfl hsent
  rw [effect_transfer_of_made hu hc, sent]
  cases c'.outcome <;> rfl

theorem effect_transfer_of_ok (hu : u.operations = .ready) {c : Command}
    (hc : Command.transfer block count u.blockSize data access form = .ok c) {host host' : Host σ}
    {c' : Command} (hsent : (Host.submit (c.addressed u)).effect host = (some (true, c'), host'))
    (hok : c'.outcome = .ok ()) (hmoved : c'.actualLength = c.dataLength) :
    (transfer block count data access form).effect (⟨u, some host⟩ : Session σ) =
      (some (.ok c.dataLength, c'.data),
        ⟨{ u.cleared with lastActual := c.dataLength }, some host'⟩) := by
  rw [effect_transfer_of_command hu hc hsent, hok]
  simp only [hmoved, ite_self, LogicalUnit.completed_of_ok hok]

theorem effect_transfer_of_failed (hu : u.operations = .ready) {c : Command}
    (hc : Command.transfer block count u.blockSize data access form = .ok c) {host host' : Host σ}
    {c' : Command} (hsent : (Host.submit (c.addressed u)).effect host = (some (true, c'), host'))
    {e : Error} (hfailed : c'.outcome = .error e) :
    (transfer block count data access form).effect (⟨u, some host⟩ : Session σ) =
      (some (.error e, c'.data), ⟨u.completed c', some host'⟩) := by
  rw [effect_transfer_of_command hu hc hsent, hfailed]

end Effect

/-! ## Units without block operations -/

section Unsupported

variable {u : LogicalUnit}

omit [HostAdapter σ] in
theorem effect_refuse (u : LogicalUnit) (host : Option (Host σ)) :
    refuse.effect (⟨u, host⟩ : Session σ) =
      (some .unsupported, ⟨{ u with lastActual := 0 }, host⟩) := rfl

/-- A unit that is not ready refuses transfers before a command is made. -/
theorem effect_transfer_of_unsupported (hu : u.operations = .unsupported) (block : UInt64)
    (count : UInt32) (data : DataBuffer) (access : Access) (form : CdbForm)
    (host : Option (Host σ)) :
    (transfer block count data access form).effect (⟨u, host⟩ : Session σ) =
      (some (.error .unsupported, data), ⟨{ u with lastActual := 0 }, host⟩) := by
  unfold transfer
  rw [effect_bind_of_answer (effect_getUnit _)]
  dsimp only
  split
  · exact effect_bind_of_answer (effect_refuse u host) _
  · next h => exact nomatch hu.symm.trans h

theorem effect_synchronizeCache_of_unsupported (hu : u.operations = .unsupported)
    (host : Option (Host σ)) :
    synchronizeCache.effect (⟨u, host⟩ : Session σ) =
      (some (.error .unsupported), ⟨{ u with lastActual := 0 }, host⟩) := by
  unfold synchronizeCache
  rw [effect_bind_of_answer (effect_getUnit _)]
  dsimp only
  split
  · exact effect_bind_of_answer (effect_refuse u host) _
  · next h => exact nomatch hu.symm.trans h

theorem effect_passThrough_of_unsupported (hu : u.operations = .unsupported) (c : Command)
    (host : Option (Host σ)) :
    (passThrough c).effect (⟨u, host⟩ : Session σ) =
      (some (.error .unsupported, { c with actualLength := 0 }),
        ⟨{ u with lastActual := 0 }, host⟩) := by
  unfold passThrough
  rw [effect_bind_of_answer (effect_getUnit _)]
  dsimp only
  split
  · exact effect_bind_of_answer (effect_refuse u host) _
  · next h => exact nomatch hu.symm.trans h

end Unsupported

/-! ## Commands of ready units -/

section Ready

variable {u : LogicalUnit} (hu : u.operations = .ready) (host : Option (Host σ))

include hu

/-- A cache flush of a ready unit is a submission. -/
theorem effect_synchronizeCache_of_ready :
    synchronizeCache.effect (⟨u, host⟩ : Session σ) =
      (((perform .synchronizeCache).effect (⟨u, host⟩ : Session σ)).1.map Prod.fst,
        ((perform .synchronizeCache).effect (⟨u, host⟩ : Session σ)).2) := by
  unfold synchronizeCache
  rw [effect_bind_of_answer (effect_getUnit _)]
  dsimp only
  rw [hu]
  exact effect_map _ _ _

/-- So is the passing of a command. -/
theorem effect_passThrough_of_ready (c : Command) :
    (passThrough c).effect (⟨u, host⟩ : Session σ) =
      (perform c).effect (⟨u, host⟩ : Session σ) := by
  unfold passThrough
  rw [effect_bind_of_answer (effect_getUnit _)]
  dsimp only
  rw [hu]

end Ready

/-! ## Frames -/

section Frame

variable {v : LogicalUnit} {H : Option (Host σ) → Prop}

omit [HostAdapter σ] in
theorem keeps_refuse : Keeps (Frame v H) (refuse : Activity (Session σ) Error) :=
  keeps_getUnit.bind fun _ =>
    (keeps_setLastActual 0).bind fun _ =>
      Keeps.bind (keeps_note _ _ _ _ _) fun _ => Keeps.pure _

theorem keeps_transfer {block : UInt64} {count : UInt32} {data : DataBuffer} {access : Access}
    {form : CdbForm}
    (hH : ∀ blockSize c, Command.transfer block count blockSize data access form = .ok c →
      Host.Serves v H c) :
    Keeps (Frame v H) (transfer block count data access form) := by
  refine keeps_getUnit.bind fun u => ?_
  cases u.operations with
  | unsupported => exact keeps_refuse.bind fun _ => Keeps.pure _
  | ready =>
    refine (keeps_setLastActual 0).bind fun _ => ?_
    -- a transfer that makes no command sends nothing
    cases hc : Command.transfer block count u.blockSize data access form with
    | error e => exact Keeps.pure _
    | ok c =>
      refine Keeps.bind (keeps_perform (hH _ c hc)) fun sent => ?_
      rcases sent with ⟨_ | _, after⟩
      · exact Keeps.pure _
      · exact (keeps_setLastActual _).bind fun _ => Keeps.pure _

theorem keeps_read {form : CdbForm} {block : UInt64} {count : UInt32} {buffer : Bytes}
    (hH : ∀ blockSize c, Command.transfer block count blockSize (.input buffer) .read form = .ok c →
      Host.Serves v H c) :
    Keeps (Frame v H) (read form block count buffer) :=
  Keeps.bind (keeps_transfer hH) fun _ => Keeps.pure _

theorem keeps_write {form : CdbForm} {block : UInt64} {count : UInt32} {buffer : Bytes}
    (hH : ∀ blockSize c,
      Command.transfer block count blockSize (.output buffer) .write form = .ok c →
        Host.Serves v H c) :
    Keeps (Frame v H) (write form block count buffer) :=
  Keeps.map (keeps_transfer hH)

theorem keeps_synchronizeCache (hH : Host.Serves v H .synchronizeCache) :
    Keeps (Frame v H) (synchronizeCache : Activity (Session σ) (Except Error Unit)) := by
  refine keeps_getUnit.bind fun u => ?_
  cases u.operations with
  | unsupported => exact keeps_refuse.bind fun _ => Keeps.pure _
  | ready => exact Keeps.bind (keeps_perform hH) fun _ => Keeps.pure _

theorem keeps_passThrough {c : Command} (hH : Host.Serves v H c) :
    Keeps (Frame v H) (passThrough c) := by
  refine keeps_getUnit.bind fun u => ?_
  cases u.operations with
  | unsupported => exact keeps_refuse.bind fun _ => Keeps.pure _
  | ready => exact keeps_perform hH

theorem keeps_testUnitReady (hH : Host.Serves v H .testUnitReady) :
    Keeps (Frame v H) (testUnitReady : Activity (Session σ) (Except Error Unit)) :=
  Keeps.map (keeps_perform hH)

theorem keeps_requestSense {buffer : Bytes}
    (hH : ∀ c, Command.requestSense buffer = .ok c → Host.Serves v H c) :
    Keeps (Frame v H) (requestSense buffer) := by
  unfold requestSense
  cases h : Command.requestSense buffer with
  | error e => exact Keeps.pure _
  | ok c => exact Keeps.bind (keeps_perform (hH c h)) fun _ => Keeps.pure _

end Frame

end Scsi
