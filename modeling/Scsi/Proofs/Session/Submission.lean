import Scsi.Proofs.Effect
import Scsi.Session.Submission

/-!
# Effects of a submission

A submission hands the addressed command to the host interface once, and afterwards differs from
the session before it in two places: the host interface is as the adapter left it, and the unit
carries the sense and the count of moved bytes of this command alone.

## Main definitions

* `LogicalUnit.cleared`: a unit apart from what its last command left on it
* `LogicalUnit.completed`: a unit after a command of its own was completed
* `Session.Frame v H`: the sessions whose unit is `v` apart from its last command and whose host
  interface has `H`
* `Host.Serves v H c`, `Host.Replies v H c A`, `Host.Returns v H c`, `Host.Fulfils v H c`: what is
  asked of an adapter

## Main results

* `effect_perform_of_host`, `effect_perform_of_no_host`: the effect of a submission
* `keeps_perform`, `finishes_perform`: a submission keeps the frame of its session, and comes to an
  end if the adapter returns from it
* `exists_perform_of_fulfils`: it ends well if the adapter fulfils it
-/

namespace Scsi

open Activity Session

namespace LogicalUnit

/-- The unit apart from what its last command left on it. -/
def cleared (u : LogicalUnit) : LogicalUnit := { u with sense := .zero, lastActual := 0 }

/-- The unit after a command of its own was completed: a command that ended well leaves the count of
its bytes, and one that failed leaves the sense that came with it. -/
def completed (u : LogicalUnit) (c : Command) : LogicalUnit :=
  match c.outcome with
  | .ok () => { u with sense := .zero, lastActual := c.actualLength }
  | .error e => { u with sense := e.sense?.getD .zero, lastActual := 0 }

theorem cleared_eq (u : LogicalUnit) : u.cleared = { u with sense := .zero, lastActual := 0 } := rfl

@[simp] theorem cleared_cleared (u : LogicalUnit) : u.cleared.cleared = u.cleared := rfl

theorem cleared_of_eq {u v : LogicalUnit} (h : u.cleared = v) : u.cleared = v.cleared := by
  rw [← h, cleared_cleared]

@[simp] theorem cleared_completed (u : LogicalUnit) (c : Command) :
    (u.completed c).cleared = u.cleared := by
  unfold completed
  split <;> rfl

theorem completed_cleared (u : LogicalUnit) (c : Command) :
    u.cleared.completed c = u.completed c := by
  unfold completed
  split <;> rfl

theorem completed_congr {u v : LogicalUnit} (h : u.cleared = v.cleared) (c : Command) :
    u.completed c = v.completed c := by
  rw [← completed_cleared, h, completed_cleared]

theorem completed_of_ok {c : Command} (h : c.outcome = .ok ()) (u : LogicalUnit) :
    u.completed c = { u.cleared with lastActual := c.actualLength } := by
  simp only [completed, h, cleared]

end LogicalUnit

/-- A command is addressed by what a unit is, not by what its last command left on it. -/
theorem Command.addressed_congr {u v : LogicalUnit} (h : u.cleared = v.cleared) (c : Command) :
    c.addressed u = c.addressed v := by
  have target : u.target = v.target := congrArg (fun w => w.target) h
  have lun : u.lun = v.lun := congrArg (fun w => w.lun) h
  have timeout : u.defaultTimeout = v.defaultTimeout := congrArg (fun w => w.defaultTimeout) h
  simp only [addressed, target, lun, timeout]

/-- Completing a command answers with its outcome and puts its sense down. -/
theorem effect_complete (c : Command) (u : LogicalUnit) :
    (complete c).effect u.cleared = (some c.outcome, { u.completed c with lastActual := 0 }) := by
  unfold complete
  rw [effect_bind, effect_get]
  -- only a CHECK CONDITION looks at the sense bytes
  cases h : Status.ofByte c.status with
  | checkCondition =>
    cases hs : Sense.ofBytes? c.sense.bytes <;>
      simp [effect_bind, Command.outcome, h, hs, Error.sense?, LogicalUnit.cleared,
        LogicalUnit.completed]
  | _ =>
    simp [effect_bind, Command.outcome, h, Error.sense?, LogicalUnit.cleared,
      LogicalUnit.completed]

namespace Session

variable {σ : Type}

@[simp] theorem effect_note (level : Log.Level) (source : Log.Source) (number : UInt32)
    (message : String) (fields : List (String × Log.Value)) (s : Session σ) :
    (note level source number message fields).effect s = (some (), s) := rfl

@[simp] theorem effect_getUnit (s : Session σ) : getUnit.effect s = (some s.unit, s) := rfl

@[simp] theorem effect_modifyUnit (f : LogicalUnit → LogicalUnit) (s : Session σ) :
    (modifyUnit f).effect s = (some (), { s with unit := f s.unit }) := rfl

@[simp] theorem effect_setLastActual (n : UInt32) (s : Session σ) :
    (setLastActual n).effect s = (some (), { s with unit := { s.unit with lastActual := n } }) := rfl

end Session

namespace Host

variable {σ α : Type}

theorem effect_call_of_none {host : Host σ} (h : host.adapter = none)
    (x : (size : Nat) → Activity (σ × Memory size) α) (absent : α) :
    (call x absent).effect host = (some absent, host) := by
  simp only [effect, call, run, h]

theorem effect_call_of_some {host : Host σ} {a : σ} (h : host.adapter = some a)
    (x : (size : Nat) → Activity (σ × Memory size) α) (absent : α) :
    (call x absent).effect host =
      (((x host.size).effect (a, host.memory)).1,
        ⟨some ((x host.size).effect (a, host.memory)).2.1, host.size,
          ((x host.size).effect (a, host.memory)).2.2⟩) := by
  simp only [effect, call, run, h]

variable [HostAdapter σ]

/-- A submission returns the record settled: descriptor block and buffer are still the caller's. -/
theorem effect_submit (c : Command) (host : Host σ) :
    (submit c).effect host =
      (((call (fun _ => HostAdapter.submit c) (false, c)).effect host).1.map
          fun r => (r.1, c.settled r.2),
        ((call (fun _ => HostAdapter.submit c) (false, c)).effect host).2) := by
  rw [submit, effect_bind]
  rcases (call (fun _ => HostAdapter.submit c) (false, c)).effect host with ⟨_ | r, host'⟩ <;> rfl

theorem length_data_of_submit {c c' : Command} {host host' : Host σ} {delivered : Bool}
    (h : (submit c).effect host = (some (delivered, c'), host')) :
    c'.data.length = c.data.length := by
  rw [effect_submit] at h
  obtain ⟨r, -, hr⟩ := Option.map_eq_some_iff.1 (Prod.mk.inj h).1
  obtain ⟨-, rfl⟩ := Prod.mk.inj hr
  exact DataBuffer.length_settled _ _

end Host

section

variable {σ : Type} [HostAdapter σ]

/-- Without a host interface nothing is sent. -/
theorem effect_perform_of_no_host (c : Command) (u : LogicalUnit) :
    (perform c).effect (⟨u, none⟩ : Session σ) =
      (some (.error .noInterface, c.addressed u), ⟨u.cleared, none⟩) := by
  simp only [perform, effect_bind, effect_get, effect_modifyUnit, effect_note, effect_pure,
    LogicalUnit.cleared]

/-- With a host interface the addressed command is sent once; what comes back decides. -/
theorem effect_perform_of_host (c : Command) (u : LogicalUnit) (host : Host σ) :
    (perform c).effect (⟨u, some host⟩ : Session σ) =
      match (Host.submit (c.addressed u)).effect host with
      | (none, host') => (none, ⟨u.cleared, some host'⟩)
      | (some (false, c'), host') => (some (.error .protocolPhase, c'), ⟨u.cleared, some host'⟩)
      | (some (true, c'), host') => (some (c'.outcome, c'), ⟨u.completed c', some host'⟩) := by
  simp only [perform, effect_bind, effect_get, effect_modifyUnit, effect_note,
    ← LogicalUnit.cleared_eq]
  -- the bytes to be sent, if there are any, are traced without an effect
  cases (c.addressed u).dataOut
  all_goals
    simp only [effect_bind, effect_note, Session.onHost, effect_onPart]
    -- the adapter crashed, lost the command, or delivered it
    rcases (Host.submit (c.addressed u)).effect host with ⟨_ | ⟨_ | _, c'⟩, host'⟩
    · rfl
    · simp [effect_bind]
    · simp only [if_true, effect_bind, onUnit, effect_onPart, effect_complete]
      cases h : c'.outcome with
      | error e => simp [LogicalUnit.completed, h]
      | ok _ => simp [LogicalUnit.completed, h, effect_bind]

/-- What comes back decides whatever the last command left on the unit. -/
theorem effect_perform_of_delivered {c c' : Command} {u w : LogicalUnit} {host host' : Host σ}
    (hw : w.cleared = u.cleared)
    (h : (Host.submit (c.addressed u)).effect host = (some (true, c'), host')) :
    (perform c).effect (⟨w, some host⟩ : Session σ) =
      (some (c'.outcome, c'), ⟨u.completed c', some host'⟩) := by
  rw [effect_perform_of_host, Command.addressed_congr hw, h,
    LogicalUnit.completed_congr hw.symm]

/-! ## Frames -/

/-- The unit is `v` apart from its last command, and the host interface has `H`. -/
def Session.Frame (v : LogicalUnit) (H : Option (Host σ) → Prop) (s : Session σ) : Prop :=
  s.unit.cleared = v ∧ H s.host

/-- A submission of `c` for `v` keeps `H`. -/
def Host.Serves (v : LogicalUnit) (H : Option (Host σ) → Prop) (c : Command) : Prop :=
  ∀ host : Host σ, H (some host) → H (some ((Host.submit (c.addressed v)).effect host).2)

/-- Where a submission of `c` for `v` ends well, the buffer comes back with `A`. -/
def Host.Replies (v : LogicalUnit) (H : Option (Host σ) → Prop) (c : Command)
    (A : Bytes → Prop) : Prop :=
  ∀ (host host' : Host σ) (c' : Command), H (some host) →
    (Host.submit (c.addressed v)).effect host = (some (true, c'), host') →
      c'.outcome = .ok () → A c'.data.bytes

variable {v : LogicalUnit} {H : Option (Host σ) → Prop}

/-- Whatever an adapter does, the buffer comes back as long as it was. -/
theorem Host.replies_length (c : Command) :
    Host.Replies v H c fun bs => bs.length = c.data.length := by
  intro host host' c' _ hsent _
  exact (Host.length_data_of_submit hsent : c'.data.length = (c.addressed v).data.length)

/-- A submission keeps the frame. -/
theorem keeps_perform {c : Command} (hH : Host.Serves v H c) :
    Keeps (Frame v H) (perform c) := by
  rintro ⟨u, _ | host⟩ ⟨hu, hhost⟩
  · rw [state_run, effect_perform_of_no_host]
    exact ⟨hu, hhost⟩
  -- what the last command left on the unit has no part in how the next one is sent
  · have haddressed : c.addressed u = c.addressed v :=
      Command.addressed_congr (LogicalUnit.cleared_of_eq hu) c
    have hkept := hH host hhost
    rw [state_run, effect_perform_of_host, haddressed]
    rcases h : (Host.submit (c.addressed v)).effect host with ⟨_ | ⟨_ | _, c'⟩, host'⟩
    all_goals rw [h] at hkept
    · exact ⟨hu, hkept⟩
    · exact ⟨hu, hkept⟩
    · exact ⟨(LogicalUnit.cleared_completed u c').trans hu, hkept⟩

/-- The adapter returns from every submission of `c` for `v`. -/
def Host.Returns (v : LogicalUnit) (H : Option (Host σ) → Prop) (c : Command) : Prop :=
  ∀ host : Host σ, H (some host) →
    ((Host.submit (c.addressed v)).effect host).1.isSome = true

theorem finishes_perform {c : Command} (hH : Host.Serves v H c) (hc : Host.Returns v H c) :
    Finishes (Frame v H) (perform c) := by
  intro s hs
  refine ⟨keeps_perform hH s hs, ?_⟩
  obtain ⟨u, _ | host⟩ := s
  · rw [effect_perform_of_no_host]
    rfl
  · obtain ⟨hu, hhost⟩ := hs
    have haddressed : c.addressed u = c.addressed v :=
      Command.addressed_congr (LogicalUnit.cleared_of_eq hu) c
    have hanswer := hc host hhost
    rw [effect_perform_of_host, haddressed]
    rcases h : (Host.submit (c.addressed v)).effect host with ⟨_ | ⟨_ | _, c'⟩, host'⟩
    · rw [h] at hanswer
      exact nomatch hanswer
    · rfl
    · rfl

/-- The adapter delivers every submission of `c` for `v`, and it ends well. -/
def Host.Fulfils (v : LogicalUnit) (H : Option (Host σ) → Prop) (c : Command) : Prop :=
  ∀ host : Host σ, H (some host) → ∃ (c' : Command) (host' : Host σ),
    (Host.submit (c.addressed v)).effect host = (some (true, c'), host') ∧ c'.outcome = .ok ()

/-- A submission that the adapter fulfils ends well. -/
theorem exists_perform_of_fulfils {c : Command} (hnone : ¬ H none) (hH : Host.Serves v H c)
    (hc : Host.Fulfils v H c) {s : Session σ} (hs : s.Frame v H) :
    ∃ (c' : Command) (s' : Session σ),
      (perform c).effect s = (some (.ok (), c'), s') ∧ s'.Frame v H := by
  obtain ⟨u, _ | host⟩ := s
  · exact absurd hs.2 hnone
  obtain ⟨hu, hhost⟩ := hs
  have hw : u.cleared = v.cleared := LogicalUnit.cleared_of_eq hu
  obtain ⟨c', host', hsent, hok⟩ := hc host hhost
  have hkept := hH host hhost
  rw [hsent] at hkept
  have heffect := effect_perform_of_delivered hw hsent
  rw [hok] at heffect
  exact ⟨c', _, heffect, (LogicalUnit.cleared_completed v c').trans (hw.symm.trans hu), hkept⟩

omit [HostAdapter σ] in
theorem keeps_getUnit :
    Keeps (Frame v H) (getUnit : Activity (Session σ) LogicalUnit) :=
  fun _ hs => hs

omit [HostAdapter σ] in
theorem keeps_setLastActual (n : UInt32) :
    Keeps (Frame v H) (setLastActual n : Activity (Session σ) Unit) :=
  fun _ hs => hs

omit [HostAdapter σ] in
theorem keeps_note (level : Log.Level) (source : Log.Source) (number : UInt32) (message : String)
    (fields : List (String × Log.Value)) :
    Keeps (Frame v H) (note level source number message fields : Activity (Session σ) Unit) :=
  fun _ hs => hs

end

end Scsi
