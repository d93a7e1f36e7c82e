import Scsi.Proofs.Bus.Observer

/-!
# Monitors

A monitor observes the place of an adapter, which may be missing, and notes what is asked of it,
together with the private block that comes with the question. A bus over monitors does what the bus
does, so what a call asks of the adapter is read off a monitor that is put in just before the call.

## Main definitions

* `Host.seated`: the host interface with the place of its adapter as the adapter
* `Demand`, `Contact`: what is asked of an adapter, and what comes with it
* `Monitor σ`: the place of an adapter with states in `σ` and the contacts that were noted
* `Session.monitored`, `Bus.monitored`: a session and a bus with a monitor put in
* `UnitCall.contacts`, `Bus.Call.contacts`: the contacts of a call, in order

## Main results

* `Host.morphism_unseated`: a place does what the adapter in it does
* `Monitor.morphism`: so does a monitor of the place
* `UnitCall.run_monitored`: a call of a handle does the same with and without a monitor
-/

namespace Scsi

open Activity

variable {σ α : Type}

/-! ## Places of adapters -/

/-- What is in a place does something; in an empty place the answer is `absent`. -/
def HostAdapter.inPlace {size : Nat} (x : Activity (σ × Memory size) α) (absent : α) :
    Activity (Option σ × Memory size) α := fun s =>
  match s.1 with
  | none => ⟨some absent, s, []⟩
  | some adapter =>
    let ended := x.run (adapter, s.2)
    { ended with state := (some ended.state.1, ended.state.2) }

/-- What is in a place lets go. -/
def HostAdapter.releasePlace [HostAdapter σ] : Activity (Option σ) Unit := fun place =>
  match place with
  | none => ⟨some (), none, []⟩
  | some adapter =>
    let ended := HostAdapter.release.run adapter
    { ended with state := some ended.state }

/-- The place of an adapter is one, and answers as a host interface without an adapter does if it is
empty. -/
instance [HostAdapter σ] : HostAdapter (Option σ) where
  submit c := HostAdapter.inPlace (HostAdapter.submit c) (false, c)
  reset flags := HostAdapter.inPlace (HostAdapter.reset flags) false
  configureTarget target settings :=
    HostAdapter.inPlace (HostAdapter.configureTarget target settings) false
  poll := HostAdapter.inPlace HostAdapter.poll ()
  release := HostAdapter.releasePlace

/-- The host interface with the place of its adapter as the adapter. -/
def Host.seated (host : Host σ) : Host (Option σ) := ⟨some host.adapter, host.size, host.memory⟩

/-- The host interface with what is in the place. -/
def Host.unseated (host : Host (Option σ)) : Host σ := ⟨host.adapter.join, host.size, host.memory⟩

theorem Host.through_inPlace (x : (size : Nat) → Activity (σ × Memory size) α) (absent : α) :
    Through Host.unseated (Host.call (fun size => HostAdapter.inPlace (x size) absent) absent)
      (Host.call x absent) := by
  -- no place, an empty one, and one with an adapter
  rintro ⟨_ | _ | a, size, memory⟩ <;> rfl

/-- A place does what the adapter in it does. -/
theorem Host.morphism_unseated [HostAdapter σ] : Host.Morphism (Host.unseated (σ := σ)) where
  submit _ := (Host.through_inPlace _ _).bind fun _ => Through.pure _
  reset _ := Host.through_inPlace _ _
  configureTarget _ _ := Host.through_inPlace _ _
  poll := Host.through_inPlace _ _
  release := by
    rintro ⟨_ | _ | a, size, memory⟩ <;> rfl
  write _ _ _ := rfl

/-! ## Monitors -/

/-- What is asked of an adapter. -/
inductive Demand
  | submit (c : Command)
  | reset (flags : ResetFlags)
  | configureTarget (target : UInt8) (settings : TargetSettings)
  | poll
deriving DecidableEq

/-- A demand on an adapter and the bytes of the private block that came with it. -/
structure Contact where
  block : Bytes
  demand : Demand
deriving DecidableEq

instance : Observation Contact where
  submit block c _ := [⟨block, .submit c⟩]
  reset block flags := [⟨block, .reset flags⟩]
  configureTarget block target settings := [⟨block, .configureTarget target settings⟩]
  poll block := [⟨block, .poll⟩]

/-- The place of an adapter, which may be missing, and the contacts that were noted. -/
abbrev Monitor (σ : Type) := Observer (Option σ) Contact

/-! ## Putting a monitor in -/

/-- The host interface with a monitor, which noted nothing yet, in the place of its adapter. -/
def Host.monitored (host : Host σ) : Host (Monitor σ) := host.seated.mapAdapter Observer.new

/-- The host interface with what is in the place that is monitored. -/
def Host.unmonitored (host : Host (Monitor σ)) : Host σ :=
  (host.mapAdapter Observer.adapter).unseated

/-- The contacts that were noted, none without a monitor. -/
def Host.contacts (host : Host (Monitor σ)) : List Contact := host.notes

/-- The session with a monitor put in. -/
def Session.monitored (s : Session σ) : Session (Monitor σ) := s.view Host.monitored

/-- The contacts that were noted, none without a host interface. -/
def Session.contacts (s : Session (Monitor σ)) : List Contact := s.notes

/-- The bus with a monitor put in. -/
def Bus.monitored (bus : Bus σ) : Bus (Monitor σ) := bus.view Host.monitored

/-- The contacts that were noted, none without a host interface. -/
def Bus.contacts (bus : Bus (Monitor σ)) : List Contact := bus.notes

/-- A call, made of a bus over monitors. -/
def Bus.Call.monitored : Bus.Call σ → Bus.Call (Monitor σ) :=
  lift fun change => Observer.change (Option.map change)

theorem Host.unmonitored_monitored (host : Host σ) : host.monitored.unmonitored = host := rfl

@[simp] theorem Host.contacts_monitored (host : Host σ) : host.monitored.contacts = [] :=
  host.seated.notes_new

@[simp] theorem Session.contacts_monitored (s : Session σ) : s.monitored.contacts = [] :=
  s.notes_view Host.contacts_monitored

@[simp] theorem Bus.contacts_monitored (bus : Bus σ) : bus.monitored.contacts = [] :=
  bus.notes_view Host.contacts_monitored

variable [HostAdapter σ]

/-- The contacts of a call of a handle, in order. -/
def UnitCall.contacts (call : UnitCall) (s : Session σ) : List Contact :=
  (call.run.run s.monitored).state.contacts

/-- The contacts of a call of a bus, in order. -/
def Bus.Call.contacts (call : Bus.Call σ) (bus : Bus σ) : List Contact :=
  (call.monitored.apply bus.monitored).contacts

/-- A monitor does what the adapter in its place does. -/
theorem Monitor.morphism : Host.Morphism (Host.unmonitored (σ := σ)) :=
  Observer.morphism.host.trans Host.morphism_unseated

/-- **A call of a handle** does the same with and without a monitor. -/
theorem UnitCall.run_monitored (call : UnitCall) (s : Session σ) :
    call.run.run s = ⟨(call.run.run s.monitored).answer,
      (call.run.run s.monitored).state.view Host.unmonitored,
      (call.run.run s.monitored).events⟩ :=
  Session.run_of_section Host.unmonitored_monitored (Monitor.morphism.run call) s

end Scsi
