import Scsi.Proofs.Bus.Morphism
import Scsi.Proofs.Host.Completion

/-!
# Observers

An adapter together with notes of its operations. Making notes changes nothing: a bus over observers
does what the bus over the adapters themselves does. So what is asked of an adapter, and what comes
back, is read off an observer that is put in.

## Main definitions

* `Observation ε`: which notes in `ε` are made of an operation
* `Observer σ ε`: an adapter with states in `σ` and the notes that were made
* `Host.notes`, `Session.notes`, `Bus.notes`: the notes behind a host interface

## Main results

* `Observer.morphism`: an observer does what its adapter does
* `Host.notes_watch`: each operation is noted once, whatever comes of it
* `Host.notes_new`: an observer that is put in has no notes yet
-/

namespace Scsi

open Activity

/-- Which notes are made of an operation: the private block that comes with it is known, and what
comes back from a command. -/
class Observation (ε : Type) where
  submit (block : Bytes) (c : Command) (answer : Option (Bool × Command)) : List ε := []
  reset (block : Bytes) (flags : ResetFlags) : List ε := []
  configureTarget (block : Bytes) (target : UInt8) (settings : TargetSettings) : List ε := []
  poll (block : Bytes) : List ε := []

/-- An adapter and the notes that were made of its operations. -/
structure Observer (σ ε : Type) where
  adapter : σ
  notes : List ε

namespace Observer

variable {σ ε α : Type} {size : Nat}

/-- An observer without any notes yet. -/
def new (adapter : σ) : Observer σ ε := ⟨adapter, []⟩

/-- An observer is changed from outside where its adapter would be. -/
def change (change : σ → σ) (o : Observer σ ε) : Observer σ ε :=
  { o with adapter := change o.adapter }

/-- The adapter does something, and notes are made of it. -/
def watch (note : Bytes → Option α → List ε) (x : Activity (σ × Memory size) α) :
    Activity (Observer σ ε × Memory size) α := fun s =>
  let ended := x.run (s.1.adapter, s.2)
  { ended with
    state := (⟨ended.state.1, s.1.notes ++ note s.2.toList ended.answer⟩, ended.state.2) }

variable [HostAdapter σ] [Observation ε]

/-- Letting go is no operation that an adapter is asked for, and is not noted. -/
instance : HostAdapter (Observer σ ε) where
  submit c := watch (fun block answer => Observation.submit block c answer) (HostAdapter.submit c)
  reset flags := watch (fun block _ => Observation.reset block flags) (HostAdapter.reset flags)
  configureTarget target settings :=
    watch (fun block _ => Observation.configureTarget block target settings)
      (HostAdapter.configureTarget target settings)
  poll := watch (fun block _ => Observation.poll block) HostAdapter.poll
  release := onPart adapter (fun adapter o => { o with adapter }) HostAdapter.release

/-- An observer does what its adapter does. -/
theorem morphism : HostAdapter.Morphism (adapter (σ := σ) (ε := ε)) where
  submit _ _ _ := rfl
  reset _ _ _ := rfl
  configureTarget _ _ _ _ := rfl
  poll _ _ := rfl
  release _ := rfl

end Observer

/-- An observer returns from a command if its adapter does. -/
theorem HostAdapter.Answers.observer {σ ε : Type} [HostAdapter σ] [Observation ε] {c : Command}
    (h : HostAdapter.Answers σ c) : HostAdapter.Answers (Observer σ ε) c :=
  fun size s => h size (s.1.adapter, s.2)

variable {σ τ ε : Type}

/-! ## Notes -/

/-- The notes that were made, none without an observer. -/
def Host.notes (host : Host (Observer σ ε)) : List ε := host.adapter.elim [] Observer.notes

/-- The notes that were made, none without a host interface. -/
def Session.notes (s : Session (Observer σ ε)) : List ε := s.host.elim [] Host.notes

/-- The notes that were made, none without a host interface. -/
def Bus.notes (bus : Bus (Observer σ ε)) : List ε := bus.host.elim [] Host.notes

/-- Each operation is noted once, whatever comes of it. -/
theorem Host.notes_watch {α : Type} (note : Bytes → List ε)
    (x : (size : Nat) → Activity (σ × Memory size) α) (absent : α) {host : Host (Observer σ ε)}
    (h : host.adapter.isSome = true) :
    ((call (fun size => Observer.watch (fun block _ => note block) (x size)) absent).effect
      host).2.notes = host.notes ++ note host.memory.toList := by
  obtain ⟨_ | o, size, memory⟩ := host
  · exact nomatch h
  · rfl

/-! ## Putting an observer in -/

theorem Host.notes_new (host : Host σ) :
    (host.mapAdapter (Observer.new (ε := ε))).notes = [] := by
  obtain ⟨_ | a, size, memory⟩ := host <;> rfl

theorem Host.adapter_new (host : Host σ) :
    (host.mapAdapter (Observer.new (ε := ε))).mapAdapter Observer.adapter = host := by
  obtain ⟨_ | a, size, memory⟩ := host <;> rfl

theorem Host.mapAdapter_change (change : σ → σ) (host : Host (Observer σ ε)) :
    mapAdapter Observer.adapter { host with adapter := host.adapter.map (Observer.change change) } =
      { host.mapAdapter Observer.adapter with
        adapter := (host.mapAdapter Observer.adapter).adapter.map change } := by
  obtain ⟨_ | o, size, memory⟩ := host <;> rfl

section

variable {q : Host τ → Host (Observer σ ε)} (hq : ∀ host, (q host).notes = [])

include hq

theorem Session.notes_view (s : Session τ) : (s.view q).notes = [] := by
  obtain ⟨unit, _ | host⟩ := s
  · rfl
  · exact hq host

theorem Bus.notes_view (bus : Bus τ) : (bus.view q).notes = [] := by
  obtain ⟨number, maxTargets, maxLuns, features, queueDepth, timeout, _ | host, units, selected⟩ := bus
  · rfl
  · exact hq host

end

end Scsi
