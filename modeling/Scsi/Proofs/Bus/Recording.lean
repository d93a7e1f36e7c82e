import Scsi.Proofs.Bus.Observer
import Scsi.Proofs.Session.Course

/-!
# Recording exchanges

A recorder is an observer that notes every command that is submitted to its adapter, in order, and
what came back. What a bus or a session exchanges with its adapter is read off a recorder that is put
in just before.

## Main definitions

* `Recorder σ`: an adapter with states in `σ` and the exchanges that it had
* `Host.exchanges`, `Session.exchanges`, `Bus.exchanges`: the exchanges that were recorded
* `Host.recorded`, `Session.recorded`, `Bus.recorded`: what has an adapter, with a recorder put in
* `Session.unrecorded`, `Bus.unrecorded`: a session and a bus over a recorder without the exchanges
* `Bus.Call.recorded`: a call, made of a bus over a recorder

## Main results

* `Host.effect_submit_recorder`: a submission does what the adapter does, and is recorded
* `Host.submit_completed`: the record of a command that is completed
* `Host.Had.exists_recorded`, `Host.Had.completed`: a series over a recorder is recorded
* `Session.run_of_through`, `Bus.run_of_through`: what is done is known from what is recorded
* `Bus.unrecorded_apply`: a call does the same with and without a recorder
-/

namespace Scsi

open Activity

instance : Observation Exchange where
  submit _ c answer := [⟨c, answer⟩]

/-- An adapter with the exchanges that it had. -/
abbrev Recorder (σ : Type) := Observer σ Exchange

variable {σ : Type}

/-- The exchanges that were recorded, none without an adapter. -/
def Host.exchanges (host : Host (Recorder σ)) : List Exchange := host.notes

/-- The exchanges that were recorded, none without a host interface. -/
def Session.exchanges (s : Session (Recorder σ)) : List Exchange := s.notes

/-- The exchanges that were recorded, none without a host interface. -/
def Bus.exchanges (bus : Bus (Recorder σ)) : List Exchange := bus.notes

/-! ## What is recorded -/

namespace Host

variable [HostAdapter σ]

/-- A submission does what the adapter does, and is recorded. -/
theorem effect_submit_recorder (c : Command) (size : Nat) (memory : Memory size) (r : Recorder σ) :
    (submit c).effect (⟨some r, size, memory⟩ : Host (Recorder σ)) =
      let ended := (HostAdapter.submit c).run (r.adapter, memory)
      (ended.answer.map fun answer => (answer.1, c.settled answer.2),
        ⟨some ⟨ended.state.1, r.notes ++ [⟨c, ended.answer⟩]⟩, size, ended.state.2⟩) := by
  rw [effect_submit, effect_call_of_some rfl]
  rfl

/-- A command that is completed comes back with the completion, and is recorded. -/
theorem submit_completed {c : Command} (hc : HostAdapter.Completes σ c) {host : Host (Recorder σ)}
    (hadapter : host.adapter.isSome = true) :
    ∃ (r : Completion) (host' : Host (Recorder σ)),
      (submit c).effect host = (some (r.delivered, r.record c), host') ∧
      host'.adapter.isSome = true ∧ host'.exchanges = host.exchanges ++ [r.exchange c] := by
  obtain ⟨_ | recorder, size, memory⟩ := host
  · exact nomatch hadapter
  · obtain ⟨r, hr⟩ := hc size (recorder.adapter, memory)
    let left := ((HostAdapter.submit c).run (recorder.adapter, memory)).state
    refine ⟨r, ⟨some ⟨left.1, recorder.notes ++ [r.exchange c]⟩, size, left.2⟩, ?_, rfl, rfl⟩
    rw [effect_submit_recorder]
    simp only [hr, Option.map_some, Completion.settled_record]
    rfl

end Host

/-! ## Series over a recorder -/

section

variable [HostAdapter σ] {host host' : Host (Recorder σ)} {sent : List Exchange}

/-- What a recorder has recorded of a series comes to its senders as the exchanges of the series. -/
theorem Host.Had.exists_recorded (h : Host.Had host sent host')
    (hadapter : host.adapter.isSome = true) :
    ∃ recorded, host'.exchanges = host.exchanges ++ recorded ∧
      recorded.map Exchange.settled = sent := by
  induction h with
  | nil => exact ⟨[], (List.append_nil _).symm, rfl⟩
  | @cons c answer host host₁ host₂ sent hsubmit _ ih =>
    obtain ⟨_ | recorder, size, memory⟩ := host
    · exact nomatch hadapter
    rw [effect_submit_recorder] at hsubmit
    obtain ⟨rfl, rfl⟩ := Prod.mk.inj hsubmit
    obtain ⟨recorded, hexchanges, rfl⟩ := ih rfl
    let ended := (HostAdapter.submit c).run (recorder.adapter, memory)
    refine ⟨⟨c, ended.answer⟩ :: recorded, ?_, rfl⟩
    rw [hexchanges]
    exact List.append_assoc recorder.notes [⟨c, ended.answer⟩] recorded

/-- Commands that are completed are recorded with their completions. -/
theorem Host.Had.completed (h : Host.Had host sent host') (hadapter : host.adapter.isSome = true)
    (hc : ∀ e ∈ sent, HostAdapter.Completes σ e.sent) :
    host'.exchanges = host.exchanges ++ sent ∧
      ∀ e ∈ sent, ∃ (r : Completion) (c : Command), e = r.exchange c := by
  induction h with
  | nil => exact ⟨(List.append_nil _).symm, fun _ h => nomatch h⟩
  | @cons c answer host host₁ host₂ sent hsubmit _ ih =>
    have hfirst : HostAdapter.Completes σ c := hc _ List.mem_cons_self
    obtain ⟨r, left, hcompleted, hadapter', hexchanges⟩ := submit_completed hfirst hadapter
    obtain ⟨rfl, rfl⟩ := Prod.mk.inj (hsubmit.symm.trans hcompleted)
    obtain ⟨hrest, hall⟩ := ih hadapter' fun e he => hc e (List.mem_cons_of_mem _ he)
    refine ⟨?_, List.forall_mem_cons.2 ⟨⟨r, c, rfl⟩, hall⟩⟩
    rw [hrest, hexchanges, List.append_assoc]
    rfl

end

/-! ## Putting a recorder in -/

/-- The host interface with a recorder put before its adapter. -/
def Host.recorded (host : Host σ) : Host (Recorder σ) := host.mapAdapter Observer.new

/-- The bus with a recorder put between it and its adapter. -/
def Bus.recorded (bus : Bus σ) : Bus (Recorder σ) := bus.view Host.recorded

/-- The bus over a recorder without the exchanges. -/
def Bus.unrecorded (bus : Bus (Recorder σ)) : Bus σ := bus.mapAdapter Observer.adapter

/-- The session with a recorder put between it and its adapter. -/
def Session.recorded (s : Session σ) : Session (Recorder σ) := s.view Host.recorded

/-- The session over a recorder without the exchanges. -/
def Session.unrecorded (s : Session (Recorder σ)) : Session σ := s.mapAdapter Observer.adapter

/-- A call, made of a bus over a recorder. -/
def Bus.Call.recorded : Bus.Call σ → Bus.Call (Recorder σ) := lift Observer.change

@[simp] theorem Host.exchanges_recorded (host : Host σ) : host.recorded.exchanges = [] :=
  host.notes_new

@[simp] theorem Session.exchanges_recorded (s : Session σ) : s.recorded.exchanges = [] :=
  s.notes_view Host.exchanges_recorded

@[simp] theorem Bus.unrecorded_recorded (bus : Bus σ) : bus.recorded.unrecorded = bus :=
  view_of_section Host.adapter_new bus

@[simp] theorem Bus.exchanges_recorded (bus : Bus σ) : bus.recorded.exchanges = [] :=
  bus.notes_view Host.exchanges_recorded

/-- What a session does is what it does with a recorder put in. -/
theorem Session.run_of_through {α : Type} {x : Activity (Session (Recorder σ)) α}
    {y : Activity (Session σ) α} (h : Through (mapAdapter Observer.adapter) x y) (s : Session σ) :
    y.run s = ⟨(x.run s.recorded).answer, (x.run s.recorded).state.unrecorded,
      (x.run s.recorded).events⟩ :=
  run_of_section Host.adapter_new h s

/-- What a bus does is what it does with a recorder put in. -/
theorem Bus.run_of_through {α : Type} {x : Activity (Bus (Recorder σ)) α}
    {y : Activity (Bus σ) α} (h : Through (mapAdapter Observer.adapter) x y) (bus : Bus σ) :
    y.run bus = ⟨(x.run bus.recorded).answer, (x.run bus.recorded).state.unrecorded,
      (x.run bus.recorded).events⟩ :=
  run_of_section Host.adapter_new h bus

/-- **A call** does the same with and without a recorder. -/
theorem Bus.unrecorded_apply [HostAdapter σ] (call : Call σ) (bus : Bus (Recorder σ)) :
    (call.recorded.apply bus).unrecorded = call.apply bus.unrecorded :=
  Observer.morphism.host.apply Host.mapAdapter_change call bus

end Scsi
