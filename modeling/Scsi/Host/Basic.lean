import Scsi.Host.Adapter

/-!
# Host interfaces

What a bus has of its host adapter: the adapter's state and its private block. A private block may
be declared without an adapter; every operation is then answered as not implemented.

## Main definitions

* `Host σ`: an adapter's state and its private block
* `Host.new`: an interface with a zeroed private block
* `Host.submit`, `Host.reset`, `Host.configureTarget`, `Host.poll`, `Host.release`: the operations of
  the adapter

## Main results

* `Host.size_call`: no operation changes the size of the private block
-/

namespace Scsi

/-- An adapter's state, if there is an adapter, and its private block. -/
structure Host (σ : Type) where
  adapter : Option σ
  size : Nat
  memory : Memory size

namespace Host

open Activity

variable {σ α : Type}

/-- An interface with a zeroed private block. -/
def new (adapter : Option σ) (size : Nat) : Host σ := ⟨adapter, size, .zeros size⟩

/-- Lets the adapter do something; without an adapter the answer is `absent`. -/
def call (x : (size : Nat) → Activity (σ × Memory size) α) (absent : α) :
    Activity (Host σ) α := fun host =>
  match host.adapter with
  | none => ⟨some absent, host, []⟩
  | some state =>
    let ended := x host.size (state, host.memory)
    ⟨ended.answer, ⟨some ended.state.1, host.size, ended.state.2⟩, ended.events⟩

theorem size_call (x : (size : Nat) → Activity (σ × Memory size) α) (absent : α) (host : Host σ) :
    ((call x absent).run host).state.size = host.size := by
  simp only [call, Activity.run]
  split <;> rfl

theorem adapter_call (x : (size : Nat) → Activity (σ × Memory size) α) (absent : α)
    (host : Host σ) :
    ((call x absent).run host).state.adapter.isSome = host.adapter.isSome := by
  simp only [call, Activity.run]
  split <;> simp_all

variable [HostAdapter σ]

/-- Sends a command: whether it was delivered, and the command afterwards. -/
def submit (c : Command) : Activity (Host σ) (Bool × Command) := do
  let (delivered, after) ← call (fun _ => HostAdapter.submit c) (false, c)
  return (delivered, c.settled after)

/-- Resets the bus and says whether that worked. -/
def reset (flags : ResetFlags) : Activity (Host σ) Bool :=
  call (fun _ => HostAdapter.reset flags) false

/-- Negotiates with a target and says whether that worked. -/
def configureTarget (target : UInt8) (settings : TargetSettings) : Activity (Host σ) Bool :=
  call (fun _ => HostAdapter.configureTarget target settings) false

/-- Lets the adapter make progress. -/
def poll : Activity (Host σ) Unit := call (fun _ => HostAdapter.poll) ()

/-- Lets the adapter let go of what it holds. -/
def release : Activity (Host σ) Unit :=
  call (fun _ => onPart Prod.fst (fun adapter s => (adapter, s.2)) HostAdapter.release) ()

/-- The part of the record text that tells the size of the private block. -/
def text (host : Host σ) : String :=
  Layout.openRecord "HostInterface" [("private_size", toString host.size)]

end Host

end Scsi
