import Scsi.Log.Event

/-!
# Activities

Work on a state that reports events and calls a host adapter, which may crash. An activity ends
with an answer, or is cut off by a crash; in both cases it leaves a state and the events reported
so far, so that what was written before a crash stays.

## Main definitions

* `Ended S α`: what is left when an activity on `S` with answers in `α` has ended
* `Activity S α`: an activity, from the state it starts in to what it leaves
* `Activity.get`, `Activity.modify`, `Activity.report`, `Activity.crash`: the basic activities
* `Activity.onPart`: an activity on a part of the state
* `Activity.Keeps P x`: the activity `x` leads from states with `P` to states with `P`

## Main results

* `Activity.bind_of_answer`, `Activity.bind_of_crash`: a composite goes on after an answer and
  stops at a crash
* `Activity.Keeps.bind`: a composite keeps what its parts keep
-/

namespace Scsi

/-- What is left when an activity has ended: its answer, missing if it was cut off by a crash, the
state and the events it reported, in order. -/
structure Ended (S α : Type) where
  answer : Option α
  state : S
  events : List Log.Event

/-- An activity, from the state it starts in to what it leaves. -/
def Activity (S α : Type) : Type := S → Ended S α

namespace Activity

variable {S α β : Type}

/-- Runs an activity from a state. -/
def run (x : Activity S α) (s : S) : Ended S α := x s

/-- Answers at once. -/
def answer (a : α) : Activity S α := fun s => ⟨some a, s, []⟩

/-- Goes on with `f` on the answer of `x`, unless `x` was cut off. -/
def andThen (x : Activity S α) (f : α → Activity S β) : Activity S β := fun s =>
  let first := x s
  match first.answer with
  | none => ⟨none, first.state, first.events⟩
  | some a =>
    let rest := f a first.state
    ⟨rest.answer, rest.state, first.events ++ rest.events⟩

instance : Monad (Activity S) where
  pure := answer
  bind := andThen

/-- Answers with the state. -/
def get : Activity S S := fun s => ⟨some s, s, []⟩

/-- Changes the state. -/
def modify (f : S → S) : Activity S Unit := fun s => ⟨some (), f s, []⟩

/-- Reports one event. -/
def report (e : Log.Event) : Activity S Unit := fun s => ⟨some (), s, [e]⟩

/-- Is cut off. -/
def crash : Activity S α := fun s => ⟨none, s, []⟩

/-- Works on a part of the state: `view` takes the part out and `put` puts it back, also after a
crash. -/
def onPart {T : Type} (view : S → T) (put : T → S → S) (x : Activity T α) : Activity S α := fun s =>
  let ended := x (view s)
  ⟨ended.answer, put ended.state s, ended.events⟩

/-! ## Running composites -/

@[simp] theorem run_pure (a : α) (s : S) : (pure a : Activity S α).run s = ⟨some a, s, []⟩ := rfl

@[simp] theorem run_get (s : S) : (get : Activity S S).run s = ⟨some s, s, []⟩ := rfl

@[simp] theorem run_modify (f : S → S) (s : S) : (modify f).run s = ⟨some (), f s, []⟩ := rfl

@[simp] theorem run_report (e : Log.Event) (s : S) : (report e).run s = ⟨some (), s, [e]⟩ := rfl

@[simp] theorem run_crash (s : S) : (crash : Activity S α).run s = ⟨none, s, []⟩ := rfl

theorem bind_of_answer {x : Activity S α} {f : α → Activity S β} {s : S} {a : α}
    (h : (x.run s).answer = some a) :
    (x >>= f).run s =
      ⟨((f a).run (x.run s).state).answer, ((f a).run (x.run s).state).state,
        (x.run s).events ++ ((f a).run (x.run s).state).events⟩ := by
  change andThen x f s = _
  have h : (x s).answer = some a := h
  simp only [andThen, run, h]

theorem bind_of_crash {x : Activity S α} {f : α → Activity S β} {s : S}
    (h : (x.run s).answer = none) :
    (x >>= f).run s = ⟨none, (x.run s).state, (x.run s).events⟩ := by
  change andThen x f s = _
  have h : (x s).answer = none := h
  simp only [andThen, run, h]

/-- Looking at the state leaves no trace. -/
theorem run_get_bind (f : S → Activity S α) (s : S) : (get >>= f).run s = (f s).run s := rfl

/-! ## What an activity keeps -/

/-- From a state with `P` the activity leaves a state with `P`, whether it answers or is cut off. -/
def Keeps (P : S → Prop) (x : Activity S α) : Prop := ∀ s, P s → P (x.run s).state

theorem Keeps.pure {P : S → Prop} (a : α) : Keeps P (pure a : Activity S α) := fun _ h => h

theorem Keeps.get {P : S → Prop} : Keeps P (get : Activity S S) := fun _ h => h

theorem Keeps.modify {P : S → Prop} {f : S → S} (h : ∀ s, P s → P (f s)) :
    Keeps P (Activity.modify f) := h

theorem Keeps.bind {P : S → Prop} {x : Activity S α} {f : α → Activity S β}
    (hx : Keeps P x) (hf : ∀ a, Keeps P (f a)) : Keeps P (x >>= f) := by
  intro s hs
  cases h : (x.run s).answer with
  | none => simpa [bind_of_crash h] using hx s hs
  | some a => simpa [bind_of_answer h] using hf a _ (hx s hs)

end Activity

end Scsi
