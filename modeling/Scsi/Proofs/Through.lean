import Scsi.Activity

/-!
# Activities seen through a map

An activity on one kind of states does the same as one on another kind, seen through a map from the
states of the first to those of the second: it has the same answer and the same events, and what it
leaves has the image that the other leaves.

## Main definitions

* `Activity.Through f x y`: the activity `y` does what `x` does, seen through `f`

## Main results

* `Activity.Through.bind`: composites do the same if their parts do
* `Activity.Through.get_bind`: what is looked at may be seen through the map as well
-/

namespace Scsi.Activity

variable {S T α β : Type}

/-- The activity `y` on the image of a state does what `x` does on the state. -/
def Through (f : S → T) (x : Activity S α) (y : Activity T α) : Prop :=
  ∀ s, y.run (f s) = ⟨(x.run s).answer, f (x.run s).state, (x.run s).events⟩

variable {f : S → T}

theorem Through.pure (a : α) : Through f (pure a) (pure a) := fun _ => rfl

theorem Through.report (e : Log.Event) : Through f (report e) (report e) := fun _ => rfl

theorem Through.modify {g : S → S} {g' : T → T} (h : ∀ s, g' (f s) = f (g s)) :
    Through f (modify g) (modify g') := by
  intro s
  rw [run_modify, run_modify, h]

/-- What is seen through one map may be seen through another one after it. -/
theorem Through.trans {U : Type} {g : T → U} {x : Activity S α} {y : Activity T α}
    {z : Activity U α} (hxy : Through f x y) (hyz : Through g y z) :
    Through (fun s => g (f s)) x z := by
  intro s
  rw [hyz (f s), hxy s]

/-- Composites do the same if their parts do. -/
theorem Through.bind {x : Activity S α} {y : Activity T α} {g : α → Activity S β}
    {g' : α → Activity T β} (hx : Through f x y) (hg : ∀ a, Through f (g a) (g' a)) :
    Through f (x >>= g) (y >>= g') := by
  intro s
  have hfirst := hx s
  cases h : (x.run s).answer with
  | none =>
    have h' : (y.run (f s)).answer = none := by rw [hfirst, h]
    rw [bind_of_crash h, bind_of_crash h', hfirst]
  | some a =>
    have h' : (y.run (f s)).answer = some a := by rw [hfirst, h]
    -- the rest starts where the first part left off, on both sides
    have hrest := hg a (x.run s).state
    rw [bind_of_answer h, bind_of_answer h', hfirst, hrest]

/-- Where the state is looked at, the other activity looks at its image. -/
theorem Through.get_bind {g : S → Activity S β} {g' : T → Activity T β}
    (hg : ∀ s, Through f (g s) (g' (f s))) : Through f (get >>= g) (get >>= g') := by
  intro s
  have h : ((get : Activity S S).run s).answer = some s := rfl
  have h' : ((get : Activity T T).run (f s)).answer = some (f s) := rfl
  rw [bind_of_answer h, bind_of_answer h', run_get, run_get, hg s]

theorem Through.map {g : α → β} {x : Activity S α} {y : Activity T α} (h : Through f x y) :
    Through f (g <$> x) (g <$> y) :=
  h.bind fun a => Through.pure (g a)

/-- Work on parts does the same if the work does, and the parts are put back to the same end. -/
theorem Through.onPart {S' T' : Type} {f' : S' → T'} {view : S → S'} {put : S' → S → S}
    {view' : T → T'} {put' : T' → T → T} {x : Activity S' α} {y : Activity T' α}
    (h : Through f' x y) (hview : ∀ s, view' (f s) = f' (view s))
    (hput : ∀ p s, put' (f' p) (f s) = f (put p s)) :
    Through f (onPart view put x) (onPart view' put' y) := by
  intro s
  show (⟨(y.run (view' (f s))).answer, put' (y.run (view' (f s))).state (f s),
    (y.run (view' (f s))).events⟩ : Ended T α) = _
  rw [hview, h (view s), hput]
  rfl

end Scsi.Activity
