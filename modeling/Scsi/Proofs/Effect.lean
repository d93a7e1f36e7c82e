import Scsi.Activity

/-!
# Effects of activities

What an activity answers and what state it leaves, apart from the events it reports. Effects compute
along composites, so an activity is followed step by step, and a property of states that every step
keeps is kept by the whole.

## Main definitions

* `Activity.effect`: the answer of an activity, missing after a crash, and the state it leaves
* `Activity.Gives P x Q`: the activity `x` leads from states with `P` to states with `P`, and its
  answers satisfy `Q`
* `Activity.Finishes P x`: from states with `P` the activity `x` answers and leads to states with `P`
* `Activity.CrashesWith P x`: where the activity `x` is cut off, it leaves a state with `P`

## Main results

* `Activity.effect_bind`: the effect of a composite
* `Activity.Gives.bind`: a composite gives what its parts give
* `Activity.Finishes.bind`: a composite finishes if its parts do
* `Activity.CrashesWith.bind`: a composite is cut off where one of its parts is
-/

namespace Scsi.Activity

variable {S T α β : Type}

/-- The answer of an activity, missing after a crash, and the state it leaves. -/
def effect (x : Activity S α) (s : S) : Option α × S := ((x.run s).answer, (x.run s).state)

theorem answer_run (x : Activity S α) (s : S) : (x.run s).answer = (x.effect s).1 := rfl

theorem state_run (x : Activity S α) (s : S) : (x.run s).state = (x.effect s).2 := rfl

@[simp] theorem effect_pure (a : α) (s : S) : (pure a : Activity S α).effect s = (some a, s) := rfl

@[simp] theorem effect_get (s : S) : (get : Activity S S).effect s = (some s, s) := rfl

@[simp] theorem effect_modify (f : S → S) (s : S) : (modify f).effect s = (some (), f s) := rfl

@[simp] theorem effect_report (e : Log.Event) (s : S) : (report e).effect s = (some (), s) := rfl

@[simp] theorem effect_onPart (view : S → T) (put : T → S → S) (x : Activity T α) (s : S) :
    (onPart view put x).effect s =
      ((x.effect (view s)).1, put (x.effect (view s)).2 s) := rfl

theorem effect_bind (x : Activity S α) (f : α → Activity S β) (s : S) :
    (x >>= f).effect s =
      match x.effect s with
      | (none, s') => (none, s')
      | (some a, s') => (f a).effect s' := by
  cases h : (x.run s).answer with
  | none => simp only [effect, bind_of_crash h, h]
  | some a => simp only [effect, bind_of_answer h, h]

theorem effect_bind_of_crash {x : Activity S α} {s s' : S} (h : x.effect s = (none, s'))
    (f : α → Activity S β) : (x >>= f).effect s = (none, s') := by
  rw [effect_bind, h]

theorem effect_bind_of_answer {x : Activity S α} {s s' : S} {a : α}
    (h : x.effect s = (some a, s')) (f : α → Activity S β) :
    (x >>= f).effect s = (f a).effect s' := by
  rw [effect_bind, h]

@[simp] theorem effect_map (g : α → β) (x : Activity S α) (s : S) :
    (g <$> x).effect s = ((x.effect s).1.map g, (x.effect s).2) := by
  change (x >>= fun a => pure (g a)).effect s = _
  rw [effect_bind]
  rcases x.effect s with ⟨_ | a, s'⟩ <;> rfl

/-- A map of the answer leaves the state alone. -/
theorem state_map (g : α → β) (x : Activity S α) (s : S) :
    ((g <$> x).run s).state = (x.run s).state := congrArg Prod.snd (effect_map g x s)

/-- A map of the answer makes no difference to whether there is one. -/
theorem isSome_map (g : α → β) (x : Activity S α) (s : S) :
    ((g <$> x).run s).answer.isSome = (x.run s).answer.isSome := by
  rw [answer_run, effect_map]
  exact Option.isSome_map

/-- What is answered after a map was answered before it. -/
theorem exists_of_effect_map {g : α → β} {x : Activity S α} {s s' : S} {b : β}
    (h : (g <$> x).effect s = (some b, s')) : ∃ a, x.effect s = (some a, s') ∧ g a = b := by
  rw [effect_map] at h
  obtain ⟨hanswer, hstate⟩ := Prod.mk.inj h
  obtain ⟨a, ha, hb⟩ := Option.map_eq_some_iff.1 hanswer
  exact ⟨a, Prod.ext ha hstate, hb⟩

/-! ## What an activity gives -/

/-- From a state with `P` the activity leaves a state with `P`, and what it answers, unless it is
cut off, satisfies `Q`. -/
def Gives (P : S → Prop) (x : Activity S α) (Q : α → Prop) : Prop :=
  ∀ s, P s → P (x.effect s).2 ∧ ∀ a, (x.effect s).1 = some a → Q a

section Gives

variable {P : S → Prop} {Q : α → Prop}

theorem Gives.keeps {x : Activity S α} (h : Gives P x Q) : Keeps P x := fun s hs => (h s hs).1

theorem Keeps.gives {x : Activity S α} (h : Keeps P x) : Gives P x fun _ => True :=
  fun s hs => ⟨h s hs, fun _ _ => trivial⟩

theorem Gives.pure {a : α} (h : Q a) : Gives P (pure a : Activity S α) Q := by
  intro s hs
  refine ⟨hs, ?_⟩
  rintro _ ⟨⟩
  exact h

/-- What is kept holds in particular of the state that is looked at. -/
theorem Gives.get : Gives P (get : Activity S S) P := by
  intro s hs
  refine ⟨hs, ?_⟩
  rintro _ ⟨⟩
  exact hs

theorem Gives.bind {R : β → Prop} {x : Activity S α} {f : α → Activity S β} (hx : Gives P x Q)
    (hf : ∀ a, Q a → Gives P (f a) R) : Gives P (x >>= f) R := by
  intro s hs
  obtain ⟨hkept, hanswer⟩ := hx s hs
  rcases h : x.effect s with ⟨_ | a, s'⟩
  -- a crash in the first part is a crash of the whole
  · rw [effect_bind_of_crash h]
    rw [h] at hkept
    exact ⟨hkept, fun _ h' => nomatch h'⟩
  -- an answer of the first part is one that the rest can go on with
  · rw [effect_bind_of_answer h]
    rw [h] at hkept hanswer
    exact hf a (hanswer a rfl) s' hkept

theorem Keeps.map {g : α → β} {x : Activity S α} (hx : Keeps P x) : Keeps P (g <$> x) :=
  hx.bind fun a => Keeps.pure (g a)

end Gives

/-! ## What an activity comes to the end of -/

/-- From a state with `P` the activity is not cut off, and leaves a state with `P`. -/
def Finishes (P : S → Prop) (x : Activity S α) : Prop :=
  ∀ s, P s → P (x.effect s).2 ∧ (x.effect s).1.isSome = true

section Finishes

variable {P : S → Prop}

theorem Finishes.pure (a : α) : Finishes P (pure a : Activity S α) := fun _ hs => ⟨hs, rfl⟩

theorem Finishes.bind {x : Activity S α} {f : α → Activity S β} (hx : Finishes P x)
    (hf : ∀ a, Finishes P (f a)) : Finishes P (x >>= f) := by
  intro s hs
  obtain ⟨hkept, hanswer⟩ := hx s hs
  rcases h : x.effect s with ⟨_ | a, s'⟩
  · rw [h] at hanswer
    exact nomatch hanswer
  · rw [effect_bind_of_answer h]
    rw [h] at hkept
    exact hf a s' hkept

theorem Finishes.get : Finishes P (get : Activity S S) := fun _ hs => ⟨hs, rfl⟩

theorem Finishes.report (e : Log.Event) : Finishes P (report e : Activity S Unit) :=
  fun _ hs => ⟨hs, rfl⟩

theorem Finishes.modify {f : S → S} (hf : ∀ s, P s → P (f s)) :
    Finishes P (Activity.modify f) := fun s hs => ⟨hf s hs, rfl⟩

theorem Finishes.map {g : α → β} {x : Activity S α} (hx : Finishes P x) : Finishes P (g <$> x) :=
  Finishes.bind hx fun a => Finishes.pure (g a)

/-- Work on a part ends as the work does. -/
theorem Finishes.onPart {Q : T → Prop} {x : Activity T α} (hx : Finishes Q x) {view : S → T}
    {put : T → S → S} (hview : ∀ s, P s → Q (view s)) (hput : ∀ t s, Q t → P s → P (put t s)) :
    Finishes P (onPart view put x) := by
  intro s hs
  obtain ⟨hkept, hanswer⟩ := hx (view s) (hview s hs)
  exact ⟨hput _ s hkept hs, hanswer⟩

end Finishes

/-! ## What a crash leaves -/

/-- Where the activity is cut off, it leaves a state with `P`, whatever state it started in. -/
def CrashesWith (P : S → Prop) (x : Activity S α) : Prop :=
  ∀ s, (x.effect s).1 = none → P (x.effect s).2

section CrashesWith

variable {P : S → Prop}

theorem CrashesWith.pure (a : α) : CrashesWith P (pure a : Activity S α) := fun _ h => nomatch h

theorem CrashesWith.get : CrashesWith P (get : Activity S S) := fun _ h => nomatch h

theorem CrashesWith.modify (f : S → S) : CrashesWith P (Activity.modify f) := fun _ h => nomatch h

theorem CrashesWith.bind {x : Activity S α} {f : α → Activity S β} (hx : CrashesWith P x)
    (hf : ∀ a, CrashesWith P (f a)) : CrashesWith P (x >>= f) := by
  intro s hcrash
  rcases h : x.effect s with ⟨_ | a, s'⟩
  -- the first part was cut off, or the rest was
  · have hleft := hx s (congrArg Prod.fst h)
    rw [h] at hleft
    rw [effect_bind_of_crash h]
    exact hleft
  · rw [effect_bind_of_answer h] at hcrash ⊢
    exact hf a s' hcrash

end CrashesWith

end Scsi.Activity
