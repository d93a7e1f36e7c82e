import Scsi.Proofs.Session.Course

/-!
# Effects of a discovery

A discovery sends at most three questions, each over a buffer of its own, and publishes what it
found out in one step at the end. What it leaves of a unit is therefore one of four things: the unit
as it was, the unit marked as being discovered, the unit marked as failed, or the unit with all of
the findings.

## Main definitions

* `Findings.Sound`: the findings have the form that a unit keeps
* `LogicalUnit.IsOpen`: the unit is neither discovered nor in the middle of it
* `LogicalUnit.concluded`: what a discovery with this answer makes of its unit
* `LogicalUnit.Discovered Q u answer w`: a discovery of `u` ends with the answer and leaves `w`,
  with findings that satisfy `Q`

## Main results

* `exists_explore_course`: in a frame that the adapter keeps, the questions take a course
* `gives_explore`: the findings are as the adapter's replies
* `finishes_explore`: the questions come to an end if the adapter returns from each of them
* `exists_explore`: they are answered if the adapter fulfils INQUIRY and READ CAPACITY(10)
* `effect_discover_course`: what becomes of the unit is decided by the course
* `discovered_discover`: a discovery leaves one of the four things
-/

namespace Scsi

open Activity Session

/-! ## Questions in a frame -/

/-- The INQUIRY data are as long as a unit keeps them, and the blocks have a size. -/
def Findings.Sound (f : Findings) : Prop :=
  f.inquiry.length = Inquiry.size ∧ f.capacity.blockSize ≠ 0

section

variable {σ : Type} [HostAdapter σ] {v : LogicalUnit} {H : Option (Host σ) → Prop}
  (hH : ∀ c ∈ Question.all, Host.Serves v H c)

include hH

/-- In a frame that the adapter keeps, the questions take a course, and each is asked in the frame. -/
theorem exists_explore_course {u : LogicalUnit} {host : Host σ}
    (hs : Frame v H (⟨u, some host⟩ : Session σ)) :
    ∃ (sent : List Exchange) (answer : Option (Except DiscoveryError Findings)) (s : Session σ),
      Course v sent answer ∧ (∀ e ∈ sent, e.Made fun host => H (some host)) ∧
      explore.effect (⟨u, some host⟩ : Session σ) = (answer, s) ∧ s.Frame v H := by
  obtain ⟨hu, hhost⟩ := hs
  have hv : u.cleared = v.cleared := LogicalUnit.cleared_of_eq hu
  obtain ⟨sent, answer, w, host', hcourse, hhad, heffect, hw⟩ := effect_explore_course hv host
  have hserves : ∀ e ∈ sent, ∀ host, H (some host) → H (some ((Host.submit e.sent).effect host).2) := by
    intro e he
    obtain ⟨c, hc, hsent⟩ := List.mem_map.1 (hcourse.mem_questions he)
    rw [← hsent]
    exact hH c hc
  exact ⟨sent, answer, ⟨w, some host'⟩, hcourse, hhad.made hserves hhost, heffect,
    hw.trans (hv.symm.trans hu), hhad.keeps hserves hhost⟩

/-- What is found out is what the adapter replied. -/
theorem gives_explore {A : Bytes → Prop} {B : Capacity → Prop}
    (hA : Host.Replies v H Question.identity A)
    (hlong : Host.Replies v H Question.longCapacity fun bs =>
      ∀ reply, CapacityReply.ofBytes16 bs = .ok reply → B reply.capacity)
    (hshort : Host.Replies v H Question.shortCapacity fun bs =>
      ∀ reply, CapacityReply.ofBytes10 bs = .ok reply → B reply.capacity) :
    Gives (Frame v H) explore fun r => ∀ f, r = .ok f → A f.inquiry ∧ B f.capacity := by
  rintro ⟨u, _ | host⟩ hs
  · rw [effect_explore_of_no_host]
    refine ⟨hs, ?_⟩
    rintro _ ⟨⟩ f hf
    exact nomatch hf
  obtain ⟨sent, answer, s, hcourse, hmade, heffect, hs'⟩ := exists_explore_course hH hs
  rw [heffect]
  refine ⟨hs', ?_⟩
  rintro _ rfl f rfl
  cases hcourse with
  | found hi hresult hsizing =>
    refine ⟨(hmade _ (by simp)).reply hi hA hresult, ?_⟩
    cases hsizing with
    | long hl hreply =>
      have hlength := (hmade _ (by simp)).reply hl (Host.replies_length _) hreply
      have hread := ofBytes16_of_length (Nat.le_trans (by decide) (Nat.le_of_eq hlength.symm))
      exact (hmade _ (by simp)).reply hl hlong hreply _ hread
    | short _ _ hs hreply =>
      have hlength := (hmade _ (by simp)).reply hs (Host.replies_length _) hreply
      have hread := ofBytes10_of_length (Nat.le_trans (by decide) (Nat.le_of_eq hlength.symm))
      exact (hmade _ (by simp)).reply hs hshort hreply _ hread

theorem gives_explore_sound :
    Gives (Frame v H) explore fun r => ∀ f, r = .ok f → f.Sound :=
  gives_explore (A := fun bs => bs.length = Inquiry.size) (B := fun c => c.blockSize ≠ 0) hH
    (Host.replies_length Question.identity)
    (fun _ _ _ _ _ _ reply _ => reply.blockSize_capacity_ne_zero)
    (fun _ _ _ _ _ _ reply _ => reply.blockSize_capacity_ne_zero)

/-- The questions come to an end if the adapter returns from each of them. -/
theorem finishes_explore (hc : ∀ c ∈ Question.all, Host.Returns v H c) :
    Finishes (Frame v H) explore := by
  rintro ⟨u, _ | host⟩ hs
  · rw [effect_explore_of_no_host]
    exact ⟨hs, rfl⟩
  obtain ⟨sent, answer, s, hcourse, hmade, heffect, hs'⟩ := exists_explore_course hH hs
  rw [heffect]
  refine ⟨hs', hcourse.isSome_answer fun e he => ?_⟩
  obtain ⟨c, hmem, hsent⟩ := List.mem_map.1 (hcourse.mem_questions he)
  exact (hmade e he).isSome_answer hsent.symm (hc c hmem)

/-- The questions are answered if the adapter fulfils INQUIRY and the 10-byte form, and returns from
the 16-byte form. -/
theorem exists_explore (hnone : ¬ H none) (hidentity : Host.Fulfils v H Question.identity)
    (hlong : Host.Returns v H Question.longCapacity)
    (hshort : Host.Fulfils v H Question.shortCapacity) {s : Session σ} (hs : s.Frame v H) :
    ∃ (f : Findings) (s' : Session σ), explore.effect s = (some (.ok f), s') ∧ s'.Frame v H := by
  obtain ⟨u, _ | host⟩ := s
  · exact absurd hs.2 hnone
  obtain ⟨sent, answer, s, hcourse, hmade, heffect, hs'⟩ := exists_explore_course hH hs
  have fulfilled : ∀ {c : Command}, Host.Fulfils v H c → ∀ e ∈ sent, e.sent = c.addressed v →
      ∃ bs, e.result = some (.ok bs) := fun hc e he hsent => (hmade e he).exists_reply hsent hc
  have returned : ∀ e ∈ sent, e.sent = Question.longCapacity.addressed v → e.result ≠ none := by
    intro e he hsent hresult
    have hanswer := (hmade e he).isSome_answer hsent hlong
    rw [Exchange.result_eq_none_iff.1 hresult] at hanswer
    exact nomatch hanswer
  -- every other course ends with a question that has no reply
  cases hcourse with
  | cut hi hresult | unidentified hi hresult =>
    obtain ⟨bs, hreply⟩ := fulfilled hidentity _ (by simp) hi
    exact nomatch hresult.symm.trans hreply
  | sizeCut hi hresult hsizing =>
    cases hsizing with
    | longCut hl hcut => exact absurd hcut (returned _ (by simp) hl)
    | shortCut _ _ hs hcut =>
      obtain ⟨bs, hreply⟩ := fulfilled hshort _ (by simp) hs
      exact nomatch hcut.symm.trans hreply
  | sizeless hi hresult hsizing =>
    cases hsizing with
    | sizeless _ _ hs herror =>
      obtain ⟨bs, hreply⟩ := fulfilled hshort _ (by simp) hs
      exact nomatch herror.symm.trans hreply
  | found hi hresult hsizing => exact ⟨_, s, heffect, hs'⟩

end

/-! ## What a discovery leaves -/

namespace LogicalUnit

/-- The unit is neither discovered nor in the middle of it, so that a discovery asks its questions. -/
def IsOpen (u : LogicalUnit) : Prop := u.state = .uninitialized ∨ u.state = .failed

theorem IsOpen.ne_ready {u : LogicalUnit} (h : u.IsOpen) : u.state ≠ .ready := by
  intro hstate
  rcases h with h | h <;> exact nomatch h.symm.trans hstate

theorem IsOpen.ne_discovering {u : LogicalUnit} (h : u.IsOpen) : u.state ≠ .discovering := by
  intro hstate
  rcases h with h | h <;> exact nomatch h.symm.trans hstate

/-- A discovery of `u` ends with `answer`, missing after a crash, and leaves `w`, up to what the
last question left on the unit; what it publishes satisfies `Q`. -/
inductive Discovered (Q : Findings → Prop) (u : LogicalUnit) :
    Option (Except DiscoveryError Unit) → LogicalUnit → Prop
  | refused {e : DiscoveryError} (h : ¬ u.IsOpen) : Discovered Q u (some (.error e)) u
  | crashed {w : LogicalUnit} (h : u.IsOpen)
      (hw : w.cleared = { u.cleared with state := .discovering }) : Discovered Q u none w
  | failed {e : DiscoveryError} {w : LogicalUnit} (h : u.IsOpen)
      (hw : w.cleared = { u.cleared with state := .failed }) : Discovered Q u (some (.error e)) w
  | published {f : Findings} {w : LogicalUnit} (h : u.IsOpen) (hf : Q f)
      (hw : w.cleared = u.cleared.publish f) : Discovered Q u (some (.ok ())) w

/-- A discovery leaves what neither its states nor its findings change. -/
theorem Discovered.unchanged {β : Type} {g : LogicalUnit → β} (hcleared : ∀ u, g u.cleared = g u)
    (hstate : ∀ u state, g { u with state } = g u) (hpublish : ∀ u f, g (u.publish f) = g u)
    {Q : Findings → Prop} {u w : LogicalUnit} {answer : Option (Except DiscoveryError Unit)}
    (h : u.Discovered Q answer w) : g w = g u := by
  cases h with
  | refused _ => rfl
  | crashed _ hw => rw [← hcleared w, hw, hstate, hcleared]
  | failed _ hw => rw [← hcleared w, hw, hstate, hcleared]
  | published _ _ hw => rw [← hcleared w, hw, hpublish, hcleared]

/-- What a discovery makes of its unit: it is marked as being discovered while the questions are
asked, and afterwards shows the findings or is marked as failed. -/
def concluded (u : LogicalUnit) :
    Option (Except DiscoveryError Findings) → LogicalUnit
  | none => { u with state := .discovering }
  | some (.error _) => { u with state := .failed }
  | some (.ok f) => u.publish f

end LogicalUnit

section

variable {σ : Type} [HostAdapter σ]

theorem effect_discover_of_not_isOpen {u : LogicalUnit} (h : ¬ u.IsOpen) (host : Option (Host σ)) :
    ∃ e, discover.effect (⟨u, host⟩ : Session σ) = (some (.error e), ⟨u, host⟩) := by
  unfold discover
  rw [effect_bind_of_answer (effect_getUnit _)]
  unfold LogicalUnit.IsOpen at h
  cases hstate : u.state with
  | uninitialized => exact absurd (.inl hstate) h
  | failed => exact absurd (.inr hstate) h
  | ready => exact ⟨_, effect_pure _ _⟩
  | discovering => exact ⟨_, effect_pure _ _⟩

/-- A discovery asks its questions with the unit marked as being discovered, and then marks it as
failed or publishes the findings. -/
theorem effect_discover_of_isOpen {u : LogicalUnit} (h : u.IsOpen) (host : Option (Host σ)) :
    discover.effect (⟨u, host⟩ : Session σ) =
      match explore.effect (⟨{ u with state := .discovering }, host⟩ : Session σ) with
      | (none, s) => (none, s)
      | (some (.error e), s) => (some (.error e), { s with unit := { s.unit with state := .failed } })
      | (some (.ok f), s) => (some (.ok ()), { s with unit := s.unit.publish f }) := by
  unfold discover
  rw [effect_bind_of_answer (effect_getUnit _)]
  rcases h with hstate | hstate
  all_goals
    simp only [hstate]
    rw [effect_bind_of_answer (effect_note _ _ _ _ _ _), effect_bind_of_answer (effect_modifyUnit _ _),
      effect_bind]
    rcases explore.effect (⟨{ u with state := .discovering }, host⟩ : Session σ) with
      ⟨_ | _ | f, s⟩ <;> rfl

/-- **A discovery takes a course.** The unit is asked the questions of a course, and the answer of
the discovery and what becomes of the unit, up to its last command, are those of the course. -/
theorem effect_discover_course {u : LogicalUnit} (hopen : u.IsOpen) (host : Host σ) :
    ∃ (sent : List Exchange) (answer : Option (Except DiscoveryError Findings)) (w : LogicalUnit)
      (host' : Host σ),
      Course u sent answer ∧ Host.Had host sent host' ∧
      discover.effect (⟨u, some host⟩ : Session σ) =
        (answer.map fun r => r.map fun _ => (), ⟨w, some host'⟩) ∧
      w.cleared = u.cleared.concluded answer := by
  obtain ⟨sent, answer, v, host', hcourse, hhad, hexplore, hv⟩ :=
    effect_explore_course (u := { u with state := .discovering })
      (w := { u with state := .discovering }) rfl host
  rw [effect_discover_of_isOpen hopen, hexplore]
  rcases answer with _ | e | f
  · exact ⟨sent, none, v, host', hcourse.of_state, hhad, rfl, hv⟩
  · refine ⟨sent, some (.error e), _, host', hcourse.of_state, hhad, rfl, ?_⟩
    exact congrArg (fun w => { w with state := DiscoveryState.failed }) hv
  · refine ⟨sent, some (.ok f), _, host', hcourse.of_state, hhad, rfl, ?_⟩
    exact congrArg (fun w => w.publish f) hv

/-- **A discovery** leaves the unit as it was, marked as being discovered, marked as failed, or with
all of its findings. -/
theorem discovered_discover {H : Option (Host σ) → Prop} {Q : Findings → Prop} {u : LogicalUnit}
    (hQ : Gives (Frame { u.cleared with state := .discovering } H) explore fun r =>
      ∀ f, r = .ok f → Q f)
    {host : Option (Host σ)} (hhost : H host) :
    u.Discovered Q (discover.effect (⟨u, host⟩ : Session σ)).1
        (discover.effect (⟨u, host⟩ : Session σ)).2.unit ∧
      H (discover.effect (⟨u, host⟩ : Session σ)).2.host := by
  by_cases h : u.IsOpen
  · rw [effect_discover_of_isOpen h]
    have explored := hQ ⟨{ u with state := .discovering }, host⟩ ⟨rfl, hhost⟩
    rcases hended : explore.effect (⟨{ u with state := .discovering }, host⟩ : Session σ) with
      ⟨_ | _ | f, s⟩
    all_goals
      rw [hended] at explored
      obtain ⟨⟨hunit, hkept⟩, hfound⟩ := explored
    -- the questions were cut off
    · exact ⟨.crashed h hunit, hkept⟩
    -- one of them had no answer
    · refine ⟨.failed h ?_, hkept⟩
      exact congrArg (fun w => { w with state := DiscoveryState.failed }) hunit
    -- all of them had one, and the findings appear at once
    · refine ⟨.published h (hfound _ rfl f rfl) ?_, hkept⟩
      exact congrArg (fun w => w.publish f) hunit
  · obtain ⟨e, he⟩ := effect_discover_of_not_isOpen h host
    rw [he]
    exact ⟨.refused h, hhost⟩

/-- A discovery whose questions come to an end comes to an end. -/
theorem isSome_discover {H : Option (Host σ) → Prop} {u : LogicalUnit}
    (h : Finishes (Frame { u.cleared with state := .discovering } H) explore)
    {host : Option (Host σ)} (hhost : H host) :
    (discover.effect (⟨u, host⟩ : Session σ)).1.isSome = true := by
  by_cases hopen : u.IsOpen
  · rw [effect_discover_of_isOpen hopen]
    have explored := (h ⟨{ u with state := .discovering }, host⟩ ⟨rfl, hhost⟩).2
    rcases hended : explore.effect (⟨{ u with state := .discovering }, host⟩ : Session σ) with
      ⟨_ | _ | f, s⟩
    · rw [hended] at explored
      exact nomatch explored
    · rfl
    · rfl
  · obtain ⟨e, he⟩ := effect_discover_of_not_isOpen hopen host
    rw [he]
    rfl

end

end Scsi
