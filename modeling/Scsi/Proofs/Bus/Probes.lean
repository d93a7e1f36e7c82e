import Scsi.Proofs.Bus.Tour
import Scsi.Proofs.Session.Attempt
import Scsi.Proofs.Session.Discovery

/-!
# What a scan asks

A scan comes to the addresses of its range in order. It asks nothing where a unit is ready or in the
middle of its discovery, and the questions of one discovery at every other address. So all that the
adapter is asked for during a scan are the first one, two or three questions at each of these
addresses, one address after the other.

## Main definitions

* `Bus.OpenAt a`, `Bus.openAddresses`: the addresses at which a scan asks
* `Bus.questionsAt a`: the questions of a discovery at an address
* `Probe`: what was asked at one address, with what came back and whether a unit is there since
* `Host.Probed asks host probes host'`: addresses were asked one after the other
* `Bus.Toured addresses bus probes bus'`: visits lead from `bus` to `bus'` with these probes
* `Bus.Probes allLuns bus probes`: what a scan of the bus asks

## Main results

* `Bus.exists_visit_probed`, `Bus.exists_visitAll_probed`: what a visit asks, and what a tour asks
* `Bus.Reachable.exists_probed`: what a scan asks, and where a unit is ready since
* `Bus.Reachable.exists_probes`: a scan makes no other demand on the adapter
* `Bus.ScanResult.again`: what a second scan finds that finds no new unit
-/

namespace Scsi

open Activity

/-! ## Addresses at which a scan asks -/

namespace Bus

section

variable {σ : Type}

instance (bus : Bus σ) (a : Address) : Decidable (bus.ReadyAt a) := decidable_of_iff _ readyAt_iff

instance (bus : Bus σ) (a : Address) : Decidable (bus.DiscoveringAt a) :=
  decidable_of_iff ((bus.units.get? a).any fun u => u.state = .discovering) <| by
    simp [DiscoveringAt, Option.any_eq_true]

/-- There is no unit at the address that is ready or in the middle of its discovery. -/
def OpenAt (bus : Bus σ) (a : Address) : Prop := ¬ bus.ReadyAt a ∧ ¬ bus.DiscoveringAt a

instance (bus : Bus σ) : DecidablePred bus.OpenAt := fun _ => inferInstanceAs (Decidable (_ ∧ _))

/-- The addresses in the range of a scan at which it asks. -/
def openAddresses (bus : Bus σ) (allLuns : Bool) : List Address :=
  (bus.scanRange allLuns).filter (bus.OpenAt ·)

/-- The questions of a discovery at the address, as they are sent to the unit there. -/
def questionsAt (bus : Bus σ) (a : Address) : List Command :=
  (LogicalUnit.new bus.number a.target a.lun bus.defaultTimeout).questions

variable {bus bus' : Bus σ} {a : Address}

theorem openAt_congr (h : bus'.units.get? a = bus.units.get? a) :
    bus'.OpenAt a ↔ bus.OpenAt a := by
  rw [OpenAt, OpenAt, ReadyAt, ReadyAt, DiscoveringAt, DiscoveringAt, h]

/-- A coherent unit at such an address is one whose discovery can start. -/
theorem OpenAt.isOpen {u : LogicalUnit} (h : bus.OpenAt a) (hu : bus.units.get? a = some u)
    (hcoherent : u.Coherent) : u.IsOpen := by
  cases hstate : u.state with
  | uninitialized => exact .inl hstate
  | failed => exact .inr hstate
  | ready => exact absurd ⟨u, hu, hcoherent.ready_iff_state.2 hstate⟩ h.1
  | discovering => exact absurd ⟨u, hu, hstate⟩ h.2

end

/-- A unit at an address of the bus is asked as a new one there would be. -/
theorem questions_of_placed {σ : Type} {bus : Bus σ} {a : Address} {u : LogicalUnit}
    (hu : u.Placed bus a) : u.questions = bus.questionsAt a := by
  obtain ⟨⟨htarget, hlun⟩, -, -, htimeout⟩ := hu
  simp only [LogicalUnit.questions, questionsAt, Command.addressed, htarget, hlun, htimeout,
    LogicalUnit.new]

end Bus

/-! ## Probes -/

/-- What was asked at one address, with what came back, and whether a unit was found there. -/
structure Probe where
  address : Address
  exchanges : List Exchange
  found : Bool

/-- The commands that were sent. -/
def Probe.commands (probe : Probe) : List Command := probe.exchanges.map Exchange.sent

section

variable {σ : Type} [HostAdapter σ] {asks : Address → List Command}

/-- Addresses were asked one after the other, from `host` to `host'`, each by the questions of a
discovery of a unit there. -/
inductive Host.Probed (asks : Address → List Command) : Host σ → List Probe → Host σ → Prop
  | nil {host : Host σ} : Probed asks host [] host
  | cons {u : LogicalUnit} {a : Address} {sent : List Exchange}
      {answer : Except DiscoveryError Findings} {host host₁ host₂ : Host σ} {probes : List Probe}
      (hat : u.IsAt a) (hasks : u.questions = asks a) (hcourse : Course u sent (some answer))
      (hhad : Host.Had host sent host₁) (hrest : Probed asks host₁ probes host₂) :
      Probed asks host (⟨a, sent, answer.isOk⟩ :: probes) host₂

variable {host host₁ host₂ : Host σ} {probes probes' : List Probe}

theorem Host.Probed.append (h : Probed asks host probes host₁) (h' : Probed asks host₁ probes' host₂) :
    Probed asks host (probes ++ probes') host₂ := by
  induction h with
  | nil => exact h'
  | cons hat hasks hcourse hhad _ ih => exact .cons hat hasks hcourse hhad (ih h')

/-- Together they are one series of submissions. -/
theorem Host.Probed.had (h : Probed asks host probes host₁) :
    Host.Had host (probes.flatMap Probe.exchanges) host₁ := by
  induction h with
  | nil => exact .nil
  | cons _ _ _ hhad _ ih => exact hhad.append ih

/-- At each address the first questions are asked, in order. -/
theorem Host.Probed.exists_take (h : Probed asks host probes host₁) :
    ∀ probe ∈ probes, ∃ n, 0 < n ∧ n ≤ 3 ∧ probe.commands = (asks probe.address).take n := by
  induction h with
  | nil => exact fun _ h => nomatch h
  | @cons u a sent answer host host₁ host₂ probes _ hasks hcourse _ _ ih =>
    exact List.forall_mem_cons.2 ⟨hasks ▸ hcourse.exists_take, ih⟩

/-- A map that submissions respect takes a series of submissions to one. -/
theorem Host.Had.map {τ : Type} [HostAdapter τ] {view : Host σ → Host τ}
    (hview : ∀ c, Through view (submit c) (submit c)) {sent : List Exchange}
    (h : Had host sent host₁) : Had (view host) sent (view host₁) := by
  induction h with
  | nil => exact .nil
  | @cons c answer host host₁ host₂ sent hsubmit _ ih =>
    refine .cons ?_ ih
    rw [effect, hview c host]
    exact congrArg (fun ended => (ended.1, view ended.2)) hsubmit

theorem Host.Probed.map {τ : Type} [HostAdapter τ] {view : Host σ → Host τ}
    (hview : ∀ c, Through view (submit c) (submit c)) (h : Probed asks host probes host₁) :
    Probed asks (view host) probes (view host₁) := by
  induction h with
  | nil => exact .nil
  | cons hat hasks hcourse hhad _ ih => exact .cons hat hasks hcourse (hhad.map hview) ih

/-- A monitor notes the submissions of a series, and nothing else. -/
theorem Host.Had.demands {host host' : Host (Monitor σ)} {sent : List Exchange}
    (h : Had host sent host') (hadapter : host.adapter.isSome = true) :
    host'.contacts.map Contact.demand =
      host.contacts.map Contact.demand ++ sent.map fun e => Demand.submit e.sent := by
  induction h with
  | nil => exact (List.append_nil _).symm
  | @cons c answer host host₁ host₂ sent hsubmit _ ih =>
    have hnoted := contacts_submit c hadapter
    have hadapter₁ : host₁.adapter.isSome = true := by
      have hkept := adapter_call (fun _ => HostAdapter.submit c) (false, c) host
      rw [state_run] at hkept
      rw [effect_submit] at hsubmit
      rw [← hadapter, ← hkept]
      exact congrArg (fun ended => ended.2.adapter.isSome) hsubmit.symm
    rw [hsubmit] at hnoted
    rw [ih hadapter₁, hnoted]
    simp

end

namespace Bus

variable {σ : Type} [HostAdapter σ] {bus : Bus σ} {a : Address} {host : Host σ}

/-! ## What visits ask and leave -/

/-- Visits of the addresses lead from `bus` to `bus'` with probes of the open ones, in order. A unit
is ready where one was found, and the units at other addresses are as they were. -/
structure Toured (addresses : List Address) (bus : Bus σ) (probes : List Probe) (bus' : Bus σ) :
    Prop where
  addresses_eq : probes.map Probe.address = addresses.filter (bus.OpenAt ·)
  found_iff : ∀ probe ∈ probes, probe.found = true ↔ bus'.ReadyAt probe.address
  elsewhere : ∀ {b}, b ∉ addresses → bus'.units.get? b = bus.units.get? b

omit [HostAdapter σ] in
/-- Visits of other addresses go on from what the first ones left. -/
theorem Toured.append {addresses addresses' : List Address} {probes probes' : List Probe}
    {bus₁ bus₂ : Bus σ} (h : Toured addresses bus probes bus₁)
    (h' : Toured addresses' bus₁ probes' bus₂) (hdistinct : ∀ a ∈ addresses, a ∉ addresses') :
    Toured (addresses ++ addresses') bus (probes ++ probes') bus₂ := by
  constructor
  case addresses_eq =>
    have hsame : addresses'.filter (bus₁.OpenAt ·) = addresses'.filter (bus.OpenAt ·) := by
      refine List.filter_congr fun b hb => ?_
      simp only [openAt_congr (h.elsewhere fun hmem => hdistinct b hmem hb)]
    rw [List.map_append, h.addresses_eq, h'.addresses_eq, hsame, List.filter_append]
  case found_iff =>
    refine List.forall_mem_append.2 ⟨fun probe hprobe => ?_, h'.found_iff⟩
    -- what a probe of the first addresses found is not undone by the others
    have hmem : probe.address ∈ addresses.filter (bus.OpenAt ·) :=
      h.addresses_eq ▸ List.mem_map_of_mem hprobe
    have hnot := hdistinct _ (List.mem_filter.1 hmem).1
    exact (h.found_iff probe hprobe).trans (readyAt_congr (h'.elsewhere hnot)).symm
  case elsewhere =>
    intro b hb
    obtain ⟨hfirst, hrest⟩ := not_or.1 fun h => hb (List.mem_append.2 h)
    rw [h'.elsewhere hrest, h.elsewhere hfirst]

/-! ## One address -/

/-- The adapter returns from all questions of a discovery, behind every host interface. -/
def ReturnsQuestions (σ : Type) [HostAdapter σ] : Prop :=
  ∀ u : LogicalUnit, ∀ c ∈ u.questions, ∀ host : Host σ,
    ((Host.submit c).effect host).1.isSome = true

/-- **A discovery of an open address** asks the questions there, and leaves a ready unit if they
were answered. -/
theorem exists_discoverAt_course (hreturns : ReturnsQuestions σ) (ht : a.target < bus.maxTargets)
    (hl : a.lun < bus.maxLuns)
    (hunit : ∀ {u}, bus.units.get? a = some u → u.Placed bus a ∧ u.cleared.Coherent)
    (hhost : bus.host = some host) (hopen : bus.OpenAt a) :
    ∃ (u w : LogicalUnit) (sent : List Exchange) (answer : Except DiscoveryError Findings)
      (host' : Host σ) (bus' : Bus σ),
      u.IsAt a ∧ u.questions = bus.questionsAt a ∧ Course u sent (some answer) ∧
      Host.Had host sent host' ∧
      (discoverAt a).effect bus = (some (answer.map fun _ => ()), bus') ∧
      bus'.host = some host' ∧ bus'.units.get? a = some w ∧ w.isReady = answer.isOk ∧
      ∀ {b}, b ≠ a → bus'.units.get? b = bus.units.get? b := by
  obtain ⟨u, units, hadd, hu, helsewhere⟩ := effect_addUnit ht hl
  -- whether it was found or made, the unit is open
  obtain ⟨hplaced, hisOpen, hready⟩ : u.Placed bus a ∧ u.IsOpen ∧ u.isReady = false := by
    rcases hu with hu | rfl
    · obtain ⟨hplaced, hcoherent⟩ := hunit hu
      have hisOpen := hopen.isOpen hu hcoherent.of_cleared
      exact ⟨hplaced, hisOpen, hcoherent.of_cleared.isReady_of_isOpen hisOpen⟩
    · exact ⟨⟨⟨rfl, rfl⟩, ht, hl, rfl⟩, .inl rfl, rfl⟩
  obtain ⟨sent, answer, w, host', hcourse, hhad, heffect, hw⟩ := effect_discover_course hisOpen host
  have hanswered : ∀ e ∈ sent, e.answer.isSome = true := by
    intro e he
    obtain ⟨made, left, -, hsubmit⟩ :=
      hhad.made (I := fun _ => True) (fun _ _ _ _ => trivial) trivial e he
    have hanswer := hreturns u e.sent (hcourse.mem_questions he) made
    rwa [hsubmit] at hanswer
  obtain ⟨answer, rfl⟩ := Option.isSome_iff_exists.1 (hcourse.isSome_answer hanswered)
  have hwReady : w.isReady = (u.cleared.concluded (some answer)).isReady :=
    congrArg (fun v => v.isReady) hw
  have hdiscover := effect_discoverAt hadd
  rw [hhost, heffect] at hdiscover
  refine ⟨u, w, sent, answer, host', _, hplaced.isAt, questions_of_placed hplaced, hcourse, hhad,
    hdiscover, rfl, UnitTable.get?_insert_self _ _ _, ?_, fun hb => ?_⟩
  · cases answer with
    | error e => exact hwReady.trans hready
    | ok f => exact hwReady
  · exact (UnitTable.get?_insert_of_ne _ _ (Ne.symm hb)).trans (helsewhere hb)

omit [HostAdapter σ] in
theorem toured_of_open {bus' : Bus σ} (probe : Probe) (hopen : bus.OpenAt probe.address)
    (hfound : probe.found = true ↔ bus'.ReadyAt probe.address)
    (helsewhere : ∀ {b}, b ≠ probe.address → bus'.units.get? b = bus.units.get? b) :
    Toured [probe.address] bus [probe] bus' where
  addresses_eq := by simp [hopen]
  found_iff := List.forall_mem_singleton.2 hfound
  elsewhere hb := helsewhere (List.ne_of_not_mem_cons hb)

omit [HostAdapter σ] in
theorem toured_of_not_open {bus' : Bus σ} (hopen : ¬ bus.OpenAt a)
    (helsewhere : ∀ {b}, b ≠ a → bus'.units.get? b = bus.units.get? b) :
    Toured [a] bus [] bus' where
  addresses_eq := by simp [hopen]
  found_iff _ h := nomatch h
  elsewhere hb := helsewhere (List.ne_of_not_mem_cons hb)

/-- **A visit** asks at an open address alone, and leaves a ready unit there if its questions were
answered. -/
theorem exists_visit_probed (hreturns : ReturnsQuestions σ) (ht : a.target < bus.maxTargets)
    (hl : a.lun < bus.maxLuns)
    (hunit : ∀ {u}, bus.units.get? a = some u → u.Placed bus a ∧ u.cleared.Coherent)
    (hhost : bus.host = some host) :
    ∃ (found : Bool) (bus' : Bus σ) (probes : List Probe) (host' : Host σ),
      (visit a).effect bus = (some found, bus') ∧ bus'.host = some host' ∧
      Host.Probed bus.questionsAt host probes host' ∧ Toured [a] bus probes bus' := by
  by_cases hopen : bus.OpenAt a
  case pos =>
    obtain ⟨u, w, sent, answer, host', bus₁, hat, hasks, hcourse, hhad, hdiscover, hhost₁, hw, hready,
      helsewhere⟩ := exists_discoverAt_course hreturns ht hl hunit hhost hopen
    have hvisit := effect_visit_of_discovered hopen.1 hdiscover
    let probe : Probe := ⟨a, sent, answer.isOk⟩
    have hprobed : Host.Probed bus.questionsAt host [probe] host' :=
      .cons hat hasks hcourse hhad .nil
    cases answer with
    | ok f =>
      refine ⟨true, bus₁, [probe], host', hvisit, hhost₁, hprobed, ?_⟩
      exact toured_of_open probe hopen (iff_of_true rfl ⟨w, hw, hready⟩) helsewhere
    | error e =>
      -- a unit whose discovery failed is dropped
      refine ⟨false, _, [probe], host', hvisit, hhost₁, hprobed, ?_⟩
      refine toured_of_open probe hopen (iff_of_false (fun h => nomatch h) ?_) fun hb => ?_
      · rintro ⟨v, hv, -⟩
        exact nomatch (UnitTable.get?_erase_self _ _).symm.trans hv
      · exact (UnitTable.get?_erase_of_ne _ (Ne.symm hb)).trans (helsewhere hb)
  case neg =>
    by_cases hready : bus.ReadyAt a
    · exact ⟨true, bus, [], host, effect_visit_of_ready hready, hhost, .nil,
        toured_of_not_open hopen fun _ => rfl⟩
    -- what is neither open nor ready is in the middle of its discovery
    · obtain ⟨u, hu, hstate⟩ : bus.DiscoveringAt a :=
        Classical.not_not.1 fun h => hopen ⟨hready, h⟩
      have hnot : u.isReady = false :=
        Bool.eq_false_iff.2 fun h => hready ⟨u, hu, h⟩
      exact ⟨false, _, [], host, effect_visit_of_discovering ht hl hu hstate hnot, hhost, .nil,
        toured_of_not_open hopen fun hb => UnitTable.get?_erase_of_ne _ (Ne.symm hb)⟩

/-! ## Several addresses -/

/-- Units are where their addresses say, and coherent. -/
theorem sustains_placed_coherent (base : Bus σ) (call : Call σ) :
    call.Sustains base (fun a u => u.Placed base a ∧ u.cleared.Coherent) fun _ => True :=
  sustains_of_units (Q := fun a u => u.Placed base a ∧ u.cleared.Coherent)
    (fun _ ht hl => ⟨⟨⟨rfl, rfl⟩, ht, hl, rfl⟩, LogicalUnit.coherent_new _ _ _ _⟩)
    (fun h hu => ⟨hu.1.congr h, h ▸ hu.2⟩) call
    fun _ _ _ _ => keeps_discover (fun _ _ => gives_explore_sound fun _ _ _ _ => trivial)
      fun _ _ _ hu hleft => ⟨hleft.placed hu.1, hleft.coherent hu.2⟩

/-- **A tour** asks at its open addresses, in order, and at no other. -/
theorem exists_visitAll_probed (hreturns : ReturnsQuestions σ) {base : Bus σ}
    {addresses : List Address}
    (hlimits : ∀ a ∈ addresses, a.target < base.maxTargets ∧ a.lun < base.maxLuns)
    (hdistinct : addresses.Nodup)
    (hbus : Holds base (fun a u => u.Placed base a ∧ u.cleared.Coherent) (fun _ => True) bus)
    (hhost : bus.host = some host) :
    ∃ (found : List Address) (bus' : Bus σ) (probes : List Probe) (host' : Host σ),
      (visitAll addresses).effect bus = (some found, bus') ∧ bus'.host = some host' ∧
      Host.Probed base.questionsAt host probes host' ∧ Toured addresses bus probes bus' := by
  -- by induction on the addresses that are left; the rest is asked on what the first visit leaves
  induction addresses generalizing bus host with
  | nil => exact ⟨[], bus, [], host, rfl, hhost, .nil, ⟨rfl, fun _ h => (nomatch h), fun _ => rfl⟩⟩
  | cons a rest ih =>
    obtain ⟨ha, hrest⟩ := List.nodup_cons.1 hdistinct
    obtain rfl := hbus.emptied
    obtain ⟨ht, hl⟩ : a.target < bus.maxTargets ∧ a.lun < bus.maxLuns :=
      hlimits a List.mem_cons_self
    obtain ⟨found, bus₁, probes, host₁, hvisit, hhost₁, hprobed, htoured⟩ :=
      exists_visit_probed hreturns ht hl
        (fun hu => ⟨(hbus.units hu).1.of_limits rfl rfl rfl, (hbus.units hu).2⟩) hhost
    have hbus₁ : Holds bus.emptied (fun a u => u.Placed bus.emptied a ∧ u.cleared.Coherent)
        (fun _ => True) bus₁ := by
      have hsustained := sustains_placed_coherent bus.emptied (.discover a)
      have h := keeps_visit hsustained.new (hsustained.discover a rfl) bus hbus
      rw [state_run, hvisit] at h
      exact h
    obtain ⟨others, bus₂, probes', host₂, hvisits, hhost₂, hprobed', htoured'⟩ :=
      ih (fun b hb => hlimits b (List.mem_cons_of_mem a hb)) hrest hbus₁ hhost₁
    refine ⟨if found then a :: others else others, bus₂, probes ++ probes', host₂, ?_, hhost₂,
      hprobed.append hprobed', ?_⟩
    · unfold visitAll
      rw [effect_bind_of_answer hvisit, effect_bind_of_answer hvisits]
      rfl
    · exact htoured.append htoured' (List.forall_mem_singleton.2 ha)

/-! ## Scans -/

/-- A scan does what it does with a monitor put in. -/
theorem effect_scan_of_monitored {allLuns : Bool} {answer : Option (Except Error (List Address))}
    {left : Bus (Monitor σ)} (h : (scan allLuns).effect bus.monitored = (answer, left)) :
    (scan allLuns).effect bus = (answer, left.view Host.unmonitored) := by
  have hrun : (scan allLuns).run bus =
      ⟨((scan allLuns).run bus.monitored).answer,
        ((scan allLuns).run bus.monitored).state.view Host.unmonitored,
        ((scan allLuns).run bus.monitored).events⟩ :=
    run_of_section Host.unmonitored_monitored (Monitor.morphism.scan allLuns) bus
  rw [effect, hrun, answer_run, state_run, h]

omit [HostAdapter σ] in
/-- A monitor that is put in touches none of the units. -/
theorem Holds.monitored_placed_coherent {base : Bus σ}
    (h : Holds base (fun a u => u.Placed base a ∧ u.cleared.Coherent) (fun _ => True) bus) :
    Holds bus.monitored.emptied
      (fun a u => u.Placed bus.monitored.emptied a ∧ u.cleared.Coherent) (fun _ => True)
      bus.monitored := by
  refine ⟨rfl, fun hu => ?_, trivial⟩
  obtain ⟨hplaced, hcoherent⟩ := h.units hu
  rw [← h.emptied] at hplaced
  exact ⟨hplaced.of_limits rfl rfl rfl, hcoherent⟩

/-- **A scan of a reachable bus** asks at the open addresses of its range, in order, and makes no
other demand on the adapter; where it asked, a unit is ready afterwards exactly if one was found. -/
theorem Reachable.exists_probed (hbus : bus.Reachable)
    (hanswers : ∀ u : LogicalUnit, ∀ c ∈ u.questions, HostAdapter.Answers σ c)
    (hhost : bus.host = some host) (allLuns : Bool) :
    ∃ (found : List Address) (bus' : Bus σ) (probes : List Probe) (host' : Host σ),
      (scan allLuns).effect bus = (some (.ok found), bus') ∧ bus'.host = some host' ∧
      Host.Probed bus.questionsAt host probes host' ∧
      probes.map Probe.address = bus.openAddresses allLuns ∧
      (∀ probe ∈ probes, probe.found = true ↔ bus'.ReadyAt probe.address) ∧
      ((Call.scan allLuns).contacts bus).map Contact.demand =
        (probes.flatMap Probe.commands).map Demand.submit := by
  obtain ⟨settings, adapter, hholds⟩ := hbus.holds sustains_placed_coherent
  have hlimits : ∀ a ∈ bus.scanRange allLuns, a.target < bus.maxTargets ∧ a.lun < bus.maxLuns := by
    intro a ha
    obtain ⟨ht, hl, -⟩ := (mem_scanRange_iff hbus.maxLuns_ne_zero).1 ha
    exact ⟨ht, hl⟩
  -- what is asked is noted by a monitor that is put in just before the scan
  have hreturns : ReturnsQuestions (Monitor σ) := fun u c hc host =>
    Option.isSome_iff_ne_none.2 fun hcrash => Host.not_answers_of_submit hcrash (hanswers u c hc)
  have hhost' : bus.monitored.host = some host.monitored := congrArg (Option.map Host.monitored) hhost
  obtain ⟨found, left, probes, host', hvisits, hleft, hprobed, htoured⟩ :=
    exists_visitAll_probed hreturns hlimits (nodup_scanRange bus allLuns)
      hholds.monitored_placed_coherent hhost'
  have hscan : (scan allLuns).effect bus.monitored =
      (some (.ok found), { left with selected := none }) :=
    scan_of_host (by rw [hhost']; rfl) hvisits
  have hcontacts : (Call.scan allLuns).contacts bus = host'.contacts := by
    show ((Call.scan allLuns).apply bus.monitored).contacts = _
    rw [Call.apply_scan, hscan]
    show left.host.elim [] Host.contacts = _
    rw [hleft]
    rfl
  refine ⟨found, _, probes, host'.unmonitored, effect_scan_of_monitored hscan,
    congrArg (Option.map Host.unmonitored) hleft, hprobed.map Monitor.morphism.submit,
    htoured.addresses_eq, htoured.found_iff, ?_⟩
  rw [hcontacts, hprobed.had.demands rfl]
  simp [Probe.commands, List.map_flatMap, Function.comp_def]

/-- What a scan of the bus asks: at each open address of its range, in order, the first questions of
a discovery there, all addressed to it, and nothing else. -/
structure Probes (allLuns : Bool) (bus : Bus σ) (probes : List Probe) : Prop where
  ordered : (probes.map Probe.address).Pairwise fun a b => a < b
  mem_iff : ∀ a, a ∈ probes.map Probe.address ↔
    bus.InRange allLuns a ∧ ¬ bus.ReadyAt a ∧ ¬ bus.DiscoveringAt a
  commands : ∀ probe ∈ probes,
    ∃ n, 0 < n ∧ n ≤ 3 ∧ probe.commands = (bus.questionsAt probe.address).take n
  addressed : ∀ probe ∈ probes, ∀ c ∈ probe.commands,
    c.target = probe.address.target ∧ c.lun = probe.address.lun
  contacts : ((Call.scan allLuns).contacts bus).map Contact.demand =
    (probes.flatMap Probe.commands).map Demand.submit
  le_length : probes.length ≤ ((Call.scan allLuns).contacts bus).length
  length_le : ((Call.scan allLuns).contacts bus).length ≤ 3 * probes.length

/-- Between one and three commands for each address make a total between those. -/
theorem length_flatMap_commands {probes : List Probe}
    (h : ∀ probe ∈ probes, 0 < probe.commands.length ∧ probe.commands.length ≤ 3) :
    probes.length ≤ (probes.flatMap Probe.commands).length ∧
      (probes.flatMap Probe.commands).length ≤ 3 * probes.length := by
  induction probes with
  | nil => exact ⟨Nat.le_refl _, Nat.le_refl _⟩
  | cons probe rest ih =>
    obtain ⟨⟨hpos, hle⟩, hrest⟩ := List.forall_mem_cons.1 h
    obtain ⟨hlower, hupper⟩ := ih hrest
    simp only [List.flatMap_cons, List.length_append, List.length_cons]
    omega

/-- As many contacts are made as commands are sent. -/
theorem length_contacts_of_demands {call : Call σ} {commands : List Command}
    (h : (call.contacts bus).map Contact.demand = commands.map Demand.submit) :
    (call.contacts bus).length = commands.length := by
  have hlength := congrArg List.length h
  rwa [List.length_map, List.length_map] at hlength

omit [HostAdapter σ] in
theorem mem_openAddresses_iff (hluns : bus.maxLuns ≠ 0) {allLuns : Bool} :
    a ∈ bus.openAddresses allLuns ↔
      bus.InRange allLuns a ∧ ¬ bus.ReadyAt a ∧ ¬ bus.DiscoveringAt a := by
  rw [openAddresses, List.mem_filter, mem_scanRange_iff hluns, decide_eq_true_iff, OpenAt]

omit [HostAdapter σ] in
theorem pairwise_openAddresses (bus : Bus σ) (allLuns : Bool) :
    (bus.openAddresses allLuns).Pairwise fun a b => a < b :=
  (Address.pairwise_range _ _).filter _

/-- Probes of the open addresses that the scan makes and nothing besides are what the scan asks. -/
theorem Reachable.probes_of_probed (hbus : bus.Reachable) {allLuns : Bool} {probes : List Probe}
    {host' : Host σ} (hprobed : Host.Probed bus.questionsAt host probes host')
    (haddresses : probes.map Probe.address = bus.openAddresses allLuns)
    (hcontacts : ((Call.scan allLuns).contacts bus).map Contact.demand =
      (probes.flatMap Probe.commands).map Demand.submit) :
    Probes allLuns bus probes := by
  have hcommands := hprobed.exists_take
  have hlength : ∀ probe ∈ probes, 0 < probe.commands.length ∧ probe.commands.length ≤ 3 := by
    intro probe hprobe
    obtain ⟨n, hpos, hle, htake⟩ := hcommands probe hprobe
    have hthree : (bus.questionsAt probe.address).length = 3 := rfl
    rw [htake, List.length_take, hthree]
    omega
  obtain ⟨hlower, hupper⟩ := length_flatMap_commands hlength
  have htotal := length_contacts_of_demands hcontacts
  refine ⟨?_, fun a => ?_, hcommands, fun probe hprobe c hc => ?_, hcontacts, htotal ▸ hlower,
    htotal ▸ hupper⟩
  · rw [haddresses]
    exact pairwise_openAddresses bus allLuns
  · rw [haddresses]
    exact mem_openAddresses_iff hbus.maxLuns_ne_zero
  · obtain ⟨n, -, -, htake⟩ := hcommands probe hprobe
    obtain ⟨record, -, rfl⟩ := List.mem_map.1 (List.mem_of_mem_take (htake ▸ hc))
    exact ⟨rfl, rfl⟩

/-- **What a scan asks** is the first questions at each of its open addresses. -/
theorem Reachable.exists_probes (hbus : bus.Reachable)
    (hanswers : ∀ u : LogicalUnit, ∀ c ∈ u.questions, HostAdapter.Answers σ c)
    (hhost : bus.host.isSome = true) (allLuns : Bool) :
    ∃ probes, Probes allLuns bus probes := by
  obtain ⟨host, hhost⟩ := Option.isSome_iff_exists.1 hhost
  obtain ⟨found, bus', probes, host', -, -, hprobed, haddresses, -, hcontacts⟩ :=
    hbus.exists_probed hanswers hhost allLuns
  exact ⟨probes, hbus.probes_of_probed hprobed haddresses hcontacts⟩

/-! ## Scans one after the other -/

/-- A scan leaves the limits of the bus alone. -/
theorem emptied_scan (allLuns : Bool) (bus : Bus σ) :
    ((scan allLuns).effect bus).2.emptied = bus.emptied := by
  have hkeeps : Keeps (Holds bus.emptied (fun _ _ => True) fun _ => True) (scan (σ := σ) allLuns) :=
    keeps_scan (fun _ _ _ => trivial) (fun _ _ _ => ⟨trivial, trivial⟩) allLuns
  have hkept := hkeeps bus ⟨rfl, fun _ => trivial, trivial⟩
  rw [state_run] at hkept
  exact hkept.emptied

omit [HostAdapter σ] in
/-- **A second scan** that finds no new unit finds those that the first one found, and leaves all
units alone. -/
theorem ScanResult.again {allLuns : Bool} {found found' : List Address} {bus₁ bus₂ : Bus σ}
    {sent sent' : List Exchange} (h : ScanResult allLuns bus found bus₁ sent)
    (h' : ScanResult allLuns bus₁ found' bus₂ sent') (hlimits : bus₁.emptied = bus.emptied)
    (hnew : ∀ a, bus₂.ReadyAt a → bus₁.ReadyAt a) :
    found' = found ∧ ∀ a, bus₂.units.get? a = bus₁.units.get? a := by
  have hunits : ∀ a, bus₂.units.get? a = bus₁.units.get? a := by
    intro a
    by_cases hin : bus₁.InRange allLuns a
    case neg => exact h'.elsewhere a hin
    cases hu : bus₁.units.get? a with
    -- what the first scan left in its range is ready, and the second one leaves it alone
    | some u => exact (h'.kept a u hin hu (h.ready a u ((inRange_congr hlimits).1 hin) hu)).1
    | none =>
      cases hw : bus₂.units.get? a with
      | none => rfl
      | some w =>
        obtain ⟨u, hu', -⟩ := hnew a ⟨w, hw, h'.ready a w hin hw⟩
        exact nomatch hu.symm.trans hu'
  refine ⟨?_, hunits⟩
  have hmem : ∀ a, a ∈ found' ↔ a ∈ found := fun a => by
    rw [h'.mem_iff, h.mem_iff, inRange_congr hlimits, readyAt_congr (hunits a)]
  -- both are in the order of the addresses, so they are the same list
  have hperm := (List.perm_ext_iff_of_nodup (h'.ordered.imp Address.ne_of_lt)
    (h.ordered.imp Address.ne_of_lt)).2 hmem
  exact hperm.eq_of_pairwise (fun a b _ _ hlt hgt => absurd hgt (Nat.lt_asymm hlt)) h'.ordered
    h.ordered

end Bus

end Scsi
