import Scsi.Proofs.Bus.Readiness
import Scsi.Proofs.Session.Account

/-!
# One address among others

Work on the units of a bus has to do with one address at a time. What there is to see at an address,
the unit there and the exchanges with it, is left alone by visits of other addresses; so a tour of
addresses does at each of them what one visit does, unless it is cut off on the way there.

## Main definitions

* `Bus.sentTo a`: the exchanges with the address `a`
* `Bus.DiscoveringAt a`: there is a unit in the middle of its discovery at the address `a`
* `Bus.Sees base a found sent`: what there is to see at an address
* `Bus.Tells a R`: the exchanges of a discovery at the address `a` tell that `R` holds
* `Bus.Passes a`: what a tour did at the address `a` is what a visit did there

## Main results

* `Bus.keepsSight_visit`: a visit of another address leaves alone what there is to see
* `Bus.Tells.discoverAt`, `Bus.Tells.visit`: what discoveries tell, those of the bus and visits tell
* `Bus.visitAll_reaches`: a tour is cut off on the way to an address, or does there what a visit
  does
* `Bus.visitAll_of_discovering`: a tour drops a unit in the middle of its discovery
* `Bus.Tells.visitAll`: the exchanges of a tour tell of all its addresses
* `Bus.tells_discovering`: the exchanges tell whether a unit is in the middle of its discovery
-/

namespace Scsi

open Activity

/-! ## Exchanges with one address -/

section

variable {σ : Type}

/-- The exchanges with the address, none without a host interface. -/
def Host.sentTo (a : Address) (host : Option (Host (Recorder σ))) : List Exchange :=
  (host.elim [] Host.exchanges).filter fun e => e.IsTo a

/-- The exchanges with the address. -/
def Bus.sentTo (bus : Bus (Recorder σ)) (a : Address) : List Exchange := Host.sentTo a bus.host

theorem Bus.mem_sentTo_iff {bus : Bus (Recorder σ)} {a : Address} {e : Exchange} :
    e ∈ bus.sentTo a ↔ e ∈ bus.exchanges ∧ e.IsTo a := by
  show e ∈ bus.exchanges.filter _ ↔ _
  simp

/-- A submission for a unit at one address is no exchange with another. -/
theorem Host.serves_sentTo [HostAdapter σ] {a b : Address} (hne : b ≠ a) {v : LogicalUnit}
    (hv : v.IsAt b) (sent : List Exchange) (c : Command) :
    Host.Serves (σ := Recorder σ) v (fun host => Host.sentTo a host = sent) c := by
  rintro ⟨_ | recorder, size, memory⟩ hhost
  · rw [effect_submit, effect_call_of_none rfl]
    exact hhost
  · rw [effect_submit_recorder, ← hhost]
    have hnot (answer : Option (Bool × Command)) : ¬ (⟨c.addressed v, answer⟩ : Exchange).IsTo a :=
      fun h => hne (Exchange.IsTo.eq (e := ⟨c.addressed v, answer⟩) hv h)
    simp [sentTo, exchanges, notes, hnot]

end

namespace Bus

/-! ## Visits of other addresses -/

section

variable {σ α : Type} {a b : Address} {found : Option LogicalUnit}

theorem keepsUnitAt_inSession (hne : b ≠ a) (u : LogicalUnit) (x : Activity (Session σ) α) :
    Keeps (fun bus => bus.units.get? a = found) (inSession b u x) := by
  intro bus hbus
  exact (UnitTable.get?_insert_of_ne _ _ hne).trans hbus

theorem keepsUnitAt_withUnit (hne : b ≠ a) (x : Activity (Session σ) α) :
    Keeps (fun bus => bus.units.get? a = found) (withUnit b x) := by
  refine Keeps.get.bind fun bus => ?_
  cases bus.units.get? b with
  | none => exact Keeps.pure _
  | some u => exact Keeps.map (keepsUnitAt_inSession hne u x)

theorem keepsUnitAt_addUnit (hne : b ≠ a) :
    Keeps (fun bus : Bus σ => bus.units.get? a = found) (addUnit b) := by
  refine Keeps.get.bind fun bus => ?_
  split
  · exact Keeps.pure _
  split
  · exact Keeps.pure _
  split
  · exact Keeps.pure _
  · refine Keeps.bind (Keeps.modify fun bus hbus => ?_) fun _ => Keeps.pure _
    exact (UnitTable.get?_insert_of_ne _ _ hne).trans hbus

variable [HostAdapter σ]

theorem keepsUnitAt_discoverAt (hne : b ≠ a) :
    Keeps (fun bus : Bus σ => bus.units.get? a = found) (discoverAt b) := by
  refine (keepsUnitAt_addUnit hne).bind fun added => ?_
  cases added with
  | error e => exact Keeps.pure _
  | ok u => exact keepsUnitAt_inSession hne u _

theorem keepsUnitAt_visit (hne : b ≠ a) :
    Keeps (fun bus : Bus σ => bus.units.get? a = found) (visit b) := by
  refine Keeps.get.bind fun bus => ?_
  split
  · exact Keeps.pure _
  · refine (keepsUnitAt_discoverAt hne).bind fun discovered => ?_
    cases discovered with
    | ok _ => exact Keeps.pure _
    | error e =>
      refine Keeps.bind (keeps_note _ _) fun _ => ?_
      refine Keeps.bind (Keeps.modify fun bus hbus => ?_) fun _ => Keeps.pure _
      exact (UnitTable.get?_erase_of_ne _ hne).trans hbus

theorem keepsUnitAt_visitAll {addresses : List Address} (ha : a ∉ addresses) :
    Keeps (fun bus : Bus σ => bus.units.get? a = found) (visitAll addresses) :=
  keeps_visitAll fun _ hb => keepsUnitAt_visit fun h => ha (h ▸ hb)

/-- The unit at the address, or that there is none, and the exchanges with it. All units are at
their addresses. -/
structure Sees (base : Bus (Recorder σ)) (a : Address) (found : Option LogicalUnit)
    (sent : List Exchange) (bus : Bus (Recorder σ)) : Prop
    extends Holds base LogicalUnit.IsAt (fun host => Host.sentTo a host = sent) bus where
  unit : bus.units.get? a = found

variable {base : Bus (Recorder σ)} {sent : List Exchange}

theorem keepsSight_discover (hne : b ≠ a) :
    Keeps (Session.Has (LogicalUnit.IsAt b) fun host => Host.sentTo a host = sent)
      (discover : Activity (Session (Recorder σ)) _) :=
  keeps_discover (fun _ hv => gives_explore_sound fun c _ => Host.serves_sentTo hne hv sent c)
    fun _ _ _ hu hleft => hleft.isAt hu

theorem keepsSight_discoverAt (hne : b ≠ a) : Keeps (Sees base a found sent) (discoverAt b) := by
  intro bus hbus
  have hholds := keeps_discoverAt (fun _ _ _ => ⟨rfl, rfl⟩) (keepsSight_discover hne) bus
    hbus.toHolds
  exact ⟨hholds, keepsUnitAt_discoverAt hne bus hbus.unit⟩

theorem keepsSight_handle_discover (hne : b ≠ a) :
    Keeps (Sees base a found sent) (withUnit b UnitCall.discover.run) := by
  intro bus hbus
  have hrun : Keeps (Session.Has (LogicalUnit.IsAt b) fun host => Host.sentTo a host = sent)
      (UnitCall.discover.run (σ := Recorder σ)) :=
    Keeps.map (keepsSight_discover hne)
  exact ⟨keeps_withUnit hrun bus hbus.toHolds, keepsUnitAt_withUnit hne _ bus hbus.unit⟩

/-- **A visit of another address** leaves alone what there is to see. -/
theorem keepsSight_visit (hne : b ≠ a) : Keeps (Sees base a found sent) (visit b) := by
  intro bus hbus
  have hholds := keeps_visit (fun _ _ _ => ⟨rfl, rfl⟩) (keepsSight_discover hne) bus hbus.toHolds
  exact ⟨hholds, keepsUnitAt_visit hne bus hbus.unit⟩

theorem keepsSight_visitAll {addresses : List Address} (ha : a ∉ addresses) :
    Keeps (Sees base a found sent) (visitAll addresses) :=
  keeps_visitAll fun _ hb => keepsSight_visit fun h => ha (h ▸ hb)

end

/-! ## A discovery at the address -/

section

variable {σ : Type}

/-- There is a unit at the address that is in the middle of its discovery. -/
def DiscoveringAt (bus : Bus σ) (a : Address) : Prop :=
  ∃ u, bus.units.get? a = some u ∧ u.state = .discovering

variable {a : Address} {bus : Bus σ}

theorem discoveringAt_iff {u : LogicalUnit} (hu : bus.units.get? a = some u) :
    bus.DiscoveringAt a ↔ u.state = .discovering := by
  constructor
  · rintro ⟨v, hv, hstate⟩
    obtain rfl := Option.some.inj (hu.symm.trans hv)
    exact hstate
  · exact fun h => ⟨u, hu, h⟩

theorem not_discoveringAt_of_vacant (h : bus.units.get? a = none) : ¬ bus.DiscoveringAt a := by
  rintro ⟨u, hu, -⟩
  exact nomatch h.symm.trans hu

/-- A unit in the middle of its discovery is dropped, and nothing is sent to it. -/
theorem effect_visit_of_discovering [HostAdapter σ] {u : LogicalUnit}
    (ht : a.target < bus.maxTargets) (hl : a.lun < bus.maxLuns) (hu : bus.units.get? a = some u)
    (hstate : u.state = .discovering) (hready : u.isReady = false) :
    (visit a).effect bus =
      (some false, { bus with units := bus.units.erase a, selected := some a }) := by
  have hnot : ¬ bus.ReadyAt a := by
    rintro ⟨v, hv, h⟩
    obtain rfl := Option.some.inj (hu.symm.trans hv)
    exact nomatch hready.symm.trans h
  obtain ⟨e, he⟩ :=
    effect_discoverAt_of_not_isOpen ht hl hu fun h => h.ne_discovering hstate
  rw [effect_visit_of_discovered hnot he]

end

end Bus

/-- A discovery leaves its unit in the middle of it exactly if it was so before or was cut off. -/
theorem LogicalUnit.Discovered.discovering_iff {Q : Findings → Prop} {u w : LogicalUnit}
    {answer : Option (Except DiscoveryError Unit)} (h : u.Discovered Q answer w) :
    w.state = .discovering ↔ u.state = .discovering ∨ answer = none := by
  cases h with
  | refused _ => simp
  | crashed _ hw =>
    have hstate : w.state = .discovering := congrArg LogicalUnit.state hw
    simp [hstate]
  | failed hu hw =>
    have hstate : w.state = .failed := congrArg LogicalUnit.state hw
    simp [hstate, hu.ne_discovering]
  | published hu _ hw =>
    have hstate : w.state = .ready := congrArg LogicalUnit.state hw
    simp [hstate, hu.ne_discovering]

namespace Bus

section

variable {σ : Type} [HostAdapter σ] {a : Address} {bus : Bus (Recorder σ)}

/-- The unit `u` is the one that is found at the address, or is made where none is. -/
inductive FoundOrMade (a : Address) : Option LogicalUnit → LogicalUnit → Prop
  | found (u : LogicalUnit) : FoundOrMade a (some u) u
  | made (number : UInt8) (timeout : UInt32) :
    FoundOrMade a none (LogicalUnit.new number a.target a.lun timeout)

omit [HostAdapter σ] in
theorem FoundOrMade.isAt {found : Option LogicalUnit} {u : LogicalUnit} (h : FoundOrMade a found u)
    (hfound : ∀ {v}, found = some v → v.IsAt a) : u.IsAt a := by
  cases h with
  | found => exact hfound rfl
  | made => exact ⟨rfl, rfl⟩

omit [HostAdapter σ] in
/-- Within the limits of the bus a unit is found or made, and other addresses are left alone. -/
theorem exists_foundOrMade {bus : Bus σ} (ht : a.target < bus.maxTargets) (hl : a.lun < bus.maxLuns) :
    ∃ u units, (addUnit a).effect bus = (some (.ok u), { bus with units }) ∧
      FoundOrMade a (bus.units.get? a) u ∧ ∀ {b}, b ≠ a → units.get? b = bus.units.get? b := by
  cases h : bus.units.get? a with
  | some u => exact ⟨u, bus.units, effect_addUnit_of_get? ht hl h, .found u, fun _ => rfl⟩
  | none =>
    refine ⟨_, _, effect_addUnit_of_vacant ht hl h, .made _ _, fun hb => ?_⟩
    exact UnitTable.get?_insert_of_ne _ _ (Ne.symm hb)

/-- Exchanges with the address tell that `R` holds of the unit that was there, the exchanges, and the
unit that is there since: it holds where nothing is done, of units that are dropped, and of every
discovery of a unit that is found or made there. -/
structure Tells (σ : Type) [HostAdapter σ] (a : Address)
    (R : Option LogicalUnit → List Exchange → Option LogicalUnit → Prop) : Prop where
  still : ∀ found, R found [] found
  dropped : ∀ found sent, R found sent none
  discovered : ∀ {found : Option LogicalUnit} {u : LogicalUnit} {host : Option (Host (Recorder σ))}
    {sent : List Exchange}, FoundOrMade a found u →
      Accounted Session.exchanges (Exchange.IsTo a) ⟨u, host⟩
        (discover.effect (⟨u, host⟩ : Session (Recorder σ))) sent →
      R found sent (some (discover.effect (⟨u, host⟩ : Session (Recorder σ))).2.unit)

section

variable {R : Option LogicalUnit → List Exchange → Option LogicalUnit → Prop} (hR : Tells σ a R)

include hR

/-- What is told of a discovery is told of the unit wherever it is put afterwards. -/
theorem Tells.discover {found : Option LogicalUnit} {u : LogicalUnit} (hu : FoundOrMade a found u)
    (hat : u.IsAt a) (host : Option (Host (Recorder σ))) :
    ∃ sent, Accounted Session.exchanges (Exchange.IsTo a) ⟨u, host⟩
        (discover.effect (⟨u, host⟩ : Session (Recorder σ))) sent ∧
      R found sent (some (discover.effect (⟨u, host⟩ : Session (Recorder σ))).2.unit) := by
  obtain ⟨sent, hsent⟩ := exists_accounted_discover ⟨u, host⟩ hat
  exact ⟨sent, hsent, hR.discovered hu hsent⟩

/-- **The exchanges of a discovery** by the bus tell of it. -/
theorem Tells.discoverAt (hunit : ∀ {u}, bus.units.get? a = some u → u.IsAt a) :
    ∃ sent, Accounted Bus.exchanges (Exchange.IsTo a) bus ((discoverAt a).effect bus) sent ∧
      R (bus.units.get? a) sent (((discoverAt a).effect bus).2.units.get? a) := by
  by_cases hinside : a.target < bus.maxTargets ∧ a.lun < bus.maxLuns
  · cases hu : bus.units.get? a with
    | some u =>
      obtain ⟨sent, hsent, htold⟩ := hR.discover (.found u) (hunit hu) bus.host
      rw [effect_discoverAt (effect_addUnit_of_get? hinside.1 hinside.2 hu),
        UnitTable.get?_insert_self]
      exact ⟨sent, hsent.congr rfl rfl Iff.rfl, htold⟩
    | none =>
      obtain ⟨sent, hsent, htold⟩ := hR.discover (.made bus.number bus.defaultTimeout) ⟨rfl, rfl⟩
        bus.host
      rw [effect_discoverAt (effect_addUnit_of_vacant hinside.1 hinside.2 hu),
        UnitTable.get?_insert_self]
      exact ⟨sent, hsent.congr rfl rfl Iff.rfl, htold⟩
  · obtain ⟨e, he⟩ := effect_addUnit_of_outside hinside
    have heffect : (Bus.discoverAt a).effect bus = (some (.error (.noSuchUnit e)), bus) := by
      unfold Bus.discoverAt
      rw [effect_bind_of_answer he]
      rfl
    rw [heffect]
    exact ⟨[], .nil rfl rfl, hR.still _⟩

/-- **The exchanges of a discovery** by the handle of the unit tell of it. -/
theorem Tells.handle_discover (hunit : ∀ {u}, bus.units.get? a = some u → u.IsAt a) :
    ∃ sent, Accounted Bus.exchanges (Exchange.IsTo a) bus
        ((withUnit a UnitCall.discover.run).effect bus) sent ∧
      R (bus.units.get? a) sent
        (((withUnit a UnitCall.discover.run).effect bus).2.units.get? a) := by
  cases hu : bus.units.get? a with
  | some u =>
    obtain ⟨sent, hsent, htold⟩ := hR.discover (.found u) (hunit hu) bus.host
    rw [effect_withUnit hu, UnitCall.run, effect_map, UnitTable.get?_insert_self]
    exact ⟨sent, hsent.congr rfl rfl (by simp), htold⟩
  | none =>
    have heffect : (withUnit a UnitCall.discover.run).effect bus = (some none, bus) := by
      unfold withUnit
      rw [effect_bind_of_answer (effect_get _), hu]
      rfl
    rw [heffect, hu]
    exact ⟨[], .nil rfl rfl, hR.still none⟩

/-- **The exchanges of a visit** tell of it. -/
theorem Tells.visit (hunit : ∀ {u}, bus.units.get? a = some u → u.IsAt a) :
    ∃ sent, Accounted Bus.exchanges (Exchange.IsTo a) bus ((visit a).effect bus) sent ∧
      R (bus.units.get? a) sent (((visit a).effect bus).2.units.get? a) := by
  by_cases hready : bus.ReadyAt a
  · rw [effect_visit_of_ready hready]
    exact ⟨[], .nil rfl rfl, hR.still _⟩
  · obtain ⟨sent, hsent, htold⟩ := hR.discoverAt hunit
    rcases hended : (Bus.discoverAt a).effect bus with ⟨_ | _ | _, bus₁⟩
    all_goals rw [hended] at hsent htold
    · rw [effect_visit_of_crash hready hended]
      exact ⟨sent, hsent.congr rfl rfl (by simp), htold⟩
    -- a unit that is dropped is not there afterwards
    · rw [effect_visit_of_discovered hready hended]
      refine ⟨sent, hsent.congr rfl rfl (by simp), ?_⟩
      dsimp only
      rw [UnitTable.get?_erase_self]
      exact hR.dropped _ _
    · rw [effect_visit_of_discovered hready hended]
      exact ⟨sent, hsent.congr rfl rfl (by simp), htold⟩

end

/-! ## Tours -/

/-- A tour comes to an end with some of its addresses. -/
theorem sublist_of_visitAll {σ : Type} [HostAdapter σ] {addresses found : List Address}
    {bus bus' : Bus σ} (h : (visitAll addresses).effect bus = (some found, bus')) :
    found.Sublist addresses := by
  induction addresses generalizing found bus bus' with
  | nil =>
    obtain ⟨⟨⟩, -⟩ := Prod.mk.inj h
    exact .slnil
  | cons a rest ih =>
    unfold visitAll at h
    rcases hvisit : (visit a).effect bus with ⟨_ | there, bus₁⟩
    · rw [effect_bind_of_crash hvisit] at h
      cases h
    rw [effect_bind_of_answer hvisit] at h
    rcases hrest : (visitAll rest).effect bus₁ with ⟨_ | others, bus₂⟩
    · rw [effect_bind_of_crash hrest] at h
      cases h
    rw [effect_bind_of_answer hrest] at h
    obtain ⟨⟨⟩, -⟩ := Prod.mk.inj h
    split
    · exact (ih hrest).cons_cons a
    · exact (ih hrest).cons a

/-- What a tour did at the address is what a visit did there: it left the unit and the exchanges as
they are after the visit, and found the address exactly if the visit did. -/
structure Passes (a : Address) (tried : Option Bool × Bus (Recorder σ))
    (ended : Option (List Address) × Bus (Recorder σ)) : Prop where
  unit : ended.2.units.get? a = tried.2.units.get? a
  sent : ended.2.sentTo a = tried.2.sentTo a
  crashed : tried.1 = none → ended.1 = none
  found : ∀ others, ended.1 = some others → tried.1 = some (decide (a ∈ others))

omit [HostAdapter σ] in
theorem Holds.sees {base : Bus (Recorder σ)} (h : Holds base LogicalUnit.IsAt (fun _ => True) bus)
    (a : Address) : Sees base a (bus.units.get? a) (bus.sentTo a) bus :=
  ⟨⟨h.emptied, h.units, rfl⟩, rfl⟩

variable {base : Bus (Recorder σ)} {found : Option LogicalUnit} {sent : List Exchange}

/-- After the visit of the address nothing is done there any more. -/
theorem passes_cons_self {rest : List Address} (ha : a ∉ rest)
    (hbus : Holds base LogicalUnit.IsAt (fun _ => True) bus) :
    Passes a ((visit a).effect bus) ((visitAll (a :: rest)).effect bus) := by
  have hkept := keeps_visit (fun _ _ _ => ⟨rfl, rfl⟩) (keeps_discover_isAt a) bus hbus
  rw [state_run] at hkept
  unfold visitAll
  rcases hvisit : (visit a).effect bus with ⟨_ | there, bus₁⟩
  · rw [effect_bind_of_crash hvisit]
    exact ⟨rfl, rfl, fun _ => rfl, by simp⟩
  rw [hvisit] at hkept
  have hsees := keepsSight_visitAll ha bus₁ (hkept.sees a)
  rw [state_run] at hsees
  rw [effect_bind_of_answer hvisit]
  rcases hrest : (visitAll rest).effect bus₁ with ⟨_ | others, bus₂⟩
  all_goals rw [hrest] at hsees
  · rw [effect_bind_of_crash hrest]
    exact ⟨hsees.unit, hsees.host, fun _ => rfl, by simp⟩
  · rw [effect_bind_of_answer hrest]
    refine ⟨hsees.unit, hsees.host, by simp, ?_⟩
    rintro _ ⟨⟩
    have hothers : a ∉ others := fun h => ha ((sublist_of_visitAll hrest).subset h)
    cases there <;> simp [hothers]

/-- **A tour reaches each of its addresses** with what there was to see there: it is cut off on the
way, or it does there what a visit does. -/
theorem visitAll_reaches {addresses : List Address} (ha : a ∈ addresses)
    (hdistinct : addresses.Nodup) (hbus : Sees base a found sent bus) :
    ∃ bus₁, Sees base a found sent bus₁ ∧
      ((visitAll addresses).effect bus = (none, bus₁) ∨
        Passes a ((visit a).effect bus₁) ((visitAll addresses).effect bus)) := by
  induction addresses generalizing bus with
  | nil => exact nomatch ha
  | cons b rest ih =>
    obtain ⟨hb, hrest⟩ := List.nodup_cons.1 hdistinct
    by_cases hne : b = a
    · subst hne
      exact ⟨bus, hbus, .inr (passes_cons_self hb ⟨hbus.emptied, hbus.units, trivial⟩)⟩
    -- an address before it, at which the tour may be cut off
    · have hkept := keepsSight_visit hne bus hbus
      rw [state_run] at hkept
      unfold visitAll
      rcases hvisit : (visit b).effect bus with ⟨_ | there, bus₁⟩
      all_goals rw [hvisit] at hkept
      · exact ⟨bus₁, hkept, .inl (effect_bind_of_crash hvisit _)⟩
      obtain ⟨bus₂, hsees, hend⟩ := ih ((List.mem_cons.1 ha).resolve_left (Ne.symm hne)) hrest hkept
      refine ⟨bus₂, hsees, ?_⟩
      rw [effect_bind_of_answer hvisit]
      rcases hrest : (visitAll rest).effect bus₁ with ⟨_ | others, bus₃⟩
      all_goals rw [hrest] at hend
      · rw [effect_bind_of_crash hrest]
        exact hend.imp id fun h => ⟨h.unit, h.sent, fun _ => rfl, by simp⟩
      · rw [effect_bind_of_answer hrest]
        rcases hend with hend | hend
        · cases hend
        · refine .inr ⟨hend.unit, hend.sent, fun h => by simpa using hend.crashed h, ?_⟩
          rintro _ ⟨⟩
          rw [hend.found others rfl]
          cases there <;> simp [Ne.symm hne]

/-- **A tour drops a unit in the middle of its discovery** without an exchange, unless it is cut off
on the way. -/
theorem visitAll_of_discovering {addresses : List Address} (ha : a ∈ addresses)
    (hdistinct : addresses.Nodup) {u : LogicalUnit} (hbus : Sees base a (some u) sent bus)
    (ht : a.target < bus.maxTargets) (hl : a.lun < bus.maxLuns) (hstate : u.state = .discovering)
    (hready : u.isReady = false) :
    let ended := (visitAll addresses).effect bus
    ended.2.sentTo a = sent ∧
      (ended.1 = none ∧ ended.2.units.get? a = some u ∨
        ended.2.units.get? a = none ∧ ∀ found, ended.1 = some found → a ∉ found) := by
  intro ended
  obtain ⟨bus₁, hsees, hend | hend⟩ := visitAll_reaches ha hdistinct hbus
  · have hcut : ended = (none, bus₁) := hend
    rw [hcut]
    exact ⟨hsees.host, .inl ⟨rfl, hsees.unit⟩⟩
  -- the limits of the bus are the same all the way
  · have hbase : bus₁.emptied = bus.emptied := hsees.emptied.trans hbus.emptied.symm
    have ht' : a.target < bus₁.maxTargets := by
      show a.target < bus₁.emptied.maxTargets
      rw [hbase]
      exact ht
    have hl' : a.lun < bus₁.maxLuns := by
      show a.lun < bus₁.emptied.maxLuns
      rw [hbase]
      exact hl
    rw [effect_visit_of_discovering ht' hl' hsees.unit hstate hready] at hend
    refine ⟨hend.sent.trans hsees.host, .inr ⟨?_, fun found hfound => ?_⟩⟩
    · exact hend.unit.trans (UnitTable.get?_erase_self _ _)
    · simpa using hend.found found hfound

/-! ## What the exchanges of a tour tell -/

omit [HostAdapter σ] in
/-- All that is accounted for with the address alone was sent there. -/
theorem sentTo_of_accounted {α : Type} {ended : Option α × Bus (Recorder σ)}
    {sent : List Exchange} (h : Accounted Bus.exchanges (Exchange.IsTo a) bus ended sent) :
    ended.2.sentTo a = bus.sentTo a ++ sent := by
  have hsent : sent.filter (fun e => e.IsTo a) = sent :=
    List.filter_eq_self.2 fun e he => decide_eq_true (h.only e he)
  have hexchanges : ended.2.sentTo a = ended.2.exchanges.filter fun e => e.IsTo a := rfl
  rw [hexchanges, h.log_eq, List.filter_append, hsent]
  rfl

section

variable {R : Option LogicalUnit → List Exchange → Option LogicalUnit → Prop}

/-- Work that leaves alone what there is to see tells nothing new. -/
theorem Tells.of_sees (hR : Tells σ a R) {bus' : Bus (Recorder σ)} (hsent : bus.sentTo a = [])
    (h : Sees base a (bus.units.get? a) (bus.sentTo a) bus') :
    R (bus.units.get? a) (bus'.sentTo a) (bus'.units.get? a) := by
  have hsame : bus'.sentTo a = bus.sentTo a := h.host
  rw [hsame, hsent, h.unit]
  exact hR.still _

omit [HostAdapter σ] in
/-- Where nothing was sent to the address before, the exchanges with it tell of the last work
there. -/
theorem tells_of_accounted {α : Type} {ended : Option α × Bus (Recorder σ)}
    (hsent : bus.sentTo a = [])
    (h : ∃ sent, Accounted Bus.exchanges (Exchange.IsTo a) bus ended sent ∧
      R (bus.units.get? a) sent (ended.2.units.get? a)) :
    R (bus.units.get? a) (ended.2.sentTo a) (ended.2.units.get? a) := by
  obtain ⟨sent, haccounted, htold⟩ := h
  rw [sentTo_of_accounted haccounted, hsent, List.nil_append]
  exact htold

/-- **The exchanges of a tour** tell of all its addresses. -/
theorem Tells.visitAll (hR : Tells σ a R) {addresses : List Address} (hdistinct : addresses.Nodup)
    (hbus : Holds base LogicalUnit.IsAt (fun _ => True) bus) (hsent : bus.sentTo a = []) :
    R (bus.units.get? a) (((visitAll addresses).effect bus).2.sentTo a)
      (((visitAll addresses).effect bus).2.units.get? a) := by
  by_cases ha : a ∈ addresses
  · obtain ⟨bus₁, hsees, hend⟩ := visitAll_reaches ha hdistinct (hbus.sees a)
    rcases hend with hend | hend
    · rw [hend]
      exact hR.of_sees hsent hsees
    -- what the tour did at the address is what the visit of it did
    · have hsent₁ : bus₁.sentTo a = [] := hsees.host.trans hsent
      rw [hend.sent, hend.unit, ← hsees.unit]
      exact tells_of_accounted hsent₁ (hR.visit hsees.units)
  · exact hR.of_sees hsent (keepsSight_visitAll ha bus (hbus.sees a))

end

/-- The exchanges with an address tell whether the unit there is in the middle of its discovery. -/
theorem tells_discovering (a : Address) :
    Tells σ a fun found sent left => ∀ w, left = some w →
      (w.state = .discovering ↔
        (∃ u, found = some u ∧ u.state = .discovering) ∨ ∃ e ∈ sent, e.answer = none) where
  still found w hw := by
    subst hw
    simp
  dropped _ _ _ h := nomatch h
  discovered {found u host sent} hu hsent w hw := by
    obtain rfl := Option.some.inj hw
    obtain ⟨hleft, -⟩ : u.Discovered Findings.Sound
        (discover.effect (⟨u, host⟩ : Session (Recorder σ))).1 _ ∧ True :=
      discovered_discover (gives_explore_sound fun _ _ _ _ => trivial) (H := fun _ => True) trivial
    rw [hleft.discovering_iff, hsent.cut_iff]
    refine or_congr ?_ Iff.rfl
    cases hu with
    | found => simp
    -- a unit that is made has no discovery behind it
    | made number timeout => simp [LogicalUnit.new]

end

end Bus

end Scsi
