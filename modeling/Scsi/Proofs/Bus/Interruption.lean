import Mathlib.Data.List.Induction
import Scsi.Proofs.Bus.Tour
import Scsi.Proofs.Bus.WithoutHost

/-!
# Broken discoveries

A discovery that is cut off leaves its unit in the middle of it, and nothing but that does. Such a
unit is locked out: every further discovery of it is refused, and it stays as it is until it is
removed, by a scan that comes to its address or with all units when the bus is given up. A discovery
of its address then starts afresh.

## Main definitions

* `Bus.Call.exchanges`: the exchanges of a call
* `Bus.Call.BreaksOff bus a`: a call is cut off while it discovers the unit at the address `a`
* `Bus.Interrupted a calls bus`: one of the calls broke off a discovery of the unit that is at `a`
* `Bus.Answers calls bus`: every submission in the calls comes back
* `Bus.LockedOut a u`: what is in store for a unit in the middle of its discovery
* `Bus.DiscoversAfresh a`: a discovery of the address makes a unit and asks it from the start

## Main results

* `Bus.Tells.call`: what discoveries tell of a unit, the exchanges of a call tell
* `Bus.discovering_apply_iff`: what one call does
* `Bus.discovering_after_iff`: what a run does
* `Bus.interrupted_spec`: broken discoveries, the units that they leave, and what becomes of them
-/

namespace Scsi

open Activity

/-! ## Exchanges of a loan -/

/-- What a handle with a host interface of its own exchanges through it while it works on the
unit. -/
def Loan.exchanges (loan : Loan) (u : LogicalUnit) : List Exchange :=
  (loan.call.run.effect (⟨u, loan.host⟩ : Session loan.σ).recorded).2.exchanges

/-- A discovery of a unit that is lent sends to the address of the unit alone, and is cut off exactly
if one of its questions is not answered. -/
theorem Loan.accounted {loan : Loan} (hcall : loan.call = .discover) {a : Address} {u : LogicalUnit}
    (hat : u.IsAt a) :
    Accounted Session.exchanges (Exchange.IsTo a) (⟨u, loan.host⟩ : Session loan.σ).recorded
      (discover.effect (⟨u, loan.host⟩ : Session loan.σ).recorded) (loan.exchanges u) := by
  obtain ⟨sent, hsent⟩ :=
    exists_accounted_discover (⟨u, loan.host⟩ : Session loan.σ).recorded hat
  have hexchanges : loan.exchanges u = sent := by
    rw [Loan.exchanges, hcall, UnitCall.run, effect_map, hsent.log_eq, Session.exchanges_recorded]
    rfl
  exact hexchanges ▸ hsent

namespace Bus

variable {σ : Type} [HostAdapter σ]

/-! ## Where a run is cut off -/

/-- The exchanges through another host interface than that of the bus. -/
def Call.exchangesElsewhere : Call σ → Bus σ → List Exchange
  | borrow a loan, bus =>
    match ((Bus.addUnit a).effect bus).1 with
    | some (.ok u) => loan.exchanges u
    | _ => []
  | _, _ => []

/-- The exchanges of a call, those through the host interface of the bus and those through that of a
loan, in order. -/
def Call.exchanges (call : Call σ) (bus : Bus σ) : List Exchange :=
  (call.recorded.apply bus.recorded).exchanges ++ call.exchangesElsewhere bus

/-- The exchanges of a call with one address. -/
def Call.sentTo (call : Call σ) (bus : Bus σ) (a : Address) : List Exchange :=
  (call.exchanges bus).filter fun e => e.IsTo a

/-- The call discovers units, and is cut off while it asks the one at the address. -/
def Call.BreaksOff (call : Call σ) (bus : Bus σ) (a : Address) : Prop :=
  call.IsDiscovery ∧ ∃ e ∈ call.exchanges bus, e.IsTo a ∧ e.answer = none

/-- One of the calls broke off a discovery of the unit at the address, and the unit was not removed
since. -/
def Interrupted (a : Address) : List (Call σ) → Bus σ → Prop :=
  Since (fun call bus => call.BreaksOff bus a) a

/-- Every submission in the calls comes back. -/
def Answers (calls : List (Call σ)) (bus : Bus σ) : Prop :=
  ∀ earlier call later, calls = earlier ++ call :: later →
    ∀ e ∈ call.exchanges (after earlier bus), e.answer.isSome = true

theorem Answers.not_interrupted {calls : List (Call σ)} {bus : Bus σ} (h : Answers calls bus)
    (a : Address) : ¬ Interrupted a calls bus := by
  rintro ⟨earlier, call, later, hcalls, ⟨-, e, he, -, hnone⟩, -⟩
  have hanswer := h earlier call later hcalls e he
  rw [hnone] at hanswer
  exact nomatch hanswer

/-! ## One call -/

omit [HostAdapter σ] in
theorem Call.isDiscovery_recorded (call : Call σ) :
    call.recorded.IsDiscovery ↔ call.IsDiscovery := by
  cases call <;> exact Iff.rfl

/-- A call leaves the same units with and without a recorder. -/
theorem units_recorded_apply (call : Call σ) (bus : Bus σ) :
    (call.recorded.apply bus.recorded).units = (call.apply bus).units := by
  have h := congrArg Bus.units (unrecorded_apply call bus.recorded)
  rw [unrecorded_recorded] at h
  exact h

omit [HostAdapter σ] in
/-- A recorder that is put in now has nothing to tell yet. -/
theorem sentTo_recorded (bus : Bus σ) (a : Address) : bus.recorded.sentTo a = [] := by
  show bus.recorded.exchanges.filter _ = []
  rw [exchanges_recorded]
  rfl

omit [HostAdapter σ] in
theorem Call.recorded_ne_borrow {call : Call σ} (h : ∀ a loan, call ≠ .borrow a loan) (a : Address)
    (loan : Loan) : call.recorded ≠ .borrow a loan := by
  cases call with
  | borrow b loan => exact absurd rfl (h b loan)
  | _ => exact nofun

theorem Call.exchanges_of_ne_borrow (call : Call σ) (h : ∀ a loan, call ≠ .borrow a loan)
    (bus : Bus σ) : call.exchanges bus = (call.recorded.apply bus.recorded).exchanges := by
  cases call with
  | borrow a loan => exact absurd rfl (h a loan)
  | _ => exact List.append_nil _

theorem Call.exchanges_discover (a : Address) (bus : Bus σ) :
    (Call.discover a).exchanges bus = ((discoverAt a).effect bus.recorded).2.exchanges :=
  ((discover a).exchanges_of_ne_borrow (fun _ _ h => nomatch h) bus).trans
    (congrArg Bus.exchanges (apply_discover a bus.recorded))

theorem Call.exchanges_scan (allLuns : Bool) (bus : Bus σ) :
    (Call.scan allLuns).exchanges bus = ((Bus.scan allLuns).effect bus.recorded).2.exchanges :=
  ((scan allLuns).exchanges_of_ne_borrow (fun _ _ h => nomatch h) bus).trans
    (congrArg Bus.exchanges (apply_scan allLuns bus.recorded))

/-- A loan sends nothing through the host interface of the bus. -/
theorem Call.exchanges_borrow (a : Address) (loan : Loan) (bus : Bus σ) :
    (Call.borrow a loan).exchanges bus = (Call.borrow a loan).exchangesElsewhere bus := by
  have hhost : ((lend a loan.run).effect bus.recorded).2.host = bus.recorded.host :=
    (keeps_lend (Q := fun _ _ => True) (H := (· = bus.recorded.host)) (fun _ _ _ => trivial)
      (fun _ _ => trivial) bus.recorded ⟨rfl, fun _ => trivial, rfl⟩).host
  have hown : ((Call.borrow a loan : Call σ).recorded.apply bus.recorded).exchanges = [] := by
    show ((Call.borrow a loan).apply bus.recorded).exchanges = []
    rw [Call.apply_borrow, Bus.exchanges, Bus.notes, hhost]
    exact bus.exchanges_recorded
  rw [exchanges, hown, List.nil_append]

theorem Call.mem_sentTo_iff {call : Call σ} {bus : Bus σ} {a : Address} {e : Exchange} :
    e ∈ call.sentTo bus a ↔ e ∈ call.exchanges bus ∧ e.IsTo a := by
  simp [sentTo]

section

variable {a : Address} {R : Option LogicalUnit → List Exchange → Option LogicalUnit → Prop}

/-- What discoveries tell of a unit is told by every call that discovers units through the host
interface of the bus. -/
theorem Tells.apply (hR : Tells σ a R) {call : Call (Recorder σ)} (hcall : call.IsDiscovery)
    (hown : ∀ b loan, call ≠ .borrow b loan) {base bus : Bus (Recorder σ)}
    (hbus : Holds base LogicalUnit.IsAt (fun _ => True) bus) (hsent : bus.sentTo a = []) :
    R (bus.units.get? a) ((call.apply bus).sentTo a) ((call.apply bus).units.get? a) := by
  cases call with
  | discover b =>
    rw [Call.apply_discover]
    by_cases hb : b = a
    · subst hb
      exact tells_of_accounted hsent (hR.discoverAt hbus.units)
    · exact hR.of_sees hsent (keepsSight_discoverAt hb bus (hbus.sees a))
  | unit b call =>
    obtain rfl : call = .discover := hcall
    rw [Call.apply_unit]
    by_cases hb : b = a
    · subst hb
      exact tells_of_accounted hsent (hR.handle_discover hbus.units)
    · exact hR.of_sees hsent (keepsSight_handle_discover hb bus (hbus.sees a))
  | scan allLuns =>
    rw [Call.apply_scan]
    cases hhost : bus.host with
    | none =>
      rw [scan_of_no_host hhost, hsent]
      exact hR.still _
    | some host =>
      obtain ⟨selected, heffect⟩ := effect_scan_of_host (Option.isSome_iff_exists.2 ⟨host, hhost⟩)
        allLuns
      rw [heffect]
      exact hR.visitAll (nodup_scanRange bus allLuns) hbus hsent
  | borrow b loan => exact absurd rfl (hown b loan)
  | _ => exact hcall.elim

/-- What a discovery tells of a unit, a loan tells of the unit that is lent. -/
theorem Tells.loan {loan : Loan} (hR : Tells loan.σ a R) (hcall : loan.call = .discover)
    {found : Option LogicalUnit} {u : LogicalUnit} (hu : FoundOrMade a found u) (hat : u.IsAt a) :
    R found (loan.exchanges u) (some (loan.run.effect u).2) := by
  have hleft : (loan.run.effect u).2 =
      (Scsi.discover.effect (⟨u, loan.host⟩ : Session loan.σ).recorded).2.unit := by
    rw [Loan.run, hcall, effect_onPart, UnitCall.run, effect_map]
    exact congrArg (fun ended => ended.state.unit)
      (Session.run_of_through Observer.morphism.host.discover ⟨u, loan.host⟩)
  rw [hleft]
  exact hR.discovered hu (loan.accounted hcall hat)

/-- What a unit is asked that is lent tells of it. -/
theorem Tells.borrow {b : Address} {loan : Loan} (hR : Tells loan.σ a R)
    (hcall : loan.call = .discover) {base bus : Bus σ}
    (hbus : Holds base LogicalUnit.IsAt (fun _ => True) bus) :
    R (bus.units.get? a) ((Call.borrow b loan).sentTo bus a)
      (((Call.borrow b loan).apply bus).units.get? a) := by
  rw [Call.sentTo, Call.exchanges_borrow, Call.exchangesElsewhere, Call.apply_borrow]
  by_cases hinside : b.target < bus.maxTargets ∧ b.lun < bus.maxLuns
  · obtain ⟨u, units, hadd, hu, hother⟩ := exists_foundOrMade hinside.1 hinside.2
    have hat : u.IsAt b := hu.isAt fun h => hbus.units h
    have honly := (loan.accounted hcall hat).only
    rw [effect_lend hadd, hadd]
    by_cases hb : b = a
    · subst hb
      rw [List.filter_eq_self.2 fun e he => decide_eq_true (honly e he),
        UnitTable.get?_insert_self]
      exact hR.loan hcall hu hat
    -- what is done to a unit at another address leaves nothing to see here
    · rw [List.filter_eq_nil_iff.2 fun e he hto => hb ((honly e he).eq (of_decide_eq_true hto)),
        UnitTable.get?_insert_of_ne _ _ hb]
      show R _ [] (units.get? a)
      rw [hother (Ne.symm hb)]
      exact hR.still _
  · obtain ⟨e, he⟩ := effect_addUnit_of_outside hinside
    rw [effect_lend_of_error he, he]
    exact hR.still _

variable (hR : ∀ (τ : Type) [HostAdapter τ], Tells τ a R)

include hR

/-- **The exchanges of a call** that discovers units tell of the unit at each address. -/
theorem Tells.call {call : Call σ} (hcall : call.IsDiscovery) {base bus : Bus σ}
    (hbus : Holds base LogicalUnit.IsAt (fun _ => True) bus) :
    R (bus.units.get? a) (call.sentTo bus a) ((call.apply bus).units.get? a) := by
  by_cases hborrow : ∃ b loan, call = .borrow b loan
  · obtain ⟨b, loan, rfl⟩ := hborrow
    exact (hR loan.σ).borrow hcall hbus
  · have hown : ∀ b loan, call ≠ .borrow b loan := fun b loan h => hborrow ⟨b, loan, h⟩
    have hrecorded : Holds bus.recorded.emptied LogicalUnit.IsAt (fun _ => True) bus.recorded :=
      ⟨rfl, hbus.units, trivial⟩
    have htold := (hR σ).apply (call.isDiscovery_recorded.2 hcall) (call.recorded_ne_borrow hown)
      hrecorded (sentTo_recorded bus a)
    rw [units_recorded_apply] at htold
    rw [Call.sentTo, call.exchanges_of_ne_borrow hown]
    exact htold

end

/-- A call that discovers no unit keeps what is said of the unit at an address, if it is said of new
units too and the last command has no part in it. -/
theorem units_apply_of_not_isDiscovery {Q : LogicalUnit → Prop}
    (hnew : ∀ number target lun timeout, Q (LogicalUnit.new number target lun timeout))
    (hcongr : ∀ u w : LogicalUnit, u.cleared = w.cleared → Q u → Q w) {call : Call σ}
    (hcall : ¬ call.IsDiscovery) {bus : Bus σ} {a : Address}
    (h : ∀ u, bus.units.get? a = some u → Q u) {w : LogicalUnit}
    (hw : (call.apply bus).units.get? a = some w) : Q w := by
  have hbus : Holds bus.emptied (fun b u => b = a → Q u) (fun _ => True) bus := by
    refine ⟨rfl, ?_, trivial⟩
    rintro _ u hu rfl
    exact h u hu
  have hkept : call.Sustains bus.emptied (fun b u => b = a → Q u) fun _ => True :=
    sustains_of_units (fun _ _ _ _ => hnew _ _ _ _) (fun hc hu hb => hcongr _ _ hc (hu hb)) call
      fun hd => absurd hd hcall
  exact (hbus.apply hkept).units hw rfl

/-- A call that discovers no unit leaves no unit in the middle of a discovery. -/
theorem not_discoveringAt_apply {call : Call σ} (hcall : ¬ call.IsDiscovery) {bus : Bus σ}
    {a : Address} (h : ¬ bus.DiscoveringAt a) : ¬ (call.apply bus).DiscoveringAt a := by
  rintro ⟨w, hw, hstate⟩
  -- the state of a unit is nothing that its last command leaves
  refine units_apply_of_not_isDiscovery (Q := fun u => u.state ≠ .discovering) (fun _ _ _ _ => nofun)
    (fun u w hcleared hu hstate => hu ((congrArg LogicalUnit.state hcleared).trans hstate)) hcall
    (fun u hu hstate => h ⟨u, hu, hstate⟩) hw hstate

/-- **A call** leaves a unit in the middle of its discovery exactly if it was so before or if the
call breaks its discovery off. -/
theorem discovering_apply_iff (call : Call σ) {base bus : Bus σ}
    (hbus : Holds base LogicalUnit.IsAt (fun _ => True) bus) {a : Address} {w : LogicalUnit}
    (hw : (call.apply bus).units.get? a = some w) :
    w.state = .discovering ↔ bus.DiscoveringAt a ∨ call.BreaksOff bus a := by
  by_cases hcall : call.IsDiscovery
  · rw [Tells.call (fun _ _ => tells_discovering a) hcall hbus w hw]
    refine or_congr Iff.rfl ?_
    simp only [Call.BreaksOff, hcall, true_and, Call.mem_sentTo_iff, and_assoc]
  · have hnot : ¬ call.BreaksOff bus a := fun h => hcall h.1
    rw [or_iff_left hnot]
    constructor
    · intro hstate
      exact Classical.not_not.1 fun hbefore =>
        not_discoveringAt_apply hcall hbefore ⟨w, hw, hstate⟩
    · rintro ⟨u, hu, hstate⟩
      by_cases hdispose : call = .dispose
      -- the end of use left a unit, so it was cut off before it came to the units
      · subst hdispose
        obtain rfl := Option.some.inj ((Call.get?_dispose hw).symm.trans hu)
        exact hstate
      · obtain ⟨v, hv, hcleared⟩ := HasUnit.apply_of_discovery hdispose ⟨u, hu, rfl⟩
          fun h => absurd h hcall
        obtain rfl := Option.some.inj (hw.symm.trans hv)
        exact (congrArg LogicalUnit.state hcleared).trans hstate

/-! ## Runs -/

/-- On a bus that calls lead to all units are at their addresses. -/
theorem isAt_after (settings : BusSettings) (adapter : Option σ) (calls : List (Call σ)) :
    Holds (new settings adapter).emptied LogicalUnit.IsAt (fun _ => True)
      (after calls (new settings adapter)) :=
  (holds_new _ _ trivial).after fun call _ => sustains_isAt _ call

/-- **After a run** a unit is in the middle of its discovery exactly if a call broke it off and the
unit was not removed since. -/
theorem discovering_after_iff (settings : BusSettings) (adapter : Option σ) {calls : List (Call σ)}
    {a : Address} {u : LogicalUnit}
    (hu : (after calls (new settings adapter)).units.get? a = some u) :
    u.state = .discovering ↔ Interrupted a calls (new settings adapter) := by
  -- by induction on the calls from the last one back: the last call started from what the ones
  -- before it left
  induction calls using List.reverseRecOn generalizing u with
  | nil => exact nomatch hu
  | append_singleton calls call ih =>
    have hlast := hu
    rw [after_append, after_cons, after_nil] at hlast
    rw [discovering_apply_iff call (isAt_after settings adapter calls) hlast, Interrupted,
      since_concat_iff (by rw [hu]; rfl)]
    refine or_congr ?_ Iff.rfl
    cases hbefore : (after calls (new settings adapter)).units.get? a with
    | some v => rw [discoveringAt_iff hbefore, ih hbefore, Interrupted]
    | none =>
      -- no discovery of a unit that is not there was broken off since it was made
      refine iff_of_false (not_discoveringAt_of_vacant hbefore) fun h => ?_
      have hsome := h.isSome
      rw [hbefore] at hsome
      exact nomatch hsome

/-! ## Units that are locked out -/

/-- The call removes the unit at the address, if it comes that far: it gives the bus up, or is a
scan that comes to the address. -/
def Call.Removes (call : Call σ) (bus : Bus σ) (a : Address) : Prop :=
  call = .dispose ∨ ∃ allLuns, call = .scan allLuns ∧ bus.InRange allLuns a

/-- A discovery of the address makes a unit there and discovers it from the start. -/
structure DiscoversAfresh (a : Address) (bus : Bus σ) : Prop where
  /-- What the discovery answers and leaves is what the discovery of a new unit does. -/
  effect : let u := LogicalUnit.new bus.number a.target a.lun bus.defaultTimeout
    let ended := discover.effect (⟨u, bus.host⟩ : Session σ)
    ∃ bus', (discoverAt a).effect bus = (ended.1, bus') ∧ bus'.host = ended.2.host ∧
      bus'.units.get? a = some ended.2.unit ∧
      ∀ b, b ≠ a → bus'.units.get? b = bus.units.get? b
  /-- If there is an adapter, it is asked for the INQUIRY data first. -/
  asks : ∀ host, bus.host = some host → host.adapter.isSome = true →
    ∃ answer rest, (Call.discover a).exchanges bus =
      ⟨Question.identity.addressed (.new bus.number a.target a.lun bus.defaultTimeout), answer⟩ ::
        rest
  /-- If there is none, this question fails. -/
  denied : bus.host.bind Host.adapter = none →
    ∃ e, ((discoverAt a).effect bus).1 = some (.error (.inquiryFailed e))

/-- What is in store for the unit `u` at the address, which is in the middle of its discovery. -/
structure LockedOut (a : Address) (u : LogicalUnit) (bus : Bus σ) : Prop where
  /-- Until it is removed it stays as it is, apart from its last command, and every discovery of it
  is refused. -/
  stays : ∀ later : List (Call σ), (∀ call ∈ later, ¬ call.Removes bus a) →
    (∃ w, (after later bus).units.get? a = some w ∧
      w = { u with sense := w.sense, lastActual := w.lastActual }) ∧
    RefusesDiscovery a (after later bus)
  /-- A scan that comes to its address sends nothing there. It removes the unit and does not report
  it, unless it is cut off; then the unit is removed or as it was. -/
  scan : bus.host.isSome = true → ∀ allLuns, bus.InRange allLuns a →
    (∀ e ∈ (Call.scan allLuns).exchanges bus, ¬ e.IsTo a) ∧
    ((∃ found bus', (scan allLuns).effect bus = (some (.ok found), bus') ∧ a ∉ found ∧
        bus'.units.get? a = none) ∨
      ∃ bus', (scan allLuns).effect bus = (none, bus') ∧
        (bus'.units.get? a = none ∨ bus'.units.get? a = some u))
  /-- Without a host interface there is no scan. -/
  denied : bus.host = none → ∀ allLuns,
    (Bus.scan allLuns).effect bus = (some (.error .noInterface), bus)
  /-- It is removed when the bus is given up, unless the adapter crashes when it lets go. -/
  dispose : Call.dispose.Returns bus → (Call.dispose.apply bus).units.get? a = none
  /-- Once it is removed, a discovery of the address starts afresh. -/
  afresh : ∀ later : List (Call σ), (after later bus).units.get? a = none →
    DiscoversAfresh a (after later bus)

omit [HostAdapter σ] in
theorem Holds.maxLuns_ne_zero {base bus : Bus σ} {Q : Address → LogicalUnit → Prop}
    {H : Option (Host σ) → Prop} (h : Holds base Q H bus) (hluns : base.maxLuns ≠ 0) :
    bus.maxLuns ≠ 0 := by
  show bus.emptied.maxLuns ≠ 0
  rw [h.emptied]
  exact hluns

/-- Without a host interface no unit is in the middle of its discovery, unless it strays. -/
theorem keeps_discover_not_discovering :
    Keeps (Session.Has (fun u => u.state ≠ .discovering) (· = none))
      (discover : Activity (Session σ) _) := by
  rintro ⟨u, host⟩ ⟨hu, rfl⟩
  rw [state_run]
  by_cases hopen : u.IsOpen
  · rw [effect_discover_of_isOpen hopen, effect_explore_of_no_host]
    exact ⟨nofun, rfl⟩
  · obtain ⟨e, he⟩ := effect_discover_of_not_isOpen (σ := σ) hopen none
    rw [he]
    exact ⟨hu, rfl⟩

/-- **A unit in the middle of its discovery** has strayed if its bus has no host interface. -/
theorem strayed_of_discovering {settings : BusSettings} {adapter : Option σ}
    {calls : List (Call σ)} (hhost : (after calls (new settings adapter)).host = none) {a : Address}
    {u : LogicalUnit} (hu : (after calls (new settings adapter)).units.get? a = some u)
    (hstate : u.state = .discovering) : Strayed a calls (new settings adapter) := by
  refine strayed_of_no_host (R := fun u => u.state = .discovering) (fun call base a ha => ?_) hhost
    hu hstate
  exact sustains_of_no_host (P := (· = a)) (fun _ _ _ _ => nofun)
    (fun _ _ hcleared hv hw => hv ((congrArg LogicalUnit.state hcleared).trans hw))
    (fun _ _ => keeps_discover_not_discovering) (by rintro _ rfl; exact ha) base

/-- A scan that does not come to the address leaves the unit there alone. -/
theorem units_scan_of_not_inRange {bus : Bus σ} (hluns : bus.maxLuns ≠ 0) {allLuns : Bool}
    {a : Address} (ha : ¬ bus.InRange allLuns a) :
    ((scan allLuns).run bus).state.units.get? a = bus.units.get? a := by
  rw [state_run]
  cases hhost : bus.host with
  | none => rw [scan_of_no_host hhost]
  | some host =>
    obtain ⟨selected, heffect⟩ := effect_scan_of_host (Option.isSome_iff_exists.2 ⟨host, hhost⟩)
      allLuns
    rw [heffect]
    exact keepsUnitAt_visitAll (fun h => ha ((mem_scanRange_iff hluns).1 h)) bus rfl

/-- A call that does not remove the unit at the address keeps it, if its discovery cannot start. -/
theorem HasUnit.apply_of_not_removes {bus : Bus σ} (hluns : bus.maxLuns ≠ 0) {a : Address}
    {v : LogicalUnit} (hv : ¬ v.IsOpen) {call : Call σ} (hcall : ¬ call.Removes bus a)
    (h : HasUnit a v bus) : HasUnit a v (call.apply bus) := by
  refine h.apply_of_scan hv (fun hdispose => hcall (.inl hdispose)) ?_
  rintro allLuns rfl
  obtain ⟨u, hu, hcleared⟩ := h
  have hout : ¬ bus.InRange allLuns a := fun hin => hcall (.inr ⟨allLuns, rfl, hin⟩)
  exact ⟨u, (units_scan_of_not_inRange hluns hout).trans hu, hcleared⟩

omit [HostAdapter σ] in
/-- Which calls remove a unit depends on the limits of the bus alone. -/
theorem Call.Removes.congr {bus bus' : Bus σ} (h : bus'.emptied = bus.emptied) {call : Call σ}
    {a : Address} (hcall : call.Removes bus' a) : call.Removes bus a := by
  refine hcall.imp id ?_
  rintro ⟨allLuns, rfl, hin⟩
  exact ⟨allLuns, rfl, (inRange_congr h).1 hin⟩

/-- Calls that do not remove the unit at the address keep it, if its discovery cannot start. -/
theorem HasUnit.after_of_not_removes {base bus : Bus σ} (hluns : base.maxLuns ≠ 0)
    (hbus : Holds base LogicalUnit.IsAt (fun _ => True) bus) {a : Address} {v : LogicalUnit}
    (hv : ¬ v.IsOpen) {calls : List (Call σ)} (hcalls : ∀ call ∈ calls, ¬ call.Removes bus a)
    (h : HasUnit a v bus) : HasUnit a v (Bus.after calls bus) := by
  have hstep : ∀ call ∈ calls, ∀ bus',
      (HasUnit a v bus' ∧ Holds base LogicalUnit.IsAt (fun _ => True) bus') →
      HasUnit a v (call.apply bus') ∧
        Holds base LogicalUnit.IsAt (fun _ => True) (call.apply bus') := by
    rintro call hmem bus' ⟨hunit, hholds⟩
    refine ⟨hunit.apply_of_not_removes (hholds.maxLuns_ne_zero hluns) hv fun hcall => ?_,
      hholds.apply (sustains_isAt base call)⟩
    exact hcalls call hmem (hcall.congr (hholds.emptied.trans hbus.emptied.symm))
  exact (after_induction hstep ⟨h, hbus⟩).1

/-- A scan that comes to the address of a unit in the middle of its discovery sends nothing there,
and drops the unit unless it is cut off before. -/
theorem scan_of_discovering {base bus : Bus σ}
    (hbus : Holds base LogicalUnit.IsAt (fun _ => True) bus) (hluns : bus.maxLuns ≠ 0)
    (hhost : bus.host.isSome = true) {a : Address} {u : LogicalUnit}
    (hu : bus.units.get? a = some u) (hstate : u.state = .discovering) (hready : u.isReady = false)
    {allLuns : Bool} (ha : bus.InRange allLuns a) :
    (∀ e ∈ (Call.scan allLuns).exchanges bus, ¬ e.IsTo a) ∧
    ((∃ found bus', (scan allLuns).effect bus = (some (.ok found), bus') ∧ a ∉ found ∧
        bus'.units.get? a = none) ∨
      ∃ bus', (scan allLuns).effect bus = (none, bus') ∧
        (bus'.units.get? a = none ∨ bus'.units.get? a = some u)) := by
  have hsees : Sees bus.recorded.emptied a (some u) [] bus.recorded :=
    ⟨⟨rfl, hbus.units, sentTo_recorded bus a⟩, hu⟩
  have hrange : a ∈ bus.recorded.scanRange allLuns := (mem_scanRange_iff hluns).2 ha
  have hhost' : bus.recorded.host.isSome = true := by
    rw [← hhost]
    exact Option.isSome_map
  obtain ⟨hsent, hend⟩ := visitAll_of_discovering hrange (nodup_scanRange _ _) hsees ha.1 ha.2.1
    hstate hready
  obtain ⟨selected, hscan⟩ := effect_scan_of_host hhost' allLuns
  generalize (visitAll (bus.recorded.scanRange allLuns)).effect bus.recorded = visits
    at hsent hend hscan
  -- without a recorder the scan answers and leaves the same
  have heffect : (scan allLuns).effect bus =
      (visits.1.map .ok, { visits.2 with selected }.unrecorded) := by
    unfold effect
    rw [run_of_through (Observer.morphism.host.scan allLuns) bus, answer_run, state_run, hscan]
  refine ⟨fun e he hto => ?_, ?_⟩
  · have hexchanges : (Call.scan allLuns).exchanges bus = visits.2.exchanges := by
      rw [Call.exchanges_scan, hscan]
      rfl
    rw [hexchanges] at he
    have hmem : e ∈ visits.2.sentTo a := mem_sentTo_iff.2 ⟨he, hto⟩
    rw [hsent] at hmem
    exact nomatch hmem
  · obtain ⟨_ | found, bus'⟩ := visits
    · exact .inr ⟨_, heffect, hend.symm.imp And.left And.right⟩
    · rcases hend with ⟨hnone, -⟩ | ⟨hgone, hfound⟩
      · cases hnone
      · exact .inl ⟨found, _, heffect, hfound found rfl, hgone⟩

/-- Without an adapter a discovery that starts fails at its first question. -/
theorem effect_discover_of_no_adapter {u : LogicalUnit} (hopen : u.IsOpen) {host : Host σ}
    (hadapter : host.adapter = none) :
    ∃ s, discover.effect (⟨u, some host⟩ : Session σ) =
      (some (.error (.inquiryFailed .protocolPhase)), s) := by
  have hlost (c : Command) : (Host.submit c).effect host = (some (false, c.settled c), host) := by
    rw [Host.effect_submit, Host.effect_call_of_none hadapter]
    rfl
  have hexplore : explore.effect (⟨{ u with state := .discovering }, some host⟩ : Session σ) =
      (some (.error (.inquiryFailed .protocolPhase)),
        ⟨{ u.cleared with state := .discovering }, some host⟩) := by
    unfold explore probeInquiry
    rw [effect_bind_of_answer (effect_ask_of_lost Question.inquiry_zeros rfl (hlost _))]
    rfl
  rw [effect_discover_of_isOpen hopen, hexplore]
  exact ⟨_, rfl⟩

/-- Where there is no unit, a discovery starts afresh. -/
theorem discoversAfresh_of_vacant {bus : Bus σ} {a : Address} (ht : a.target < bus.maxTargets)
    (hl : a.lun < bus.maxLuns) (hvacant : bus.units.get? a = none) : DiscoversAfresh a bus where
  effect := by
    refine ⟨_, effect_discoverAt (effect_addUnit_of_vacant ht hl hvacant), rfl,
      UnitTable.get?_insert_self _ _ _, fun b hb => ?_⟩
    exact (UnitTable.get?_insert_of_ne _ _ (Ne.symm hb)).trans
      (UnitTable.get?_insert_of_ne _ _ (Ne.symm hb))
  asks host hhost hadapter := by
    have hadapter' : host.recorded.adapter.isSome = true := by
      rw [← hadapter]
      exact Option.isSome_map
    have hhost' : bus.recorded.host = some host.recorded := by
      show bus.host.map _ = _
      rw [hhost]
      rfl
    let u := LogicalUnit.new bus.number a.target a.lun bus.defaultTimeout
    have hopen : u.IsOpen := .inl rfl
    obtain ⟨answer, rest, hexchanges⟩ := exists_first_question hopen hadapter'
    rw [Host.exchanges_recorded, List.nil_append] at hexchanges
    refine ⟨answer, rest, ?_⟩
    have ht' : a.target < bus.recorded.maxTargets := ht
    rw [Call.exchanges_discover, effect_discoverAt (effect_addUnit_of_vacant ht' hl hvacant), hhost']
    exact hexchanges
  denied hnone := by
    rw [effect_discoverAt (effect_addUnit_of_vacant ht hl hvacant)]
    cases hhost : bus.host with
    | none =>
      obtain ⟨w, hw⟩ := effect_discover_of_no_host (σ := σ)
        (u := .new bus.number a.target a.lun bus.defaultTimeout) nofun
      rw [hw]
      exact ⟨_, rfl⟩
    | some host =>
      rw [hhost] at hnone
      obtain ⟨s, hs⟩ := effect_discover_of_no_adapter
        (u := .new bus.number a.target a.lun bus.defaultTimeout) (.inl rfl) hnone
      rw [hs]
      exact ⟨_, rfl⟩

/-- **A unit in the middle of its discovery is locked out.** -/
theorem lockedOut_of_discovering (settings : BusSettings) (adapter : Option σ)
    {calls : List (Call σ)} {a : Address} {u : LogicalUnit}
    (hu : (after calls (new settings adapter)).units.get? a = some u)
    (hstate : u.state = .discovering) :
    LockedOut a u (after calls (new settings adapter)) := by
  let base := (new settings adapter).emptied
  have hluns : base.maxLuns ≠ 0 := maxLuns_new settings adapter
  have hat (later : List (Call σ)) : Holds base LogicalUnit.IsAt (fun _ => True)
      (after later (after calls (new settings adapter))) := by
    rw [← after_append]
    exact isAt_after settings adapter (calls ++ later)
  -- the limits of the bus stay as they are, and the address is within them
  have hlimits : u.Placed base a := (placed_after settings adapter calls).units hu
  have hinside (later : List (Call σ)) :
      a.target < (after later (after calls (new settings adapter))).maxTargets ∧
        a.lun < (after later (after calls (new settings adapter))).maxLuns := by
    show a.target < (Bus.emptied _).maxTargets ∧ a.lun < (Bus.emptied _).maxLuns
    rw [(hat later).emptied]
    exact ⟨hlimits.target_lt, hlimits.lun_lt⟩
  -- such a unit is not ready
  have hcoherent : u.cleared.Coherent := (coherent_after settings adapter calls).units hu
  have hready : u.isReady = false := by
    refine Bool.eq_false_iff.2 fun h => ?_
    exact nomatch hstate.symm.trans (hcoherent.ready_iff_state.1 h)
  refine
    { stays := fun later hlater => ?_
      scan := fun hhost allLuns =>
        scan_of_discovering (hat []) ((hat []).maxLuns_ne_zero hluns) hhost hu hstate hready
      denied := fun hhost => scan_of_no_host hhost
      dispose := fun hreturns => ?_
      afresh := fun later => discoversAfresh_of_vacant (hinside later).1 (hinside later).2 }
  · have hkept : HasUnit a u.cleared (after calls (new settings adapter)) := ⟨u, hu, rfl⟩
    have hclosed : ¬ u.cleared.IsOpen := fun h => h.ne_discovering hstate
    obtain ⟨w, hw, hcleared⟩ := hkept.after_of_not_removes hluns (hat []) hclosed hlater
    have hstate' : w.state = .discovering := (congrArg LogicalUnit.state hcleared).trans hstate
    exact ⟨⟨w, hw, LogicalUnit.eq_of_cleared hcleared⟩,
      refusesDiscovery_of_not_isOpen (hinside later).1 (hinside later).2 hw
        fun h => h.ne_discovering hstate'⟩
  · rcases Call.dispose_cases (after calls (new settings adapter)) with ⟨-, hleft⟩ | ⟨hnot, -⟩
    · rw [hleft]
      rfl
    · exact absurd hreturns hnot

/-- **Broken discoveries.** Whatever is done with a bus and wherever its adapter crashes, a unit is
in the middle of its discovery exactly if a discovery of it was broken off since it was made; it is
then locked out until it is removed, and without a host interface there is such a unit only if it
strayed. If every submission comes back, no unit is ever in that state. -/
theorem interrupted_spec (settings : BusSettings) (adapter : Option σ) {calls : List (Call σ)}
    {a : Address} {u : LogicalUnit}
    (hu : (after calls (new settings adapter)).units.get? a = some u) :
    (u.state = .discovering ↔ Interrupted a calls (new settings adapter)) ∧
    (u.state = .discovering → LockedOut a u (after calls (new settings adapter))) ∧
    (u.state = .discovering → (after calls (new settings adapter)).host = none →
      Strayed a calls (new settings adapter)) ∧
    (Answers calls (new settings adapter) → u.state ≠ .discovering) := by
  have hiff := discovering_after_iff settings adapter hu
  refine ⟨hiff, lockedOut_of_discovering settings adapter hu,
    fun hstate hhost => strayed_of_discovering hhost hu hstate, fun hanswers hstate => ?_⟩
  exact hanswers.not_interrupted a (hiff.1 hstate)

end Bus

/-! ## A disk that is locked out -/

/-- An adapter that crashes at one of the commands that are sent to it, and the count of commands up
to that one. At zero it crashes no more. -/
structure Fused (σ : Type) where
  adapter : σ
  fuse : Nat

instance {σ : Type} [HostAdapter σ] : HostAdapter (Fused σ) where
  submit c := do
    let (fused, _) ← get
    modify fun s => ({ s.1 with fuse := s.1.fuse - 1 }, s.2)
    if fused.fuse = 1 then crash
    else
      onPart (fun s => (s.1.adapter, s.2)) (fun t s => ({ s.1 with adapter := t.1 }, t.2))
        (HostAdapter.submit c)

/-- A healthy disk is locked out by a crash at the second question of its discovery. -/
theorem Bus.interrupted_spec_fused :
    let settings : BusSettings := ⟨0, 2, 2, .empty, 1, 16, 0⟩
    let disk : Fused RamDisk := ⟨RamDisk.new (.disk 4 4), 2⟩
    let calls : List (Call (Fused RamDisk)) := [.discover ⟨0, 0⟩, .unit ⟨0, 0⟩ .testUnitReady]
    ∃ u, (after calls (new settings (some disk))).units.get? ⟨0, 0⟩ = some u ∧
      u.state = .discovering ∧ Interrupted ⟨0, 0⟩ calls (new settings (some disk)) ∧
      LockedOut ⟨0, 0⟩ u (after calls (new settings (some disk))) := by
  intro settings disk calls
  have hstate : ((after calls (new settings (some disk))).units.get? ⟨0, 0⟩).any
      (fun u => u.state = .discovering) = true := by decide +kernel
  cases hu : (after calls (new settings (some disk))).units.get? ⟨0, 0⟩ with
  | none =>
    rw [hu] at hstate
    exact nomatch hstate
  | some u =>
    rw [hu] at hstate
    have hdiscovering : u.state = .discovering := of_decide_eq_true hstate
    obtain ⟨hiff, hlocked, -, -⟩ := interrupted_spec settings (some disk) hu
    exact ⟨u, rfl, hdiscovering, hiff.1 hdiscovering, hlocked hdiscovering⟩

end Scsi
