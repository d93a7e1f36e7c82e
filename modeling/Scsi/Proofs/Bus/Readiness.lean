import Scsi.Proofs.Bus.Coherence
import Scsi.Proofs.Bus.Contacts

/-!
# Ready units are there to stay

A ready unit stays at its address until the bus is given up, whatever is done with the bus and
however its adapter behaves. Only what its last command left on it changes, and a further discovery
of it is refused before anything is sent.

## Main definitions

* `Bus.RefusesDiscovery a`: both ways to discover the unit at an address fail and change nothing

## Main results

* `Bus.refusesDiscovery_of_not_isOpen`: a unit whose discovery cannot start is not discovered again
* `Bus.Reachable.unit_stays`: a ready unit stays as it is
-/

namespace Scsi

open Activity

/-- Apart from its last command, a unit is known by what is left when that is cleared. -/
theorem LogicalUnit.eq_of_cleared {u w : LogicalUnit} (h : w.cleared = u.cleared) :
    w = { u with sense := w.sense, lastActual := w.lastActual } := by
  obtain ⟨⟩ := u
  obtain ⟨⟩ := w
  simpa only [LogicalUnit.cleared, LogicalUnit.mk.injEq, true_and, and_true] using h

namespace Bus

variable {σ : Type} [HostAdapter σ] {a : Address} {u : LogicalUnit} {bus : Bus σ}

/-- The discovery of the unit at an address fails, by the bus and by the handles of the unit, without
a contact of the adapter; all that is left of it is that the unit is selected. -/
structure RefusesDiscovery (a : Address) (bus : Bus σ) : Prop where
  byBus : ∃ e, (discoverAt a).effect bus = (some (.error e), { bus with selected := some a })
  byHandle : ∃ e, (withUnit a UnitCall.discover.run).effect bus =
    (some (some (.discovered (.error e))), { bus with selected := some a })
  /-- A handle with a host interface of its own is refused as well. -/
  byLoan : ∀ loan : Loan, loan.call = .discover →
    ∃ e, (lend a loan.run).effect bus = (some (.ok (.discovered (.error e))), bus)
  contacts_byBus : (Call.discover a).contacts bus = []
  contacts_byHandle : (Call.unit a .discover).contacts bus = []

theorem effect_discoverAt_of_not_isOpen (ht : a.target < bus.maxTargets) (hl : a.lun < bus.maxLuns)
    (hu : bus.units.get? a = some u) (hopen : ¬ u.IsOpen) :
    ∃ e, (discoverAt a).effect bus = (some (.error e), { bus with selected := some a }) := by
  obtain ⟨e, he⟩ := effect_discover_of_not_isOpen hopen bus.host
  refine ⟨e, ?_⟩
  -- the unit is there, so none is made
  rw [effect_discoverAt (effect_addUnit_of_get? ht hl hu), he]
  simp only [UnitTable.insert_of_get?_eq_some hu]

theorem effect_handle_discover_of_not_isOpen (hu : bus.units.get? a = some u)
    (hopen : ¬ u.IsOpen) :
    ∃ e, (withUnit a UnitCall.discover.run).effect bus =
      (some (some (.discovered (.error e))), { bus with selected := some a }) := by
  obtain ⟨e, he⟩ := effect_discover_of_not_isOpen hopen bus.host
  refine ⟨e, ?_⟩
  rw [effect_withUnit hu, UnitCall.run, effect_map, he]
  simp only [Option.map_some, UnitTable.insert_of_get?_eq_some hu]

omit [HostAdapter σ] in
theorem effect_lend_discover_of_not_isOpen (ht : a.target < bus.maxTargets)
    (hl : a.lun < bus.maxLuns) (hu : bus.units.get? a = some u) (hopen : ¬ u.IsOpen) {loan : Loan}
    (hloan : loan.call = .discover) :
    ∃ e, (lend a loan.run).effect bus = (some (.ok (.discovered (.error e))), bus) := by
  obtain ⟨e, he⟩ := effect_discover_of_not_isOpen hopen loan.host
  refine ⟨e, ?_⟩
  have hrun : loan.run.effect u = (some (.discovered (.error e)), u) := by
    rw [Loan.run, hloan, effect_onPart, UnitCall.run, effect_map, he]
    rfl
  rw [effect_lend (effect_addUnit_of_get? ht hl hu), hrun]
  simp only [Option.map_some, UnitTable.insert_of_get?_eq_some hu]

/-- A unit whose discovery cannot start is not discovered again. -/
theorem refusesDiscovery_of_not_isOpen (ht : a.target < bus.maxTargets)
    (hl : a.lun < bus.maxLuns) (hu : bus.units.get? a = some u) (hopen : ¬ u.IsOpen) :
    RefusesDiscovery a bus where
  byBus := effect_discoverAt_of_not_isOpen ht hl hu hopen
  byHandle := effect_handle_discover_of_not_isOpen hu hopen
  byLoan _ := effect_lend_discover_of_not_isOpen ht hl hu hopen
  contacts_byBus := by
    -- the same happens with a monitor put in
    have htarget : a.target < bus.monitored.maxTargets := ht
    obtain ⟨e, he⟩ := effect_discoverAt_of_not_isOpen htarget hl hu hopen
    have hleft : (Call.discover a).contacts bus = ((discoverAt a).effect bus.monitored).2.contacts :=
      congrArg contacts (Call.apply_discover a bus.monitored)
    rw [hleft, he]
    exact bus.contacts_monitored
  contacts_byHandle := by
    have hmonitored : bus.monitored.units.get? a = some u := hu
    obtain ⟨e, he⟩ := effect_handle_discover_of_not_isOpen hmonitored hopen
    have hleft : (Call.unit a .discover).contacts bus =
        ((withUnit a UnitCall.discover.run).effect bus.monitored).2.contacts :=
      congrArg contacts (Call.apply_unit a .discover bus.monitored)
    rw [hleft, he]
    exact bus.contacts_monitored

/-- **A ready unit stays** at its address until the bus is given up, and stays ready with all that
was found out of it: only what its last command left is different after any calls, wherever the
adapter crashed in them. A further discovery of it is refused without a contact of the adapter. -/
theorem Reachable.unit_stays (hbus : bus.Reachable) (hu : bus.units.get? a = some u)
    (hready : u.state = .ready) {calls : List (Call σ)} (hcalls : ∀ call ∈ calls, call ≠ .dispose) :
    (∃ w, (after calls bus).units.get? a = some w ∧
      w = { u with sense := w.sense, lastActual := w.lastActual } ∧
      w.state = .ready ∧ w.isReady = true) ∧
    RefusesDiscovery a (after calls bus) := by
  obtain ⟨settings, adapter, history, rfl⟩ := hbus
  have hcoherent : u.cleared.Coherent := (coherent_after settings adapter history).units hu
  -- that the state says so and that the operations are there is one thing on a reachable bus, and
  -- both together keep a unit as it is
  have hopen : ¬ u.cleared.IsOpen := by
    rintro (h | h) <;> exact nomatch h.symm.trans hready
  have hisReady : u.cleared.isReady = true := hcoherent.ready_iff_state.2 hready
  have hunit : HasUnit a u.cleared (after calls (after history (new settings adapter))) :=
    after_induction (fun call hcall _ h => h.apply hopen hisReady (hcalls call hcall)) ⟨u, hu, rfl⟩
  obtain ⟨w, hw, hcleared⟩ := hunit
  rw [← after_append] at hw ⊢
  -- its address is one of the bus, so a discovery gets as far as the unit itself
  have hplaced := placed_after settings adapter (history ++ calls)
  have hlimits := hplaced.units hw
  rw [← hplaced.emptied] at hlimits
  have hstate : w.state = .ready := (congrArg LogicalUnit.state hcleared).trans hready
  refine ⟨⟨w, hw, LogicalUnit.eq_of_cleared hcleared, hstate,
    (congrArg LogicalUnit.isReady hcleared).trans hisReady⟩, ?_⟩
  refine refusesDiscovery_of_not_isOpen hlimits.target_lt hlimits.lun_lt hw ?_
  rintro (h | h) <;> exact nomatch h.symm.trans hstate

/-- A disk that is found by a scan stays through a crash, a reset and a scan while it is busy. -/
theorem Reachable.unit_stays_disk :
    let bus := after [.scan false] (new ⟨0, 2, 2, .empty, 1, 16, 0⟩ (some (RamDisk.new (.disk 4 4))))
    let calls : List (Call RamDisk) :=
      [.unit ⟨0, 0⟩ (.perform (.fresh (.ofBytes [0x12]) .none 0)), .reset .empty,
        .adapter fun disk => disk.injectBusy 100, .scan true]
    ∃ u, bus.units.get? ⟨0, 0⟩ = some u ∧
      (∃ w, (after calls bus).units.get? ⟨0, 0⟩ = some w ∧
        w = { u with sense := w.sense, lastActual := w.lastActual } ∧
        w.state = .ready ∧ w.isReady = true) ∧
      RefusesDiscovery ⟨0, 0⟩ (after calls bus) := by
  intro bus calls
  have hready : (bus.units.get? ⟨0, 0⟩).any (fun u => u.state = .ready) = true := by decide +kernel
  cases hu : bus.units.get? ⟨0, 0⟩ with
  | none =>
    rw [hu] at hready
    exact nomatch hready
  | some u =>
    rw [hu] at hready
    have hcalls : ∀ call ∈ calls, call ≠ .dispose := by
      simp [calls]
    exact ⟨u, rfl, Reachable.unit_stays ⟨_, _, _, rfl⟩ hu (of_decide_eq_true hready) hcalls⟩

end Bus

end Scsi
