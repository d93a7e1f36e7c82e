import Scsi.Proofs.Bus.Holds

/-!
# Persistence of ready units

A unit that is ready stays at its address, with all that was found out of it, until the bus is given
up. No other call changes more of it than what its last command left.

## Main definitions

* `Bus.ReadyAt a`: there is a ready unit at the address `a`
* `Bus.HasUnit a v`: the bus has the unit `v` at the address `a`, apart from its last command

## Main results

* `Bus.HasUnit.apply_of_discovery`: no call but the end of use and discoveries touches a unit
* `Bus.HasUnit.apply`: every call but the end of use keeps a ready unit
-/

namespace Scsi

open Activity

variable {σ α : Type}

section

variable [HostAdapter σ] {v : LogicalUnit} (hv : ¬ v.IsOpen)

include hv

theorem keeps_discover_of_not_isOpen {H : Option (Host σ) → Prop} :
    Keeps (Session.Frame v H) (discover : Activity (Session σ) _) := by
  rintro ⟨u, host⟩ hs
  -- the state of a unit is nothing that its last command leaves
  have hstate : u.state = v.state := by
    rw [← hs.1]
    rfl
  have hu : ¬ u.IsOpen := by
    rw [LogicalUnit.IsOpen, hstate]
    exact hv
  obtain ⟨e, he⟩ := effect_discover_of_not_isOpen hu host
  rw [state_run, he]
  exact hs

/-- A handle of a unit whose discovery cannot start keeps all of it but its last command. -/
theorem keeps_run_of_not_isOpen (call : UnitCall) :
    Keeps (Session.Frame v fun _ => True) (call.run (σ := σ)) := by
  by_cases hcall : call = .discover
  · subst hcall
    exact Keeps.map (keeps_discover_of_not_isOpen hv)
  · exact keeps_run_frame (fun _ _ _ _ => trivial) hcall

/-- So does a handle with a host interface of its own. -/
theorem Loan.keeps_of_not_isOpen (loan : Loan) :
    Keeps (fun u : LogicalUnit => u.cleared = v) loan.run :=
  fun u hu => (keeps_run_of_not_isOpen hv loan.call ⟨u, loan.host⟩ ⟨hu, trivial⟩).1

end

/-- A loan that is no discovery leaves all of the unit but its last command. -/
theorem Loan.keeps_of_ne_discover {loan : Loan} (hcall : loan.call ≠ .discover) {v : LogicalUnit} :
    Keeps (fun u : LogicalUnit => u.cleared = v) loan.run := fun u hu =>
  (keeps_run_frame (H := fun _ => True) (fun _ _ _ _ => trivial) hcall ⟨u, loan.host⟩
    ⟨hu, trivial⟩).1

namespace Bus

/-- There is a ready unit at the address. -/
def ReadyAt (bus : Bus σ) (a : Address) : Prop :=
  ∃ u, bus.units.get? a = some u ∧ u.isReady = true

theorem readyAt_iff {bus : Bus σ} {a : Address} :
    (bus.units.get? a).any LogicalUnit.isReady = true ↔ bus.ReadyAt a := by
  unfold ReadyAt
  cases bus.units.get? a with
  | none => exact ⟨(fun h => nomatch h), fun ⟨_, h, _⟩ => nomatch h⟩
  | some u =>
    constructor
    · exact fun h => ⟨u, rfl, h⟩
    · rintro ⟨_, ⟨⟩, h⟩
      exact h

/-- The unit at the address is `v` apart from its last command. -/
def HasUnit (a : Address) (v : LogicalUnit) (bus : Bus σ) : Prop :=
  ∃ u, bus.units.get? a = some u ∧ u.cleared = v

variable {a : Address} {v : LogicalUnit}

theorem HasUnit.insert {bus : Bus σ} (h : HasUnit a v bus) {b : Address} {w : LogicalUnit}
    (hw : b = a → w.cleared = v) (host : Option (Host σ)) (selected : Option Address) :
    HasUnit a v { bus with units := bus.units.insert b w, host, selected } := by
  obtain ⟨u, hu, hcleared⟩ := h
  -- what is put in at another address does not touch the unit
  by_cases hb : b = a
  · subst hb
    exact ⟨w, UnitTable.get?_insert_self _ _ _, hw rfl⟩
  · exact ⟨u, (UnitTable.get?_insert_of_ne _ _ hb).trans hu, hcleared⟩

theorem keepsUnit_inSession {b : Address} {u : LogicalUnit} (hu : b = a → u.cleared = v)
    {x : Activity (Session σ) α} (hx : b = a → Keeps (Session.Frame v fun _ => True) x) :
    Keeps (HasUnit a v) (inSession b u x) := by
  intro bus hbus
  refine hbus.insert (fun hb => ?_) _ _
  exact (hx hb ⟨u, bus.host⟩ ⟨hu hb, trivial⟩).1

theorem keepsUnit_withUnit {b : Address} {x : Activity (Session σ) α}
    (hx : b = a → Keeps (Session.Frame v fun _ => True) x) :
    Keeps (HasUnit a v) (withUnit b x) := by
  refine Gives.keeps (Gives.get.bind fun bus hbus => ?_) (Q := fun _ => True)
  cases h : bus.units.get? b with
  | none => exact (Keeps.pure _).gives
  | some u =>
    refine Keeps.gives (Keeps.map (keepsUnit_inSession (fun hb => ?_) hx))
    -- at the address itself the work starts from the unit that is there
    obtain ⟨w, hw, hcleared⟩ := hbus
    rw [← hb] at hw
    obtain rfl := Option.some.inj (h.symm.trans hw)
    exact hcleared

theorem givesUnit_addUnit (b : Address) :
    Gives (HasUnit (σ := σ) a v) (addUnit b) fun r => ∀ u, r = .ok u → b = a → u.cleared = v := by
  refine Gives.get.bind fun bus hbus => ?_
  obtain ⟨w, hw, hcleared⟩ := hbus
  split
  · exact Gives.pure fun _ h => nomatch h
  split
  · exact Gives.pure fun _ h => nomatch h
  cases h : bus.units.get? b with
  | some u =>
    refine Gives.pure ?_
    rintro _ ⟨⟩ rfl
    obtain rfl := Option.some.inj (h.symm.trans hw)
    exact hcleared
  | none =>
    -- a unit is made only where there is none
    have hb : b ≠ a := by
      rintro rfl
      exact nomatch h.symm.trans hw
    refine Gives.bind (Q := fun _ => True) ?_ fun _ _ => Gives.pure fun _ _ h => absurd h hb
    refine (Keeps.modify fun bus hbus => ?_).gives
    exact hbus.insert (fun h => absurd h hb) bus.host bus.selected

theorem keepsUnit_lend {b : Address} {x : Activity LogicalUnit α}
    (hx : b = a → Keeps (fun u : LogicalUnit => u.cleared = v) x) :
    Keeps (HasUnit (σ := σ) a v) (lend b x) := by
  refine Gives.keeps ((givesUnit_addUnit b).bind fun added hadded => ?_) (Q := fun _ => True)
  cases added with
  | error e => exact (Keeps.pure _).gives
  | ok u =>
    have hlent : Keeps (HasUnit a v) (onPart (fun _ => u)
        (fun unit (bus : Bus σ) => { bus with units := bus.units.insert b unit }) x) :=
      fun bus hbus => hbus.insert (fun hb => hx hb u (hadded u rfl hb)) bus.host bus.selected
    exact (Keeps.map hlent).gives

variable [HostAdapter σ]

/-- Every call but the end of use keeps a unit, apart from its last command, if the discoveries among
them do. -/
theorem HasUnit.apply_of_discovery {call : Call σ} (hcall : call ≠ .dispose) {bus : Bus σ}
    (h : HasUnit a v bus) (hdiscovery : call.IsDiscovery → HasUnit a v (call.apply bus)) :
    HasUnit a v (call.apply bus) := by
  by_cases hd : call.IsDiscovery
  · exact hdiscovery hd
  suffices hkeeps : Keeps (HasUnit a v) call.run from hkeeps bus h
  cases call with
  | start => exact Keeps.map keeps_start
  | dispose => exact absurd rfl hcall
  | reset flags => exact Keeps.map (keeps_control fun _ _ _ h => h)
  | configureTarget target settings => exact Keeps.map (keeps_configureTarget fun _ _ _ h => h)
  | poll => exact Keeps.map (keeps_poll fun _ _ _ h => h)
  | addUnit b => exact Keeps.map (givesUnit_addUnit b).keeps
  | discover b => exact absurd trivial hd
  | scan allLuns => exact absurd trivial hd
  | unit b call =>
    exact Keeps.map (keepsUnit_withUnit fun _ => keeps_run_frame (fun _ _ _ _ => trivial) hd)
  | look b => exact Keeps.map (keepsUnit_withUnit fun _ => Keeps.map Keeps.get)
  | borrow b loan => exact Keeps.map (keepsUnit_lend fun _ => Loan.keeps_of_ne_discover hd)
  | writePrivate offset bytes => exact Keeps.map (Keeps.modify fun _ h => h)
  | adapter change => exact Keeps.map (Keeps.modify fun _ h => h)

variable (hv : ¬ v.IsOpen)

include hv

theorem keepsUnit_discoverAt (b : Address) : Keeps (HasUnit (σ := σ) a v) (discoverAt b) := by
  refine Gives.keeps ((givesUnit_addUnit b).bind fun added hadded => ?_) (Q := fun _ => True)
  cases added with
  | error e => exact (Keeps.pure _).gives
  | ok u =>
    exact Keeps.gives (keepsUnit_inSession (hadded u rfl) fun _ => keeps_discover_of_not_isOpen hv)

/-- A unit whose discovery cannot start is kept by every call but the end of use, if the scans among
them keep it. -/
theorem HasUnit.apply_of_scan {call : Call σ} (hcall : call ≠ .dispose) {bus : Bus σ}
    (h : HasUnit a v bus)
    (hscan : ∀ allLuns, call = .scan allLuns → HasUnit a v ((scan allLuns).run bus).state) :
    HasUnit a v (call.apply bus) := by
  refine h.apply_of_discovery hcall fun hdiscovery => ?_
  cases call with
  | discover b => exact Keeps.map (keepsUnit_discoverAt hv b) bus h
  | scan allLuns =>
    rw [Call.apply, Call.run, state_map]
    exact hscan allLuns rfl
  | unit b call =>
    exact Keeps.map (keepsUnit_withUnit fun _ => keeps_run_of_not_isOpen hv call) bus h
  | borrow b loan => exact Keeps.map (keepsUnit_lend fun _ => loan.keeps_of_not_isOpen hv) bus h
  | _ => exact hdiscovery.elim

variable (hready : v.isReady = true)

include hready

/-- A visit finds a ready unit at its address, and drops only units at other addresses. -/
theorem keepsUnit_visit (b : Address) : Keeps (HasUnit (σ := σ) a v) (visit b) := by
  refine Gives.keeps (Gives.get.bind fun bus hbus => ?_) (Q := fun _ => True)
  split
  · exact (Keeps.pure _).gives
  · next hnot =>
    -- the address that is discovered is not that of the ready unit
    have hb : b ≠ a := by
      rintro rfl
      obtain ⟨u, hu, hcleared⟩ := hbus
      have huReady : u.isReady = true := by
        rw [← hready, ← hcleared]
        rfl
      rw [hu] at hnot
      exact hnot huReady
    refine Keeps.gives ((keepsUnit_discoverAt hv b).bind fun discovered => ?_)
    cases discovered with
    | ok _ => exact Keeps.pure _
    | error e =>
      refine Keeps.bind (fun _ h => h) fun _ => ?_
      refine Keeps.bind (Keeps.modify fun bus hbus => ?_) fun _ => Keeps.pure _
      obtain ⟨u, hu, hcleared⟩ := hbus
      exact ⟨u, (UnitTable.get?_erase_of_ne _ hb).trans hu, hcleared⟩

/-- **Every call but the end of use** keeps a ready unit. -/
theorem HasUnit.apply {call : Call σ} (hcall : call ≠ .dispose) {bus : Bus σ}
    (h : HasUnit a v bus) : HasUnit a v (call.apply bus) :=
  h.apply_of_scan hv hcall fun allLuns _ =>
    keeps_scan_of_visit (keepsUnit_visit hv hready) (fun _ h => h) allLuns bus h

end Bus

end Scsi
