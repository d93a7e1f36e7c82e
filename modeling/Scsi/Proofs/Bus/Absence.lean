import Scsi.Proofs.Bus.Holds
import Scsi.RamDisk.Basic

/-!
# Where the host interface is gone

Once a bus has no host interface, none comes back, and without one no unit becomes ready. There are
two ways to a ready unit all the same. A unit that is lent may be discovered through a host interface
that is not that of its bus. And an adapter may crash when it lets go, so that the end of use is cut
off after the interface is gone and before the units are. In both the unit has strayed, and there is
no third way.

## Main definitions

* `Bus.Call.StraysAt`: a discovery of a unit through another host interface than that of its bus
* `Bus.Strayed a calls bus`: the unit at the address `a` has strayed in one of the calls

## Main results

* `Bus.host_apply_of_no_host`: no call brings a host interface back
* `Bus.not_strayed`: where nothing is lent to another host interface and no end of use is cut off,
  no unit strays
* `Bus.strayed_of_no_host`: what no unit is without a host interface, only one that strayed is
* `Bus.sustains_unready`: without a host interface no unit becomes ready unless it strays
* `Bus.Holds.after_or`: what is sustained holds of a bus until it is given up
-/

namespace Scsi

open Activity

/-- Without a host interface nothing is found out. -/
theorem gives_explore_of_no_host {σ : Type} [HostAdapter σ] (v : LogicalUnit) {F : Findings → Prop} :
    Gives (Session.Frame v (· = none)) (explore : Activity (Session σ) _)
      fun r => ∀ f, r = .ok f → F f := by
  have hnone : ∀ c ∈ Question.all, Host.Serves (σ := σ) v (· = none) c := fun _ _ _ h => nomatch h
  intro s hs
  obtain ⟨hkept, hfound⟩ := gives_explore (A := fun _ => False) (B := fun _ => False) hnone
    (fun _ _ _ h => nomatch h) (fun _ _ _ h => nomatch h) (fun _ _ _ h => nomatch h) s hs
  exact ⟨hkept, fun r hr f hf => (hfound r hr f hf).1.elim⟩

namespace Bus

variable {σ : Type} [HostAdapter σ]

/-! ## The end of use -/

/-- The end of use removes the units as well, unless it is cut off. -/
theorem Call.dispose_cases (bus : Bus σ) :
    (Call.dispose.Returns bus ∧
      Call.dispose.apply bus = { bus with host := none, units := .empty, selected := none }) ∨
    (¬ Call.dispose.Returns bus ∧ Call.dispose.apply bus = { bus with host := none }) := by
  have happly : Call.dispose.apply bus = (Bus.dispose.effect bus).2 := state_map _ _ bus
  have hreturns : Call.dispose.Returns bus ↔ (Bus.dispose.effect bus).1.isSome = true := by
    rw [Call.Returns, Call.run, isSome_map]
    rfl
  rw [happly, hreturns]
  rcases Bus.dispose_cases bus with h | h
  · rw [h]
    exact .inl ⟨rfl, rfl⟩
  · rw [h]
    exact .inr ⟨nofun, rfl⟩

theorem Call.host_dispose (bus : Bus σ) : (Call.dispose.apply bus).host = none := by
  rcases Call.dispose_cases bus with ⟨-, h⟩ | ⟨-, h⟩ <;> rw [h]

/-- What the end of use leaves of the units is as it was. -/
theorem Call.get?_dispose {bus : Bus σ} {a : Address} {u : LogicalUnit}
    (hu : (Call.dispose.apply bus).units.get? a = some u) : bus.units.get? a = some u := by
  rcases Call.dispose_cases bus with ⟨-, h⟩ | ⟨-, h⟩
  all_goals rw [h] at hu
  · exact nomatch hu
  · exact hu

/-- A bus that is given up has no unit, so that all that may be said of units is true there. -/
theorem Holds.dispose {base bus : Bus σ} {Q R : Address → LogicalUnit → Prop}
    {H : Option (Host σ) → Prop} (h : Holds base Q H bus) (hreturns : Call.dispose.Returns bus) :
    Holds base R (· = none) (Call.dispose.apply bus) := by
  rcases Call.dispose_cases bus with ⟨-, hleft⟩ | ⟨hnot, -⟩
  · rw [hleft]
    exact ⟨h.emptied, (fun h => nomatch h), rfl⟩
  · exact absurd hreturns hnot

/-- **Until the bus is given up** it has what is sustained, and from then on it has what is sustained
without a host interface. -/
theorem Holds.after_or {base bus : Bus σ} {Q R : Address → LogicalUnit → Prop}
    {H : Option (Host σ) → Prop} {calls : List (Call σ)}
    (hQ : ∀ call ∈ calls, call ≠ .dispose → call.Sustains base Q H)
    (hR : ∀ call ∈ calls, call.Sustains base R (· = none))
    (hreturns : ∀ bus : Bus σ, Holds base Q H bus → Call.dispose.Returns bus)
    (h : Holds base Q H bus ∨ Holds base R (· = none) bus) :
    Holds base Q H (Bus.after calls bus) ∨ Holds base R (· = none) (Bus.after calls bus) := by
  refine after_induction (P := fun bus => Holds base Q H bus ∨ Holds base R (· = none) bus) ?_ h
  intro call hmem bus hbus
  rcases hbus with h | h
  -- once the bus is given up there is no way back to its host interface
  · by_cases hdispose : call = .dispose
    · subst hdispose
      exact .inr (h.dispose (hreturns bus h))
    · exact .inl (h.apply (hQ call hmem hdispose))
  · exact .inr (h.apply (hR call hmem))

/-! ## The host interface -/

/-- No call but the end of use takes the host interface away. -/
theorem sustains_present {call : Call σ} (hcall : call ≠ .dispose) (base : Bus σ) :
    call.Sustains base (fun _ _ => True) fun host => host.isSome = true :=
  sustains_of_host (fun _ _ _ _ => rfl) (fun _ _ _ => rfl) (fun _ _ _ _ => rfl) (fun _ _ => rfl)
    (fun _ _ _ _ => rfl) (fun h => absurd h hcall) fun _ _ _ _ => rfl

theorem sustains_absent (call : Call σ) (base : Bus σ) :
    call.Sustains base (fun _ _ => True) (· = none) :=
  sustains_of_host (fun _ _ _ h => nomatch h) (fun _ _ h => nomatch h) (fun _ _ _ h => nomatch h)
    (fun _ h => nomatch h) (fun _ _ _ h => nomatch h) (fun _ => rfl) fun _ _ _ h => nomatch h

/-- **No call brings a host interface back.** -/
theorem host_apply_of_no_host (call : Call σ) {bus : Bus σ} (h : bus.host = none) :
    (call.apply bus).host = none := by
  have habsent : Holds bus.emptied (fun _ _ => True) (· = none) bus := ⟨rfl, fun _ => trivial, h⟩
  exact (habsent.apply (sustains_absent call _)).host

omit [HostAdapter σ] in
/-- The unit at the address is lent, and discovered through a host interface that is not that of its
bus. -/
def Call.StraysAt (call : Call σ) (a : Address) : Prop :=
  ∃ loan : Loan, call = .borrow a loan ∧ loan.call = .discover ∧ loan.host.isSome = true

omit [HostAdapter σ] in
/-- A unit that is lent and does not stray keeps what handles keep without a host interface. -/
theorem Call.keeps_lent {call : Call σ} {a : Address} (hcall : ¬ call.StraysAt a) {loan : Loan}
    (hloan : call = .borrow a loan) {Q : LogicalUnit → Prop}
    (hcongr : ∀ u w, u.cleared = w.cleared → Q u → Q w)
    (hdiscover : Keeps (Session.Has Q (· = none)) (Scsi.discover : Activity (Session loan.σ) _)) :
    Keeps Q loan.run := by
  by_cases hd : loan.call = .discover
  · have hhost : loan.host = none :=
      Option.not_isSome_iff_eq_none.1 fun hhost => hcall ⟨loan, hloan, hd, hhost⟩
    exact Loan.keeps (H := (· = none)) hcongr (fun _ _ _ _ _ h => nomatch h) (fun _ => hdiscover) hhost
  · exact Loan.keeps (H := fun _ => True) hcongr (fun _ _ _ _ _ _ => trivial)
      (fun h => absurd h hd) trivial

/-- One of the calls discovered the unit at the address through another host interface than that of
its bus, or gave the bus up and was cut off, and the unit was not removed since. -/
def Strayed (a : Address) : List (Call σ) → Bus σ → Prop :=
  Since (fun call bus => call.StraysAt a ∨ call = .dispose ∧ ¬ call.Returns bus) a

/-- Nothing strays as long as no unit is discovered through another host interface than that of its
bus, and the adapter lets go without a crash. -/
theorem not_strayed {a : Address} {calls : List (Call σ)} {bus : Bus σ}
    (hlent : ∀ call ∈ calls, ¬ call.StraysAt a)
    (hreturns : ∀ bus : Bus σ, Call.dispose.Returns bus) : ¬ Strayed a calls bus := by
  intro h
  obtain ⟨call, hmem, left, hstrays | ⟨rfl, hcut⟩⟩ := Since.exists_mem h
  · exact hlent call hmem hstrays
  · exact hcut (hreturns left)

/-- **What no unit becomes without a host interface**, only a unit that strayed is. -/
theorem strayed_of_no_host {R : LogicalUnit → Prop}
    (hR : ∀ (call : Call σ) (base : Bus σ) (a : Address), ¬ call.StraysAt a →
      call.Sustains base (fun b u => b = a → ¬ R u) (· = none))
    {settings : BusSettings} {adapter : Option σ} {calls : List (Call σ)}
    (hhost : (after calls (new settings adapter)).host = none) {a : Address} {u : LogicalUnit}
    (hu : (after calls (new settings adapter)).units.get? a = some u) (hunit : R u) :
    Strayed a calls (new settings adapter) := by
  suffices hor : ((after calls (new settings adapter)).host = none → ¬ R u) ∨
      Strayed a calls (new settings adapter) from hor.resolve_left fun h => h hhost hunit
  refine or_since (G := fun bus u => bus.host = none → ¬ R u) hu (fun _ h => nomatch h)
    fun earlier call _ hnot hunits w hw hnone hRw => ?_
  rw [not_or, not_and_not_right] at hnot
  cases hbefore : (after earlier (new settings adapter)).host with
  | none =>
    -- without a host interface a call makes no unit so that does not stray
    have hnever : Holds (emptied (after earlier (new settings adapter))) (fun b u => b = a → ¬ R u)
        (· = none) (after earlier (new settings adapter)) := by
      refine ⟨rfl, ?_, hbefore⟩
      rintro _ v hv rfl
      exact hunits v hv hbefore
    exact (hnever.apply (hR call _ a hnot.1)).units hw rfl hRw
  | some host =>
    -- the interface was given up by this call, which leaves no unit unless it is cut off
    have hdispose : call = .dispose := by
      refine Classical.by_contradiction fun hcall => ?_
      have hpresent : Holds (emptied (after earlier (new settings adapter))) (fun _ _ => True)
          (fun host => host.isSome = true) (after earlier (new settings adapter)) :=
        ⟨rfl, fun _ => trivial, by rw [hbefore]; rfl⟩
      have hsome := (hpresent.apply (sustains_present hcall _)).host
      rw [hnone] at hsome
      exact nomatch hsome
    subst hdispose
    rcases Call.dispose_cases (after earlier (new settings adapter)) with ⟨-, hleft⟩ | ⟨hcut, -⟩
    · rw [hleft] at hw
      exact nomatch hw
    · exact hcut (hnot.2 rfl)

/-- What new units have and discoveries without a host interface keep, all units keep on a bus
without one, as long as they do not stray. -/
theorem sustains_of_no_host {R : LogicalUnit → Prop}
    (hnew : ∀ number target lun timeout, R (LogicalUnit.new number target lun timeout))
    (hcongr : ∀ u w : LogicalUnit, u.cleared = w.cleared → R u → R w)
    (hdiscover : ∀ (τ : Type) [HostAdapter τ],
      Keeps (Session.Has R (· = none)) (discover : Activity (Session τ) _))
    {P : Address → Prop} {call : Call σ} (hcall : ∀ a, P a → ¬ call.StraysAt a) (base : Bus σ) :
    call.Sustains base (fun a u => P a → R u) (· = none) where
  new _ _ _ _ := hnew _ _ _ _
  congr h hu ha := hcongr _ _ h (hu ha)
  discover _ _ := keeps_discover_if (fun _ _ _ _ h => nomatch h) (hdiscover σ)
  lend _ loan hloan u hu ha :=
    Call.keeps_lent (hcall _ ha) hloan hcongr (hdiscover loan.σ) u (hu ha)
  serves _ _ _ h := nomatch h
  reset _ _ h := nomatch h
  configureTarget _ _ _ h := nomatch h
  poll _ h := nomatch h
  gone _ := rfl
  write _ _ _ h := nomatch h
  change _ _ _ h := nomatch h

end Bus

/-! ## Ready units -/

theorem LogicalUnit.Discovered.unready {u w : LogicalUnit}
    {answer : Option (Except DiscoveryError Unit)} (h : u.Discovered (fun _ => False) answer w)
    (hu : u.isReady = false) : w.isReady = false := by
  cases h with
  | refused _ => exact hu
  | crashed _ hw => exact (congrArg isReady hw).trans hu
  | failed _ hw => exact (congrArg isReady hw).trans hu
  | published _ hf _ => exact hf.elim

theorem keeps_discover_unready {σ : Type} [HostAdapter σ] :
    Keeps (Session.Has (fun u => u.isReady = false) (· = none))
      (discover : Activity (Session σ) _) :=
  keeps_discover (fun _ _ => gives_explore_of_no_host _) fun _ _ _ hu hleft => hleft.unready hu

namespace Bus

variable {σ : Type} [HostAdapter σ]

/-- **Without a host interface** no unit becomes ready, unless it strays. -/
theorem sustains_unready {P : Address → Prop} {call : Call σ}
    (hcall : ∀ a, P a → ¬ call.StraysAt a) (base : Bus σ) :
    call.Sustains base (fun a u => P a → u.isReady = false) (· = none) :=
  sustains_of_no_host (fun _ _ _ _ => rfl)
    (fun _ _ h hu => (congrArg LogicalUnit.isReady h).symm.trans hu)
    (fun _ _ => keeps_discover_unready) hcall base

/-- **A ready unit of a bus without a host interface** has strayed. -/
theorem strayed_of_isReady {settings : BusSettings} {adapter : Option σ} {calls : List (Call σ)}
    (hhost : (after calls (new settings adapter)).host = none) {a : Address} {u : LogicalUnit}
    (hu : (after calls (new settings adapter)).units.get? a = some u) (hready : u.isReady = true) :
    Strayed a calls (new settings adapter) := by
  refine strayed_of_no_host (R := fun u => u.isReady = true) (fun call base a ha => ?_) hhost hu
    hready
  simp only [Bool.not_eq_true]
  exact sustains_unready (P := (· = a)) (by rintro _ rfl; exact ha) base

/-- A unit that is lent is made ready on a bus that never had a host interface. -/
example :
    let loan : Loan := ⟨some (Host.new (some (RamDisk.new (.disk 4 4))) 16), .discover⟩
    let bus := after [.borrow ⟨0, 0⟩ loan] (new ⟨0, 2, 2, .empty, 1, 0, 0⟩ (none : Option RamDisk))
    bus.host.isNone = true ∧ (bus.units.get? ⟨0, 0⟩).any LogicalUnit.isReady = true := by
  decide +kernel

end Bus

/-- A disk that crashes when it lets go. -/
structure Clinging where
  disk : RamDisk

instance : HostAdapter Clinging where
  submit c := onPart (fun s => (s.1.disk, s.2)) (fun t _ => (⟨t.1⟩, t.2)) (HostAdapter.submit c)
  release := crash

/-- A ready unit is left behind when such a disk is given up, and is removed by the next call that
gives the bus up. -/
example :
    let bus := Bus.after [.discover ⟨0, 0⟩, .dispose]
      (Bus.new ⟨0, 2, 2, .empty, 1, 16, 0⟩ (some (Clinging.mk (RamDisk.new (.disk 4 4)))))
    bus.host.isNone = true ∧ (bus.units.get? ⟨0, 0⟩).any LogicalUnit.isReady = true ∧
      ((Bus.Call.dispose.apply bus).units.get? ⟨0, 0⟩).isNone = true := by
  decide +kernel

end Scsi
