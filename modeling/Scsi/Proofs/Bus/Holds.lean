import Scsi.Proofs.Bus.Call
import Scsi.Proofs.Session.BlockIO
import Scsi.Proofs.Session.Discovery

/-!
# What calls keep of a bus

A bus is described by its limits and settings, which never change, by a property of each unit and by
a property of its host interface. A call keeps such a description if new units have the property of
units and if each piece of work on a unit keeps the properties of that unit and of the interface. A
unit that is lent is worked on with another interface, of which nothing is known.

## Main definitions

* `Bus.emptied`: the limits and settings of a bus
* `Session.Has Q H`: the sessions whose unit has `Q` and whose host interface has `H`
* `Bus.Holds base Q H`: the buses with the limits and settings of `base` whose unit at each address
  `a` has `Q a` and whose host interface has `H`
* `Bus.Call.Issues`, `Bus.Call.Discovers`: what a call may send through the host interface of the bus
* `Bus.Call.Sustains base Q H`: what a call needs so that it keeps such buses

## Main results

* `keeps_run`: a call of a handle keeps what does not depend on the last command
* `Loan.keeps`: so does a handle with a host interface of its own
* `Bus.Call.Sustains.keeps`: a call keeps what it sustains
* `Bus.sustains_of_units`, `Bus.sustains_of_host`: what is said of units alone, or of the host
  interface alone
* `Bus.Reachable.holds`: what new units have and discoveries keep, every unit of a reachable bus has
-/

namespace Scsi

open Activity

variable {σ α : Type}

/-- The unit has `Q` and the host interface has `H`. -/
structure Session.Has (Q : LogicalUnit → Prop) (H : Option (Host σ) → Prop) (s : Session σ) :
    Prop where
  unit : Q s.unit
  host : H s.host

/-! ## Handles -/

/-- A call of a handle may send the record, once it is addressed to the unit. -/
def UnitCall.Issues : UnitCall → Command → Prop
  | read32 block count buffer, c => ∃ blockSize,
    Command.transfer block.toUInt64 count blockSize (.input buffer) .read .ten = .ok c
  | write32 block count buffer, c => ∃ blockSize,
    Command.transfer block.toUInt64 count blockSize (.output buffer) .write .ten = .ok c
  | read64 block count buffer, c => ∃ blockSize,
    Command.transfer block count blockSize (.input buffer) .read .sixteen = .ok c
  | write64 block count buffer, c => ∃ blockSize,
    Command.transfer block count blockSize (.output buffer) .write .sixteen = .ok c
  | synchronizeCache, c => c = .synchronizeCache
  | passThrough record, c => c = record
  | perform record, c => c = record
  | testUnitReady, c => c = .testUnitReady
  | requestSense buffer, c => Command.requestSense buffer = .ok c
  | discover, c => c ∈ Question.all

section Handle

variable [HostAdapter σ] {Q : LogicalUnit → Prop} {H : Option (Host σ) → Prop} {call : UnitCall}

/-- A call of a handle that is no discovery keeps the frame of its session. -/
theorem keeps_run_frame {v : LogicalUnit} (hH : ∀ c, call.Issues c → Host.Serves v H c)
    (hcall : call ≠ .discover) : Keeps (Session.Frame v H) call.run := by
  cases call with
  | read32 block count buffer => exact Keeps.map (keeps_read fun size c h => hH c ⟨size, h⟩)
  | write32 block count buffer => exact Keeps.map (keeps_write fun size c h => hH c ⟨size, h⟩)
  | read64 block count buffer => exact Keeps.map (keeps_read fun size c h => hH c ⟨size, h⟩)
  | write64 block count buffer => exact Keeps.map (keeps_write fun size c h => hH c ⟨size, h⟩)
  | synchronizeCache => exact Keeps.map (keeps_synchronizeCache (hH _ rfl))
  | passThrough c => exact Keeps.map (keeps_passThrough (hH c rfl))
  | perform c => exact Keeps.map (keeps_perform (hH c rfl))
  | testUnitReady => exact Keeps.map (keeps_testUnitReady (hH _ rfl))
  | requestSense buffer => exact Keeps.map (keeps_requestSense hH)
  | discover => exact absurd rfl hcall

/-- A call of a handle keeps what its commands keep and, if it is one, its discovery; the last
command has to have no part in it. -/
theorem keeps_run (hQ : ∀ u w, u.cleared = w.cleared → Q u → Q w)
    (hH : ∀ v, Q v → ∀ c, call.Issues c → Host.Serves v H c)
    (hdiscover : call = .discover →
      Keeps (Session.Has Q H) (discover : Activity (Session σ) _)) :
    Keeps (Session.Has Q H) call.run := by
  by_cases hcall : call = .discover
  · subst hcall
    exact Keeps.map (hdiscover rfl)
  · intro s hs
    -- the frame is that of the unit without its last command, which has the property too
    have hv : Q s.unit.cleared := hQ _ _ s.unit.cleared_cleared.symm hs.unit
    obtain ⟨hunit, hhost⟩ := keeps_run_frame (hH _ hv) hcall s ⟨rfl, hs.host⟩
    exact ⟨hQ _ _ hunit.symm hs.unit, hhost⟩

end Handle

/-- A handle with a host interface of its own keeps what handles keep with such an interface. -/
theorem Loan.keeps {loan : Loan} {Q : LogicalUnit → Prop} {H : Option (Host loan.σ) → Prop}
    (hQ : ∀ u w, u.cleared = w.cleared → Q u → Q w)
    (hH : ∀ v, Q v → ∀ c, loan.call.Issues c → Host.Serves v H c)
    (hdiscover : loan.call = .discover →
      Keeps (Session.Has Q H) (discover : Activity (Session loan.σ) _))
    (hhost : H loan.host) : Keeps Q loan.run :=
  fun u hu => (keeps_run hQ hH hdiscover ⟨u, loan.host⟩ ⟨hu, hhost⟩).unit

namespace Bus

/-- The limits and settings of a bus: the bus without host interface and units. -/
def emptied (bus : Bus σ) : Bus σ := { bus with host := none, units := .empty, selected := none }

/-! ## Calls part by part -/

section Parts

variable {P : Bus σ → Prop}

theorem keeps_note (level : Log.Level) (message : String) : Keeps P (note level message) :=
  fun _ h => h

theorem keeps_start : Keeps P (start : Activity (Bus σ) _) := by
  refine Keeps.get.bind fun bus => ?_
  cases bus.host with
  | none => exact Keeps.bind (keeps_note _ _) fun _ => Keeps.pure _
  | some host => exact Keeps.bind (keeps_note _ _) fun _ => Keeps.pure _

theorem effect_control_of_no_host {bus : Bus σ} (h : bus.host = none)
    (x : Activity (Host σ) Bool) : (control x).effect bus = (some (.error .noInterface), bus) := by
  unfold control
  rw [effect_bind_of_answer (effect_get _), h]
  rfl

theorem effect_control_of_host {bus : Bus σ} {host : Host σ} (h : bus.host = some host)
    (x : Activity (Host σ) Bool) :
    (control x).effect bus =
      ((x.effect host).1.map fun worked => if worked then .ok () else .error .protocolPhase,
        { bus with host := some (x.effect host).2 }) := by
  unfold control
  rw [effect_bind_of_answer (effect_get _), h]
  simp only [effect_bind, onHost, effect_onPart]
  rcases (x.effect host) with ⟨_ | worked, host'⟩ <;> rfl

/-- Work on the host interface keeps what does not mind the interface that it leaves. -/
theorem keeps_control {x : Activity (Host σ) Bool}
    (hx : ∀ bus host, bus.host = some host → P bus → P { bus with host := some (x.effect host).2 }) :
    Keeps P (control x) := by
  intro bus hbus
  cases h : bus.host with
  | none =>
    rw [state_run, effect_control_of_no_host h]
    exact hbus
  | some host =>
    rw [state_run, effect_control_of_host h]
    exact hx bus host h hbus

variable [HostAdapter σ]

theorem keeps_configureTarget {target : UInt8} {settings : TargetSettings}
    (hx : ∀ bus host, bus.host = some host → P bus →
      P { bus with host := some ((Host.configureTarget target settings).effect host).2 }) :
    Keeps P (configureTarget target settings : Activity (Bus σ) _) := by
  refine Keeps.get.bind fun bus => ?_
  split
  · exact Keeps.pure _
  · exact keeps_control hx

theorem keeps_poll
    (hx : ∀ bus host, bus.host = some host → P bus →
      P { bus with host := some (Host.poll.effect host).2 }) :
    Keeps P (poll : Activity (Bus σ) Unit) := by
  intro bus hbus
  unfold poll
  rw [state_run, effect_bind_of_answer (effect_get _)]
  cases h : bus.host with
  | none => exact hbus
  | some host => exact hx bus host h hbus

/-! ### The end of use -/

theorem run_dispose_of_no_host {bus : Bus σ} (h : bus.host = none) :
    dispose.run bus = ⟨some (), { bus with units := .empty, selected := none }, []⟩ := by
  obtain ⟨number, maxTargets, maxLuns, features, queueDepth, timeout, host, units, selected⟩ := bus
  obtain rfl : host = none := h
  rfl

theorem effect_dispose_of_host {bus : Bus σ} {host : Host σ} (h : bus.host = some host) :
    dispose.effect bus =
      match (Host.release.effect host).1 with
      | none => (none, { bus with host := none })
      | some _ => (some (), { bus with host := none, units := .empty, selected := none }) := by
  have hgiven : (giveUp host).effect bus = ((Host.release.effect host).1, { bus with host := none }) :=
    rfl
  unfold dispose
  rw [effect_bind_of_answer (effect_get _), h]
  -- units and selection are removed only if the adapter let go
  cases hreleased : (Host.release.effect host).1 with
  | none =>
    rw [hreleased] at hgiven
    exact effect_bind_of_crash hgiven _
  | some _ =>
    rw [hreleased] at hgiven
    exact effect_bind_of_answer hgiven _

/-- The end of use comes to its end if the adapter does not crash when it lets go. -/
theorem isSome_dispose {bus : Bus σ} (hreleased : ∀ host, bus.host = some host →
    (Host.release.effect host).1.isSome = true) : (dispose.effect bus).1.isSome = true := by
  cases hhost : bus.host with
  | none =>
    rw [effect, run_dispose_of_no_host hhost]
    rfl
  | some host =>
    obtain ⟨_, hanswer⟩ := Option.isSome_iff_exists.1 (hreleased host hhost)
    rw [effect_dispose_of_host hhost, hanswer]
    rfl

/-- However the end of use comes out, the host interface is gone, and units and selection are gone
with it unless the adapter crashed. -/
theorem dispose_cases (bus : Bus σ) :
    dispose.effect bus = (some (), { bus with host := none, units := .empty, selected := none }) ∨
      dispose.effect bus = (none, { bus with host := none }) := by
  cases h : bus.host with
  | none =>
    refine .inl ?_
    rw [effect, run_dispose_of_no_host h, ← h]
  | some host =>
    rw [effect_dispose_of_host h]
    split
    · exact .inr rfl
    · exact .inl rfl

theorem keeps_dispose (hgone : ∀ bus, P bus → P { bus with host := none })
    (hremoved : ∀ bus, P bus → P { bus with host := none, units := .empty, selected := none }) :
    Keeps P (dispose : Activity (Bus σ) Unit) := by
  intro bus hbus
  rw [state_run]
  rcases dispose_cases bus with h | h
  · rw [h]
    exact hremoved bus hbus
  · rw [h]
    exact hgone bus hbus

/-! ### Scans -/

/-- What every visit of a tour keeps, the tour keeps. -/
theorem keeps_visitAll {addresses : List Address} (hvisit : ∀ a ∈ addresses, Keeps P (visit a)) :
    Keeps P (visitAll addresses) := by
  -- by induction on the addresses that are left
  induction addresses with
  | nil => exact Keeps.pure _
  | cons a rest ih =>
    refine (hvisit a List.mem_cons_self).bind fun _ => ?_
    exact (ih fun b hb => hvisit b (List.mem_cons_of_mem a hb)).bind fun _ => Keeps.pure _

/-- What every visit keeps, and what does not mind which unit is selected, a scan keeps. -/
theorem keeps_scan_of_visit (hvisit : ∀ a, Keeps P (visit a))
    (hselected : ∀ bus, P bus → P { bus with selected := none }) (allLuns : Bool) :
    Keeps P (scan allLuns) := by
  refine Keeps.bind keeps_start fun started => ?_
  cases started with
  | error e => exact Keeps.pure _
  | ok _ =>
    refine Keeps.get.bind fun bus => (keeps_visitAll fun a _ => hvisit a).bind fun found => ?_
    exact (Keeps.modify hselected).bind fun _ => Keeps.bind (keeps_note _ _) fun _ => Keeps.pure _

end Parts

/-! ## Descriptions -/

/-- The limits and settings are those of `base`, every unit has the property for its address, and
the host interface has `H`. -/
structure Holds (base : Bus σ) (Q : Address → LogicalUnit → Prop) (H : Option (Host σ) → Prop)
    (bus : Bus σ) : Prop where
  emptied : bus.emptied = base
  units : ∀ {a u}, bus.units.get? a = some u → Q a u
  host : H bus.host

variable {base : Bus σ} {Q : Address → LogicalUnit → Prop} {H : Option (Host σ) → Prop}

theorem Holds.withHost {bus : Bus σ} (h : Holds base Q H bus) {host : Option (Host σ)}
    (hhost : H host) : Holds base Q H { bus with host } :=
  ⟨h.emptied, h.units, hhost⟩

theorem Holds.of_control {x : Activity (Host σ) α} (hx : Keeps (fun host => H (some host)) x) :
    ∀ bus host, bus.host = some host → Holds base Q H bus →
      Holds base Q H { bus with host := some (x.effect host).2 } := by
  intro bus host h hbus
  have hhost := hbus.host
  rw [h] at hhost
  exact hbus.withHost (hx host hhost)

theorem Holds.mapHost {bus : Bus σ} (h : Holds base Q H bus) {f : Host σ → Host σ}
    (hf : ∀ host, H (some host) → H (some (f host))) : Holds base Q H (bus.mapHost f) := by
  refine ⟨h.emptied, h.units, ?_⟩
  have hhost := h.host
  show H (bus.host.map f)
  cases hb : bus.host with
  | none =>
    rw [hb] at hhost
    exact hhost
  | some host =>
    rw [hb] at hhost
    exact hf host hhost

/-! ## Units -/

theorem Holds.insert {bus : Bus σ} (h : Holds base Q H bus) {a : Address} {u : LogicalUnit}
    (hu : Q a u) {host : Option (Host σ)} (hhost : H host) (selected : Option Address) :
    Holds base Q H { bus with units := bus.units.insert a u, host, selected } := by
  refine ⟨h.emptied, ?_, hhost⟩
  intro b w hw
  rw [UnitTable.get?_insert] at hw
  split at hw
  -- the unit that was put in, or one that was there before
  · next hab =>
    obtain rfl := Option.some.inj hw
    exact hab ▸ hu
  · exact h.units hw

theorem Holds.erase {bus : Bus σ} (h : Holds base Q H bus) (a : Address) :
    Holds base Q H { bus with units := bus.units.erase a } := by
  refine ⟨h.emptied, ?_, h.host⟩
  intro b w hw
  rw [UnitTable.get?_erase] at hw
  split at hw
  · exact nomatch hw
  · exact h.units hw

theorem keeps_inSession {a : Address} {u : LogicalUnit} (hu : Q a u) {x : Activity (Session σ) α}
    (hx : Keeps (Session.Has (Q a) H) x) : Keeps (Holds base Q H) (inSession a u x) := by
  intro bus hbus
  obtain ⟨hunit, hhost⟩ := hx ⟨u, bus.host⟩ ⟨hu, hbus.host⟩
  exact hbus.insert hunit hhost (some a)

theorem keeps_withUnit {a : Address} {x : Activity (Session σ) α}
    (hx : Keeps (Session.Has (Q a) H) x) : Keeps (Holds base Q H) (withUnit a x) := by
  refine Gives.keeps (Gives.get.bind fun bus hbus => ?_) (Q := fun _ => True)
  cases h : bus.units.get? a with
  | none => exact (Keeps.pure _).gives
  | some u => exact Keeps.gives (Keeps.map (keeps_inSession (hbus.units h) hx))

/-- Work on a unit of the bus leaves its unit and its host interface. -/
theorem effect_withUnit {bus : Bus σ} {a : Address} {u : LogicalUnit}
    (hu : bus.units.get? a = some u) (x : Activity (Session σ) α) :
    (withUnit a x).effect bus =
      ((x.effect ⟨u, bus.host⟩).1.map some,
        { bus with
          units := bus.units.insert a (x.effect ⟨u, bus.host⟩).2.unit
          host := (x.effect ⟨u, bus.host⟩).2.host
          selected := some a }) := by
  unfold withUnit
  rw [effect_bind_of_answer (effect_get _), hu]
  exact effect_map _ _ _

/-- Work on a unit that is lent leaves its unit, and the host interface of the bus as it was. -/
theorem effect_lend {bus bus' : Bus σ} {a : Address} {u : LogicalUnit}
    (hadd : (addUnit a).effect bus = (some (.ok u), bus')) (x : Activity LogicalUnit α) :
    (lend a x).effect bus =
      ((x.effect u).1.map .ok, { bus' with units := bus'.units.insert a (x.effect u).2 }) := by
  unfold lend
  rw [effect_bind_of_answer hadd]
  exact effect_map _ _ _

theorem effect_lend_of_error {bus bus' : Bus σ} {a : Address} {e : Error}
    (hadd : (addUnit a).effect bus = (some (.error e), bus')) (x : Activity LogicalUnit α) :
    (lend a x).effect bus = (some (.error e), bus') := by
  unfold lend
  rw [effect_bind_of_answer hadd]
  rfl

section New

variable (hnew : ∀ a : Address, a.target < base.maxTargets → a.lun < base.maxLuns →
  Q a (LogicalUnit.new base.number a.target a.lun base.defaultTimeout))

include hnew in
/-- The unit that is found or made at an address has the property for that address. -/
theorem gives_addUnit (a : Address) :
    Gives (Holds base Q H) (addUnit a) fun r => ∀ u, r = .ok u → Q a u := by
  refine Gives.get.bind fun bus hbus => ?_
  obtain ⟨hbase, hunits, -⟩ := hbus
  -- past the limits of the bus no unit is found or made
  by_cases ht : bus.maxTargets ≤ a.target
  · simp only [ht, if_true]
    exact Gives.pure fun _ h => nomatch h
  by_cases hl : bus.maxLuns ≤ a.lun
  · simp only [ht, hl, if_true, if_false]
    exact Gives.pure fun _ h => nomatch h
  simp only [ht, hl, if_false]
  cases h : bus.units.get? a with
  | some u =>
    refine Gives.pure ?_
    rintro _ ⟨⟩
    exact hunits h
  | none =>
    -- a new unit is made from the settings of the bus, which are those of the base
    have hu : Q a (LogicalUnit.new bus.number a.target a.lun bus.defaultTimeout) := by
      subst hbase
      exact hnew a (UInt8.not_le.1 ht) (UInt8.not_le.1 hl)
    refine Gives.bind (Q := fun _ => True) ?_ fun _ _ => Gives.pure ?_
    · exact (Keeps.modify fun bus hbus => hbus.insert hu hbus.host bus.selected).gives
    · rintro _ ⟨⟩
      exact hu

include hnew in
theorem keeps_lend {a : Address} {x : Activity LogicalUnit α} (hx : Keeps (Q a) x) :
    Keeps (Holds base Q H) (lend a x) := by
  refine Gives.keeps ((gives_addUnit hnew a).bind fun added hadded => ?_) (Q := fun _ => True)
  cases added with
  | error e => exact (Keeps.pure _).gives
  | ok u =>
    have hlent : Keeps (Holds base Q H) (onPart (fun _ => u)
        (fun unit (bus : Bus σ) => { bus with units := bus.units.insert a unit }) x) :=
      fun bus hbus => hbus.insert (hx u (hadded u rfl)) hbus.host bus.selected
    exact (Keeps.map hlent).gives

variable [HostAdapter σ]

include hnew

theorem keeps_discoverAt {a : Address}
    (hdiscover : Keeps (Session.Has (Q a) H) (discover : Activity (Session σ) _)) :
    Keeps (Holds base Q H) (discoverAt a) := by
  refine Gives.keeps ((gives_addUnit hnew a).bind fun added hadded => ?_) (Q := fun _ => True)
  cases added with
  | error e => exact (Keeps.pure _).gives
  | ok u => exact (keeps_inSession (hadded u rfl) hdiscover).gives

theorem keeps_visit {a : Address}
    (hdiscover : Keeps (Session.Has (Q a) H) (discover : Activity (Session σ) _)) :
    Keeps (Holds base Q H) (visit a) := by
  refine Keeps.get.bind fun bus => ?_
  split
  · exact Keeps.pure _
  · refine (keeps_discoverAt hnew hdiscover).bind fun discovered => ?_
    cases discovered with
    | ok _ => exact Keeps.pure _
    | error e =>
      -- a unit whose discovery failed is dropped, which leaves fewer units to speak of
      refine Keeps.bind (keeps_note _ _) fun _ => ?_
      exact (Keeps.modify fun bus hbus => hbus.erase a).bind fun _ => Keeps.pure _

theorem keeps_scan
    (hdiscover : ∀ a, Keeps (Session.Has (Q a) H) (discover : Activity (Session σ) _))
    (allLuns : Bool) : Keeps (Holds base Q H) (scan allLuns) :=
  keeps_scan_of_visit (fun a => keeps_visit hnew (hdiscover a))
    (fun _ h => ⟨h.emptied, h.units, h.host⟩) allLuns

end New

/-! ## Calls -/

variable [HostAdapter σ]

/-- A call of the bus may send the record through the host interface of the bus, once it is addressed
to the unit at an address. -/
def Call.Issues : Call σ → Address → Command → Prop
  | discover a, b, c => b = a ∧ c ∈ Question.all
  | scan _, _, c => c ∈ Question.all
  | unit a call, b, c => b = a ∧ call.Issues c
  | _, _, _ => False

/-- A call of the bus may discover the unit at an address through the host interface of the bus. -/
def Call.Discovers : Call σ → Address → Prop
  | discover a, b => b = a
  | scan _, _ => True
  | unit a call, b => b = a ∧ call = .discover
  | _, _ => False

omit [HostAdapter σ] in
theorem Call.Discovers.issues {call : Call σ} {a : Address} (h : call.Discovers a) {c : Command}
    (hc : c ∈ Question.all) : call.Issues a c := by
  cases call with
  | discover b => exact ⟨h, hc⟩
  | scan allLuns => exact hc
  | unit b call =>
    obtain ⟨ha, rfl⟩ := h
    exact ⟨ha, hc⟩
  | _ => exact h.elim

omit [HostAdapter σ] in
theorem Call.Discovers.isDiscovery {call : Call σ} {a : Address} (h : call.Discovers a) :
    call.IsDiscovery := by
  cases call with
  | discover b => trivial
  | scan allLuns => trivial
  | unit b call => exact h.2
  | _ => exact h.elim

/-- What a description of buses needs so that a call keeps it: new units have the property of units,
which the last command has no part in, discoveries keep it, with whatever host interface, and so does
every operation of the adapter with the property of the host interface. Each is needed as far as the
call may do such a thing. -/
structure Call.Sustains (call : Call σ) (base : Bus σ) (Q : Address → LogicalUnit → Prop)
    (H : Option (Host σ) → Prop) : Prop where
  new : ∀ a : Address, a.target < base.maxTargets → a.lun < base.maxLuns →
    Q a (LogicalUnit.new base.number a.target a.lun base.defaultTimeout)
  congr : ∀ {a u w}, u.cleared = w.cleared → Q a u → Q a w
  discover : ∀ a, call.Discovers a →
    Keeps (Session.Has (Q a) H) (Scsi.discover : Activity (Session σ) _)
  lend : ∀ a (loan : Loan), call = .borrow a loan → Keeps (Q a) loan.run
  serves : ∀ {a v c}, Q a v → call.Issues a c → Host.Serves v H c
  reset : ∀ flags, Keeps (fun host => H (some host)) (Host.reset flags)
  configureTarget : ∀ target settings,
    Keeps (fun host => H (some host)) (Host.configureTarget target settings)
  poll : Keeps (fun host => H (some host)) Host.poll
  gone : call = .dispose → H none
  write : ∀ offset bytes host, H (some host) →
    H (some { host with memory := host.memory.write offset bytes })
  change : ∀ change, call = .adapter change → ∀ host, H (some host) →
    H (some { host with adapter := host.adapter.map change })

/-- **A call** keeps what it sustains. -/
theorem Call.Sustains.keeps {call : Call σ} (hQ : call.Sustains base Q H) :
    Keeps (Holds base Q H) call.run := by
  cases call with
  | start => exact Keeps.map keeps_start
  | dispose =>
    have hnone : H none := hQ.gone rfl
    refine Keeps.map (keeps_dispose (fun _ h => h.withHost hnone) fun _ h => ?_)
    exact ⟨h.emptied, (fun h => nomatch h), hnone⟩
  | reset flags => exact Keeps.map (keeps_control (Holds.of_control (hQ.reset flags)))
  | configureTarget target settings =>
    exact Keeps.map (keeps_configureTarget (Holds.of_control (hQ.configureTarget target settings)))
  | poll => exact Keeps.map (keeps_poll (Holds.of_control hQ.poll))
  | addUnit a => exact Keeps.map (gives_addUnit hQ.new a).keeps
  | discover a => exact Keeps.map (keeps_discoverAt hQ.new (hQ.discover a rfl))
  | scan allLuns =>
    exact Keeps.map (keeps_scan hQ.new (fun a => hQ.discover a trivial) allLuns)
  | unit a call =>
    refine Keeps.map (keeps_withUnit (keeps_run (fun _ _ => hQ.congr) ?_ fun hd => ?_))
    · exact fun _ hv c hc => hQ.serves hv ⟨rfl, hc⟩
    · exact hQ.discover a ⟨rfl, hd⟩
  | look a => exact Keeps.map (keeps_withUnit (Keeps.map Keeps.get))
  | borrow a loan => exact Keeps.map (keeps_lend hQ.new (hQ.lend a loan rfl))
  | writePrivate offset bytes =>
    exact Keeps.map (Keeps.modify fun _ h => h.mapHost (hQ.write offset bytes))
  | adapter change => exact Keeps.map (Keeps.modify fun _ h => h.mapHost (hQ.change change rfl))

/-- What is said of units alone, every call sustains: units get it from their discoveries, through
whatever host interface these go. -/
theorem sustains_of_units
    (hnew : ∀ a : Address, a.target < base.maxTargets → a.lun < base.maxLuns →
      Q a (LogicalUnit.new base.number a.target a.lun base.defaultTimeout))
    (hcongr : ∀ {a u w}, u.cleared = w.cleared → Q a u → Q a w) (call : Call σ)
    (hdiscover : call.IsDiscovery → ∀ (τ : Type) [HostAdapter τ] (a : Address),
      Keeps (Session.Has (Q a) fun _ => True) (Scsi.discover : Activity (Session τ) _)) :
    call.Sustains base Q fun _ => True where
  new := hnew
  congr := hcongr
  discover a hd := hdiscover hd.isDiscovery σ a
  lend a loan hcall := by
    subst hcall
    exact Loan.keeps (fun _ _ => hcongr) (fun _ _ _ _ _ _ => trivial)
      (fun hd => hdiscover hd loan.σ a) trivial
  serves _ _ _ _ := trivial
  reset _ _ _ := trivial
  configureTarget _ _ _ _ := trivial
  poll _ _ := trivial
  gone _ := trivial
  write _ _ _ _ := trivial
  change _ _ _ _ := trivial

/-- What is said of the host interface alone, a call sustains if all operations keep it. -/
theorem sustains_of_host (hserves : ∀ v c, Host.Serves v H c)
    (hreset : ∀ flags, Keeps (fun host => H (some host)) (Host.reset flags))
    (hconfigure : ∀ target settings,
      Keeps (fun host => H (some host)) (Host.configureTarget target settings))
    (hpoll : Keeps (fun host => H (some host)) Host.poll)
    (hwrite : ∀ offset bytes host, H (some host) →
      H (some { host with memory := host.memory.write offset bytes }))
    {call : Call σ} (hnone : call = .dispose → H none)
    (hchange : ∀ change, call = .adapter change → ∀ host, H (some host) →
      H (some { host with adapter := host.adapter.map change })) :
    call.Sustains base (fun _ _ => True) H where
  new _ _ _ := trivial
  congr _ _ := trivial
  discover _ _ _ hs :=
    ⟨trivial, (discovered_discover (gives_explore_sound fun c _ => hserves _ c) hs.host).2⟩
  lend _ _ _ _ _ := trivial
  serves _ _ := hserves _ _
  reset := hreset
  configureTarget := hconfigure
  poll := hpoll
  gone := hnone
  write := hwrite
  change := hchange

theorem Holds.apply {call : Call σ} {bus : Bus σ} (h : Holds base Q H bus)
    (hQ : call.Sustains base Q H) : Holds base Q H (call.apply bus) := hQ.keeps bus h

/-- A run of calls keeps what each of them sustains. -/
theorem Holds.after {calls : List (Call σ)} {bus : Bus σ} (h : Holds base Q H bus)
    (hQ : ∀ call ∈ calls, call.Sustains base Q H) : Holds base Q H (Bus.after calls bus) :=
  after_induction (fun call hcall _ h => h.apply (hQ call hcall)) h

omit [HostAdapter σ] in
theorem holds_new (settings : BusSettings) (adapter : Option σ)
    (hhost : H (Bus.new settings adapter).host) :
    Holds (Bus.new settings adapter).emptied Q H (Bus.new settings adapter) :=
  ⟨rfl, (fun h => nomatch h), hhost⟩

/-- A reachable bus has the limits and settings of a new one, and each of its units has what all
calls sustain. -/
theorem Reachable.holds {Q : Bus σ → Address → LogicalUnit → Prop}
    (hQ : ∀ base (call : Call σ), call.Sustains base (Q base) fun _ => True) {bus : Bus σ}
    (h : bus.Reachable) :
    ∃ settings adapter, Holds (Bus.new settings adapter).emptied
      (Q (Bus.new settings adapter).emptied) (fun _ => True) bus := by
  obtain ⟨settings, adapter, calls, rfl⟩ := h
  exact ⟨settings, adapter, (holds_new _ _ trivial).after fun call _ => hQ _ call⟩

end Bus

/-! ## Discoveries -/

section Discovery

variable [HostAdapter σ] {Q : LogicalUnit → Prop} {H : Option (Host σ) → Prop}

/-- A discovery keeps what each of the things that it can leave has. -/
theorem keeps_discover {F : Findings → Prop}
    (hF : ∀ v, Q v → Gives (Session.Frame { v.cleared with state := .discovering } H) explore
      fun r => ∀ f, r = .ok f → F f)
    (hQ : ∀ u answer w, Q u → u.Discovered F answer w → Q w) :
    Keeps (Session.Has Q H) (discover : Activity (Session σ) _) := by
  rintro ⟨u, host⟩ ⟨hu, hhost⟩
  obtain ⟨hleft, hkept⟩ := discovered_discover (hF u hu) hhost
  exact ⟨hQ u _ _ hu hleft, hkept⟩

/-- A discovery keeps what it keeps of units at some addresses, and the host interface in any case. -/
theorem keeps_discover_if {P : Prop} (hserves : ∀ v : LogicalUnit, ∀ c ∈ Question.all,
      Host.Serves v H c) (hdiscover : Keeps (Session.Has Q H) (discover : Activity (Session σ) _)) :
    Keeps (Session.Has (fun u => P → Q u) H) (discover : Activity (Session σ) _) := by
  rintro s ⟨hunit, hhost⟩
  refine ⟨fun h => (hdiscover s ⟨hunit h, hhost⟩).unit, ?_⟩
  exact (discovered_discover (gives_explore_sound (hserves _)) hhost).2

end Discovery

end Scsi
