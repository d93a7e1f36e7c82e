import Scsi.Proofs.Bus.Holds
import Scsi.Proofs.Host.Completion

/-!
# Calls that return

A call crashes nowhere but in the adapter. It comes to its end if the adapter returns from every
command that the call sends and from every operation that it asks for.

## Main definitions

* `Session.HostHas H`, `Bus.HostHas H`: the host interface has `H`
* `Host.Obliges H`: on host interfaces with `H` the adapter returns from everything but submissions
* `Host.Honours H c`: and from submissions of `c`

## Main results

* `UnitCall.ends_run`: the calls of a handle end if the adapter answers what they send
* `Bus.ends_scan`: so do scans
* `Bus.Call.not_returns_unit_iff`: the calls of handles that are cut off
* `Bus.Call.returns`: so does every call of a bus
-/

namespace Scsi

open Activity Session

variable {σ α : Type}

/-- The host interface that the unit works with has `H`. -/
def Session.HostHas (H : Option (Host σ) → Prop) (s : Session σ) : Prop := H s.host

/-- The host interface of the bus has `H`. -/
def Bus.HostHas (H : Option (Host σ) → Prop) (bus : Bus σ) : Prop := H bus.host

section

variable [HostAdapter σ] {H : Option (Host σ) → Prop}

/-- On host interfaces with `H` the adapter returns from everything but submissions, and leaves
`H`. -/
structure Host.Obliges (H : Option (Host σ) → Prop) : Prop where
  reset : ∀ flags, Finishes (fun host => H (some host)) (Host.reset flags)
  configureTarget : ∀ target settings,
    Finishes (fun host => H (some host)) (Host.configureTarget target settings)
  poll : Finishes (fun host => H (some host)) Host.poll
  release : ∀ host, H (some host) → (Host.release.effect host).1.isSome = true

/-- The adapter returns from the record, to whatever unit it is addressed, and leaves `H`. -/
def Host.Honours (H : Option (Host σ) → Prop) (c : Command) : Prop :=
  ∀ u : LogicalUnit, Host.Serves u H c ∧ Host.Returns u H c

/-! ## Handles -/

theorem ends_perform {c : Command} (hc : Host.Honours H c) :
    Finishes (HostHas H) (perform c : Activity (Session σ) _) := by
  intro s hs
  obtain ⟨hserves, hreturns⟩ := hc s.unit.cleared
  obtain ⟨hkept, hanswer⟩ := finishes_perform hserves hreturns s ⟨rfl, hs⟩
  exact ⟨hkept.2, hanswer⟩

omit [HostAdapter σ] in
theorem ends_getUnit : Finishes (HostHas H) (getUnit : Activity (Session σ) LogicalUnit) :=
  Finishes.get.map

omit [HostAdapter σ] in
theorem ends_setLastActual (n : UInt32) :
    Finishes (HostHas H) (setLastActual n : Activity (Session σ) Unit) := fun _ hs => ⟨hs, rfl⟩

omit [HostAdapter σ] in
theorem ends_refuse : Finishes (HostHas H) (refuse : Activity (Session σ) Error) :=
  ends_getUnit.bind fun _ => (ends_setLastActual 0).bind fun _ =>
    (Finishes.report _).bind fun _ => Finishes.pure _

theorem ends_transfer {block : UInt64} {count : UInt32} {data : DataBuffer} {access : Access}
    {form : CdbForm}
    (hc : ∀ blockSize c, Command.transfer block count blockSize data access form = .ok c →
      Host.Honours H c) :
    Finishes (HostHas H) (transfer block count data access form : Activity (Session σ) _) := by
  refine ends_getUnit.bind fun u => ?_
  cases u.operations with
  | unsupported => exact ends_refuse.bind fun _ => Finishes.pure _
  | ready =>
    refine (ends_setLastActual 0).bind fun _ => ?_
    -- a transfer that makes no command sends nothing
    cases h : Command.transfer block count u.blockSize data access form with
    | error e => exact Finishes.pure _
    | ok c =>
      refine (ends_perform (hc _ c h)).bind fun sent => ?_
      rcases sent with ⟨_ | _, after⟩
      · exact Finishes.pure _
      · exact (ends_setLastActual _).bind fun _ => Finishes.pure _

theorem ends_synchronizeCache (hc : Host.Honours H .synchronizeCache) :
    Finishes (HostHas H) (synchronizeCache : Activity (Session σ) _) := by
  refine ends_getUnit.bind fun u => ?_
  cases u.operations with
  | unsupported => exact ends_refuse.bind fun _ => Finishes.pure _
  | ready => exact (ends_perform hc).bind fun _ => Finishes.pure _

theorem ends_passThrough {c : Command} (hc : Host.Honours H c) :
    Finishes (HostHas H) (passThrough c : Activity (Session σ) _) := by
  refine ends_getUnit.bind fun u => ?_
  cases u.operations with
  | unsupported => exact ends_refuse.bind fun _ => Finishes.pure _
  | ready => exact ends_perform hc

theorem ends_requestSense {buffer : Bytes}
    (hc : ∀ c, Command.requestSense buffer = .ok c → Host.Honours H c) :
    Finishes (HostHas H) (requestSense buffer : Activity (Session σ) _) := by
  unfold requestSense
  cases h : Command.requestSense buffer with
  | error e => exact Finishes.pure _
  | ok c => exact (ends_perform (hc c h)).bind fun _ => Finishes.pure _

theorem ends_discover (hc : ∀ c ∈ Question.all, Host.Honours H c) :
    Finishes (HostHas H) (discover : Activity (Session σ) _) := by
  intro s hs
  have hexplore : ∀ v, Finishes (Frame v H) (explore : Activity (Session σ) _) := fun v =>
    finishes_explore (fun c hmem => (hc c hmem v).1) fun c hmem => (hc c hmem v).2
  obtain ⟨-, hleft⟩ := discovered_discover (u := s.unit)
    (gives_explore_sound fun c hmem => (hc c hmem _).1) hs
  exact ⟨hleft, isSome_discover (hexplore _) hs⟩

/-- **A call of a handle** ends if the adapter returns from what it sends. -/
theorem UnitCall.ends_run {call : UnitCall} (hc : ∀ c, call.Issues c → Host.Honours H c) :
    Finishes (HostHas H) (call.run : Activity (Session σ) UnitAnswer) := by
  cases call with
  | read32 block count buffer =>
    exact .map ((ends_transfer fun size c h => hc c ⟨size, h⟩).bind fun _ => .pure _)
  | write32 block count buffer =>
    exact .map (.map (ends_transfer fun size c h => hc c ⟨size, h⟩))
  | read64 block count buffer =>
    exact .map ((ends_transfer fun size c h => hc c ⟨size, h⟩).bind fun _ => .pure _)
  | write64 block count buffer =>
    exact .map (.map (ends_transfer fun size c h => hc c ⟨size, h⟩))
  | synchronizeCache => exact (ends_synchronizeCache (hc _ rfl)).map
  | passThrough c => exact (ends_passThrough (hc c rfl)).map
  | perform c => exact (ends_perform (hc c rfl)).map
  | testUnitReady => exact .map (ends_perform (hc _ rfl)).map
  | requestSense buffer => exact (ends_requestSense hc).map
  | discover => exact (ends_discover hc).map

end

/-! ## Buses -/

namespace Bus

variable {H : Option (Host σ) → Prop}

theorem ends_note (level : Log.Level) (message : String) :
    Finishes (HostHas H) (note level message : Activity (Bus σ) Unit) :=
  Finishes.get.bind fun _ => Finishes.report _

theorem ends_start : Finishes (HostHas H) (start : Activity (Bus σ) _) := by
  refine Finishes.get.bind fun bus => ?_
  cases bus.host with
  | none => exact (ends_note _ _).bind fun _ => Finishes.pure _
  | some host => exact (ends_note _ _).bind fun _ => Finishes.pure _

theorem ends_control {x : Activity (Host σ) Bool} (hx : Finishes (fun host => H (some host)) x) :
    Finishes (HostHas H) (control x) := by
  intro bus hbus
  cases hhost : bus.host with
  | none =>
    rw [effect_control_of_no_host hhost]
    exact ⟨hbus, rfl⟩
  | some host =>
    have hH : H (some host) := hhost ▸ hbus
    obtain ⟨hkept, hanswer⟩ := hx host hH
    rw [effect_control_of_host hhost]
    exact ⟨hkept, by simpa using hanswer⟩

theorem ends_addUnit (a : Address) : Finishes (HostHas H) (addUnit a : Activity (Bus σ) _) := by
  refine Finishes.get.bind fun bus => ?_
  split
  · exact Finishes.pure _
  split
  · exact Finishes.pure _
  cases bus.units.get? a with
  | some unit => exact Finishes.pure _
  | none => exact Finishes.bind (Finishes.modify fun _ h => h) fun _ => Finishes.pure _

theorem ends_inSession {x : Activity (Session σ) α} (hx : Finishes (Session.HostHas H) x)
    (a : Address) (unit : LogicalUnit) : Finishes (HostHas H) (inSession a unit x) :=
  Finishes.onPart hx (fun _ h => h) fun _ _ h _ => h

theorem ends_withUnit {x : Activity (Session σ) α} (hx : Finishes (Session.HostHas H) x)
    (a : Address) : Finishes (HostHas H) (withUnit a x) := by
  refine Finishes.get.bind fun bus => ?_
  cases bus.units.get? a with
  | none => exact Finishes.pure _
  | some unit => exact (ends_inSession hx a unit).map

variable [HostAdapter σ]

section Discovery

variable (hc : ∀ c ∈ Question.all, Host.Honours H c)

include hc

theorem ends_discoverAt (a : Address) : Finishes (HostHas H) (discoverAt a : Activity (Bus σ) _) := by
  refine (ends_addUnit a).bind fun added => ?_
  cases added with
  | error e => exact Finishes.pure _
  | ok unit => exact ends_inSession (ends_discover hc) a unit

theorem ends_visit (a : Address) : Finishes (HostHas H) (visit a : Activity (Bus σ) Bool) := by
  refine Finishes.get.bind fun bus => ?_
  split
  · exact Finishes.pure _
  refine (ends_discoverAt hc a).bind fun answer => ?_
  cases answer with
  | ok _ => exact Finishes.pure _
  | error e =>
    refine (ends_note _ _).bind fun _ => ?_
    exact Finishes.bind (Finishes.modify fun _ h => h) fun _ => Finishes.pure _

theorem ends_visitAll (addresses : List Address) :
    Finishes (HostHas H) (visitAll addresses : Activity (Bus σ) (List Address)) := by
  induction addresses with
  | nil => exact Finishes.pure _
  | cons a rest ih => exact (ends_visit hc a).bind fun _ => ih.bind fun _ => Finishes.pure _

/-- **A scan** ends if the adapter returns from the questions of discoveries. -/
theorem ends_scan (allLuns : Bool) : Finishes (HostHas H) (scan allLuns : Activity (Bus σ) _) := by
  refine ends_start.bind fun started => ?_
  cases started with
  | error e => exact Finishes.pure _
  | ok _ =>
    refine Finishes.get.bind fun _ => (ends_visitAll hc _).bind fun _ => ?_
    refine Finishes.bind (Finishes.modify fun _ h => h) fun _ => ?_
    exact (ends_note _ _).bind fun _ => Finishes.pure _

end Discovery

/-- A call of a handle does not return exactly if the unit is there and the call is cut off. -/
theorem Call.not_returns_unit_iff {a : Address} {call : UnitCall} {bus : Bus σ} :
    ¬ (Call.unit a call).Returns bus ↔
      ∃ u, bus.units.get? a = some u ∧ (call.run.effect (⟨u, bus.host⟩ : Session σ)).1 = none := by
  rw [Call.Returns, Call.run, isSome_map, answer_run]
  cases hunit : bus.units.get? a with
  | none =>
    have hnobody : (Bus.withUnit a call.run).effect bus = (some none, bus) := by
      unfold withUnit
      rw [effect_bind_of_answer (effect_get _), hunit]
      rfl
    simp [hnobody]
  | some u => simp [effect_withUnit hunit]

theorem ends_configureTarget (hobliges : Host.Obliges H) (target : UInt8)
    (settings : TargetSettings) :
    Finishes (HostHas H) (configureTarget target settings : Activity (Bus σ) _) := by
  refine Finishes.get.bind fun bus => ?_
  split
  · exact Finishes.pure _
  · exact ends_control (hobliges.configureTarget target settings)

theorem ends_poll (hobliges : Host.Obliges H) :
    Finishes (HostHas H) (poll : Activity (Bus σ) Unit) := by
  intro bus hbus
  unfold poll
  rw [effect_bind_of_answer (effect_get _)]
  cases hhost : bus.host with
  | none => exact ⟨hbus, rfl⟩
  | some host =>
    have hH : H (some host) := hhost ▸ hbus
    exact hobliges.poll host hH

omit [HostAdapter σ] in
theorem ends_lend {x : Activity LogicalUnit α} (hx : ∀ u, (x.effect u).1.isSome = true)
    (a : Address) : Finishes (HostHas H) (lend a x : Activity (Bus σ) _) := by
  refine (ends_addUnit a).bind fun added => ?_
  cases added with
  | error e => exact Finishes.pure _
  | ok unit =>
    have hwork : Finishes (fun _ => True) x := fun u _ => ⟨trivial, hx u⟩
    have hlent : Finishes (HostHas H) (onPart (fun _ => unit)
        (fun unit (bus : Bus σ) => { bus with units := bus.units.insert a unit }) x) :=
      hwork.onPart (fun _ _ => trivial) fun _ _ _ h => h
    exact hlent.map

/-- **A call of a bus** returns if the adapter returns from what it sends and from everything else,
and work on a unit that is lent comes to its end. -/
theorem Call.returns (hobliges : Host.Obliges H) {call : Call σ}
    (hc : ∀ a c, call.Issues a c → Host.Honours H c)
    (hlent : ∀ a (loan : Loan), call = .borrow a loan → ∀ u, (loan.run.effect u).1.isSome = true)
    {bus : Bus σ} (hbus : H bus.host) : call.Returns bus := by
  cases call with
  | dispose =>
    rw [Returns, Call.run, isSome_map]
    exact isSome_dispose fun host hhost => hobliges.release host (hhost ▸ hbus)
  | start => exact (ends_start.map bus hbus).2
  | reset flags => exact ((ends_control (hobliges.reset flags)).map bus hbus).2
  | configureTarget target settings =>
    exact ((ends_configureTarget hobliges target settings).map bus hbus).2
  | poll => exact ((ends_poll hobliges).map bus hbus).2
  | addUnit a => exact ((ends_addUnit a).map bus hbus).2
  | discover a => exact ((ends_discoverAt (fun c h => hc a c ⟨rfl, h⟩) a).map bus hbus).2
  | scan allLuns => exact ((ends_scan (fun c h => hc ⟨0, 0⟩ c h) allLuns).map bus hbus).2
  | unit a call =>
    exact ((ends_withUnit (UnitCall.ends_run fun c h => hc a c ⟨rfl, h⟩) a).map bus hbus).2
  | look a => exact ((ends_withUnit ends_getUnit a).map bus hbus).2
  | borrow a loan => exact ((ends_lend (hlent a loan rfl) a).map bus hbus).2
  | writePrivate offset bytes => rfl
  | adapter change => rfl

end Bus

end Scsi
