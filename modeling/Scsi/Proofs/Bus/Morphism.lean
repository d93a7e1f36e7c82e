import Scsi.Proofs.Bus.Call
import Scsi.Proofs.Through

/-!
# Maps between host interfaces

A map between host interfaces that their operations respect is respected by all that a bus does:
seen through the map, its calls have the same answers, report the same events and leave the same
units. So is a map of default timeouts, if units are made alike with a timeout and with its image.

## Main definitions

* `Session.view`, `Bus.view`: sessions and buses with their host interface seen through a map
* `Host.Morphism p`: the operations of two host interfaces respect the map `p` between them
* `HostAdapter.Morphism f`: the operations of two adapters respect the map `f` between their states
* `Host.mapAdapter`, `Session.mapAdapter`, `Bus.mapAdapter`: interfaces, sessions and buses seen
  through a map of adapters
* `LogicalUnit.MadeAlike g`: units are made alike with a default timeout and with its image
* `Bus.seen p g`: the bus with its host interface and its default timeout seen through maps
* `Bus.Call.lift`: a call of one bus, made of a bus that is seen as the first

## Main results

* `HostAdapter.Morphism.host`: a map of adapters is one of host interfaces
* `Host.Morphism.run`: the calls of a handle respect the map
* `Host.Morphism.scan`: scans respect it
* `Host.Morphism.run_call`: so do all calls of a bus
* `Host.Morphism.apply`: so does what they leave
* `Session.run_of_section`, `Bus.run_of_section`: with a right inverse of the map, what is done on
  the one side is known from the other
-/

namespace Scsi

open Activity

variable {σ τ α : Type}

/-! ## Views -/

/-- The session with its host interface seen through a map. -/
def Session.view (p : Host σ → Host τ) (s : Session σ) : Session τ := ⟨s.unit, s.host.map p⟩

/-- The bus with its host interface seen through a map. -/
def Bus.view (p : Host σ → Host τ) (bus : Bus σ) : Bus τ :=
  ⟨bus.number, bus.maxTargets, bus.maxLuns, bus.features, bus.queueDepth, bus.defaultTimeout,
    bus.host.map p, bus.units, bus.selected⟩

/-- The operations of the host interfaces and writes to their private blocks respect the map. -/
structure Host.Morphism [HostAdapter σ] [HostAdapter τ] (p : Host σ → Host τ) : Prop where
  submit : ∀ c, Through p (Host.submit c) (Host.submit c)
  reset : ∀ flags, Through p (Host.reset flags) (Host.reset flags)
  configureTarget : ∀ target settings,
    Through p (Host.configureTarget target settings) (Host.configureTarget target settings)
  poll : Through p Host.poll Host.poll
  release : Through p Host.release Host.release
  write : ∀ offset bytes host, p { host with memory := host.memory.write offset bytes } =
    { p host with memory := (p host).memory.write offset bytes }

theorem Host.morphism_id [HostAdapter σ] : Morphism (id : Host σ → Host σ) where
  submit _ _ := rfl
  reset _ _ := rfl
  configureTarget _ _ _ := rfl
  poll _ := rfl
  release _ := rfl
  write _ _ _ := rfl

/-- Maps that are respected may be used one after the other. -/
theorem Host.Morphism.trans {υ : Type} [HostAdapter σ] [HostAdapter τ] [HostAdapter υ]
    {p : Host σ → Host τ} {q : Host τ → Host υ} (hp : Morphism p) (hq : Morphism q) :
    Morphism fun host => q (p host) where
  submit c := (hp.submit c).trans (hq.submit c)
  reset flags := (hp.reset flags).trans (hq.reset flags)
  configureTarget target settings :=
    (hp.configureTarget target settings).trans (hq.configureTarget target settings)
  poll := hp.poll.trans hq.poll
  release := hp.release.trans hq.release
  write offset bytes host := by rw [hp.write, hq.write]

/-! ## Maps of adapters -/

/-- The host interface seen through a map of adapters. -/
def Host.mapAdapter (f : σ → τ) (host : Host σ) : Host τ :=
  ⟨host.adapter.map f, host.size, host.memory⟩

/-- The session seen through a map of adapters. -/
def Session.mapAdapter (f : σ → τ) (s : Session σ) : Session τ :=
  ⟨s.unit, s.host.map (Host.mapAdapter f)⟩

/-- The bus seen through a map of adapters. -/
def Bus.mapAdapter (f : σ → τ) (bus : Bus σ) : Bus τ :=
  ⟨bus.number, bus.maxTargets, bus.maxLuns, bus.features, bus.queueDepth, bus.defaultTimeout,
    bus.host.map (Host.mapAdapter f), bus.units, bus.selected⟩

/-- The operations of the adapters respect the map between their states. -/
structure HostAdapter.Morphism [HostAdapter σ] [HostAdapter τ] (f : σ → τ) : Prop where
  submit : ∀ (size : Nat) (c : Command),
    Through (fun s : σ × Memory size => (f s.1, s.2)) (HostAdapter.submit c) (HostAdapter.submit c)
  reset : ∀ (size : Nat) (flags : ResetFlags),
    Through (fun s : σ × Memory size => (f s.1, s.2)) (HostAdapter.reset flags)
      (HostAdapter.reset flags)
  configureTarget : ∀ (size : Nat) (target : UInt8) (settings : TargetSettings),
    Through (fun s : σ × Memory size => (f s.1, s.2)) (HostAdapter.configureTarget target settings)
      (HostAdapter.configureTarget target settings)
  poll : ∀ size : Nat,
    Through (fun s : σ × Memory size => (f s.1, s.2)) HostAdapter.poll HostAdapter.poll
  release : Through f HostAdapter.release HostAdapter.release

theorem Host.through_call {f : σ → τ} {x : (size : Nat) → Activity (σ × Memory size) α}
    {y : (size : Nat) → Activity (τ × Memory size) α}
    (h : ∀ size, Through (fun s : σ × Memory size => (f s.1, s.2)) (x size) (y size)) (absent : α) :
    Through (Host.mapAdapter f) (Host.call x absent) (Host.call y absent) := by
  -- without an adapter both interfaces answer alike, and with one the adapters do
  rintro ⟨_ | a, size, memory⟩
  · rfl
  · have hended := h size (a, memory)
    show (⟨((y size).run (f a, memory)).answer,
      ⟨some ((y size).run (f a, memory)).state.1, size, ((y size).run (f a, memory)).state.2⟩,
      ((y size).run (f a, memory)).events⟩ : Ended (Host τ) α) = _
    rw [hended]
    rfl

/-- A map of adapters that their operations respect is one of host interfaces. -/
theorem HostAdapter.Morphism.host [HostAdapter σ] [HostAdapter τ] {f : σ → τ}
    (hf : HostAdapter.Morphism f) : Host.Morphism (Host.mapAdapter f) where
  submit c := (Host.through_call (fun size => hf.submit size c) _).bind fun _ => Through.pure _
  reset flags := Host.through_call (fun size => hf.reset size flags) _
  configureTarget target settings :=
    Host.through_call (fun size => hf.configureTarget size target settings) _
  poll := Host.through_call hf.poll _
  release := Host.through_call (fun _ => hf.release.onPart (fun _ => rfl) fun _ _ => rfl) _
  write _ _ _ := rfl

variable {p : Host σ → Host τ}

/-! ## Sessions -/

namespace Session

theorem through_getUnit :
    Through (view p) (getUnit : Activity (Session σ) LogicalUnit) getUnit := fun _ => rfl

theorem through_note (level : Log.Level) (source : Log.Source) (number : UInt32) (message : String)
    (fields : List (String × Log.Value)) :
    Through (view p) (note level source number message fields)
      (note level source number message fields) := Through.report _

theorem through_onUnit (x : Activity LogicalUnit α) :
    Through (view p) (onUnit x) (onUnit x) := fun _ => rfl

theorem through_onHost {x : Activity (Host σ) α} {y : Activity (Host τ) α}
    (h : Through p x y) (host : Host σ) :
    Through (view p) (onHost host x) (onHost (p host) y) :=
  h.onPart (fun _ => rfl) fun _ _ => rfl

end Session

namespace Host.Morphism

open Session

variable [HostAdapter σ] [HostAdapter τ] (hp : Morphism p)

include hp

/-- **A submission** respects the map. -/
theorem perform (c : Command) : Through (view p) (perform c) (perform c) := by
  refine Through.get_bind fun s => ?_
  refine (through_onUnit _).bind fun _ => ?_
  -- without an interface both are refused
  obtain ⟨u, _ | host⟩ := s
  · exact (through_note _ _ _ _ _).bind fun _ => Through.pure _
  have hsent := through_onHost (hp.submit (c.addressed u)) host
  refine (through_note _ _ _ _ _).bind fun _ => ?_
  dsimp only [view]
  -- bytes to be sent are traced, if there are any; then the command is sent on both sides
  cases (c.addressed u).dataOut
  case' some out => refine (through_note _ _ _ _ _).bind fun _ => ?_
  all_goals
    refine hsent.bind fun r => ?_
    obtain ⟨_ | _, c'⟩ := r
    · exact (through_note _ _ _ _ _).bind fun _ => Through.pure _
    · refine (through_onUnit _).bind fun outcome => ?_
      cases outcome with
      | error e => exact Through.pure _
      | ok _ => exact (through_onUnit _).bind fun _ => Through.pure _

theorem ask (size : Nat) (build : Bytes → Except Error Command) :
    Through (view p) (ask size build) (ask size build) := by
  unfold Scsi.ask
  cases build (Bytes.zeros size) with
  | error e => exact Through.pure _
  | ok c => exact (hp.perform c).bind fun _ => Through.pure _

theorem probeCapacity16 : Through (view p) probeCapacity16 probeCapacity16 := by
  refine (hp.ask _ _).bind fun answer => ?_
  rcases answer with e | bs
  · exact Through.pure _
  · dsimp only
    split <;> exact Through.pure _

theorem probeCapacity10 : Through (view p) probeCapacity10 probeCapacity10 := by
  refine (hp.ask _ _).bind fun answer => ?_
  rcases answer with e | bs
  · exact Through.pure _
  · dsimp only
    split
    · exact Through.pure _
    · split
      · exact through_getUnit.bind fun _ =>
          (through_note _ _ _ _ _).bind fun _ => Through.pure _
      · exact Through.pure _

theorem explore : Through (view p) explore explore := by
  have capacity : Through (view p) probeCapacity probeCapacity := by
    refine hp.probeCapacity16.bind fun answer => ?_
    rcases answer with e | found
    · exact through_getUnit.bind fun _ =>
        (through_note _ _ _ _ _).bind fun _ => hp.probeCapacity10
    · exact Through.pure _
  refine (hp.ask _ _).bind fun inquiry => ?_
  rcases inquiry with e | inquiry
  · exact Through.pure _
  · refine capacity.bind fun found => ?_
    rcases found with e | found <;> exact Through.pure _

/-- **A discovery** respects the map. -/
theorem discover : Through (view p) discover discover := by
  refine through_getUnit.bind fun u => ?_
  cases u.state
  case ready => exact Through.pure _
  case discovering => exact Through.pure _
  -- a new unit and one whose discovery failed are asked alike
  all_goals
    refine (through_note _ _ _ _ _).bind fun _ => (through_onUnit _).bind fun _ => ?_
    refine hp.explore.bind fun answer => ?_
    rcases answer with e | found
    · exact (through_note _ _ _ _ _).bind fun _ => (through_onUnit _).bind fun _ => Through.pure _
    · have reported : Through (view p) (reportFindings (σ := σ) u.number found)
          (reportFindings u.number found) := fun _ => rfl
      exact reported.bind fun _ => (through_onUnit _).bind fun _ => Through.pure _

/-! ## Block operations -/

omit [HostAdapter σ] [HostAdapter τ] hp in
theorem refuse : Through (view p) refuse refuse :=
  through_getUnit.bind fun _ => (through_onUnit _).bind fun _ =>
    (through_note _ _ _ _ _).bind fun _ => Through.pure _

theorem transfer (block : UInt64) (count : UInt32) (data : DataBuffer) (access : Access)
    (form : CdbForm) :
    Through (view p) (transfer block count data access form)
      (transfer block count data access form) := by
  refine through_getUnit.bind fun u => ?_
  cases u.operations with
  | unsupported => exact refuse.bind fun _ => Through.pure _
  | ready =>
    refine (through_onUnit _).bind fun _ => ?_
    cases Command.transfer block count u.blockSize data access form with
    | error e => exact Through.pure _
    | ok c =>
      refine (hp.perform c).bind fun sent => ?_
      rcases sent with ⟨_ | _, after⟩
      · exact Through.pure _
      · exact (through_onUnit _).bind fun _ => Through.pure _

/-- **A call of a handle** respects the map. -/
theorem run (call : UnitCall) : Through (view p) call.run call.run := by
  cases call with
  | read32 block count buffer =>
    exact Through.map ((hp.transfer _ _ _ _ _).bind fun _ => Through.pure _)
  | write32 block count buffer => exact Through.map (Through.map (hp.transfer _ _ _ _ _))
  | read64 block count buffer =>
    exact Through.map ((hp.transfer _ _ _ _ _).bind fun _ => Through.pure _)
  | write64 block count buffer => exact Through.map (Through.map (hp.transfer _ _ _ _ _))
  | synchronizeCache =>
    refine Through.map (through_getUnit.bind fun u => ?_)
    cases u.operations with
    | unsupported => exact refuse.bind fun _ => Through.pure _
    | ready => exact (hp.perform _).bind fun _ => Through.pure _
  | passThrough c =>
    refine Through.map (through_getUnit.bind fun u => ?_)
    cases u.operations with
    | unsupported => exact refuse.bind fun _ => Through.pure _
    | ready => exact hp.perform c
  | perform c => exact Through.map (hp.perform c)
  | testUnitReady => exact Through.map (Through.map (hp.perform _))
  | requestSense buffer =>
    refine Through.map ?_
    unfold requestSense
    cases Command.requestSense buffer with
    | error e => exact Through.pure _
    | ok c => exact (hp.perform c).bind fun _ => Through.pure _
  | discover => exact Through.map hp.discover

end Host.Morphism

/-! ## Buses -/

/-- Units are made alike with a default timeout and with its image. -/
def LogicalUnit.MadeAlike (g : UInt32 → UInt32) : Prop :=
  ∀ bus target lun timeout, new bus target lun (g timeout) = new bus target lun timeout

theorem LogicalUnit.madeAlike_id : MadeAlike id := fun _ _ _ _ => rfl

/-- The bus with its host interface seen through one map and its default timeout through another. -/
def Bus.seen (p : Host σ → Host τ) (g : UInt32 → UInt32) (bus : Bus σ) : Bus τ :=
  ⟨bus.number, bus.maxTargets, bus.maxLuns, bus.features, bus.queueDepth, g bus.defaultTimeout,
    bus.host.map p, bus.units, bus.selected⟩

variable {g : UInt32 → UInt32}

namespace Bus

theorem through_note (level : Log.Level) (message : String) :
    Through (seen p g) (note level message) (note level message) := fun _ => rfl

theorem through_start : Through (seen p g) start start := by
  refine Through.get_bind fun bus => ?_
  dsimp only [seen]
  cases bus.host with
  | none => exact (through_note _ _).bind fun _ => Through.pure _
  | some host => exact (through_note _ _).bind fun _ => Through.pure _

theorem through_control {x : Activity (Host σ) Bool} {y : Activity (Host τ) Bool}
    (h : Through p x y) : Through (seen p g) (control x) (control y) := by
  refine Through.get_bind fun bus => ?_
  dsimp only [seen]
  cases bus.host with
  | none => exact Through.pure _
  | some host =>
    have worked : Through (seen p g) (onHost host x) (onHost (p host) y) :=
      h.onPart (fun _ => rfl) fun _ _ => rfl
    exact worked.bind fun _ => Through.pure _

theorem through_addUnit (hg : LogicalUnit.MadeAlike g) (a : Address) :
    Through (seen p g) (addUnit a) (addUnit a) := by
  refine Through.get_bind fun bus => ?_
  dsimp only [seen]
  split
  · exact Through.pure _
  · split
    · exact Through.pure _
    · cases bus.units.get? a with
      | some u => exact Through.pure _
      | none =>
        -- the default timeout is looked at here only, to make the unit
        rw [hg]
        refine Through.bind ?_ fun _ => Through.pure _
        exact Through.modify fun _ => rfl

theorem through_inSession {x : Activity (Session σ) α} {y : Activity (Session τ) α}
    (h : Through (Session.view p) x y) (a : Address) (u : LogicalUnit) :
    Through (seen p g) (inSession a u x) (inSession a u y) :=
  h.onPart (fun _ => rfl) fun _ _ => rfl

theorem through_withUnit {x : Activity (Session σ) α} {y : Activity (Session τ) α}
    (h : Through (Session.view p) x y) (a : Address) :
    Through (seen p g) (withUnit a x) (withUnit a y) := by
  refine Through.get_bind fun bus => ?_
  dsimp only [seen]
  cases bus.units.get? a with
  | none => exact Through.pure _
  | some u => exact Through.map (through_inSession h a u)

/-- Where a unit is lent, both buses have the same unit to work on. -/
theorem through_lend (hg : LogicalUnit.MadeAlike g) (a : Address) (x : Activity LogicalUnit α) :
    Through (seen p g) (lend a x) (lend a x) := by
  refine (through_addUnit hg a).bind fun added => ?_
  cases added with
  | error e => exact Through.pure _
  | ok u =>
    have hwork : Through id x x := fun _ => rfl
    exact Through.map (hwork.onPart (fun _ => rfl) fun _ _ => rfl)

theorem through_mapHost {k : Host σ → Host σ} {k' : Host τ → Host τ}
    (h : ∀ host, k' (p host) = p (k host)) :
    Through (seen p g) (modify (mapHost k)) (modify (mapHost k')) := by
  refine Through.modify fun bus => ?_
  simp only [mapHost, seen, Option.map_map, Function.comp_def, h]

end Bus

namespace Host.Morphism

open Bus

variable [HostAdapter σ] [HostAdapter τ] (hp : Morphism p)

include hp

theorem reset_bus (flags : ResetFlags) : Through (seen p g) (Bus.reset flags) (Bus.reset flags) :=
  through_control (hp.reset flags)

theorem configureTarget_bus (target : UInt8) (settings : TargetSettings) :
    Through (seen p g) (Bus.configureTarget target settings)
      (Bus.configureTarget target settings) := by
  refine Through.get_bind fun bus => ?_
  dsimp only [seen]
  split
  · exact Through.pure _
  · exact through_control (hp.configureTarget target settings)

theorem poll_bus : Through (seen p g) Bus.poll Bus.poll := by
  refine Through.get_bind fun bus => ?_
  dsimp only [seen]
  cases bus.host with
  | none => exact Through.pure _
  | some host => exact hp.poll.onPart (fun _ => rfl) fun _ _ => rfl

theorem dispose_bus : Through (seen p g) Bus.dispose Bus.dispose := by
  have removed : Through (seen p g)
      (modify fun bus : Bus σ => { bus with units := .empty, selected := none })
      (modify fun bus : Bus τ => { bus with units := .empty, selected := none }) :=
    Through.modify fun _ => rfl
  refine Through.get_bind fun bus => ?_
  dsimp only [seen]
  cases bus.host with
  | none => exact removed
  | some host =>
    have released : Through (seen p g) (giveUp host) (giveUp (p host)) :=
      hp.release.onPart (fun _ => rfl) fun _ _ => rfl
    exact released.bind fun _ => (through_note _ _).bind fun _ => removed

section Discovery

variable (hg : LogicalUnit.MadeAlike g)

include hg

theorem discoverAt (a : Address) : Through (seen p g) (discoverAt a) (discoverAt a) := by
  refine (through_addUnit hg a).bind fun added => ?_
  cases added with
  | error e => exact Through.pure _
  | ok u => exact through_inSession hp.discover a u

theorem visit (a : Address) : Through (seen p g) (visit a) (visit a) := by
  refine Through.get_bind fun bus => ?_
  dsimp only [seen]
  split
  · exact Through.pure _
  · refine (hp.discoverAt hg a).bind fun discovered => ?_
    cases discovered with
    | ok _ => exact Through.pure _
    | error e =>
      refine (through_note _ _).bind fun _ => Through.bind ?_ fun _ => Through.pure _
      exact Through.modify fun _ => rfl

theorem scan_seen (allLuns : Bool) : Through (seen p g) (scan allLuns) (scan allLuns) := by
  have visits : ∀ addresses, Through (seen p g) (visitAll addresses) (visitAll addresses) := by
    intro addresses
    -- by induction on the addresses that are left
    induction addresses with
    | nil => exact Through.pure _
    | cons a rest ih => exact (hp.visit hg a).bind fun _ => ih.bind fun _ => Through.pure _
  refine through_start.bind fun started => ?_
  cases started with
  | error e => exact Through.pure _
  | ok _ =>
    refine Through.get_bind fun bus => (visits _).bind fun found => ?_
    refine Through.bind ?_ fun _ => (through_note _ _).bind fun _ => Through.pure _
    exact Through.modify fun _ => rfl

end Discovery

/-- **A scan** respects the map. -/
theorem scan (allLuns : Bool) : Through (view p) (scan allLuns) (scan allLuns) :=
  hp.scan_seen LogicalUnit.madeAlike_id allLuns

end Host.Morphism

/-! ## Calls -/

/-- A call, made of a bus with other adapters; `lift` says how a change from outside is made of
them. -/
def Bus.Call.lift (lift : (τ → τ) → σ → σ) : Bus.Call τ → Bus.Call σ
  | start => .start
  | dispose => .dispose
  | reset flags => .reset flags
  | configureTarget target settings => .configureTarget target settings
  | poll => .poll
  | addUnit a => .addUnit a
  | discover a => .discover a
  | scan allLuns => .scan allLuns
  | unit a call => .unit a call
  | look a => .look a
  | borrow a loan => .borrow a loan
  | writePrivate offset bytes => .writePrivate offset bytes
  | adapter change => .adapter (lift change)

theorem Bus.Call.lift_id (call : Call σ) : call.lift id = call := by cases call <;> rfl

namespace Host.Morphism

variable [HostAdapter σ] [HostAdapter τ] (hp : Morphism p) {lift : (τ → τ) → σ → σ}
  (hlift : ∀ change host, p { host with adapter := host.adapter.map (lift change) } =
    { p host with adapter := (p host).adapter.map change })

include hp hlift

/-- **A call** respects the map. -/
theorem run_call (hg : LogicalUnit.MadeAlike g) (call : Bus.Call τ) :
    Through (Bus.seen p g) (call.lift lift).run call.run := by
  cases call with
  | start => exact Through.map Bus.through_start
  | dispose => exact Through.map hp.dispose_bus
  | reset flags => exact Through.map (hp.reset_bus flags)
  | configureTarget target settings => exact Through.map (hp.configureTarget_bus target settings)
  | poll => exact Through.map hp.poll_bus
  | addUnit a => exact Through.map (Bus.through_addUnit hg a)
  | discover a => exact Through.map (hp.discoverAt hg a)
  | scan allLuns => exact Through.map (hp.scan_seen hg allLuns)
  | unit a call => exact Through.map (Bus.through_withUnit (hp.run call) a)
  | look a => exact Through.map (Bus.through_withUnit Session.through_getUnit a)
  | borrow a loan => exact Through.map (Bus.through_lend hg a loan.run)
  | writePrivate offset bytes =>
    exact Through.map (Bus.through_mapHost fun host => (hp.write offset bytes host).symm)
  | adapter change => exact Through.map (Bus.through_mapHost fun host => (hlift change host).symm)

/-- What a call leaves respects the map. -/
theorem apply (call : Bus.Call τ) (bus : Bus σ) :
    ((call.lift lift).apply bus).view p = call.apply (bus.view p) :=
  (congrArg Ended.state (hp.run_call hlift LogicalUnit.madeAlike_id call bus)).symm

end Host.Morphism

/-! ## Right inverses -/

section Section

variable {q : Host τ → Host σ} (hpq : ∀ host, p (q host) = host)

include hpq

theorem Session.view_of_section (s : Session τ) : (s.view q).view p = s := by
  obtain ⟨u, _ | host⟩ := s
  · rfl
  · simp only [view, Option.map_some, hpq]

theorem Bus.view_of_section (bus : Bus τ) : (bus.view q).view p = bus := by
  obtain ⟨number, maxTargets, maxLuns, features, queueDepth, timeout, _ | host, units, selected⟩ := bus
  · rfl
  · simp only [view, Option.map_some, hpq]

/-- What a session does is what it does with its host interface put into the other one. -/
theorem Session.run_of_section {x : Activity (Session σ) α} {y : Activity (Session τ) α}
    (h : Through (view p) x y) (s : Session τ) :
    y.run s = ⟨(x.run (s.view q)).answer, (x.run (s.view q)).state.view p,
      (x.run (s.view q)).events⟩ := by
  have hrun := h (s.view q)
  rw [view_of_section hpq] at hrun
  exact hrun

/-- What a bus does is what it does with its host interface put into the other one. -/
theorem Bus.run_of_section {x : Activity (Bus σ) α} {y : Activity (Bus τ) α}
    (h : Through (view p) x y) (bus : Bus τ) :
    y.run bus = ⟨(x.run (bus.view q)).answer, (x.run (bus.view q)).state.view p,
      (x.run (bus.view q)).events⟩ := by
  have hrun := h (bus.view q)
  rw [view_of_section hpq] at hrun
  exact hrun

end Section

end Scsi
