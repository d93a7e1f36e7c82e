import Scsi.Bus.Attribute
import Scsi.Proofs.Bus.Monitor
import Scsi.Proofs.Settings.Check
import Scsi.RamDisk.Basic

/-!
# Defaults of a bus

Limits and the default timeout may be left open, and there are two places that fill them in. The
check of settings does it beforehand. Where they come to a bus as they are, it fills in the limits
when it is made and the timeout when it makes a unit, so that an open timeout stays with the bus.
Nobody sees the difference: whatever is done with it, a bus keeps in step with the bus whose default
timeout is filled in.

## Main definitions

* `LogicalUnit.timeoutOf`, `BusSettings.completed`: timeouts and settings with nothing left open
* `Bus.timed`: the bus with its default timeout filled in
* `Bus.shown`: what a bus shows, which is all but its default timeout
* `Bus.Action`, `Bus.Action.run`: calls of a bus, and whatever else is done to the units that it lends
* `Bus.Sight`, `Bus.transcript`: what is seen of actions, one after the other
* `Bus.leftBy actions bus`: the bus after some actions

## Main results

* `Bus.new_completed`: filled in before, the settings give the same bus with its timeout filled in
* `Bus.Action.through_timed`: an action does the same with the timeout filled in
* `Bus.transcript_timed`: so do all actions one after the other
* `Settings.buses_behave_alike`: a bus of checked settings and a bus of the settings as they were,
  but with room for the disk, behave alike
-/

namespace Scsi

open Activity

variable {σ : Type}

/-! ## Filling in -/

/-- The default timeout that units are made with: zero stands for the standard one. -/
def LogicalUnit.timeoutOf (timeout : UInt32) : UInt32 :=
  if timeout = 0 then standardTimeout else timeout

theorem LogicalUnit.madeAlike_timeoutOf : MadeAlike timeoutOf := by
  intro bus target lun timeout
  have hfilled : timeoutOf timeout ≠ 0 := Settings.ite_ne_of_ne (by decide) timeout
  unfold new
  rw [if_neg hfilled]
  rfl

/-- The settings with every open limit and the timeout filled in. -/
def BusSettings.completed (settings : BusSettings) : BusSettings :=
  { settings with
    maxTargets := if settings.maxTargets = 0 then usualTargets else settings.maxTargets
    maxLuns := if settings.maxLuns = 0 then usualLuns else settings.maxLuns
    defaultTimeout := LogicalUnit.timeoutOf settings.defaultTimeout }

namespace Bus

/-- The bus with its default timeout filled in. -/
def timed (bus : Bus σ) : Bus σ :=
  { bus with defaultTimeout := LogicalUnit.timeoutOf bus.defaultTimeout }

theorem seen_id : seen id LogicalUnit.timeoutOf = timed (σ := σ) := by
  funext bus
  simp only [seen, timed, Option.map_id_fun, id]

/-- Filled in before, the settings give the same bus with its timeout filled in. -/
theorem new_completed (settings : BusSettings) (adapter : Option σ) :
    new settings.completed adapter = (new settings adapter).timed := by
  have htargets : settings.completed.maxTargets ≠ 0 :=
    Settings.ite_ne_of_ne (by decide) settings.maxTargets
  have hluns : settings.completed.maxLuns ≠ 0 := Settings.ite_ne_of_ne (by decide) settings.maxLuns
  unfold new
  rw [if_neg htargets, if_neg hluns]
  rfl

/-! ## What is seen -/

/-- What a bus shows: all but its default timeout. -/
def shown (bus : Bus σ) : Bus σ := { bus with defaultTimeout := 0 }

/-- Texts and attributes are told of what is shown. -/
theorem told_of_shown (bus : Bus σ) (id : UInt32) (default : UInt32 → Option AttributeValue) :
    bus.shown.announcement = bus.announcement ∧ bus.shown.query id default = bus.query id default :=
  ⟨rfl, rfl⟩

/-- A call of a bus, or any work at all on a unit that it lends, up to another unit that is put in its
place. Calls keep their units in order, and such work need not. -/
inductive Action (σ : Type) : Type 1
  | call (call : Call σ)
  | work (a : Address) (x : Activity LogicalUnit UnitAnswer)

/-- What is seen of an action. -/
structure Sight (σ : Type) where
  /-- The answer, missing after a crash. -/
  answer : Option Answer
  events : List Log.Event
  /-- What the adapter is asked meanwhile. -/
  contacts : List Contact
  /-- What the bus shows afterwards. -/
  shown : Bus σ

/-- An action, made of a bus over monitors. -/
def Action.monitored : Action σ → Action (Monitor σ)
  | call c => .call c.monitored
  | work a x => .work a x

variable [HostAdapter σ]

/-- What an action does. -/
def Action.run : Action σ → Activity (Bus σ) Answer
  | call c => c.run
  | work a x => .lent <$> lend a x

/-- What is seen of an action. -/
def Action.sight (action : Action σ) (bus : Bus σ) : Sight σ where
  answer := (action.run.run bus).answer
  events := (action.run.run bus).events
  contacts := (action.monitored.run.run bus.monitored).state.contacts
  shown := (action.run.run bus).state.shown

/-- What is seen of actions, one after the other. -/
def transcript : List (Action σ) → Bus σ → List (Sight σ)
  | [], _ => []
  | action :: actions, bus =>
    action.sight bus :: transcript actions (action.run.run bus).state

/-- The bus after some actions. -/
def leftBy (actions : List (Action σ)) (bus : Bus σ) : Bus σ :=
  actions.foldl (fun bus action => (action.run.run bus).state) bus

/-! ## In step -/

/-- **An action** does the same with the timeout filled in. -/
theorem Action.through_timed (action : Action σ) : Through timed action.run action.run := by
  rw [← seen_id]
  cases action with
  | call c =>
    have hcall : Through (seen id LogicalUnit.timeoutOf) (c.lift id).run c.run :=
      Host.morphism_id.run_call (fun _ _ => rfl) LogicalUnit.madeAlike_timeoutOf c
    rwa [c.lift_id] at hcall
  | work a x => exact Through.map (through_lend LogicalUnit.madeAlike_timeoutOf a x)

theorem Action.state_timed (action : Action σ) (bus : Bus σ) :
    (action.run.run bus.timed).state = (action.run.run bus).state.timed :=
  congrArg Ended.state (action.through_timed bus)

/-- What is seen of an action is the same with the timeout filled in. -/
theorem Action.sight_timed (action : Action σ) (bus : Bus σ) :
    action.sight bus.timed = action.sight bus := by
  -- the timeout may be filled in before or after a monitor is put in
  have hcontacts : (action.monitored.run.run bus.timed.monitored).state.contacts =
      (action.monitored.run.run bus.monitored).state.contacts := by
    show (action.monitored.run.run bus.monitored.timed).state.contacts = _
    rw [action.monitored.state_timed]
    rfl
  unfold sight
  rw [hcontacts, action.through_timed bus]
  rfl

/-- After some actions the two buses differ in the timeout only. -/
theorem leftBy_timed (actions : List (Action σ)) (bus : Bus σ) :
    leftBy actions bus.timed = (leftBy actions bus).timed := by
  -- by induction on the actions that are left
  induction actions generalizing bus with
  | nil => rfl
  | cons action actions ih =>
    show leftBy actions (action.run.run bus.timed).state = _
    rw [action.state_timed]
    exact ih _

/-- What is seen of actions is the same with the timeout filled in. -/
theorem transcript_timed (actions : List (Action σ)) (bus : Bus σ) :
    transcript actions bus.timed = transcript actions bus := by
  -- by induction on the actions that are left: after the first one the buses are a pair as before
  induction actions generalizing bus with
  | nil => rfl
  | cons action actions ih =>
    rw [transcript, transcript, action.sight_timed, action.state_timed, ih]

end Bus

/-! ## Checked settings -/

namespace Settings

/-- Apart from room for the disk, the check fills in what is left open of a bus. -/
theorem busSettings_of_check {s t : Settings} (hcheck : s.check = .ok t) :
    t.busSettings =
      BusSettings.completed { s.busSettings with privateSize := t.busSettings.privateSize } := by
  obtain ⟨-, rfl⟩ := check_eq_ok_iff.1 hcheck
  rw [withRoom_eq]
  rfl

/-- **A bus of checked settings and a bus of the settings as they were, but with room for the disk,
behave alike** with every adapter. They show the same from the start, the same is seen of whatever
is done with them, one action after the other, and in the end they differ in the timeout only. -/
theorem buses_behave_alike [HostAdapter σ] {s t : Settings} (hcheck : s.check = .ok t)
    (adapter : Option σ) :
    let early : Bus σ := .new t.busSettings adapter
    let late : Bus σ := .new { s.busSettings with privateSize := t.busSettings.privateSize } adapter
    early.shown = late.shown ∧ early.announcement = late.announcement ∧
      ∀ actions, Bus.transcript actions early = Bus.transcript actions late ∧
        Bus.leftBy actions early = (Bus.leftBy actions late).timed := by
  intro early late
  have hearly : early = late.timed := by
    simp only [early]
    rw [busSettings_of_check hcheck, Bus.new_completed]
  rw [hearly]
  exact ⟨rfl, rfl, fun actions =>
    ⟨Bus.transcript_timed actions late, Bus.leftBy_timed actions late⟩⟩

/-- A bus with open limits and no timeout, and a disk on it that is found, looked at and written. -/
theorem buses_behave_alike_open :
    let s : Settings := ⟨3, 0, 0, [.dma], 4, 0, 0, true, some (.disk 4 512)⟩
    let t : Settings := ⟨3, 16, 8, [.dma], 4, 2048, 30000, true, some (.disk 4 512)⟩
    let early : Bus RamDisk := .new t.busSettings (some (.new (.disk 4 512)))
    let late : Bus RamDisk := .new ⟨3, 0, 0, .single 1, 4, 2048, 0⟩ (some (.new (.disk 4 512)))
    let actions : List (Bus.Action RamDisk) :=
      [.call (.scan false), .call (.look ⟨0, 0⟩),
        .call (.unit ⟨0, 0⟩ (.write32 1 1 (Bytes.zeros 512)))]
    s.check = .ok t ∧ early.defaultTimeout ≠ late.defaultTimeout ∧
      Bus.transcript actions early = Bus.transcript actions late := by
  intro s t early late actions
  have hcheck : s.check = .ok t := rfl
  have halike := (buses_behave_alike hcheck (some (RamDisk.new (.disk 4 512)))).2.2 actions
  exact ⟨hcheck, by decide, halike.1⟩

end Settings

end Scsi
