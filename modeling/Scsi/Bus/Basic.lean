import Scsi.Bus.UnitTable
import Scsi.Session.Basic

/-!
# Buses

A bus has its host interface, its limits and the units that were found on it. A bus is used by one
caller at a time.

## Main definitions

* `BusSettings`: what a bus is built from
* `Bus σ`: a bus whose adapter has states in `σ`
* `Bus.new`: a new bus without units
* `Bus.start`: the start of its use
* `Bus.dispose`: the end of its use, which lets go of the host interface
* `Bus.reset`, `Bus.configureTarget`, `Bus.poll`: operations of its adapter
* `Bus.addUnit`: the unit at an address, made if need be
* `Bus.inSession`, `Bus.withUnit`: work on a unit, which becomes the selected one
* `Bus.lend`: work on a unit apart from the host interface of the bus
-/

namespace Scsi

/-- The features of a host adapter. -/
abbrev BusFeatures.kind : FlagKind :=
  ⟨"BusFeatures", ["PARITY", "DMA", "SYNC", "WIDE", "TAGGED", "AUTOSENSE"]⟩

/-- Features that a host adapter declares for its bus. -/
abbrev BusFeatures := Flags BusFeatures.kind

/-- What a bus is built from. Limits of zero stand for the largest usual bus. -/
structure BusSettings where
  number : UInt8
  maxTargets : UInt8
  maxLuns : UInt8
  features : BusFeatures
  queueDepth : UInt32
  /-- The size of the private block of the host adapter. -/
  privateSize : Nat
  /-- The time allowed for commands that do not say, in milliseconds. -/
  defaultTimeout : UInt32
deriving DecidableEq

/-- The count of targets on the largest usual bus. -/
def BusSettings.usualTargets : UInt8 := 16

/-- The count of units behind a target of the largest usual bus. -/
def BusSettings.usualLuns : UInt8 := 8

/-- A bus: its limits, its host interface and its units. -/
structure Bus (σ : Type) where
  number : UInt8
  maxTargets : UInt8
  maxLuns : UInt8
  features : BusFeatures
  queueDepth : UInt32
  defaultTimeout : UInt32
  host : Option (Host σ)
  units : UnitTable
  /-- The unit that the last command went to. -/
  selected : Option Address

namespace Bus

open Activity

variable {σ α : Type}

/-- A new bus without units. It has a host interface if there is an adapter or if a private block is
declared. -/
def new (settings : BusSettings) (adapter : Option σ) : Bus σ where
  number := settings.number
  maxTargets :=
    if settings.maxTargets = 0 then BusSettings.usualTargets else settings.maxTargets
  maxLuns := if settings.maxLuns = 0 then BusSettings.usualLuns else settings.maxLuns
  features := settings.features
  queueDepth := settings.queueDepth
  defaultTimeout := settings.defaultTimeout
  host :=
    if adapter.isSome ∨ settings.privateSize ≠ 0 then some (.new adapter settings.privateSize)
    else none
  units := .empty
  selected := none

/-- The size of the private block, zero without a host interface. -/
def privateSize (bus : Bus σ) : Nat :=
  match bus.host with
  | some host => host.size
  | none => 0

/-- The bus as a record text. -/
def text (bus : Bus σ) : String :=
  Layout.record "Bus"
    [("number", toString bus.number),
      ("max_targets", toString bus.maxTargets),
      ("max_luns", toString bus.maxLuns),
      ("features", bus.features.text),
      ("queue_depth", toString bus.queueDepth),
      ("interface", Layout.optional (bus.host.map Host.text)),
      ("units", toString bus.units.size)]

/-- The event that tells of a new bus. -/
def announcement (bus : Bus σ) : Log.Event := ⟨.debug, .bus, [], bus.text⟩

/-- Reports an event that names the bus. -/
def note (level : Log.Level) (message : String) : Activity (Bus σ) Unit := do
  let bus ← get
  report ⟨level, .bus, [("bus", .number bus.number.toNat)], message⟩

/-! ## Start of use -/

/-- Starts the use of the bus, which needs a host interface. -/
def start : Activity (Bus σ) (Except Error Unit) := do
  let bus ← get
  match bus.host with
  | none =>
    note .warn "start without host interface"
    return .error .noInterface
  | some _ =>
    note .info "bus started"
    return .ok ()

/-! ## Operations of the host adapter -/

/-- Work on the host interface `host`, which the bus has. -/
def onHost (host : Host σ) (x : Activity (Host σ) α) : Activity (Bus σ) α :=
  onPart (fun _ => host) (fun host bus => { bus with host := some host }) x

/-- Runs an operation of the host interface that says whether it worked. -/
def control (x : Activity (Host σ) Bool) : Activity (Bus σ) (Except Error Unit) := do
  match (← get).host with
  | none => return .error .noInterface
  | some host =>
    let worked ← onHost host x
    return if worked then .ok () else .error .protocolPhase

variable [HostAdapter σ]

/-- Resets the bus. -/
def reset (flags : ResetFlags) : Activity (Bus σ) (Except Error Unit) := control (Host.reset flags)

/-- Negotiates with a target on the bus. -/
def configureTarget (target : UInt8) (settings : TargetSettings) :
    Activity (Bus σ) (Except Error Unit) := do
  if (← get).maxTargets ≤ target then
    return .error (.invalidRequest .targetOutOfRange)
  control (Host.configureTarget target settings)

/-- Lets the adapter make progress. -/
def poll : Activity (Bus σ) Unit := do
  if let some host := (← get).host then
    onHost host Host.poll

/-! ## End of use -/

/-- Takes the host interface away from the bus and lets go of it. -/
def giveUp (host : Host σ) : Activity (Bus σ) Unit :=
  onPart (fun _ => host) (fun _ bus => { bus with host := none }) Host.release

/-- Gives up the host interface and all units. A second time does nothing to the interface. Where the
adapter crashes when it lets go, the bus is left without interface but with its units. -/
def dispose : Activity (Bus σ) Unit := do
  if let some host := (← get).host then
    giveUp host
    note .debug "host interface released"
  modify fun bus => { bus with units := .empty, selected := none }

omit [HostAdapter σ]

/-! ## Units -/

/-- The unit at an address, or a new one; the address has to lie within the limits of the bus. -/
def addUnit (a : Address) : Activity (Bus σ) (Except Error LogicalUnit) := do
  let bus ← get
  if bus.maxTargets ≤ a.target then
    return .error (.invalidRequest .targetOutOfRange)
  if bus.maxLuns ≤ a.lun then
    return .error (.invalidRequest .lunOutOfRange)
  match bus.units.get? a with
  | some unit => return .ok unit
  | none =>
    -- a default timeout of zero is replaced when the unit is made, not when the bus is
    let unit := LogicalUnit.new bus.number a.target a.lun bus.defaultTimeout
    modify fun bus => { bus with units := bus.units.insert a unit }
    return .ok unit

/-- Work on a unit of the bus and its host interface. The unit becomes the selected one, and what is
written to unit and interface stays also after a crash. -/
def inSession (a : Address) (unit : LogicalUnit) (x : Activity (Session σ) α) :
    Activity (Bus σ) α :=
  onPart (fun bus => ⟨unit, bus.host⟩)
    (fun session bus =>
      { bus with
        units := bus.units.insert a session.unit
        host := session.host
        selected := some a })
    x

/-- Work on the unit at an address, if there is one. -/
def withUnit (a : Address) (x : Activity (Session σ) α) : Activity (Bus σ) (Option α) := do
  match (← get).units.get? a with
  | none => return none
  | some unit => some <$> inSession a unit x

/-- Work on the unit at an address, made if need be, apart from the host interface of the bus. No
unit becomes selected by it, and what is written to the unit stays also after a crash. -/
def lend (a : Address) (x : Activity LogicalUnit α) : Activity (Bus σ) (Except Error α) := do
  match ← addUnit a with
  | .error e => return .error e
  | .ok unit =>
    .ok <$> onPart (fun _ => unit)
      (fun unit bus => { bus with units := bus.units.insert a unit }) x

end Bus

end Scsi
