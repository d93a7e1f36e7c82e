import Scsi.Bus.Basic
import Scsi.Session.Discovery

/-!
# Scanning a bus

A scan tries every address in turn. A unit that is ready is kept as it is; any other is discovered
and, if that fails, dropped.

## Main definitions

* `Bus.discoverAt`: the discovery of the unit at an address
* `Bus.scanRange`: the addresses that a scan tries, in order
* `Bus.visit`, `Bus.visitAll`: the scan of one address and of several
* `Bus.scan`: the scan of the bus
-/

namespace Scsi.Bus

open Activity

variable {σ : Type} [HostAdapter σ]

/-- Discovers the unit at an address, which is made first if need be. -/
def discoverAt (a : Address) : Activity (Bus σ) (Except DiscoveryError Unit) := do
  match ← addUnit a with
  | .error e => return .error (.noSuchUnit e)
  | .ok unit => inSession a unit discover

omit [HostAdapter σ] in
/-- The addresses that a scan tries, in order: those with unit 0, or all of them. -/
def scanRange (bus : Bus σ) (allLuns : Bool) : List Address :=
  Address.range bus.maxTargets (if allLuns then bus.maxLuns else 1)

/-- Keeps the unit at an address if it is ready, and discovers it otherwise; a unit whose discovery
fails is dropped. Answers whether a unit is there. -/
def visit (a : Address) : Activity (Bus σ) Bool := do
  if ((← get).units.get? a).any LogicalUnit.isReady then
    return true
  match ← discoverAt a with
  | .ok () => return true
  | .error e =>
    note .debug s!"{a.text} not configured: {e.message}"
    -- also a unit whose discovery never ended, which is not asked again
    modify fun bus => { bus with units := bus.units.erase a }
    return false

/-- Visits addresses in order, and answers with those at which a unit is. -/
def visitAll : List Address → Activity (Bus σ) (List Address)
  | [] => pure []
  | a :: rest => do
    let found ← visit a
    let others ← visitAll rest
    return if found then a :: others else others

/-- Scans the bus, and answers with the addresses of the units on it. -/
def scan (allLuns : Bool) : Activity (Bus σ) (Except Error (List Address)) := do
  match ← start with
  | .error e => return .error e
  | .ok () =>
    let found ← visitAll (scanRange (← get) allLuns)
    modify fun bus => { bus with selected := none }
    note .info s!"scan found {found.length} unit(s)"
    return .ok found

end Scsi.Bus
