import Mathlib.Data.List.Induction
import Scsi.Bus.Scan
import Scsi.Proofs.Effect
import Scsi.Session.BlockIO

/-!
# Calls

What the user of a bus can do with it, with the handles of its units and with the units that it
lends, one call after the other. A call that crashes is over, and the next one goes on from what it
left. A unit that is lent is worked on by a handle with a host interface of its own or with none; it
is not exchanged for another unit.

## Main definitions

* `UnitCall`, `UnitCall.run`: the calls of a handle and what they do
* `Loan`, `Loan.run`: a call of a handle apart from the bus of the unit
* `Bus.Call`, `Bus.Answer`, `Bus.Call.run`: the calls of a bus, its answers, and what the calls do
* `Bus.Call.apply`, `Bus.Call.Returns`: the bus after a call, and whether the call comes to its end
* `Bus.Call.IsDiscovery`: the calls that discover units
* `Bus.after calls bus`: the bus after some calls
* `Bus.Since P a calls bus`: one of the calls had `P`, and since then there was a unit at `a`
* `Bus.Reachable`: the buses that some calls lead to from a new one

## Main results

* `Bus.after_induction`: what every call keeps, runs of calls keep
* `Bus.or_since`: what no call takes from a unit unless it has `P`
-/

namespace Scsi

open Activity

/-- A call of the handle of a unit. -/
inductive UnitCall
  | read32 (block count : UInt32) (buffer : Bytes)
  | write32 (block count : UInt32) (buffer : Bytes)
  | read64 (block : UInt64) (count : UInt32) (buffer : Bytes)
  | write64 (block : UInt64) (count : UInt32) (buffer : Bytes)
  | synchronizeCache
  | passThrough (c : Command)
  | perform (c : Command)
  | testUnitReady
  | requestSense (buffer : Bytes)
  | discover

/-- What the handle of a unit answers: the result of the call and the memory that was lent to it. -/
inductive UnitAnswer
  | done (result : Except Error Unit)
  | moved (result : Except Error UInt32)
  | filled (result : Except Error UInt32) (buffer : Bytes)
  | completed (result : Except Error Unit) (c : Command)
  | discovered (result : Except DiscoveryError Unit)

/-- What a call of a handle does. -/
def UnitCall.run {σ : Type} [HostAdapter σ] : UnitCall → Activity (Session σ) UnitAnswer
  | read32 block count buffer => (fun r => .filled r.1 r.2) <$> Scsi.read32 block count buffer
  | write32 block count buffer => .moved <$> Scsi.write32 block count buffer
  | read64 block count buffer => (fun r => .filled r.1 r.2) <$> Scsi.read64 block count buffer
  | write64 block count buffer => .moved <$> Scsi.write64 block count buffer
  | synchronizeCache => .done <$> Scsi.synchronizeCache
  | passThrough c => (fun r => .completed r.1 r.2) <$> Scsi.passThrough c
  | perform c => (fun r => .completed r.1 r.2) <$> Scsi.perform c
  | testUnitReady => .done <$> Scsi.testUnitReady
  | requestSense buffer => (fun r => .filled r.1 r.2) <$> Scsi.requestSense buffer
  | discover => .discovered <$> Scsi.discover

/-- A call of a handle that reaches a unit apart from the bus of the unit, through a host interface of
its own or through none. -/
structure Loan : Type 1 where
  {σ : Type}
  [adapter : HostAdapter σ]
  host : Option (Host σ)
  call : UnitCall

attribute [instance] Loan.adapter

/-- What is done to the unit that is lent. -/
def Loan.run (loan : Loan) : Activity LogicalUnit UnitAnswer :=
  onPart (fun unit => (⟨unit, loan.host⟩ : Session loan.σ)) (fun session _ => session.unit)
    loan.call.run

namespace Bus

/-- A call of a bus with adapters in `σ`. -/
inductive Call (σ : Type) : Type 1
  | start
  | dispose
  | reset (flags : ResetFlags)
  | configureTarget (target : UInt8) (settings : TargetSettings)
  | poll
  | addUnit (a : Address)
  | discover (a : Address)
  | scan (allLuns : Bool)
  /-- A call of the handle of the unit at an address. -/
  | unit (a : Address) (call : UnitCall)
  /-- The handle of the unit at an address is taken, to look at the unit and at nothing else. -/
  | look (a : Address)
  /-- The unit at an address, made if need be, is lent. -/
  | borrow (a : Address) (loan : Loan)
  /-- Bytes are written to the private block. -/
  | writePrivate (offset : Nat) (bytes : Bytes)
  /-- The adapter is changed from outside of the bus. -/
  | adapter (change : σ → σ)

/-- What a bus answers. -/
inductive Answer
  | ended
  | done (result : Except Error Unit)
  | added (result : Except Error LogicalUnit)
  | discovered (result : Except DiscoveryError Unit)
  | found (result : Except Error (List Address))
  /-- The answer of a handle, which is missing if there is no unit. -/
  | handled (answer : Option UnitAnswer)
  /-- The unit that a handle shows, which is missing if there is none. -/
  | looked (unit : Option LogicalUnit)
  /-- The answer of the handle of a unit that is lent. -/
  | lent (result : Except Error UnitAnswer)

variable {σ : Type}

/-- The bus with its host interface changed, if it has one. -/
def mapHost (f : Host σ → Host σ) (bus : Bus σ) : Bus σ := { bus with host := bus.host.map f }

/-- The call discovers units: the one at an address, or those that a scan comes to. -/
def Call.IsDiscovery : Call σ → Prop
  | discover _ | scan _ => True
  | unit _ call => call = .discover
  | borrow _ loan => loan.call = .discover
  | _ => False

variable [HostAdapter σ]

/-- What a call of a bus does. -/
def Call.run : Call σ → Activity (Bus σ) Answer
  | start => .done <$> Bus.start
  | dispose => (fun _ => .ended) <$> Bus.dispose
  | reset flags => .done <$> Bus.reset flags
  | configureTarget target settings => .done <$> Bus.configureTarget target settings
  | poll => (fun _ => .ended) <$> Bus.poll
  | addUnit a => .added <$> Bus.addUnit a
  | discover a => .discovered <$> Bus.discoverAt a
  | scan allLuns => .found <$> Bus.scan allLuns
  | unit a call => .handled <$> Bus.withUnit a call.run
  | look a => .looked <$> Bus.withUnit a Session.getUnit
  | borrow a loan => .lent <$> Bus.lend a loan.run
  | writePrivate offset bytes =>
    (fun _ => .ended) <$> modify (mapHost fun host =>
      { host with memory := host.memory.write offset bytes })
  | adapter change =>
    (fun _ => .ended) <$> modify (mapHost fun host =>
      { host with adapter := host.adapter.map change })

/-- The bus after a call, whether the call came to its end or crashed. -/
def Call.apply (call : Call σ) (bus : Bus σ) : Bus σ := (call.run.run bus).state

/-- The call comes to its end on the bus. -/
def Call.Returns (call : Call σ) (bus : Bus σ) : Prop := (call.run.run bus).answer.isSome = true

theorem Call.apply_discover (a : Address) (bus : Bus σ) :
    (Call.discover a).apply bus = ((discoverAt a).effect bus).2 := state_map _ _ bus

theorem Call.apply_scan (allLuns : Bool) (bus : Bus σ) :
    (Call.scan allLuns).apply bus = ((Bus.scan allLuns).effect bus).2 := state_map _ _ bus

theorem Call.apply_unit (a : Address) (call : UnitCall) (bus : Bus σ) :
    (Call.unit a call).apply bus = ((withUnit a call.run).effect bus).2 := state_map _ _ bus

theorem Call.apply_borrow (a : Address) (loan : Loan) (bus : Bus σ) :
    (Call.borrow a loan).apply bus = ((lend a loan.run).effect bus).2 := state_map _ _ bus

/-- The bus after some calls, the first of the list first. -/
def after (calls : List (Call σ)) (bus : Bus σ) : Bus σ :=
  calls.foldl (fun bus call => call.apply bus) bus

/-- Some calls lead to the bus from a new one. -/
def Reachable (bus : Bus σ) : Prop :=
  ∃ (settings : BusSettings) (adapter : Option σ) (calls : List (Call σ)),
    bus = after calls (new settings adapter)

@[simp] theorem after_nil (bus : Bus σ) : after [] bus = bus := rfl

@[simp] theorem after_cons (call : Call σ) (calls : List (Call σ)) (bus : Bus σ) :
    after (call :: calls) bus = after calls (call.apply bus) := rfl

theorem after_append (calls calls' : List (Call σ)) (bus : Bus σ) :
    after (calls ++ calls') bus = after calls' (after calls bus) := by
  simp only [after, List.foldl_append]

/-- What every call of a list keeps, the whole list keeps. -/
theorem after_induction {P : Bus σ → Prop} {calls : List (Call σ)}
    (hcall : ∀ call ∈ calls, ∀ bus, P bus → P (call.apply bus)) {bus : Bus σ} (h : P bus) :
    P (after calls bus) := by
  -- by induction on the calls that are left, from whatever bus the first of them starts
  induction calls generalizing bus with
  | nil => exact h
  | cons call calls ih =>
    refine ih (fun other hother => hcall other (List.mem_cons_of_mem _ hother)) ?_
    exact hcall call List.mem_cons_self bus h

/-- One of the calls had `P` on the bus that it was made of, and since then there was a unit at the
address. -/
def Since (P : Call σ → Bus σ → Prop) (a : Address) (calls : List (Call σ)) (bus : Bus σ) : Prop :=
  ∃ earlier call later, calls = earlier ++ call :: later ∧ P call (after earlier bus) ∧
    ∀ since, since <+: later →
      ((after (earlier ++ call :: since) bus).units.get? a).isSome = true

theorem Since.isSome {P : Call σ → Bus σ → Prop} {a : Address} {calls : List (Call σ)} {bus : Bus σ}
    (h : Since P a calls bus) : ((after calls bus).units.get? a).isSome = true := by
  obtain ⟨earlier, call, later, rfl, -, hsince⟩ := h
  exact hsince later (List.prefix_refl later)

theorem Since.exists_mem {P : Call σ → Bus σ → Prop} {a : Address} {calls : List (Call σ)}
    {bus : Bus σ} (h : Since P a calls bus) : ∃ call ∈ calls, ∃ bus', P call bus' := by
  obtain ⟨earlier, call, later, rfl, hcall, -⟩ := h
  exact ⟨call, by simp, _, hcall⟩

/-- With one more call, and a unit that is still there, one of the calls had `P` if one did before or
if this one had it. -/
theorem since_concat_iff {P : Call σ → Bus σ → Prop} {a : Address} {calls : List (Call σ)}
    {call : Call σ} {bus : Bus σ}
    (hunit : ((after (calls ++ [call]) bus).units.get? a).isSome = true) :
    Since P a (calls ++ [call]) bus ↔ Since P a calls bus ∨ P call (after calls bus) := by
  constructor
  · rintro ⟨earlier, first, later, hcalls, hfirst, hsince⟩
    rcases List.eq_nil_or_concat later with rfl | ⟨later, last, rfl⟩
    · obtain ⟨rfl, hlast⟩ := List.append_inj' hcalls rfl
      obtain rfl := List.singleton_inj.1 hlast
      exact .inr hfirst
    · rw [List.concat_eq_append, ← List.cons_append, ← List.append_assoc] at hcalls
      obtain ⟨rfl, -⟩ := List.append_inj' hcalls rfl
      refine .inl ⟨earlier, first, later, rfl, hfirst, fun since h => hsince since ?_⟩
      rw [List.concat_eq_append]
      exact h.trans (List.prefix_append _ _)
  · rintro (⟨earlier, first, later, rfl, hfirst, hsince⟩ | hlast)
    · refine ⟨earlier, first, later ++ [call], by simp, hfirst, fun since h => ?_⟩
      rcases List.prefix_concat_iff.1 h with rfl | h
      · rw [← List.cons_append, ← List.append_assoc]
        exact hunit
      · exact hsince since h
    · refine ⟨calls, call, [], rfl, hlast, fun since h => ?_⟩
      obtain rfl := List.prefix_nil.1 h
      exact hunit

/-- **What no call takes from the unit at an address** unless it has `P`, the unit has after a run, or
one of the calls had `P` and the unit was not removed since. -/
theorem or_since {P : Call σ → Bus σ → Prop} {a : Address} {G : Bus σ → LogicalUnit → Prop}
    {calls : List (Call σ)} {bus : Bus σ} {u : LogicalUnit}
    (hu : (after calls bus).units.get? a = some u)
    (hbus : ∀ u, bus.units.get? a = some u → G bus u)
    (hcall : ∀ earlier call, earlier ++ [call] <+: calls → ¬ P call (after earlier bus) →
      (∀ u, (after earlier bus).units.get? a = some u → G (after earlier bus) u) →
      ∀ w, (call.apply (after earlier bus)).units.get? a = some w →
        G (call.apply (after earlier bus)) w) :
    G (after calls bus) u ∨ Since P a calls bus := by
  -- by induction on the calls from the last one back: it found the unit so or made it so
  induction calls using List.reverseRecOn generalizing u with
  | nil => exact .inl (hbus u hu)
  | append_singleton calls call ih =>
    have hearlier : ∀ {v}, (after calls bus).units.get? a = some v →
        G (after calls bus) v ∨ Since P a calls bus :=
      fun hv => ih hv fun earlier call h => hcall earlier call (h.trans (List.prefix_append _ _))
    by_cases hsince : Since P a (calls ++ [call]) bus
    · exact .inr hsince
    · rw [since_concat_iff (by rw [hu]; rfl), not_or] at hsince
      rw [after_append, after_cons, after_nil] at hu ⊢
      exact .inl (hcall calls call (List.prefix_refl _) hsince.2
        (fun v hv => (hearlier hv).resolve_right hsince.1) u hu)

theorem reachable_new (settings : BusSettings) (adapter : Option σ) :
    Reachable (new settings adapter) := ⟨settings, adapter, [], rfl⟩

theorem Reachable.apply {bus : Bus σ} (h : bus.Reachable) (call : Call σ) :
    (call.apply bus).Reachable := by
  obtain ⟨settings, adapter, calls, rfl⟩ := h
  refine ⟨settings, adapter, calls ++ [call], ?_⟩
  rw [after_append, after_cons, after_nil]

end Bus

end Scsi
