import Mathlib.Algebra.Group.Nat.Defs
import Scsi.Proofs.Bus.Holds
import Scsi.Proofs.LogicalUnit.SectorShift
import Scsi.RamDisk.Basic

/-!
# Coherence of units

A unit says in three ways whether it was discovered: by its operations, by its state and by a flag.
They agree at all times, whatever was called and wherever an adapter crashed. A unit that was
discovered has everything that follows from its INQUIRY data and its capacity, and any other unit
has nothing of it.

## Main definitions

* `LogicalUnit.Published`: the unit has what follows from its INQUIRY data and its capacity
* `LogicalUnit.Blank`: the unit has the values of a new one
* `LogicalUnit.Coherent`: the unit is ready in all three ways and `Published`, or in none and `Blank`

## Main results

* `LogicalUnit.Discovered.coherent`: a discovery leaves a coherent unit coherent
* `Bus.Reachable.units_coherent`: every unit of a reachable bus is coherent
-/

namespace Scsi

open Activity

namespace LogicalUnit

/-- The unit has what follows from its INQUIRY data and its capacity. -/
structure Published (u : LogicalUnit) : Prop where
  capacity48 : u.capacity48 = u.capacity
  usedModes : u.usedModes = u.transferModes
  blockSize_ne_zero : u.blockSize ≠ 0
  sectorShift_of_pow : ∀ k, u.blockSize.toNat = 2 ^ k → u.sectorShift.toNat = k
  sectorShift_of_ne_pow : (∀ k, u.blockSize.toNat ≠ 2 ^ k) → u.sectorShift = 9
  cylinders : u.geometry.cylinders.toNat = min u.capacity.toNat (UInt32.size - 1)
  heads : u.geometry.heads = 1
  sectors : u.geometry.sectors = 1
  length_inquiry : u.inquiry.length = 96
  deviceType : u.deviceType = u.inquiry.byteAt 0 &&& 0x1F
  removable_iff : u.flags.contains UnitFlags.removable = true ↔ u.inquiry.byteAt 1 &&& 0x80 ≠ 0
  packet_iff : u.transferModes.contains TransferModes.packet = true ↔ u.deviceType ≠ 0

/-- The unit has the values of a new one in all that a discovery finds out. -/
def Blank (u : LogicalUnit) : Prop :=
  u.deviceType = 0 ∧ u.flags = .empty ∧ u.blockSize = 512 ∧ u.capacity = 0 ∧ u.capacity48 = 0 ∧
    u.sectorShift = 0 ∧ u.transferModes = .empty ∧ u.usedModes = .empty ∧
    u.geometry = ⟨0, 0, 0⟩ ∧ u.inquiry = Bytes.zeros 96

/-- Operations, state and flag agree on whether the unit was discovered; it has what follows from
that, and no other flags than the two that a discovery sets. -/
structure Coherent (u : LogicalUnit) : Prop where
  ready_iff_state : u.isReady = true ↔ u.state = .ready
  ready_iff_present : u.isReady = true ↔ u.isPresent = true
  flags_le : (UnitFlags.removable ∪ UnitFlags.present).contains u.flags = true
  published : u.isReady = true → u.Published
  blank : u.isReady = false → u.Blank

/-! ## Publishing -/

theorem toNat_cylinders_geometryOf (blocks : UInt64) :
    (geometryOf blocks).cylinders.toNat = min blocks.toNat (UInt32.size - 1) := by
  unfold geometryOf
  split
  · next h =>
    rw [UInt64.toNat_toUInt32, Nat.mod_eq_of_lt h]
    omega
  · next h =>
    have hmax : (0xFFFFFFFF : UInt32).toNat = UInt32.size - 1 := rfl
    rw [hmax]
    omega

theorem contains_packet_modesOf (deviceType : UInt8) :
    (modesOf deviceType).contains TransferModes.packet = true ↔ deviceType ≠ 0 := by
  by_cases h : deviceType = 0
  · subst h
    decide
  · simp only [modesOf, DeviceType.directAccess, h, if_false, ne_eq, not_false_eq_true, iff_true]
    decide

/-- The flags of a unit without flags after findings are published on it. -/
theorem flags_publish {u : LogicalUnit} (hu : u.Blank) (f : Findings) :
    (u.publish f).flags =
      if Inquiry.removable f.inquiry then UnitFlags.removable ∪ UnitFlags.present
      else UnitFlags.present := by
  have hflags := hu.2.1
  simp only [publish, hflags]
  split <;> rfl

theorem published_publish {u : LogicalUnit} (hu : u.Blank) {f : Findings} (hf : f.Sound) :
    (u.publish f).Published where
  capacity48 := rfl
  usedModes := rfl
  blockSize_ne_zero := hf.2
  sectorShift_of_pow _ := toNat_sectorShift_of_pow
  sectorShift_of_ne_pow := sectorShift_of_ne_pow
  cylinders := toNat_cylinders_geometryOf f.capacity.blocks
  heads := rfl
  sectors := rfl
  length_inquiry := hf.1
  deviceType := rfl
  removable_iff := by
    -- the flag is set by the top bit of the second byte
    have hbit : f.inquiry.byteAt 1 &&& 0x80 ≠ 0 ↔ Inquiry.removable f.inquiry = true := by
      simp [Inquiry.removable]
    rw [flags_publish hu f]
    show _ ↔ f.inquiry.byteAt 1 &&& 0x80 ≠ 0
    rw [hbit]
    split
    · next h => simp only [h, iff_true]; decide
    · next h => simp only [h, iff_false, Bool.false_eq_true]; decide
  packet_iff := contains_packet_modesOf _

theorem coherent_publish {u : LogicalUnit} (hu : u.Blank) {f : Findings} (hf : f.Sound) :
    (u.publish f).Coherent where
  ready_iff_state := ⟨fun _ => rfl, fun _ => rfl⟩
  ready_iff_present := ⟨fun _ => Flags.contains_union_right _ _, fun _ => rfl⟩
  flags_le := by
    rw [flags_publish hu f]
    split <;> decide
  published _ := published_publish hu hf
  blank h := nomatch h

/-! ## Steps -/

theorem coherent_new (bus target lun : UInt8) (timeout : UInt32) :
    (new bus target lun timeout).Coherent where
  ready_iff_state := ⟨(fun h => nomatch h), fun h => nomatch h⟩
  ready_iff_present := by
    have habsent : (new bus target lun timeout).isPresent = false :=
      (by decide : (Flags.empty : UnitFlags).contains UnitFlags.present = false)
    rw [habsent]
    exact ⟨(fun h => nomatch h), fun h => nomatch h⟩
  flags_le := (by decide : (UnitFlags.removable ∪ UnitFlags.present).contains .empty = true)
  published h := nomatch h
  blank _ := ⟨rfl, rfl, rfl, rfl, rfl, rfl, rfl, rfl, rfl, rfl⟩

theorem Published.of_cleared {u : LogicalUnit} (h : u.cleared.Published) : u.Published :=
  ⟨h.capacity48, h.usedModes, h.blockSize_ne_zero, h.sectorShift_of_pow, h.sectorShift_of_ne_pow,
    h.cylinders, h.heads, h.sectors, h.length_inquiry, h.deviceType, h.removable_iff, h.packet_iff⟩

/-- What the last command left on a unit has no part in its coherence. -/
theorem Coherent.of_cleared {u : LogicalUnit} (h : u.cleared.Coherent) : u.Coherent :=
  ⟨h.ready_iff_state, h.ready_iff_present, h.flags_le, fun hu => (h.published hu).of_cleared,
    h.blank⟩

/-- A unit whose discovery can start is not ready. -/
theorem Coherent.isReady_of_isOpen {u : LogicalUnit} (h : u.Coherent) (hu : u.IsOpen) :
    u.isReady = false := by
  cases hready : u.isReady with
  | false => rfl
  | true =>
    exact absurd (h.ready_iff_state.1 hready) hu.ne_ready

/-- Such a unit stays coherent in every state but that of ready units. -/
theorem Coherent.withState {u : LogicalUnit} (h : u.Coherent) (hu : u.IsOpen)
    {state : DiscoveryState} (hstate : state ≠ .ready) :
    ({ u with state } : LogicalUnit).Coherent := by
  -- what is said of ready units is said of nothing here
  have hready : u.isReady = false := h.isReady_of_isOpen hu
  have hnot : ¬ u.isReady = true := by
    rw [hready]
    decide
  exact ⟨⟨fun h' => absurd h' hnot, fun h' => absurd h' hstate⟩, h.ready_iff_present, h.flags_le,
    fun h' => absurd h' hnot, fun _ => h.blank hready⟩

/-- **A discovery** leaves a coherent unit coherent, however it ends. -/
theorem Discovered.coherent {u w : LogicalUnit} {answer : Option (Except DiscoveryError Unit)}
    (h : u.Discovered Findings.Sound answer w) (hu : u.cleared.Coherent) : w.cleared.Coherent := by
  -- whatever a discovery leaves but a published unit is what it found, up to the state
  cases h with
  | refused _ => exact hu
  | crashed hopen hw =>
    rw [hw]
    exact hu.withState hopen (by decide)
  | failed hopen hw =>
    rw [hw]
    exact hu.withState hopen (by decide)
  | published hopen hf hw =>
    rw [hw]
    exact coherent_publish (hu.blank (hu.isReady_of_isOpen hopen)) hf

end LogicalUnit

namespace Bus

variable {σ : Type} [HostAdapter σ]

theorem keeps_discover_coherent :
    Keeps (Session.Has (fun u => u.cleared.Coherent) fun _ => True)
      (discover : Activity (Session σ) _) :=
  keeps_discover (fun _ _ => gives_explore_sound fun _ _ _ _ => trivial)
    fun _ _ _ hu hleft => hleft.coherent hu

theorem sustains_coherent (base : Bus σ) (call : Call σ) :
    call.Sustains base (fun _ u => u.cleared.Coherent) fun _ => True :=
  sustains_of_units (Q := fun _ u => u.cleared.Coherent)
    (fun _ _ _ => LogicalUnit.coherent_new _ _ _ _) (fun h hu => h ▸ hu) call
    fun _ _ _ _ => keeps_discover_coherent

theorem coherent_after (settings : BusSettings) (adapter : Option σ) (calls : List (Call σ)) :
    Holds (new settings adapter).emptied (fun _ u => u.cleared.Coherent) (fun _ => True)
      (after calls (new settings adapter)) :=
  (holds_new _ _ trivial).after fun call _ => sustains_coherent _ call

/-- **Every unit of a reachable bus is coherent**, whatever the adapter does and wherever it
crashes. -/
theorem Reachable.units_coherent {bus : Bus σ} (h : bus.Reachable) {a : Address} {u : LogicalUnit}
    (hu : bus.units.get? a = some u) : u.Coherent := by
  obtain ⟨_, _, hbus⟩ := h.holds sustains_coherent
  exact (hbus.units hu).of_cleared

/-- A disk is found by a scan and then crashes on an INQUIRY of one byte. -/
theorem Reachable.units_coherent_crashed :
    ∃ u : LogicalUnit,
      (after [.scan false, .unit ⟨0, 0⟩ (.perform (.fresh (.ofBytes [0x12]) .none 0))]
        (new ⟨0, 2, 2, .empty, 1, 16, 0⟩ (some (RamDisk.new (.disk 4 4))))).units.get? ⟨0, 0⟩ =
          some u ∧ u.isReady = true ∧ u.Coherent := by
  let bus := after [.scan false, .unit ⟨0, 0⟩ (.perform (.fresh (.ofBytes [0x12]) .none 0))]
    (new ⟨0, 2, 2, .empty, 1, 16, 0⟩ (some (RamDisk.new (.disk 4 4))))
  have hready : (bus.units.get? ⟨0, 0⟩).any LogicalUnit.isReady = true := by decide +kernel
  cases hu : bus.units.get? ⟨0, 0⟩ with
  | none =>
    rw [hu] at hready
    exact nomatch hready
  | some u =>
    rw [hu] at hready
    exact ⟨u, rfl, hready, Reachable.units_coherent ⟨_, _, _, rfl⟩ hu⟩

end Bus

end Scsi
