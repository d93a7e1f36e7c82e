import Mathlib.Algebra.Group.Nat.Defs
import Scsi.Settings.Basic

/-!
# Checked settings

Settings are accepted exactly if, with their open limits filled in, the bus is not larger than usual
and their disk is on it and small enough. That is said here in natural numbers: sizes are counted in
64 bits along the way, and nothing that is too large to be counted slips through.

## Main definitions

* `Settings.targets`, `Settings.luns`: the limits, as many as usual where they are left open
* `Settings.Admits`, `Settings.Sound`: what is asked of a disk and of the settings
* `Settings.Settled s t`: `t` is `s` with its open limits filled in and room for its disk

## Main results

* `Settings.fault?_completed_eq_none_iff`: sound settings are those without a fault
* `Settings.toNat_mediumSize`: of a medium within the limit every byte is counted
* `Settings.check_idempotent`: checked settings are left as they are when they are checked again
* `Settings.check_accepts_exactly_sound`: the settings that are accepted, and what becomes of them
-/

namespace Scsi

namespace Settings

/-! ## What is asked of settings -/

/-- How many targets are asked for. -/
def targets (s : Settings) : Nat := if s.maxTargets = 0 then 16 else s.maxTargets.toNat

/-- How many units behind a target are asked for. -/
def luns (s : Settings) : Nat := if s.maxLuns = 0 then 8 else s.maxLuns.toNat

/-- What is asked of a disk: it has blocks, they take up 2 ^ 30 bytes at most, and its address is on
the bus. -/
structure Admits (s : Settings) (p : RamDisk.Profile) : Prop where
  blockSize : 0 < p.blockSize.toNat
  blocks : 0 < p.blocks.toNat
  medium : p.blocks.toNat * p.blockSize.toNat ≤ 2 ^ 30
  target : p.target.toNat < s.targets
  lun : p.lun.toNat < s.luns

/-- What is asked of settings. -/
structure Sound (s : Settings) : Prop where
  targets : s.targets ≤ 16
  luns : s.luns ≤ 8
  disk : ∀ p, s.disk = some p → s.Admits p

/-- The second settings are the first with open limits filled in and room for the disk. -/
structure Settled (s t : Settings) : Prop where
  maxTargets : t.maxTargets.toNat = s.targets
  maxLuns : t.maxLuns.toNat = s.luns
  defaultTimeout : t.defaultTimeout = if s.defaultTimeout = 0 then 30000 else s.defaultTimeout
  privateSize : t.privateSize.toNat = match s.disk with
    | none => s.privateSize.toNat
    | some p => Nat.max s.privateSize.toNat (p.blocks.toNat * p.blockSize.toNat)
  others : t = { s with
    maxTargets := t.maxTargets
    maxLuns := t.maxLuns
    defaultTimeout := t.defaultTimeout
    privateSize := t.privateSize }

/-! ## Sizes -/

section

variable {p : RamDisk.Profile}

/-- Of a medium within the limit every byte is counted. -/
theorem toNat_mediumSize (h : p.mediumSize ≤ mediumLimit) :
    p.mediumSize.toNat = p.blocks.toNat * p.blockSize.toNat := by
  -- what 64 bits cannot count would be over the limit
  have hle : p.mediumSize.toNat ≤ 1073741824 := UInt64.le_iff_toNat_le.1 h
  unfold RamDisk.Profile.mediumSize at hle ⊢
  rw [UInt64.toNat_ofNat'] at hle ⊢
  have hsize : UInt64.size = 18446744073709551616 := rfl
  omega

theorem mediumSize_le_mediumLimit_iff :
    p.mediumSize ≤ mediumLimit ↔ p.blocks.toNat * p.blockSize.toNat ≤ 2 ^ 30 := by
  constructor
  · intro h
    rw [← toNat_mediumSize h]
    exact UInt64.le_iff_toNat_le.1 h
  · intro h
    exact UInt64.le_iff_toNat_le.2 (Nat.le_trans p.mediumSize_le h)

/-- The two sizes of a medium are one. -/
theorem privateSize_eq_mediumSize (p : RamDisk.Profile) : p.privateSize = p.mediumSize.toNat := by
  unfold RamDisk.Profile.privateSize RamDisk.Profile.mediumSize
  rw [UInt64.toNat_ofNat', Nat.mul_comm p.blockSize.toNat]
  have hsize : UInt64.size = 18446744073709551616 := rfl
  omega

end

/-! ## Open limits -/

theorem toNat_maxTargets_completed (s : Settings) :
    s.completed.maxTargets.toNat = s.targets := by
  simp only [completed, targets]
  split <;> rfl

theorem toNat_maxLuns_completed (s : Settings) : s.completed.maxLuns.toNat = s.luns := by
  simp only [completed, luns]
  split <;> rfl

/-- Filled in, a limit is not open any more. -/
theorem ite_ne_of_ne {α : Type} [DecidableEq α] {usual zero : α} (h : usual ≠ zero) (a : α) :
    (if a = zero then usual else a) ≠ zero := by
  split
  · exact h
  · assumption

theorem completed_completed (s : Settings) : s.completed.completed = s.completed := by
  have htargets : s.completed.maxTargets ≠ 0 := ite_ne_of_ne (by decide) s.maxTargets
  have hluns : s.completed.maxLuns ≠ 0 := ite_ne_of_ne (by decide) s.maxLuns
  have htimeout : s.completed.defaultTimeout ≠ 0 := ite_ne_of_ne (by decide) s.defaultTimeout
  rw [completed, if_neg htargets, if_neg hluns, if_neg htimeout]

/-! ## Room for the disk -/

/-- Room for the disk changes the size of the private block only. -/
theorem withRoom_eq (s : Settings) :
    s.withRoom = { s with privateSize := s.withRoom.privateSize } := by
  unfold withRoom
  split <;> rfl

theorem disk_withRoom (s : Settings) : s.withRoom.disk = s.disk := by
  rw [withRoom_eq]

theorem completed_withRoom (s : Settings) : s.withRoom.completed = s.completed.withRoom := by
  unfold withRoom
  cases hdisk : s.disk with
  | none => simp only [completed, hdisk]
  | some p => simp only [completed, hdisk]

theorem fault?_withRoom (s : Settings) : s.withRoom.fault? = s.fault? := by
  rw [withRoom_eq]
  rfl

section

variable {s : Settings} {p : RamDisk.Profile}

theorem toNat_privateSize_withRoom (hdisk : s.disk = some p) :
    s.withRoom.privateSize.toNat = Nat.max s.privateSize.toNat p.mediumSize.toNat := by
  simp only [withRoom, hdisk]
  show (if s.privateSize ≤ p.mediumSize then p.mediumSize else s.privateSize).toNat = _
  split
  · next h => exact (Nat.max_eq_right (UInt64.le_iff_toNat_le.1 h)).symm
  · next h =>
    have hle := Nat.le_of_not_le (mt UInt64.le_iff_toNat_le.2 h)
    exact (Nat.max_eq_left hle).symm

theorem withRoom_of_le (hdisk : s.disk = some p)
    (h : p.mediumSize.toNat ≤ s.privateSize.toNat) : s.withRoom = s := by
  have hsame : s.withRoom.privateSize = s.privateSize := by
    apply UInt64.toNat_inj.1
    rw [toNat_privateSize_withRoom hdisk]
    exact Nat.max_eq_left h
  rw [withRoom_eq, hsame]

theorem withRoom_withRoom (s : Settings) : s.withRoom.withRoom = s.withRoom := by
  cases hdisk : s.disk with
  | none => simp only [withRoom, hdisk]
  | some p =>
    apply withRoom_of_le ((disk_withRoom s).trans hdisk)
    rw [toNat_privateSize_withRoom hdisk]
    exact Nat.le_max_right _ _

/-! ## Which settings are accepted -/

theorem diskFault?_completed_eq_none_iff : s.completed.diskFault? p = none ↔ s.Admits p := by
  rw [diskFault?_eq_none_iff, mediumSize_le_mediumLimit_iff, UInt8.lt_iff_toNat_lt,
    UInt8.lt_iff_toNat_lt, toNat_maxTargets_completed, toNat_maxLuns_completed]
  have hblockSize : p.blockSize ≠ 0 ↔ 0 < p.blockSize.toNat := by
    rw [Nat.pos_iff_ne_zero, ne_eq, ne_eq, ← UInt32.toNat_inj]
    rfl
  have hblocks : p.blocks ≠ 0 ↔ 0 < p.blocks.toNat := by
    rw [Nat.pos_iff_ne_zero, ne_eq, ne_eq, ← UInt64.toNat_inj]
    rfl
  rw [hblockSize, hblocks]
  exact ⟨fun ⟨hblockSize, hblocks, hmedium, htarget, hlun⟩ =>
      ⟨hblockSize, hblocks, hmedium, htarget, hlun⟩,
    fun h => ⟨h.blockSize, h.blocks, h.medium, h.target, h.lun⟩⟩

/-- Sound settings are those without a fault. -/
theorem fault?_completed_eq_none_iff : s.completed.fault? = none ↔ s.Sound := by
  rw [fault?_eq_none_iff, UInt8.le_iff_toNat_le, UInt8.le_iff_toNat_le, toNat_maxTargets_completed,
    toNat_maxLuns_completed]
  simp only [diskFault?_completed_eq_none_iff]
  exact ⟨fun ⟨htargets, hluns, hdisk⟩ => ⟨htargets, hluns, hdisk⟩,
    fun h => ⟨h.targets, h.luns, h.disk⟩⟩

theorem check_eq_ok_iff_sound {t : Settings} :
    s.check = .ok t ↔ s.Sound ∧ t = s.completed.withRoom := by
  rw [check_eq_ok_iff, fault?_completed_eq_none_iff]

/-! ## What becomes of them -/

theorem settled_of_sound (h : s.Sound) : s.Settled s.completed.withRoom where
  maxTargets := by rw [withRoom_eq]; exact toNat_maxTargets_completed s
  maxLuns := by rw [withRoom_eq]; exact toNat_maxLuns_completed s
  defaultTimeout := by rw [withRoom_eq]; rfl
  privateSize := by
    cases hdisk : s.disk with
    | none => simp only [withRoom, completed, hdisk]
    | some p =>
      have hlimit := mediumSize_le_mediumLimit_iff.2 (h.disk p hdisk).medium
      rw [toNat_privateSize_withRoom (s := s.completed) hdisk, toNat_mediumSize hlimit]
      rfl
  others := by
    rw [withRoom_eq]
    rfl

theorem Settled.disk {t : Settings} (h : s.Settled t) : t.disk = s.disk := by
  rw [h.others]

section

variable {t : Settings} (hcheck : s.check = .ok t)

include hcheck

/-- Checked settings are left as they are when they are checked again. -/
theorem check_idempotent : t.check = .ok t := by
  obtain ⟨hfault, rfl⟩ := check_eq_ok_iff.1 hcheck
  rw [check_eq_ok_iff, completed_withRoom, completed_completed, fault?_withRoom, withRoom_withRoom]
  exact ⟨hfault, rfl⟩

variable (hp : t.disk = some p)

include hp

/-- The disk of checked settings was asked for. -/
theorem admits_of_check : s.Admits p := by
  obtain ⟨hsound, rfl⟩ := check_eq_ok_iff_sound.1 hcheck
  exact hsound.disk p ((settled_of_sound hsound).disk ▸ hp)

/-- The private block of checked settings holds all blocks of their disk. -/
theorem room_of_check :
    p.blockSize ≠ 0 ∧ p.blocks.toNat * p.blockSize.toNat ≤ t.privateSize.toNat := by
  obtain ⟨hblockSize, -⟩ := diskFault?_eq_none_iff.1 (diskFault?_of_check hcheck hp)
  obtain ⟨hsound, rfl⟩ := check_eq_ok_iff_sound.1 hcheck
  have hsettled := settled_of_sound hsound
  refine ⟨hblockSize, ?_⟩
  rw [hsettled.privateSize, ← hsettled.disk, hp]
  exact Nat.le_max_right _ _

/-- The medium of checked settings ends before the limit. -/
theorem medium_le_of_check : p.blocks.toNat * p.blockSize.toNat ≤ 2 ^ 30 :=
  (admits_of_check hcheck hp).medium

end

end

/-- **Settings are accepted exactly if they are sound.** What becomes of them has every limit filled
in and room for the disk, is as it was otherwise, and is left as it is when it is checked again. The
two sizes of the medium are one, and the bus that is built has a private block for it. -/
theorem check_accepts_exactly_sound (s : Settings) :
    ((∃ t, s.check = .ok t) ↔ s.Sound) ∧
      ∀ t, s.check = .ok t → s.Settled t ∧ t.check = .ok t ∧
        ∀ p, t.disk = some p →
          p.privateSize = p.mediumSize.toNat ∧ p.privateSize ≤ t.busSettings.privateSize := by
  refine ⟨⟨?_, fun h => ⟨_, check_eq_ok_iff_sound.2 ⟨h, rfl⟩⟩⟩, ?_⟩
  · rintro ⟨t, hcheck⟩
    exact (check_eq_ok_iff_sound.1 hcheck).1
  · intro t hcheck
    obtain ⟨hsound, ht⟩ := check_eq_ok_iff_sound.1 hcheck
    refine ⟨ht ▸ settled_of_sound hsound, check_idempotent hcheck, fun p hp => ?_⟩
    have hlimit := mediumSize_le_mediumLimit_iff.2 (medium_le_of_check hcheck hp)
    refine ⟨privateSize_eq_mediumSize p, ?_⟩
    rw [privateSize_eq_mediumSize, toNat_mediumSize hlimit]
    exact (room_of_check hcheck hp).2

end Settings

end Scsi
