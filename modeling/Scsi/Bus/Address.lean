/-!
# Unit addresses

A unit on a bus is addressed by its target and by its number behind that target.

## Main definitions

* `Address`: target and logical unit number
* `Address.rank`: the place of an address among all, by target and then by unit
* `Address.range`: the addresses of the first targets with their first units, in order

## Main results

* `Address.rank_inj`: an address is known by its place
* `Address.mem_range_iff`: what lies in a range
* `Address.pairwise_range`: a range is in ascending order
-/

namespace Scsi

/-- Target and logical unit number. -/
structure Address where
  target : UInt8
  lun : UInt8
deriving DecidableEq

namespace Address

/-- The place of an address among all, by target and then by unit. -/
def rank (a : Address) : Nat := 256 * a.target.toNat + a.lun.toNat

/-- The address as log lines write it. -/
def text (a : Address) : String := s!"{a.target}:{a.lun}"

theorem rank_inj {a b : Address} : a.rank = b.rank ↔ a = b := by
  constructor
  · intro h
    have ha := a.lun.toNat_lt
    have hb := b.lun.toNat_lt
    unfold rank at h
    have ht : a.target = b.target := UInt8.toNat.inj (by omega)
    have hl : a.lun = b.lun := UInt8.toNat.inj (by omega)
    cases a
    cases b
    simp_all
  · rintro rfl
    rfl

instance : LT Address := ⟨fun a b => a.rank < b.rank⟩

instance (a b : Address) : Decidable (a < b) := inferInstanceAs (Decidable (a.rank < b.rank))

theorem lt_iff {a b : Address} : a < b ↔ a.rank < b.rank := Iff.rfl

theorem lt_trans {a b c : Address} (h : a < b) (h' : b < c) : a < c := Nat.lt_trans h h'

theorem ne_of_lt {a b : Address} (h : a < b) : a ≠ b := by
  rintro rfl
  exact Nat.lt_irrefl _ h

theorem lt_of_not_lt_of_ne {a b : Address} (h : ¬ a < b) (hne : a ≠ b) : b < a := by
  have hr : a.rank ≠ b.rank := fun e => hne (rank_inj.1 e)
  rw [lt_iff] at h ⊢
  omega

/-- All bytes below a bound, in order. -/
def below (bound : UInt8) : List UInt8 := (List.range bound.toNat).map UInt8.ofNat

theorem mem_below_iff {bound b : UInt8} : b ∈ below bound ↔ b < bound := by
  simp only [below, List.mem_map, List.mem_range, UInt8.lt_iff_toNat_lt]
  constructor
  · rintro ⟨n, hn, rfl⟩
    have hbound := bound.toNat_lt
    rw [UInt8.toNat_ofNat']
    omega
  · intro h
    exact ⟨b.toNat, h, by simp⟩

theorem pairwise_below (bound : UInt8) :
    (below bound).Pairwise (fun a b => a.toNat < b.toNat) := by
  have hbound := bound.toNat_lt
  rw [below, List.pairwise_map]
  refine List.Pairwise.imp_of_mem ?_ List.pairwise_lt_range
  intro a b ha hb hab
  rw [List.mem_range] at ha hb
  rw [UInt8.toNat_ofNat', UInt8.toNat_ofNat']
  omega

/-- The addresses of the first targets with their first units, in order. -/
def range (targets luns : UInt8) : List Address :=
  (below targets).flatMap fun target => (below luns).map fun lun => ⟨target, lun⟩

theorem mem_range_iff {targets luns : UInt8} {a : Address} :
    a ∈ range targets luns ↔ a.target < targets ∧ a.lun < luns := by
  simp only [range, List.mem_flatMap, List.mem_map, mem_below_iff]
  constructor
  · rintro ⟨t, ht, l, hl, rfl⟩
    exact ⟨ht, hl⟩
  · rintro ⟨ht, hl⟩
    exact ⟨a.target, ht, a.lun, hl, rfl⟩

theorem pairwise_range (targets luns : UInt8) :
    (range targets luns).Pairwise (fun a b => a < b) := by
  rw [range, List.pairwise_flatMap]
  constructor
  · intro t _
    rw [List.pairwise_map]
    refine (pairwise_below luns).imp ?_
    intro a b hab
    rw [lt_iff]
    simp only [rank]
    omega
  · refine (pairwise_below targets).imp ?_
    intro t t' htt a ha b hb
    simp only [List.mem_map] at ha hb
    obtain ⟨l, _, rfl⟩ := ha
    obtain ⟨l', _, rfl⟩ := hb
    have hl := l.toNat_lt
    rw [lt_iff]
    simp only [rank]
    omega

end Address

end Scsi
