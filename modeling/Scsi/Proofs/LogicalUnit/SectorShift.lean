import Mathlib.Algebra.Group.Nat.Defs
import Mathlib.Logic.Relation
import Scsi.LogicalUnit.Basic

/-!
# The shift of a block size

A block size is a word of 32 bits. The shift for it is searched from 0 upwards: a round shifts 1 by
the shift at hand, and the search goes on while the power of two is below the block size and the
shift below 31. A word has no shift by 32 or more, and no shift that is tried is one. The search
stops at the first power of two that reaches the block size, or at the last one of a word if the
block size is above it. What is answered is the exponent of the block size if it is a power of two,
and the fallback otherwise.

## Main definitions

* `ShiftSearch.round?`, `ShiftSearch.answer?`: a round of the search, and what is made of the shift
  at which it stops; missing if a word was shifted too far
* `ShiftSearch.Tries`, `ShiftSearch.EndsAt`: the shifts that are tried one after the other, and the
  one at which the search stops
* `ShiftSearch.Finds`: the search stops, within the words, with an answer

## Main results

* `ShiftSearch.wellFounded_next`: no search goes on for ever
* `ShiftSearch.Tries.exponentFrom_eq`: `exponentFrom` passes through every shift that is tried
* `ShiftSearch.finds_shift`: the search finds the shift
* `sectorShift_is_exponent`: the shift is the exponent of a power of two, and 9 for the others
-/

namespace Scsi

theorem exponentFrom_succ (n left shift : Nat) : exponentFrom n (left + 1) shift =
    if 2 ^ shift < n then exponentFrom n left (shift + 1) else shift := by
  rw [exponentFrom, Nat.one_shiftLeft]

theorem exponentFrom_eq {k left shift : Nat} (h : shift ≤ k) (hleft : k ≤ shift + left) :
    exponentFrom (2 ^ k) left shift = k := by
  induction left generalizing shift with
  | zero => exact Nat.le_antisymm h hleft
  | succ left ih =>
    rw [exponentFrom_succ]
    split
    · next hlt =>
      have hlt' := (Nat.pow_lt_pow_iff_right (by decide : 1 < 2)).1 hlt
      exact ih hlt' (by omega)
    · next hge =>
      by_cases heq : shift = k
      · exact heq
      · exact absurd (Nat.pow_lt_pow_right (by decide) (by omega)) hge

/-- A block size of 32 bits is no higher power of two. -/
theorem exponent_lt_width {blockSize : UInt32} {k : Nat} (h : blockSize.toNat = 2 ^ k) :
    k < 32 := by
  have hlt := blockSize.toNat_lt
  rw [h] at hlt
  exact (Nat.pow_lt_pow_iff_right (by decide)).1 hlt

theorem sectorShift_eq (blockSize : UInt32) : sectorShift blockSize =
    if 2 ^ exponentFrom blockSize.toNat 31 0 = blockSize.toNat then
      UInt8.ofNat (exponentFrom blockSize.toNat 31 0)
    else fallbackShift := by
  rw [sectorShift, Nat.one_shiftLeft]

theorem sectorShift_of_pow {blockSize : UInt32} {k : Nat} (h : blockSize.toNat = 2 ^ k) :
    sectorShift blockSize = UInt8.ofNat k := by
  have hk := exponent_lt_width h
  simp only [sectorShift_eq, h, exponentFrom_eq (Nat.zero_le k) (by omega : k ≤ 0 + 31), if_true]

namespace LogicalUnit

theorem toNat_sectorShift_of_pow {blockSize : UInt32} {k : Nat}
    (h : blockSize.toNat = 2 ^ k) : (Scsi.sectorShift blockSize).toNat = k := by
  have hk := exponent_lt_width h
  rw [Scsi.sectorShift_of_pow h, UInt8.toNat_ofNat']
  omega

theorem sectorShift_of_ne_pow {blockSize : UInt32}
    (h : ∀ k, blockSize.toNat ≠ 2 ^ k) : Scsi.sectorShift blockSize = 9 := by
  simp only [sectorShift_eq, Ne.symm (h _), if_false, fallbackShift]

end LogicalUnit

namespace ShiftSearch

/-! ## Rounds -/

/-- The power of two that a shift stands for, missing if a word is not as wide. -/
def power? (shift : UInt8) : Option UInt32 :=
  if shift < 32 then some (1 <<< shift.toUInt32) else none

/-- What comes after a round. -/
inductive Round
  | next (shift : UInt8)
  | stop

/-- A round of the search, missing if a word was shifted too far. -/
def round? (blockSize : UInt32) (shift : UInt8) : Option Round := do
  let power ← power? shift
  some (if power < blockSize ∧ shift < 31 then .next (shift + 1) else .stop)

/-- What is made of the shift at which the search stops, missing if a word was shifted too far. -/
def answer? (blockSize : UInt32) (shift : UInt8) : Option UInt8 := do
  let power ← power? shift
  some (if power ≠ blockSize then fallbackShift else shift)

/-- The search goes on from a shift to the next one. -/
def Next (blockSize : UInt32) (shift shift' : UInt8) : Prop :=
  round? blockSize shift = some (.next shift')

/-- The search from 0 comes to the shift. -/
def Tries (blockSize : UInt32) : UInt8 → Prop := Relation.ReflTransGen (Next blockSize) 0

/-- The search from 0 stops at the shift. -/
structure EndsAt (blockSize : UInt32) (shift : UInt8) : Prop where
  tries : Tries blockSize shift
  stops : round? blockSize shift = some .stop

/-- The search stops, within the words, with an answer. -/
structure Finds (blockSize : UInt32) (answer : UInt8) : Prop where
  /-- No search goes on for ever, whatever shift it starts from. -/
  terminates : WellFounded fun shift' shift => Next blockSize shift shift'
  /-- No word is shifted by 32 or more, and so no round is missing. -/
  within : ∀ shift, Tries blockSize shift → shift.toNat < 32 ∧ round? blockSize shift ≠ none
  ends : ∃ shift, EndsAt blockSize shift
  /-- The first power of two that reaches the block size ends the search, or else the last one. -/
  first : ∀ shift, EndsAt blockSize shift →
    (∀ k, k < shift.toNat → 2 ^ k < blockSize.toNat) ∧
      (blockSize.toNat ≤ 2 ^ shift.toNat ∨ shift.toNat = 31)
  answers : ∀ shift, EndsAt blockSize shift → answer? blockSize shift = some answer

section

variable {blockSize : UInt32} {shift shift' : UInt8}

theorem exists_power (h : shift.toNat < 32) :
    ∃ power, power? shift = some power ∧ power.toNat = 2 ^ shift.toNat := by
  refine ⟨1 <<< shift.toUInt32, if_pos (UInt8.lt_iff_toNat_lt.2 h), ?_⟩
  have hsmall : 2 ^ shift.toNat < 2 ^ 32 := Nat.pow_lt_pow_right (by decide) h
  rw [UInt32.toNat_shiftLeft, UInt8.toNat_toUInt32, Nat.mod_eq_of_lt h, Nat.shiftLeft_eq]
  exact (Nat.mod_eq_of_lt (by simpa using hsmall)).trans (Nat.one_mul _)

/-- A round within the words, in numbers. -/
theorem round?_of_lt (h : shift.toNat < 32) : round? blockSize shift =
    some (if 2 ^ shift.toNat < blockSize.toNat ∧ shift.toNat < 31 then .next (shift + 1)
      else .stop) := by
  obtain ⟨power, hpower, hvalue⟩ := exists_power h
  have hlt : shift < 31 ↔ shift.toNat < 31 := UInt8.lt_iff_toNat_lt
  simp only [round?, hpower, Option.bind_eq_bind, Option.bind_some, UInt32.lt_iff_toNat_lt, hvalue,
    hlt]

theorem answer?_of_lt (h : shift.toNat < 32) : answer? blockSize shift =
    some (if 2 ^ shift.toNat = blockSize.toNat then shift else fallbackShift) := by
  obtain ⟨power, hpower, hvalue⟩ := exists_power h
  simp only [answer?, hpower, Option.bind_eq_bind, Option.bind_some, ne_eq, ← UInt32.toNat_inj,
    hvalue, ite_not]

/-- A shift is followed only by the next higher one, up to 31, and only if its power of two is below
the block size. -/
theorem Next.bounds (h : Next blockSize shift shift') :
    2 ^ shift.toNat < blockSize.toNat ∧ shift.toNat < 31 ∧
      shift'.toNat = shift.toNat + 1 := by
  have hwidth : shift.toNat < 32 := by
    refine Nat.lt_of_not_le fun hwide => ?_
    have hnone : power? shift = none :=
      if_neg fun hlt => Nat.not_lt_of_le hwide (UInt8.lt_iff_toNat_lt.1 hlt)
    rw [Next, round?, hnone] at h
    exact nomatch h
  rw [Next, round?_of_lt hwidth] at h
  split at h
  · next hgoes =>
    obtain ⟨⟩ := h
    refine ⟨hgoes.1, hgoes.2, ?_⟩
    rw [UInt8.toNat_add]
    have : (1 : UInt8).toNat = 1 := rfl
    omega
  · exact nomatch Option.some.inj h

/-! ## Runs -/

/-- No search goes on for ever: a shift is at most 31, and each one is higher than the last. -/
theorem wellFounded_next (blockSize : UInt32) :
    WellFounded fun shift' shift => Next blockSize shift shift' := by
  refine Subrelation.wf (fun {shift' shift} h => ?_) (measure fun shift => 31 - shift.toNat).wf
  obtain ⟨-, hlt, hnext⟩ := h.bounds
  show 31 - shift'.toNat < 31 - shift.toNat
  omega

/-- Every shift that is tried is one of a word. -/
theorem Tries.lt (h : Tries blockSize shift) : shift.toNat < 32 := by
  induction h with
  | refl => decide
  | tail _ hnext _ =>
    obtain ⟨-, hlt, hstep⟩ := hnext.bounds
    omega

/-- Every power of two that was passed is below the block size. -/
theorem Tries.pow_lt (h : Tries blockSize shift) :
    ∀ k, k < shift.toNat → 2 ^ k < blockSize.toNat := by
  induction h with
  | refl => exact fun k hk => absurd hk (Nat.not_lt_zero k)
  | tail _ hnext ih =>
    intro k hk
    obtain ⟨hpow, -, hstep⟩ := hnext.bounds
    rcases Nat.lt_succ_iff_lt_or_eq.1 (hstep ▸ hk) with hlt | rfl
    · exact ih k hlt
    · exact hpow

/-- From every shift that is tried the search comes to a stop. -/
theorem Tries.exists_endsAt (h : Tries blockSize shift) : ∃ last, EndsAt blockSize last := by
  induction shift using (wellFounded_next blockSize).induction with
  | _ shift ih =>
    have hround : round? blockSize shift = _ := round?_of_lt h.lt
    split at hround
    · exact ih (shift + 1) hround (h.tail hround)
    · exact ⟨shift, h, hround⟩

theorem EndsAt.reaches (h : EndsAt blockSize shift) :
    blockSize.toNat ≤ 2 ^ shift.toNat ∨ shift.toNat = 31 := by
  have hlt := h.tries.lt
  have hstops := h.stops
  rw [round?_of_lt hlt] at hstops
  split at hstops
  · exact nomatch Option.some.inj hstops
  · omega

/-! ## The exponent -/

theorem Next.exponentFrom_eq (h : Next blockSize shift shift') :
    exponentFrom blockSize.toNat (31 - shift.toNat) shift.toNat =
      exponentFrom blockSize.toNat (31 - shift'.toNat) shift'.toNat := by
  obtain ⟨hpow, hlt, hstep⟩ := h.bounds
  have hleft : 31 - shift.toNat = (31 - shift'.toNat) + 1 := by omega
  rw [hleft, exponentFrom_succ, if_pos hpow, hstep]

/-- The exponent is looked for among the shifts that are tried, in the same order. -/
theorem Tries.exponentFrom_eq (h : Tries blockSize shift) :
    exponentFrom blockSize.toNat 31 0 =
      exponentFrom blockSize.toNat (31 - shift.toNat) shift.toNat := by
  induction h with
  | refl => rfl
  | tail _ hnext ih => exact ih.trans hnext.exponentFrom_eq

/-- The exponent that is found is the shift at which the search stops. -/
theorem EndsAt.exponentFrom_eq (h : EndsAt blockSize shift) :
    exponentFrom blockSize.toNat 31 0 = shift.toNat := by
  rw [h.tries.exponentFrom_eq]
  cases hleft : 31 - shift.toNat with
  | zero => rfl
  | succ left =>
    have hreached : blockSize.toNat ≤ 2 ^ shift.toNat := h.reaches.resolve_right (by omega)
    rw [exponentFrom_succ, if_neg (Nat.not_lt_of_le hreached)]

theorem EndsAt.answer?_eq (h : EndsAt blockSize shift) :
    answer? blockSize shift = some (sectorShift blockSize) := by
  rw [answer?_of_lt h.tries.lt]
  simp only [sectorShift_eq, h.exponentFrom_eq, UInt8.ofNat_toNat]

end

/-- **The search finds the shift** of every block size. -/
theorem finds_shift (blockSize : UInt32) : Finds blockSize (sectorShift blockSize) where
  terminates := wellFounded_next blockSize
  within _ h := ⟨h.lt, by rw [round?_of_lt h.lt]; exact Option.some_ne_none _⟩
  ends := Tries.exists_endsAt .refl
  first _ h := ⟨h.tries.pow_lt, h.reaches⟩
  answers _ := EndsAt.answer?_eq

end ShiftSearch

/-- **The shift of a block size** is found by a search that stops and shifts no word too far. It is
the one exponent of a block size that is a power of two and 9 for every other, so it gives back the
block size of the powers of two alone. -/
theorem sectorShift_is_exponent (blockSize : UInt32) :
    ShiftSearch.Finds blockSize (sectorShift blockSize) ∧
      (blockSize.toNat.isPowerOfTwo → (sectorShift blockSize).toNat ≤ 31 ∧
        ∀ k, 2 ^ k = blockSize.toNat ↔ k = (sectorShift blockSize).toNat) ∧
      (¬ blockSize.toNat.isPowerOfTwo → sectorShift blockSize = 9) ∧
      (2 ^ (sectorShift blockSize).toNat = blockSize.toNat ↔
        blockSize.toNat.isPowerOfTwo) := by
  refine ⟨ShiftSearch.finds_shift blockSize, ?_, ?_, ?_⟩
  · rintro ⟨k, hk⟩
    have hshift := LogicalUnit.toNat_sectorShift_of_pow hk
    refine ⟨hshift ▸ Nat.le_of_lt_succ (exponent_lt_width hk), fun j => ⟨fun hj => ?_, ?_⟩⟩
    · exact (LogicalUnit.toNat_sectorShift_of_pow hj.symm).symm
    · rintro rfl
      rw [hshift]
      exact hk.symm
  · exact fun h => LogicalUnit.sectorShift_of_ne_pow fun k hk => h ⟨k, hk⟩
  · constructor
    · exact fun h => ⟨_, h.symm⟩
    · rintro ⟨k, hk⟩
      rw [LogicalUnit.toNat_sectorShift_of_pow hk]
      exact hk.symm

/-- Above the last power of two of a word it is the last shift that ends the search. -/
example : sectorShift 0x80000001 = 9 := by decide

end Scsi
