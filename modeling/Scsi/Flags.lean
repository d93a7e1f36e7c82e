import Scsi.Text.Layout

/-!
# Flag sets

A set of flags is kept as the bits that carry it. A kind of flag set gives a name to its lowest
bits, from bit 0 up; bits without a name are kept but never named.

## Main definitions

* `FlagKind`: the name of a kind of flag set and the names of its flags
* `Flags kind`: a set of flags of that kind
* `Flags.single`, `Flags.union`, `Flags.contains`: one flag, union and inclusion
* `Flags.known`: the bits that have a name; `Flags.truncate` keeps only these and `Flags.checked?`
  refuses others
* `Flags.text`: the names of the flags that are set

## Main results

* `Flags.contains_union_right`: a union contains its second part
* `Flags.union_single_congr`: where a flag is added anyway, it does not matter who had it
* `Flags.checked?_eq_some_iff`: a set is accepted exactly if truncation does not change it
-/

namespace Scsi

/-- A kind of flag set: its name, and the names of its flags from bit 0 up. -/
structure FlagKind where
  title : String
  names : List String
deriving DecidableEq

/-- A set of flags of one kind, as the bits that carry it. -/
structure Flags (kind : FlagKind) where
  bits : UInt32
deriving DecidableEq

namespace Flags

variable {kind : FlagKind}

/-- The empty set. -/
def empty : Flags kind := ⟨0⟩

instance : Inhabited (Flags kind) := ⟨empty⟩

/-- The set of the one flag carried by bit `i`. -/
def single (i : Nat) : Flags kind := ⟨UInt32.ofNat (1 <<< i)⟩

/-- The flags of either set. -/
def union (a b : Flags kind) : Flags kind := ⟨a.bits ||| b.bits⟩

instance : Union (Flags kind) := ⟨union⟩

/-- Whether every flag of `b` is in `a`. -/
def contains (a b : Flags kind) : Bool := a.bits &&& b.bits == b.bits

/-- The bits that have a name. -/
def known (kind : FlagKind) : Flags kind := ⟨UInt32.ofNat (1 <<< kind.names.length - 1)⟩

/-- The set without its nameless bits. -/
def truncate (a : Flags kind) : Flags kind := ⟨a.bits &&& (known kind).bits⟩

/-- The set if all its bits have a name. -/
def checked? (a : Flags kind) : Option (Flags kind) := if a.truncate = a then some a else none

/-- The names of the flags in the set, lowest bit first. -/
def names (a : Flags kind) : List String :=
  (kind.names.zipIdx.filter fun entry => a.contains (single entry.2)).map Prod.fst

/-- The kind of the set and the names of its flags. -/
def text (a : Flags kind) : String := Layout.applied kind.title a.names "|"

@[simp] theorem bits_union (a b : Flags kind) : (a ∪ b).bits = a.bits ||| b.bits := rfl

@[ext] theorem ext_bits {a b : Flags kind} (h : a.bits = b.bits) : a = b := by
  cases a
  cases b
  exact congrArg mk h

/-- Taking the bits of `b` back out of `a ||| b` gives `b`. -/
theorem or_and_self (a b : UInt32) : (a ||| b) &&& b = b := by
  apply UInt32.eq_of_toBitVec_eq
  apply BitVec.eq_of_getLsbD_eq
  intro i _
  cases h : b.toBitVec.getLsbD i <;> simp [h]

/-- Flags that are in a set already change nothing. -/
theorem union_union_self (a b : Flags kind) : a ∪ b ∪ b = a ∪ b := by
  apply ext_bits
  rw [bits_union, bits_union, UInt32.or_assoc, UInt32.or_self]

/-- Two sets that agree apart from the flag carried by bit `i` are the same once it is added. -/
theorem union_single_congr {a b : Flags kind} {i : Nat}
    (h : ∀ j, j ≠ i → a.bits.toBitVec.getLsbD j = b.bits.toBitVec.getLsbD j) :
    a ∪ single i = b ∪ single i := by
  apply ext_bits
  apply UInt32.eq_of_toBitVec_eq
  apply BitVec.eq_of_getLsbD_eq
  intro j hj
  by_cases hji : j = i
  · subst hji
    have hset : (single j : Flags kind).bits.toBitVec.getLsbD j = true := by
      change (BitVec.ofNat 32 (1 <<< j)).getLsbD j = true
      rw [BitVec.getLsbD_ofNat, Nat.one_shiftLeft, Nat.testBit_two_pow_self, decide_eq_true hj, Bool.true_and]
    simp only [bits_union, UInt32.toBitVec_or, BitVec.getLsbD_or, hset, Bool.or_true]
  · simp only [bits_union, UInt32.toBitVec_or, BitVec.getLsbD_or, h j hji]

theorem contains_union_right (a b : Flags kind) : (a ∪ b).contains b = true := by
  simp [contains, or_and_self]

theorem checked?_eq_some_iff {a b : Flags kind} : a.checked? = some b ↔ a.truncate = a ∧ a = b := by
  simp [checked?]

end Flags

end Scsi
