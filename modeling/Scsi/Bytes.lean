/-!
# Bytes

A command block, a sense buffer, a reply and a data buffer are lists of bytes. Numbers in them are
written most significant byte first.

## Main definitions

* `Bytes`: a list of bytes
* `Bytes.bigEndian width n`: the number `n` in `width` bytes, most significant byte first
* `Bytes.number bs`: the number that `bs` writes, most significant byte first
* `Bytes.byteAt bs i`: the byte at an index, zero past the end
* `Bytes.slice bs start len`: the part of `bs` from `start` on, at most `len` bytes
* `Bytes.overlay new old`: `old` with `new` written over its front, at the length of `old`
* `Bytes.placed offset new old`: `old` with `new` written over it from an offset on

## Main results

* `Bytes.length_bigEndian`, `Bytes.length_overlay`: the lengths
* `Bytes.bigEndian_number`: writing the number that was read gives the bytes
-/

namespace Scsi

/-- A list of bytes. -/
abbrev Bytes := List UInt8

namespace Bytes

/-! ## Numbers -/

/-- The last `width` base-256 digits of a number, most significant first. -/
def bigEndian : (width : Nat) → (n : Nat) → Bytes
  | 0, _ => []
  | width + 1, n => bigEndian width (n / 256) ++ [UInt8.ofNat n]

/-- The number that the bytes write in base 256, most significant first. -/
def number (bs : Bytes) : Nat :=
  bs.foldl (fun n b => 256 * n + b.toNat) 0

@[simp] theorem length_bigEndian (width n : Nat) : (bigEndian width n).length = width := by
  induction width generalizing n with
  | zero => rfl
  | succ width ih => simp [bigEndian, ih]

@[simp] theorem number_nil : number [] = 0 := rfl

@[simp] theorem number_concat (bs : Bytes) (b : UInt8) :
    number (bs ++ [b]) = 256 * number bs + b.toNat := by
  simp [number, List.foldl_append]

/-- Every list is empty or a list followed by a last byte. -/
theorem eq_nil_or_concat (bs : Bytes) : bs = [] ∨ ∃ front b, bs = front ++ [b] := by
  rcases List.eq_nil_or_concat bs with h | ⟨front, b, h⟩
  · exact .inl h
  · exact .inr ⟨front, b, by simp [h]⟩

theorem bigEndian_number (bs : Bytes) : bigEndian bs.length (number bs) = bs := by
  generalize hn : bs.length = width
  induction width generalizing bs with
  | zero => simp [bigEndian, List.eq_nil_of_length_eq_zero hn]
  | succ width ih =>
    obtain rfl | ⟨front, b, rfl⟩ := eq_nil_or_concat bs
    · simp at hn
    · have hfront : front.length = width := by simpa using hn
      have hb := b.toNat_lt
      have hdiv : (256 * number front + b.toNat) / 256 = number front := by omega
      have hlast : UInt8.ofNat (256 * number front + b.toNat) = b := by
        apply UInt8.toNat.inj
        rw [UInt8.toNat_ofNat']
        omega
      rw [number_concat, bigEndian, hdiv, hlast, ih front hfront]

/-! ## Parts -/

/-- The byte at an index, zero past the end. -/
def byteAt (bs : Bytes) (i : Nat) : UInt8 := bs.getD i 0

/-- At most `len` bytes from `start` on. -/
def slice (bs : Bytes) (start len : Nat) : Bytes := (bs.drop start).take len

/-- The old bytes with the new ones written over their front; new bytes past the old length have
no place and are dropped. -/
def overlay (new old : Bytes) : Bytes := new.take old.length ++ old.drop new.length

@[simp] theorem length_overlay (new old : Bytes) : (overlay new old).length = old.length := by
  simp [overlay]
  omega

theorem overlay_self_length {new old : Bytes} (h : new.length = old.length) :
    overlay new old = new := by
  simp [overlay, ← h]

/-- The old bytes with the new ones written over them from an offset on; new bytes past the old length
have no place and are dropped. -/
def placed : (offset : Nat) → (new old : Bytes) → Bytes
  | _, _, [] => []
  | 0, [], old => old
  | 0, b :: new, _ :: old => b :: placed 0 new old
  | offset + 1, new, b :: old => b :: placed offset new old

@[simp] theorem length_placed (offset : Nat) (new old : Bytes) :
    (placed offset new old).length = old.length := by
  fun_induction placed offset new old with
  | case1 => rfl
  | case2 => rfl
  | case3 b new _ old ih => rw [List.length_cons, List.length_cons, ih]
  | case4 offset new b old ih => rw [List.length_cons, List.length_cons, ih]

/-- `n` zero bytes. -/
def zeros (n : Nat) : Bytes := List.replicate n 0

@[simp] theorem length_zeros (n : Nat) : (zeros n).length = n := by simp [zeros]

end Bytes

end Scsi
