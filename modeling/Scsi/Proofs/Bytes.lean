import Mathlib.Algebra.Group.Nat.Defs
import Scsi.Bytes

/-!
# Numbers, slices and overlays

What a number that was written is when it is read back, what a slice of a list of bytes is when the
list is put together, and how long it is.

## Main definitions

* `Bytes.range? bs start stop`: the bytes from `start` up to `stop`, if they are there

## Main results

* `Bytes.number_bigEndian`: reading back what was written gives the number modulo `256 ^ width`
* `Bytes.number_lt`: a number of `width` bytes is below `256 ^ width`
* `Bytes.slice_append`: a part of a list is the slice at its place
* `Bytes.slice_append_of_le`: a slice of a part is one of the whole
* `Bytes.take_overlay`: the front of an overlay is what was written there
* `Bytes.number_slice_lt`: the number in a slice is bounded by its length
* `Bytes.number_bigEndian_of_lt`: a number that its field is wide enough for is read back
-/

namespace Scsi.Bytes

theorem length_slice (bs : Bytes) (start len : Nat) :
    (slice bs start len).length = min len (bs.length - start) := by
  rw [slice, List.length_take, List.length_drop]

theorem length_slice_of_le {bs : Bytes} {start len : Nat} (h : start + len ≤ bs.length) :
    (slice bs start len).length = len := by
  rw [length_slice]
  omega

theorem number_bigEndian (width n : Nat) :
    number (bigEndian width n) = n % 256 ^ width := by
  induction width generalizing n with
  | zero => simp [bigEndian, Nat.mod_one]
  | succ width ih =>
    have last : (UInt8.ofNat n).toNat = n % 256 := UInt8.toNat_ofNat'
    have power : 256 ^ (width + 1) = 256 * 256 ^ width := Nat.mul_comm _ _
    rw [bigEndian, number_concat, ih, last, power, Nat.mod_mul]
    omega

theorem number_lt (bs : Bytes) : number bs < 256 ^ bs.length := by
  have h := number_bigEndian bs.length (number bs)
  rw [bigEndian_number] at h
  rw [h]
  exact Nat.mod_lt _ (Nat.pow_pos (by decide))

theorem number_slice_lt (bs : Bytes) (start len : Nat) :
    number (slice bs start len) < 256 ^ len := by
  refine Nat.lt_of_lt_of_le (number_lt _) (Nat.pow_le_pow_right (by decide) ?_)
  rw [length_slice]
  exact Nat.min_le_left _ _

/-- A number that its field is wide enough for is read back. -/
theorem number_bigEndian_of_lt {width n : Nat} (h : n < 256 ^ width) :
    number (bigEndian width n) = n := by
  rw [number_bigEndian, Nat.mod_eq_of_lt h]

theorem getElem?_of_lt {bs : Bytes} {i : Nat} (h : i < bs.length) : bs[i]? = some (byteAt bs i) := by
  rw [byteAt, List.getD_eq_getElem?_getD, List.getElem?_eq_getElem h]
  rfl

/-- A slice is one slice behind another. -/
theorem slice_add (bs : Bytes) (start len len' : Nat) :
    slice bs start (len + len') = slice bs start len ++ slice bs (start + len) len' := by
  rw [slice, slice, slice, List.take_add, List.drop_drop]

theorem slice_one {bs : Bytes} {i : Nat} (h : i < bs.length) : slice bs i 1 = [byteAt bs i] := by
  rw [slice, List.take_one, List.head?_drop, getElem?_of_lt h]
  rfl

/-- The bytes from `start` up to `stop`, if that is a range of the list. -/
def range? (bs : Bytes) (start stop : Nat) : Option Bytes :=
  if start ≤ stop ∧ stop ≤ bs.length then some (slice bs start (stop - start)) else none

theorem range?_zero {bs : Bytes} {n : Nat} (h : n ≤ bs.length) :
    bs.range? 0 n = some (bs.take n) :=
  if_pos ⟨Nat.zero_le n, h⟩

/-- A part of a list is the slice at its place. -/
theorem slice_append {front part : Bytes} {start len : Nat} (hstart : front.length = start)
    (hlen : part.length = len) (rest : Bytes) :
    slice (front ++ (part ++ rest)) start len = part := by
  subst hstart hlen
  rw [slice, List.drop_left, List.take_left]

/-- A slice of a part is one of the whole. -/
theorem slice_append_of_le {bs : Bytes} {start len : Nat} (h : start + len ≤ bs.length)
    (rest : Bytes) : slice (bs ++ rest) start len = slice bs start len := by
  have hrest : len ≤ (bs.drop start).length := by
    rw [List.length_drop]
    omega
  rw [slice, slice, List.drop_append_of_le_length (Nat.le_of_add_right_le h),
    List.take_append_of_le_length hrest]

theorem byteAt_append {bs : Bytes} {i : Nat} (h : i < bs.length) (rest : Bytes) :
    byteAt (bs ++ rest) i = byteAt bs i := by
  rw [byteAt, byteAt, List.getD_eq_getElem?_getD, List.getD_eq_getElem?_getD,
    List.getElem?_append_left h]

/-- What was written over the front is in front. -/
theorem take_overlay {n : Nat} {new old : Bytes} (hnew : n ≤ new.length) (hold : n ≤ old.length) :
    (overlay new old).take n = new.take n := by
  have hfront : n ≤ (new.take old.length).length := by
    rw [List.length_take]
    omega
  rw [overlay, List.take_append_of_le_length hfront, List.take_take, Nat.min_eq_left hold]

theorem overlay_take (new old : Bytes) : overlay (new.take old.length) old = overlay new old := by
  unfold overlay
  rw [List.take_take, Nat.min_self, List.length_take]
  rcases Nat.le_total old.length new.length with h | h
  · rw [Nat.min_eq_left h, List.drop_of_length_le h, List.drop_of_length_le (Nat.le_refl _)]
  · rw [Nat.min_eq_right h]

end Scsi.Bytes
