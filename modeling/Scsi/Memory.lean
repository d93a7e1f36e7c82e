import Scsi.Bytes

/-!
# Memory blocks

The private block of a host adapter: a block of bytes whose size is fixed when it is allocated.
Its bytes are packed; `Memory.toList` is the view in which it is reasoned about.

## Main definitions

* `Memory size`: a block of `size` bytes
* `Memory.zeros size`: a new block, all zero
* `Memory.read?`: the bytes of a range, if it lies in the block
* `Memory.write`: the block with bytes written at an index, unless they do not fit there

## Main results

* `Memory.toList_zeros`, `Memory.read?_eq`, `Memory.toList_write`: the operations in the view
* `Memory.ext_toList`: blocks with the same view are the same
-/

namespace Scsi

/-- A block of a fixed count of bytes. -/
structure Memory (size : Nat) where
  bytes : ByteArray
  size_bytes : bytes.size = size

namespace Memory

variable {size : Nat}

/-- The bytes of the block, in order. -/
def toList (m : Memory size) : Bytes := m.bytes.data.toList

@[simp] theorem length_toList (m : Memory size) : m.toList.length = size := m.size_bytes

theorem ext_toList {m m' : Memory size} (h : m.toList = m'.toList) : m = m' := by
  cases m
  cases m'
  congr 1
  exact ByteArray.ext (Array.toList_inj.mp h)

instance : DecidableEq (Memory size) := fun m m' =>
  if h : m.toList = m'.toList then isTrue (ext_toList h) else isFalse (fun e => h (e ▸ rfl))

/-- Packed zeros. -/
def packedZeros (size : Nat) : ByteArray := Nat.repeat (fun bytes => bytes.push 0) size .empty

theorem data_packedZeros (size : Nat) : (packedZeros size).data.toList = List.replicate size 0 := by
  induction size with
  | zero => rfl
  | succ size ih =>
    have step : packedZeros (size + 1) = (packedZeros size).push 0 := rfl
    rw [step, ByteArray.data_push, Array.toList_push, ih, List.replicate_succ']

/-- A new block, all zero. -/
def zeros (size : Nat) : Memory size where
  bytes := packedZeros size
  size_bytes := by
    have h := congrArg List.length (data_packedZeros size)
    simpa using h

@[simp] theorem toList_zeros (size : Nat) : (zeros size).toList = Bytes.zeros size :=
  data_packedZeros size

instance : Inhabited (Memory size) := ⟨zeros size⟩

/-- The `len` bytes from `start` on, if they lie in the block. -/
def read? (m : Memory size) (start len : Nat) : Option Bytes :=
  if start + len ≤ size then some (m.bytes.extract start (start + len)).data.toList else none

theorem read?_eq (m : Memory size) (start len : Nat) :
    m.read? start len =
      if start + len ≤ size then some (m.toList.slice start len) else none := by
  simp [read?, toList, Bytes.slice, List.extract_eq_take_drop]

/-- The block with bytes written from `start` on, unless they do not fit there. -/
def write (m : Memory size) (start : Nat) (bs : Bytes) : Memory size :=
  if h : start + bs.length ≤ size then
    { bytes := bs.toByteArray.copySlice 0 m.bytes start bs.length
      size_bytes := by
        have hm : m.bytes.data.size = size := m.size_bytes
        have hb : bs.toByteArray.data.size = bs.length := by simp
        change (ByteArray.copySlice _ _ _ _ _).data.size = size
        simp only [ByteArray.copySlice, Array.size_append, Array.size_extract, hm, hb]
        omega }
  else m

theorem toList_write (m : Memory size) (start : Nat) (bs : Bytes)
    (h : start + bs.length ≤ size) :
    (m.write start bs).toList =
      m.toList.take start ++ bs ++ m.toList.drop (start + bs.length) := by
  have hArray : bs.toArray.size = bs.length := by simp
  have hRest : (m.bytes.data.toList.drop (start + bs.length)).length ≤
      m.bytes.data.size - (start + bs.length) := by
    exact Nat.le_of_eq (by rw [List.length_drop, Array.length_toList])
  simp only [write, h, dite_true, toList, ByteArray.copySlice, Array.toList_append,
    Array.toList_extract, List.extract_eq_take_drop, List.data_toByteArray, hArray, Nat.sub_zero,
    Nat.zero_add, Nat.min_self, List.drop_zero, List.take_length, List.take_of_length_le hRest]

end Memory

end Scsi
