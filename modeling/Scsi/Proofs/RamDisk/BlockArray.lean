import Scsi.Proofs.Bytes
import Scsi.Proofs.Session.Transfer
import Scsi.RamDisk.Basic

/-!
# Block arrays

What a disk is to its user: an array of blocks, with transfers that read some of them into a buffer
or write some of them from a buffer, and that are refused for one of four reasons.

## Main definitions

* `BlockArray`: an array of blocks
* `BlockArray.fault?`: why a transfer is refused
* `BlockArray.result`, `BlockArray.received`: the result of a transfer and its buffer afterwards
* `BlockArray.next`: the array after a transfer

## Main results

* `BlockArray.fault?_eq_none_iff`: which transfers are not refused
* `BlockArray.received_next`: what was written is read back
-/

namespace Scsi

/-- An array of blocks, as the bytes in them. -/
structure BlockArray where
  blockSize : Nat
  blocks : Nat
  bytes : Bytes
  length_bytes : bytes.length = blocks * blockSize

namespace BlockArray

variable (array : BlockArray) (t : Transfer)

/-- How many bytes the transfer moves. -/
def span : Nat := t.count.toNat * array.blockSize

/-- Where the transfer starts. -/
def start : Nat := t.block.toNat * array.blockSize

/-- Why the transfer is refused: its size does not fit 32 bits or its count the short form, its
buffer is too short, or it goes past the end of the array. -/
def fault? : Option Error :=
  if UInt32.size ≤ array.span t then some (.invalidRequest .transferTooLong)
  else if t.form = .ten ∧ UInt16.size ≤ t.count.toNat then some (.invalidRequest .countTooWide)
  else if t.buffer.length < array.span t then some (.invalidRequest .bufferTooShort)
  else if array.blocks < t.block.toNat + t.count.toNat then
    some (.checkCondition (some ⟨5, 0x21, 0x00⟩))
  else none

/-- The result of the transfer: how many bytes were moved, or why it was refused. -/
def result : Except Error UInt32 :=
  match array.fault? t with
  | some e => .error e
  | none => .ok (UInt32.ofNat (array.span t))

/-- The buffer after a read: the bytes of the blocks and what was behind them. -/
def received : Bytes :=
  match array.fault? t with
  | some _ => t.buffer
  | none => array.bytes.slice (array.start t) (array.span t) ++ t.buffer.drop (array.span t)

/-- What the handle answers to the transfer. -/
def answer : UnitAnswer :=
  match t.access with
  | .read => .filled (array.result t) (array.received t)
  | .write => .moved (array.result t)

/-- A transfer that is not refused lies in the array, and its buffer holds it. -/
theorem fault?_eq_none_iff {array : BlockArray} {t : Transfer} :
    array.fault? t = none ↔
      array.span t < UInt32.size ∧ (t.form = .ten → t.count.toNat < UInt16.size) ∧
        array.span t ≤ t.buffer.length ∧ t.block.toNat + t.count.toNat ≤ array.blocks := by
  unfold fault?
  -- one refusal after the other, in the order in which they are made
  by_cases hspan : UInt32.size ≤ array.span t
  · rw [if_pos hspan]
    exact ⟨(fun h => nomatch h), fun h => absurd h.1 (Nat.not_lt.2 hspan)⟩
  by_cases hform : t.form = .ten ∧ UInt16.size ≤ t.count.toNat
  · rw [if_neg hspan, if_pos hform]
    exact ⟨(fun h => nomatch h), fun h => absurd (h.2.1 hform.1) (Nat.not_lt.2 hform.2)⟩
  by_cases hbuffer : t.buffer.length < array.span t
  · rw [if_neg hspan, if_neg hform, if_pos hbuffer]
    exact ⟨(fun h => nomatch h), fun h => absurd hbuffer (Nat.not_lt.2 h.2.2.1)⟩
  by_cases hrange : array.blocks < t.block.toNat + t.count.toNat
  · rw [if_neg hspan, if_neg hform, if_neg hbuffer, if_pos hrange]
    exact ⟨(fun h => nomatch h), fun h => absurd hrange (Nat.not_lt.2 h.2.2.2)⟩
  · rw [if_neg hspan, if_neg hform, if_neg hbuffer, if_neg hrange]
    have hcount : t.form = .ten → t.count.toNat < UInt16.size :=
      fun h => Nat.not_le.1 fun hcount => hform ⟨h, hcount⟩
    exact ⟨fun _ => ⟨Nat.not_le.1 hspan, hcount, Nat.not_lt.1 hbuffer, Nat.not_lt.1 hrange⟩,
      fun _ => rfl⟩

/-- Of a transfer whose size fits and whose buffer holds it, only the end of the array is left to
refuse it. -/
theorem fault?_of_fits {array : BlockArray} {t : Transfer} (hspan : array.span t < UInt32.size)
    (hform : t.form = .ten → t.count.toNat < UInt16.size)
    (hbuffer : array.span t ≤ t.buffer.length) :
    array.fault? t =
      if array.blocks < t.block.toNat + t.count.toNat then
        some (.checkCondition (some ⟨5, 0x21, 0x00⟩))
      else none := by
  have hwide : ¬ (t.form = .ten ∧ UInt16.size ≤ t.count.toNat) := fun h =>
    Nat.not_le.2 (hform h.1) h.2
  rw [fault?, if_neg (Nat.not_le.2 hspan), if_neg hwide, if_neg (Nat.not_lt.2 hbuffer)]

theorem start_add_span_le {array : BlockArray} {t : Transfer} (h : array.fault? t = none) :
    array.start t + array.span t ≤ array.blocks * array.blockSize := by
  obtain ⟨-, -, -, hrange⟩ := fault?_eq_none_iff.1 h
  rw [start, span, ← Nat.add_mul]
  exact Nat.mul_le_mul_right _ hrange

/-- The array after a transfer: a write replaces the bytes of its blocks, and nothing else changes
anything. -/
def next : BlockArray :=
  match t.access, h : array.fault? t with
  | .write, none =>
    { array with
      bytes := array.bytes.take (array.start t) ++ t.buffer.take (array.span t) ++
        array.bytes.drop (array.start t + array.span t)
      length_bytes := by
        obtain ⟨-, -, hbuffer, -⟩ := fault?_eq_none_iff.1 h
        have hrange := start_add_span_le h
        have hlength := array.length_bytes
        simp only [List.length_append, List.length_take, List.length_drop]
        omega }
  | _, _ => array

variable {array t}

theorem next_of_fault {e : Error} (h : array.fault? t = some e) : array.next t = array := by
  unfold next
  split
  · next h' => exact nomatch h.symm.trans h'
  · rfl

theorem next_of_read (h : t.access = .read) : array.next t = array := by
  unfold next
  split
  · next haccess _ => exact nomatch h.symm.trans haccess
  · rfl

/-- A write that is not refused puts the front of its buffer in the place of its blocks. -/
theorem next_of_write (haccess : t.access = .write) (h : array.fault? t = none) :
    (array.next t).blockSize = array.blockSize ∧ (array.next t).blocks = array.blocks ∧
      (array.next t).bytes = array.bytes.take (array.start t) ++ t.buffer.take (array.span t) ++
        array.bytes.drop (array.start t + array.span t) := by
  unfold next
  split
  · exact ⟨rfl, rfl, rfl⟩
  · next hother => exact absurd h (hother haccess)

theorem result_of_fault {e : Error} (h : array.fault? t = some e) : array.result t = .error e := by
  rw [result, h]

theorem result_of_fits (h : array.fault? t = none) :
    array.result t = .ok (UInt32.ofNat (array.span t)) := by
  rw [result, h]

theorem received_of_fault {e : Error} (h : array.fault? t = some e) :
    array.received t = t.buffer := by
  rw [received, h]

theorem received_of_fits (h : array.fault? t = none) :
    array.received t =
      array.bytes.slice (array.start t) (array.span t) ++ t.buffer.drop (array.span t) := by
  rw [received, h]

/-- What was written to some blocks is read back from them. -/
theorem received_next {w r : Transfer} (haccess : w.access = .write) (hw : array.fault? w = none)
    (hr : (array.next w).fault? r = none) (hblock : r.block = w.block) (hcount : r.count = w.count) :
    (array.next w).received r =
      w.buffer.take (array.span w) ++ r.buffer.drop (array.span w) := by
  obtain ⟨hblockSize, -, hbytes⟩ := next_of_write haccess hw
  obtain ⟨-, -, hbuffer, -⟩ := fault?_eq_none_iff.1 hw
  -- a write leaves the size of blocks alone, so both transfers lie in the same place
  have hstart : (array.next w).start r = array.start w := by rw [start, start, hblockSize, hblock]
  have hspan : (array.next w).span r = array.span w := by rw [span, span, hblockSize, hcount]
  have hfront : (array.bytes.take (array.start w)).length = array.start w := by
    have hend := start_add_span_le hw
    have hlength := array.length_bytes
    rw [List.length_take]
    omega
  have hpart : (w.buffer.take (array.span w)).length = array.span w := by
    rw [List.length_take, Nat.min_eq_left hbuffer]
  rw [received_of_fits hr, hstart, hspan, hbytes, List.append_assoc,
    Bytes.slice_append hfront hpart]

variable (array)

/-- The array after a call of a bus. -/
def afterCall : Bus.Call RamDisk → BlockArray
  | .unit _ call =>
    match call.transfer? with
    | some t => array.next t
    | none => array
  | _ => array

/-- The array after some calls of a bus. -/
def after (calls : List (Bus.Call RamDisk)) : BlockArray := calls.foldl afterCall array

end BlockArray

end Scsi
