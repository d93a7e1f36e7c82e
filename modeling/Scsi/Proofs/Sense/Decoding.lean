import Scsi.Command.Basic
import Scsi.Proofs.Bytes
import Scsi.Sense.Fixed

/-!
# Two readings of sense

Sense is read in two ways: all fields of at least 18 bytes, or key, code and qualifier alone of at
least 14. The two agree wherever both read something, and no bit that a field has a place for is
lost. Sense that is written for a current error and stored with a command is read back in both ways,
whatever stands behind it.

## Main definitions

* `FixedSense.toBytes`: the bytes that fields stand for
* `FixedSense.Keeps f bs`: every bit of the bytes that a field has a place for is in the fields
* `Sense.IsCurrent s bs`: both readings of the bytes give the sense, as that of the current command

## Main results

* `FixedSense.toBytes_of_ofBytes?`: the bytes that the fields of given bytes stand for
* `Sense.ofBytes?_of_fixed`: the two readings agree
* `Sense.isCurrent_of_withSense`: written sense is read back from the command that it is stored with
* `Sense.readings_agree`: all of it
-/

namespace Scsi

/-- A key is a nibble. -/
theorem SenseKey.code_and (key : SenseKey) : key.code &&& 0x0F = key.code := by
  cases key with
  | reserved code =>
    show code &&& 0x0F &&& 0x0F = code &&& 0x0F
    rw [UInt8.and_assoc, UInt8.and_self]
  | _ => rfl

namespace FixedSense

/-! ## Bits -/

/-- The given bits of a byte, all of them or none. -/
def bits (mask : UInt8) (set : Bool) : UInt8 := if set then mask else 0

theorem join_low_bits (b : UInt8) : bits 0x80 (b &&& 0x80 != 0) ||| (b &&& 0x7F) = b := by
  have h : ∀ i : Fin 256, bits 0x80 (UInt8.ofNat i &&& 0x80 != 0) ||| (UInt8.ofNat i &&& 0x7F) =
      UInt8.ofNat i := by
    decide +kernel
  simpa using h ⟨b.toNat, b.toNat_lt⟩

/-- Of the byte with the key, bit 4 has no meaning. -/
theorem join_low_nibble (b : UInt8) :
    bits 0x80 (b &&& 0x80 != 0) ||| bits 0x40 (b &&& 0x40 != 0) ||| bits 0x20 (b &&& 0x20 != 0) |||
      (b &&& 0x0F) = b &&& 0xEF := by
  have h : ∀ i : Fin 256, bits 0x80 (UInt8.ofNat i &&& 0x80 != 0) |||
      bits 0x40 (UInt8.ofNat i &&& 0x40 != 0) ||| bits 0x20 (UInt8.ofNat i &&& 0x20 != 0) |||
      (UInt8.ofNat i &&& 0x0F) = UInt8.ofNat i &&& 0xEF := by
    decide +kernel
  simpa using h ⟨b.toNat, b.toNat_lt⟩

/-! ## Fields in bytes -/

/-- The bytes that the fields stand for, with zero for everything that no field has a place for. -/
def toBytes (f : FixedSense) : Bytes :=
  [bits 0x80 f.valid ||| f.responseCode, 0,
    bits 0x80 f.filemark ||| bits 0x40 f.endOfMedium ||| bits 0x20 f.incorrectLength |||
      f.senseKey] ++
    (Bytes.bigEndian 4 f.information.toNat ++ [f.additionalLength] ++
      Bytes.bigEndian 4 f.commandSpecific.toNat ++ [f.asc, f.ascq]) ++ Bytes.zeros 4

/-- A word stands for the four bytes that it was read from. -/
theorem bigEndian_word {bs : Bytes} {start : Nat} (h : start + 4 ≤ bs.length) :
    Bytes.bigEndian 4 (word bs start).toNat = bs.slice start 4 := by
  have hsmall : Bytes.number (bs.slice start 4) < UInt32.size := Bytes.number_slice_lt bs start 4
  have hword : (word bs start).toNat = Bytes.number (bs.slice start 4) := by
    rw [word, UInt32.toNat_ofNat']
    exact Nat.mod_eq_of_lt hsmall
  have hnumber := Bytes.bigEndian_number (bs.slice start 4)
  rwa [Bytes.length_slice_of_le h, ← hword] at hnumber

/-- **The bytes that the fields of given bytes stand for** are those bytes, up to the ones without a
field and the one bit without a meaning. -/
theorem toBytes_of_ofBytes? {bs : Bytes} {f : FixedSense} (h : ofBytes? bs = some f) :
    f.toBytes = [bs.byteAt 0, 0, bs.byteAt 2 &&& 0xEF] ++ bs.slice 3 11 ++ Bytes.zeros 4 := by
  unfold ofBytes? at h
  split at h
  · exact nomatch h
  next hlength =>
    have hsize : 18 ≤ bs.length := Nat.le_of_not_lt hlength
    obtain rfl := Option.some.inj h
    -- the bytes 3 to 13 are two words and three single bytes
    have hparts : bs.slice 3 11 =
        bs.slice 3 4 ++ [bs.byteAt 7] ++ bs.slice 8 4 ++ [bs.byteAt 12, bs.byteAt 13] := by
      rw [show 11 = 4 + 1 + 4 + 1 + 1 from rfl, Bytes.slice_add, Bytes.slice_add, Bytes.slice_add,
        Bytes.slice_add, Bytes.slice_one (i := 3 + 4) (by omega),
        Bytes.slice_one (i := 3 + (4 + 1 + 4)) (by omega),
        Bytes.slice_one (i := 3 + (4 + 1 + 4 + 1)) (by omega), List.append_assoc]
      rfl
    have hinformation : Bytes.bigEndian 4 (word bs 3).toNat = bs.slice 3 4 :=
      bigEndian_word (by omega)
    have hspecific : Bytes.bigEndian 4 (word bs 8).toNat = bs.slice 8 4 :=
      bigEndian_word (by omega)
    simp only [toBytes, join_low_bits, join_low_nibble, hinformation, hspecific, hparts]

/-- Every bit of the bytes that a field has a place for is in the fields: it comes back with the
bytes that the fields stand for. -/
structure Keeps (f : FixedSense) (bs : Bytes) : Prop where
  first : f.toBytes.byteAt 0 = bs.byteAt 0
  third : f.toBytes.byteAt 2 = bs.byteAt 2 &&& 0xEF
  rest : f.toBytes.slice 3 11 = bs.slice 3 11

theorem keeps_of_ofBytes? {bs : Bytes} {f : FixedSense} (h : ofBytes? bs = some f) :
    f.Keeps bs := by
  have hbytes := toBytes_of_ofBytes? h
  have hlong : ¬bs.length < size := fun hshort => by
    rw [ofBytes?_eq_none_iff.2 hshort] at h
    exact nomatch h
  have hslice : (bs.slice 3 11).length = 11 :=
    Bytes.length_slice_of_le (Nat.le_trans (by decide : 3 + 11 ≤ size) (Nat.le_of_not_lt hlong))
  refine ⟨by rw [hbytes]; rfl, by rw [hbytes]; rfl, ?_⟩
  rw [hbytes, List.append_assoc]
  exact Bytes.slice_append rfl hslice _

/-- Fields are read from the first 18 bytes. -/
theorem ofBytes?_append {bs : Bytes} (h : size ≤ bs.length) (rest : Bytes) :
    ofBytes? (bs ++ rest) = ofBytes? bs := by
  have hlength : ¬(bs ++ rest).length < size := by
    rw [List.length_append]
    exact Nat.not_lt_of_le (Nat.le_add_right_of_le h)
  have hbyte {i : Nat} (hi : i < size) : (bs ++ rest).byteAt i = bs.byteAt i :=
    Bytes.byteAt_append (Nat.lt_of_lt_of_le hi h) rest
  have hword {i : Nat} (hend : i + 4 ≤ size) : word (bs ++ rest) i = word bs i := by
    rw [word, word, Bytes.slice_append_of_le (Nat.le_trans hend h)]
  unfold ofBytes?
  rw [if_neg hlength, if_neg (Nat.not_lt_of_le h), hbyte (i := 0) (by decide),
    hbyte (i := 2) (by decide), hbyte (i := 7) (by decide), hbyte (i := 12) (by decide),
    hbyte (i := 13) (by decide), hword (i := 3) (by decide), hword (i := 8) (by decide)]

theorem ofBytes_eq_ok_iff {bs : Bytes} {f : FixedSense} :
    ofBytes bs = .ok f ↔ ofBytes? bs = some f := by
  unfold ofBytes
  cases ofBytes? bs with
  | none => exact ⟨nofun, nofun⟩
  | some g =>
    exact ⟨fun h => congrArg some (Except.ok.inj h),
      fun h => congrArg Except.ok (Option.some.inj h)⟩

end FixedSense

namespace Sense

/-! ## The two readings -/

/-- The two readings agree. -/
theorem ofBytes?_of_fixed {bs : Bytes} {f : FixedSense} (h : FixedSense.ofBytes? bs = some f) :
    ofBytes? bs = some f.sense := by
  unfold FixedSense.ofBytes? at h
  split at h
  · exact nomatch h
  next hlength =>
    have hsize : ¬bs.length < minimumSize := by
      unfold FixedSense.size at hlength
      unfold minimumSize
      omega
    obtain rfl := Option.some.inj h
    rw [ofBytes?, if_neg hsize]
    rfl

/-- Both readings of the bytes give the sense, as that of the current command. -/
structure IsCurrent (s : Sense) (bs : Bytes) : Prop where
  short : ofBytes? bs = some s
  full : ∃ f, FixedSense.ofBytes bs = .ok f ∧ f.sense = s ∧ f.isDeferred = false

/-- Sense that is written is read back, whatever stands behind it. -/
theorem isCurrent_append (key : SenseKey) (asc ascq : UInt8) (rest : Bytes) :
    IsCurrent ⟨key.code, asc, ascq⟩ (toBytes key asc ascq ++ rest) := by
  have hfields : FixedSense.ofBytes? (toBytes key asc ascq ++ rest) =
      FixedSense.ofBytes? (toBytes key asc ascq) :=
    FixedSense.ofBytes?_append (Nat.le_of_eq (length_toBytes key asc ascq).symm) rest
  obtain ⟨f, hf, hsense, hcode⟩ : ∃ f, FixedSense.ofBytes? (toBytes key asc ascq) = some f ∧
      f.sense = ⟨key.code &&& 0x0F &&& 0x0F, asc, ascq⟩ ∧
      f.responseCode = FixedSense.currentError &&& 0x7F := ⟨_, rfl, rfl, rfl⟩
  rw [key.code_and, key.code_and] at hsense
  rw [← hfields] at hf
  refine ⟨?_, f, FixedSense.ofBytes_eq_ok_iff.2 hf, hsense, ?_⟩
  · rw [ofBytes?_of_fixed hf, hsense]
  · rw [FixedSense.isDeferred, hcode]
    decide

/-- Written sense is read back from the command that it is stored with, whatever stands behind it:
what the command has no room for is not looked at. -/
theorem isCurrent_of_withSense (c : Command) (key : SenseKey) (asc ascq : UInt8)
    (trailing : Bytes) :
    IsCurrent ⟨key.code, asc, ascq⟩
      (c.withSense (toBytes key asc ascq ++ trailing)).sense.bytes := by
  have hstored : (c.withSense (toBytes key asc ascq ++ trailing)).sense.bytes =
      toBytes key asc ascq ++ trailing.take 14 := by
    rw [Command.withSense, SenseBuffer.bytes_store, List.take_append]
    rfl
  rw [hstored]
  exact isCurrent_append key asc ascq _

/-- **The two readings of sense agree** and lose nothing: all fields are read of at least 18 bytes,
key, code and qualifier of at least 14, with one result. Sense that is written for a current error
and stored with any command is read back in both ways, whatever stands behind it. -/
theorem readings_agree (bs : Bytes) :
    ((∃ f, FixedSense.ofBytes bs = .ok f) ↔ 18 ≤ bs.length) ∧
      ((∃ s, ofBytes? bs = some s) ↔ 14 ≤ bs.length) ∧
      (∀ f, FixedSense.ofBytes bs = .ok f → ofBytes? bs = some f.sense ∧ f.Keeps bs) ∧
      ∀ (c : Command) (key : SenseKey) (asc ascq : UInt8),
        IsCurrent ⟨key.code, asc, ascq⟩ (c.withSense (toBytes key asc ascq ++ bs)).sense.bytes := by
  refine ⟨?_, ?_, fun f hf => ?_, fun c key asc ascq => isCurrent_of_withSense c key asc ascq bs⟩
  · simp only [FixedSense.ofBytes_eq_ok_iff]
    rw [← Option.ne_none_iff_exists', ne_eq, FixedSense.ofBytes?_eq_none_iff, Nat.not_lt]
    rfl
  · rw [← Option.ne_none_iff_exists', ne_eq, ofBytes?_eq_none_iff, Nat.not_lt]
    rfl
  · have h := FixedSense.ofBytes_eq_ok_iff.1 hf
    exact ⟨ofBytes?_of_fixed h, FixedSense.keeps_of_ofBytes? h⟩

end Sense

end Scsi
