import Mathlib.Data.List.DropRight
import Scsi.Proofs.Response.Framing
import Scsi.Response.Inquiry

/-!
# Texts in fields

A text that a target put into a field, with any white space around it, is read back as it was. Of a
field with anything else in it, the text is what is left between the white space at its two ends,
with a question mark for every byte that is no character.

## Main definitions

* `FieldText.Trims space field text`: `text` is `field` without the white space at its ends
* `FieldText.characters field`: the characters of a field, one for each byte
* `FieldText.IsPlain text`, `FieldText.Pads text field`: texts that a field can hold, and fields
  that hold a text with white space around it
* `FieldText.IsTextOf field text`: what is asked of the text that is read from a field
* `Identity.IsFilled bs vendor product revision`: INQUIRY data whose fields hold given texts

## Main results

* `FieldText.Trims.unique`: what is left of a field is one list
* `FieldText.read_eq_iff`: the text that is read is what is left of the characters
* `FieldText.read_of_pads`: a plain text is read back from every field that it was put into
* `Identity.ofBytes_congr`: INQUIRY data are read from their first 36 bytes
* `Identity.texts_read_exactly`: the texts of INQUIRY data and the serial number
-/

namespace Scsi

namespace FieldText

/-! ## Trimming -/

section Trims

variable {α β : Type} {space : α → Prop} {space' : β → Prop} {field text : List α}

/-- The text is the field without the white space at its ends: what was taken away in front and
behind is white space, and the text neither begins nor ends with any. -/
structure Trims (space : α → Prop) (field text : List α) : Prop where
  around : ∃ before after, field = before ++ (text ++ after) ∧
    (∀ a ∈ before, space a) ∧ ∀ a ∈ after, space a
  first : ∀ a, text.head? = some a → ¬space a
  last : ∀ a, text.getLast? = some a → ¬space a

theorem Trims.eq_rdropWhile [DecidablePred space] (h : Trims space field text) :
    text = (field.dropWhile fun a => space a).rdropWhile fun a => space a := by
  obtain ⟨⟨before, after, rfl, hbefore, hafter⟩, hfirst, hlast⟩ := h
  have hblank : ∀ l : List α, (∀ a ∈ l, space a) → ∀ a ∈ l, decide (space a) = true :=
    fun l hl a ha => decide_eq_true (hl a ha)
  rw [List.dropWhile_append_of_pos (hblank before hbefore)]
  cases text with
  | nil =>
    -- there is nothing but white space
    rw [List.nil_append, List.dropWhile_eq_nil_iff.2 (hblank after hafter), List.rdropWhile_nil]
  | cons a rest =>
    have hstop : ¬decide (space a) = true := fun hspace => hfirst a rfl (of_decide_eq_true hspace)
    rw [List.cons_append, List.dropWhile_cons_of_neg (p := fun a => decide (space a)) hstop,
      ← List.cons_append, List.rdropWhile, List.reverse_append,
      List.dropWhile_append_of_pos fun b hb => hblank after hafter b (List.mem_reverse.1 hb)]
    -- from behind the text stops at its last element
    refine (List.rdropWhile_eq_self_iff.2 fun hne hspace => ?_).symm
    exact hlast _ (List.getLast?_eq_some_getLast hne) (of_decide_eq_true hspace)

/-- What is left of a field is one list. -/
theorem Trims.unique {text' : List α} (h : Trims space field text) (h' : Trims space field text') :
    text = text' := by
  classical
  rw [h.eq_rdropWhile, h'.eq_rdropWhile]

theorem Trims.length_le (h : Trims space field text) : text.length ≤ field.length := by
  obtain ⟨before, after, rfl, -, -⟩ := h.around
  simp only [List.length_append]
  omega

theorem Trims.map {f : α → β} (hf : ∀ a, space' (f a) ↔ space a) (h : Trims space field text) :
    Trims space' (field.map f) (text.map f) := by
  obtain ⟨⟨before, after, rfl, hbefore, hafter⟩, hfirst, hlast⟩ := h
  refine ⟨⟨before.map f, after.map f, ?_, ?_, ?_⟩, ?_, ?_⟩
  · simp only [List.map_append]
  · exact List.forall_mem_map.2 fun a ha => (hf a).2 (hbefore a ha)
  · exact List.forall_mem_map.2 fun a ha => (hf a).2 (hafter a ha)
  · intro b hb
    rw [List.head?_map, Option.map_eq_some_iff] at hb
    obtain ⟨a, ha, rfl⟩ := hb
    exact mt (hf a).1 (hfirst a ha)
  · intro b hb
    rw [List.getLast?_map, Option.map_eq_some_iff] at hb
    obtain ⟨a, ha, rfl⟩ := hb
    exact mt (hf a).1 (hlast a ha)

end Trims

/-! ## White space and characters -/

/-- The number is that of an ASCII character for white space: tab to carriage return, and space. -/
def IsSpace (n : Nat) : Prop := (9 ≤ n ∧ n ≤ 13) ∨ n = 32

instance : DecidablePred IsSpace := fun n => inferInstanceAs (Decidable ((9 ≤ n ∧ n ≤ 13) ∨ n = 32))

/-- The characters of a field: one for each byte, a question mark outside ASCII. -/
def characters (field : Bytes) : List Char :=
  field.map fun b => if b.toNat < 128 then Char.ofNat b.toNat else '?'

theorem isBlank_iff {b : UInt8} : isBlank b = true ↔ IsSpace b.toNat := by
  have hspace : b = 0x20 ↔ b.toNat = 32 := UInt8.toNat_inj.symm
  simp only [isBlank, IsSpace, Bool.or_eq_true, Bool.and_eq_true, decide_eq_true_eq, beq_iff_eq,
    UInt8.le_iff_toNat_le, hspace]
  rfl

theorem character_eq (b : UInt8) :
    character b = if b.toNat < 128 then Char.ofNat b.toNat else '?' := by
  unfold character
  simp only [UInt8.lt_iff_toNat_lt]
  rfl

theorem characters_eq_map (field : Bytes) : characters field = field.map character :=
  List.map_congr_left fun b _ => (character_eq b).symm

/-- A character of ASCII has the number of its byte. -/
theorem toNat_ofNat_of_lt {n : Nat} (h : n < 128) : (Char.ofNat n).toNat = n := by
  have hvalid : n.isValidChar := .inl (by omega)
  rw [Char.ofNat, dif_pos hvalid]
  rfl

theorem toNat_character_lt (b : UInt8) : (character b).toNat < 128 := by
  rw [character_eq]
  split
  · next h => rwa [toNat_ofNat_of_lt h]
  · decide

/-- A byte is white space if its character is. -/
theorem isSpace_character_iff (b : UInt8) :
    IsSpace (character b).toNat ↔ IsSpace b.toNat := by
  rw [character_eq]
  split
  · next h => rw [toNat_ofNat_of_lt h]
  · next h =>
    -- neither a question mark nor a byte outside ASCII is white space
    refine iff_of_false (by decide) ?_
    unfold IsSpace
    omega

/-! ## The text of a field -/

theorem trims_trimmed (field : Bytes) :
    Trims (fun b : UInt8 => IsSpace b.toNat) field (trimmed field) := by
  have hfront : trimmed field <+: field.dropWhile isBlank :=
    List.rdropWhile_prefix isBlank (l := field.dropWhile isBlank)
  refine ⟨⟨field.takeWhile isBlank, (field.dropWhile isBlank).rtakeWhile isBlank, ?_, ?_, ?_⟩,
    ?_, ?_⟩
  · have hback : trimmed field ++ (field.dropWhile isBlank).rtakeWhile isBlank =
        field.dropWhile isBlank := List.rdropWhile_append_rtakeWhile
    rw [hback, List.takeWhile_append_dropWhile]
  · exact fun b hb => isBlank_iff.1 (List.mem_takeWhile_imp hb)
  · exact fun b hb => isBlank_iff.1 (List.mem_rtakeWhile_imp hb)
  · intro b hb
    -- the text begins where the field without its front does
    have hhead : (field.dropWhile isBlank).head? = some b := by
      obtain ⟨rest, hrest⟩ := hfront
      rw [← hrest, List.head?_append, hb]
      rfl
    have hstop := List.head?_dropWhile_not isBlank field
    rw [hhead] at hstop
    rw [← isBlank_iff, hstop]
    decide
  · intro b hb
    obtain ⟨hne, rfl⟩ := List.mem_getLast?_eq_getLast hb
    rw [← isBlank_iff]
    exact List.rdropWhile_last_not isBlank (field.dropWhile isBlank) hne

/-- **The text that is read is what is left of the characters** of the field. -/
theorem read_eq_iff {field : Bytes} {text : String} :
    read field = text ↔ Trims (fun c : Char => IsSpace c.toNat) (characters field) text.toList := by
  have hread : Trims (fun c : Char => IsSpace c.toNat) (characters field) (read field).toList := by
    rw [characters_eq_map, read, String.toList_ofList]
    exact (trims_trimmed field).map isSpace_character_iff
  constructor
  · rintro rfl
    exact hread
  · intro h
    exact String.toList_injective (hread.unique h)

theorem toNat_lt_of_mem_read {field : Bytes} {c : Char} (h : c ∈ (read field).toList) :
    c.toNat < 128 := by
  rw [read, String.toList_ofList] at h
  obtain ⟨b, -, rfl⟩ := List.mem_map.1 h
  exact toNat_character_lt b

/-! ## Texts that are put into a field -/

/-- The bytes of an ASCII text. -/
def write (text : String) : Bytes := text.toList.map fun c => UInt8.ofNat c.toNat

/-- The text is ASCII and has no white space at its ends. -/
structure IsPlain (text : String) : Prop where
  ascii : ∀ c ∈ text.toList, c.toNat < 128
  first : ∀ c, text.toList.head? = some c → ¬IsSpace c.toNat
  last : ∀ c, text.toList.getLast? = some c → ¬IsSpace c.toNat

/-- The field holds the text with white space on either or both sides of it. -/
def Pads (text : String) (field : Bytes) : Prop :=
  ∃ before after, field = before ++ (write text ++ after) ∧
    (∀ b ∈ before, IsSpace b.toNat) ∧ ∀ b ∈ after, IsSpace b.toNat

/-- The characters of a written text are its own. -/
theorem map_character_write {text : String} (h : ∀ c ∈ text.toList, c.toNat < 128) :
    (write text).map character = text.toList := by
  rw [write, List.map_map]
  refine (List.map_congr_left fun c hc => ?_).trans (List.map_id _)
  have hbyte : (UInt8.ofNat c.toNat).toNat = c.toNat := by
    rw [UInt8.toNat_ofNat']
    exact Nat.mod_eq_of_lt (Nat.lt_trans (h c hc) (by decide))
  show character (UInt8.ofNat c.toNat) = c
  rw [character_eq, hbyte, if_pos (h c hc), Char.ofNat_toNat]

/-- **A plain text is read back** from every field that it was put into. -/
theorem read_of_pads {text : String} {field : Bytes} (htext : IsPlain text)
    (hfield : Pads text field) : read field = text := by
  obtain ⟨before, after, rfl, hbefore, hafter⟩ := hfield
  refine read_eq_iff.2 ⟨⟨before.map character, after.map character, ?_, ?_, ?_⟩,
    htext.first, htext.last⟩
  · rw [characters_eq_map, List.map_append, List.map_append, map_character_write htext.ascii]
  · exact List.forall_mem_map.2 fun b hb => (isSpace_character_iff b).2 (hbefore b hb)
  · exact List.forall_mem_map.2 fun b hb => (isSpace_character_iff b).2 (hafter b hb)

/-- What is asked of the text that is read from a field: it is ASCII, no longer than the field, and
the one thing that is left of the characters of the field without the white space at their ends. -/
structure IsTextOf (field : Bytes) (text : String) : Prop where
  ascii : ∀ c ∈ text.toList, c.toNat < 128
  length : text.length ≤ field.length
  trims : ∀ left, Trims (fun c : Char => IsSpace c.toNat) (characters field) left ↔
    left = text.toList

theorem isTextOf_read (field : Bytes) : IsTextOf field (read field) where
  ascii _ hc := toNat_lt_of_mem_read hc
  length := by
    have h := (read_eq_iff.1 (rfl : read field = read field)).length_le
    rwa [characters, List.length_map, String.length_toList] at h
  trims left := by
    have h := read_eq_iff.1 (rfl : read field = read field)
    constructor
    · exact fun hleft => hleft.unique h
    · rintro rfl
      exact h

end FieldText

/-! ## Texts of INQUIRY data -/

namespace Identity

open FieldText ProductData

theorem ofBytes_append {bs : Bytes} (h : Inquiry.minimumSize ≤ bs.length) (rest : Bytes) :
    ofBytes (bs ++ rest) = ofBytes bs := by
  have hlength : ¬(bs ++ rest).length < Inquiry.minimumSize := by
    rw [List.length_append]
    exact Nat.not_lt_of_le (Nat.le_add_right_of_le h)
  have hbyte {i : Nat} (hi : i < Inquiry.minimumSize) : (bs ++ rest).byteAt i = bs.byteAt i :=
    Bytes.byteAt_append (Nat.lt_of_lt_of_le hi h) rest
  have hslice {i len : Nat} (hend : i + len ≤ Inquiry.minimumSize) :
      (bs ++ rest).slice i len = bs.slice i len :=
    Bytes.slice_append_of_le (Nat.le_trans hend h) rest
  unfold ofBytes Inquiry.deviceType Inquiry.removable
  rw [if_neg hlength, if_neg (Nat.not_lt_of_le h), hbyte (i := 0) (by decide),
    hbyte (i := 1) (by decide), hbyte (i := 2) (by decide), hbyte (i := 3) (by decide),
    hbyte (i := 4) (by decide), hslice (i := 8) (by decide), hslice (i := 16) (by decide),
    hslice (i := 32) (by decide)]

/-- INQUIRY data are read from their first 36 bytes. -/
theorem ofBytes_congr {bs bs' : Bytes} (h : 36 ≤ bs.length) (hsame : bs'.take 36 = bs.take 36) :
    ofBytes bs' = ofBytes bs := by
  have hfront : Inquiry.minimumSize ≤ (bs.take 36).length := by
    rw [List.length_take]
    exact Nat.le_min.2 ⟨Nat.le_refl _, h⟩
  rw [← List.take_append_drop 36 bs, ← List.take_append_drop 36 bs', hsame, ofBytes_append hfront,
    ofBytes_append hfront]

/-- INQUIRY data whose fields for vendor, product and revision hold the given texts. -/
structure IsFilled (bs : Bytes) (vendor product revision : String) : Prop where
  size : 36 ≤ bs.length
  vendor : Pads vendor (bs.slice 8 8)
  product : Pads product (bs.slice 16 16)
  revision : Pads revision (bs.slice 32 4)

theorem exists_of_le {bs : Bytes} (h : 36 ≤ bs.length) :
    ∃ i, ofBytes bs = .ok i ∧ i.vendor = read (bs.slice 8 8) ∧
      i.product = read (bs.slice 16 16) ∧ i.revision = read (bs.slice 32 4) := by
  have hsize : ¬bs.length < Inquiry.minimumSize := Nat.not_lt_of_le h
  unfold ofBytes
  rw [if_neg hsize]
  exact ⟨_, rfl, rfl, rfl, rfl⟩

/-- **The texts of INQUIRY data and the serial number** are those that were put into their fields,
and otherwise what is left of the fields without white space at the ends. INQUIRY data are read if
there are 36 bytes, from these alone. -/
theorem texts_read_exactly (bs : Bytes) :
    ((∃ i, ofBytes bs = .ok i) ↔ 36 ≤ bs.length) ∧
      (∀ bs', 36 ≤ bs.length → bs'.take 36 = bs.take 36 → ofBytes bs' = ofBytes bs) ∧
      (∀ vendor product revision, IsPlain vendor → IsPlain product → IsPlain revision →
        IsFilled bs vendor product revision →
        ∃ i, ofBytes bs = .ok i ∧ i.vendor = vendor ∧ i.product = product ∧
          i.revision = revision) ∧
      (∀ i, ofBytes bs = .ok i → IsTextOf (bs.slice 8 8) i.vendor ∧
        IsTextOf (bs.slice 16 16) i.product ∧ IsTextOf (bs.slice 32 4) i.revision) ∧
      (∀ first field trailing serial, field.length ≤ 65535 → IsPlain serial → Pads serial field →
        unitSerial (sent first 0x80 field ++ trailing) = .ok serial) ∧
      ∀ serial, unitSerial bs = .ok serial → IsTextOf (bs.slice 4 (announced bs)) serial := by
  refine ⟨⟨?_, ?_⟩, fun bs' h hsame => ofBytes_congr h hsame, ?_, ?_, ?_, ?_⟩
  · rintro ⟨i, hi⟩
    exact ofBytes_isOk_iff.1 (by rw [hi]; rfl)
  · intro h
    obtain ⟨i, hi, -⟩ := exists_of_le h
    exact ⟨i, hi⟩
  · intro vendor product revision hvendor hproduct hrevision h
    obtain ⟨i, hi, hv, hp, hr⟩ := exists_of_le h.size
    exact ⟨i, hi, hv.trans (read_of_pads hvendor h.vendor),
      hp.trans (read_of_pads hproduct h.product), hr.trans (read_of_pads hrevision h.revision)⟩
  · intro i hi
    have hsize : 36 ≤ bs.length := ofBytes_isOk_iff.1 (by rw [hi]; rfl)
    obtain ⟨i', hi', hv, hp, hr⟩ := exists_of_le hsize
    obtain rfl := Except.ok.inj (hi.symm.trans hi')
    rw [hv, hp, hr]
    exact ⟨isTextOf_read _, isTextOf_read _, isTextOf_read _⟩
  · intro first field trailing serial hfield hplain hpads
    have hserial := (readsFramed_payload .unitSerial read).delivers first field trailing hfield
    rw [read_of_pads hplain hpads] at hserial
    exact hserial
  · intro serial hserial
    rw [(readsFramed_payload .unitSerial read).answers bs serial hserial]
    exact isTextOf_read _

end Identity

end Scsi
