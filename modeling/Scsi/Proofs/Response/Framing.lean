import Mathlib.Algebra.Group.Nat.Defs
import Scsi.Proofs.Bytes
import Scsi.Response.ProductData

/-!
# Framed pages

A page of vital product data says how long its payload is. What stands behind the payload is
therefore no part of it, and a page that was cut short is noticed. A reader takes the pages of its
code that are there in full, and no others, and looks at no byte that is not there.

## Main definitions

* `ProductData.sent first code payload`: a page as a target sends it
* `ProductData.IsFramed code bs`: the bytes begin with a page of the code, in full
* `ProductData.checkedPayload? code bs`: the payload, missing if an access left the bytes
* `ProductData.ReadsFramed code value read`: what is asked of a reader of the pages of a code

## Main results

* `ProductData.checkedPayload?_eq`: no access leaves the bytes
* `ProductData.payload_eq_ok_iff_sent`: a payload is read exactly from where it was sent
* `ProductData.eq_sent_of_isPrefix`: nothing is read from a page that was cut short
* `ProductData.pages_read_as_framed`: the readers of supported pages and of the serial number
-/

namespace Scsi.ProductData

/-! ## Pages -/

/-- A page as a target sends it: device type, page code, the length of the payload in two bytes, and
the payload. -/
def sent (first code : UInt8) (payload : Bytes) : Bytes :=
  first :: code :: (Bytes.bigEndian 2 payload.length ++ payload)

/-- The length that the bytes 2 and 3 announce. -/
def announced (bs : Bytes) : Nat := 256 * (bs.byteAt 2).toNat + (bs.byteAt 3).toNat

/-- The bytes begin with a page of the code: its header is there, and as many bytes behind it as the
header announces. -/
structure IsFramed (code : UInt8) (bs : Bytes) : Prop where
  header : 4 ≤ bs.length
  code : bs.byteAt 1 = code
  payload : 4 + announced bs ≤ bs.length

theorem length_sent (first code : UInt8) (payload : Bytes) :
    (sent first code payload).length = 4 + payload.length := by
  simp only [sent, List.length_cons, List.length_append, Bytes.length_bigEndian]
  omega

theorem exists_header {bs : Bytes} (h : headerSize ≤ bs.length) :
    ∃ first code high low rest, bs = first :: code :: high :: low :: rest := by
  unfold headerSize at h
  rcases bs with _ | ⟨first, _ | ⟨code, _ | ⟨high, _ | ⟨low, rest⟩⟩⟩⟩
  case cons.cons.cons.cons => exact ⟨first, code, high, low, rest, rfl⟩
  all_goals simp at h

/-- Where there is a header, it claims what it announces. -/
theorem claimedLength_eq {bs : Bytes} (h : headerSize ≤ bs.length) :
    claimedLength bs = announced bs := by
  obtain ⟨first, code, high, low, rest, rfl⟩ := exists_header h
  show 256 * (256 * 0 + high.toNat) + low.toNat = 256 * high.toNat + low.toNat
  omega

/-- A header announces the length of the payload that it was sent with, if two bytes can say it. -/
theorem announced_sent {first code : UInt8} {payload : Bytes} (h : payload.length ≤ 65535)
    (trailing : Bytes) : announced (sent first code payload ++ trailing) = payload.length := by
  have hheader : headerSize ≤ (sent first code payload ++ trailing).length := by
    rw [List.length_append, length_sent]
    exact Nat.le_add_right_of_le (Nat.le_add_right 4 _)
  have hfield : (sent first code payload ++ trailing).slice 2 2 =
      Bytes.bigEndian 2 payload.length := by
    show Bytes.slice ([first, code] ++ (Bytes.bigEndian 2 payload.length ++ payload) ++ trailing)
      2 2 = _
    rw [List.append_assoc, List.append_assoc]
    exact Bytes.slice_append rfl (Bytes.length_bigEndian 2 _) _
  have hsmall : payload.length < 256 ^ 2 := Nat.lt_of_le_of_lt h (by decide)
  rw [← claimedLength_eq hheader, claimedLength, hfield, Bytes.number_bigEndian_of_lt hsmall]

theorem slice_sent (first code : UInt8) (payload trailing : Bytes) :
    (sent first code payload ++ trailing).slice 4 payload.length = payload := by
  have hsent : sent first code payload ++ trailing =
      ([first, code] ++ Bytes.bigEndian 2 payload.length) ++ (payload ++ trailing) := by
    simp only [sent, List.cons_append, List.nil_append, List.append_assoc]
  rw [hsent]
  exact Bytes.slice_append (by simp) rfl trailing

theorem announced_le (bs : Bytes) : announced bs ≤ 65535 := by
  have hhigh := (bs.byteAt 2).toNat_lt
  have hlow := (bs.byteAt 3).toNat_lt
  unfold announced
  omega

/-- What is framed was sent so, with something behind it. -/
theorem IsFramed.eq_sent {code : UInt8} {bs : Bytes} (h : IsFramed code bs) :
    bs = sent (bs.byteAt 0) code (bs.slice 4 (announced bs)) ++ bs.drop (4 + announced bs) := by
  have hlength : (bs.slice 4 (announced bs)).length = announced bs :=
    Bytes.length_slice_of_le h.payload
  have hclaimed : claimedLength bs = announced bs := claimedLength_eq h.header
  obtain ⟨first, actual, high, low, rest, rfl⟩ := exists_header h.header
  obtain rfl : actual = code := h.code
  have hfield : Bytes.bigEndian 2 (announced (first :: actual :: high :: low :: rest)) =
      [high, low] := by
    rw [← hclaimed]
    exact Bytes.bigEndian_number [high, low]
  rw [sent, hlength, hfield, Nat.add_comm 4]
  show _ = first :: actual :: high :: low :: (rest.take _ ++ rest.drop _)
  rw [List.take_append_drop]

/-! ## Accesses -/

/-- The payload of a page of the code, missing if one of the accesses that this takes left the
bytes. -/
def checkedPayload? (code : UInt8) (bs : Bytes) : Option (Except ResponseError Bytes) :=
  if bs.length < headerSize then some (.error (.vitalProductDataTooShort bs.length))
  else do
    let actual ← bs[1]?
    let high ← bs[2]?
    let low ← bs[3]?
    let length := 256 * high.toNat + low.toNat
    if bs.length < headerSize + length then
      some (.error (.vitalProductDataTruncated length (bs.length - headerSize)))
    else do
      let payload ← bs.range? headerSize (headerSize + length)
      some (if actual = code then .ok payload else .error (.wrongPage code actual))

/-- **No access leaves the bytes**, whatever they are: with every access checked, the payload is
what it is without the checks. -/
theorem checkedPayload?_eq (page : VpdPage) (bs : Bytes) :
    checkedPayload? page.code bs = some (payload page bs) := by
  unfold checkedPayload? payload frame
  by_cases hshort : bs.length < headerSize
  · rw [if_pos hshort, if_pos hshort]
  -- behind the first check there are four bytes to look at
  have hheader : headerSize ≤ bs.length := Nat.le_of_not_lt hshort
  rw [if_neg hshort, if_neg hshort, claimedLength_eq hheader,
    Bytes.getElem?_of_lt (Nat.lt_of_lt_of_le (by decide : 1 < headerSize) hheader),
    Bytes.getElem?_of_lt (Nat.lt_of_lt_of_le (by decide : 2 < headerSize) hheader),
    Bytes.getElem?_of_lt (Nat.lt_of_lt_of_le (by decide : 3 < headerSize) hheader)]
  have hlength : 256 * (bs.byteAt 2).toNat + (bs.byteAt 3).toNat = announced bs := rfl
  simp only [Option.bind_eq_bind, Option.bind_some, hlength]
  by_cases hcut : bs.length < headerSize + announced bs
  · rw [if_pos hcut, if_pos hcut]
  · have hrange : bs.range? headerSize (headerSize + announced bs) =
        some (bs.slice headerSize (announced bs)) := by
      unfold Bytes.range?
      rw [if_pos ⟨Nat.le_add_right _ _, Nat.le_of_not_lt hcut⟩, Nat.add_sub_cancel_left]
    rw [if_neg hcut, if_neg hcut, hrange]
    rfl

/-! ## What is read -/

/-- A payload is read if the page is there in full, and it is what the header announces. -/
theorem payload_eq_ok_iff {page : VpdPage} {bs data : Bytes} :
    payload page bs = .ok data ↔
      IsFramed page.code bs ∧ bs.slice 4 (announced bs) = data := by
  by_cases hshort : bs.length < headerSize
  · have hrefused : payload page bs = .error (.vitalProductDataTooShort bs.length) := by
      simp only [payload, frame, if_pos hshort]
    rw [hrefused]
    exact ⟨nofun, fun h => absurd h.1.header (Nat.not_le_of_lt hshort)⟩
  have hclaimed := claimedLength_eq (Nat.le_of_not_lt hshort)
  unfold payload
  cases hframe : frame bs with
  | error e =>
    -- whatever is framed would have been found
    refine ⟨nofun, fun ⟨h, hdata⟩ => ?_⟩
    have hok : frame bs = .ok (page.code, data) :=
      frame_eq_ok_iff.2 ⟨hclaimed ▸ h.payload, h.code, hclaimed ▸ hdata⟩
    rw [hframe] at hok
    exact nomatch hok
  | ok framed =>
    obtain ⟨code, found⟩ := framed
    obtain ⟨hlength, hcode, hfound⟩ := frame_eq_ok_iff.1 hframe
    rw [hclaimed] at hlength hfound
    dsimp only
    constructor
    · intro h
      split at h
      · next heq =>
        exact ⟨⟨Nat.le_of_not_lt hshort, hcode.trans heq, hlength⟩, hfound.trans (Except.ok.inj h)⟩
      · exact nomatch h
    · rintro ⟨h, hdata⟩
      rw [if_pos (hcode.symm.trans h.code)]
      exact congrArg Except.ok (hfound.symm.trans hdata)

/-- **A payload is read exactly from where it was sent**: behind a header of the page that says how
long it is, whatever follows. -/
theorem payload_eq_ok_iff_sent {page : VpdPage} {bs data : Bytes} :
    payload page bs = .ok data ↔
      data.length ≤ 65535 ∧ ∃ first trailing, bs = sent first page.code data ++ trailing := by
  rw [payload_eq_ok_iff]
  constructor
  · rintro ⟨hframed, rfl⟩
    refine ⟨?_, _, _, hframed.eq_sent⟩
    rw [Bytes.length_slice_of_le hframed.payload]
    exact announced_le bs
  · rintro ⟨hsmall, first, trailing, rfl⟩
    have hannounced : announced (sent first page.code data ++ trailing) = data.length :=
      announced_sent hsmall trailing
    have hlength : (sent first page.code data ++ trailing).length =
        4 + data.length + trailing.length := by
      rw [List.length_append, length_sent]
    refine ⟨⟨by omega, rfl, by omega⟩, ?_⟩
    rw [hannounced]
    exact slice_sent first page.code data trailing

/-- Nothing is read from a page that was cut short: the front of a page from which something is read
is the page. -/
theorem eq_sent_of_isPrefix {page : VpdPage} {first : UInt8} {data data' front : Bytes}
    (h : data.length ≤ 65535) (hfront : front <+: sent first page.code data)
    (hread : payload page front = .ok data') : front = sent first page.code data := by
  obtain ⟨h', first', trailing, rfl⟩ := payload_eq_ok_iff_sent.1 hread
  obtain ⟨rest, hrest⟩ := hfront
  -- the headers are the same, so the two payloads have one length and nothing is missing
  have hread' : announced (sent first' page.code data' ++ (trailing ++ rest)) = data'.length :=
    announced_sent h' (trailing ++ rest)
  have hsent : announced (sent first page.code data ++ []) = data.length := announced_sent h []
  have hlength : data'.length = data.length := by
    rw [← hread', ← hsent, ← List.append_assoc, hrest, List.append_nil]
  have hnone : rest.length = 0 := by
    have hcount := congrArg List.length hrest
    simp only [List.length_append, length_sent] at hcount
    omega
  rw [← hrest, List.eq_nil_of_length_eq_zero hnone, List.append_nil]

/-! ## Readers -/

/-- What is asked of a reader of the pages of a code, if `value` is what it makes of a payload. -/
structure ReadsFramed {α : Type} (code : UInt8) (value : Bytes → α)
    (read : Bytes → Except ResponseError α) : Prop where
  /-- No access leaves the bytes. -/
  within : ∀ bs, (checkedPayload? code bs).map (Except.map value) = some (read bs)
  /-- The pages that are there in full are read, and no others. -/
  accepts : ∀ bs, (∃ a, read bs = .ok a) ↔ IsFramed code bs
  /-- What is read are the bytes that the header announces. -/
  answers : ∀ bs a, read bs = .ok a → a = value (bs.slice 4 (announced bs))
  /-- A payload that was sent is read, whatever stands in front of the code and behind the page. -/
  delivers : ∀ first payload trailing, payload.length ≤ 65535 →
    read (sent first code payload ++ trailing) = .ok (value payload)
  /-- A page that was cut short is refused. -/
  refuses : ∀ first payload front, payload.length ≤ 65535 → front <+: sent first code payload →
    front ≠ sent first code payload → ∃ e, read front = .error e

theorem readsFramed_payload {α : Type} (page : VpdPage) (value : Bytes → α) :
    ReadsFramed page.code value fun bs => (payload page bs).map value where
  within bs := by rw [checkedPayload?_eq, Option.map_some]
  accepts bs := by
    constructor
    · rintro ⟨a, ha⟩
      cases hread : payload page bs with
      | error e => rw [hread] at ha; exact nomatch ha
      | ok data => exact (payload_eq_ok_iff.1 hread).1
    · intro h
      exact ⟨_, congrArg (Except.map value) (payload_eq_ok_iff.2 ⟨h, rfl⟩)⟩
  answers bs a ha := by
    cases hread : payload page bs with
    | error e => rw [hread] at ha; exact nomatch ha
    | ok data =>
      rw [hread] at ha
      rw [(payload_eq_ok_iff.1 hread).2]
      exact (Except.ok.inj ha).symm
  delivers first data trailing h :=
    congrArg (Except.map value) (payload_eq_ok_iff_sent.2 ⟨h, first, trailing, rfl⟩)
  refuses first data front h hfront hne := by
    cases hread : payload page front with
    | error e => exact ⟨e, rfl⟩
    | ok data' => exact absurd (eq_sent_of_isPrefix h hfront hread) hne

/-- **The supported pages and the serial number** are read from the pages that are there in full. -/
theorem pages_read_as_framed :
    ReadsFramed 0x00 id supportedPages ∧ ReadsFramed 0x80 FieldText.read unitSerial := by
  refine ⟨?_, readsFramed_payload .unitSerial FieldText.read⟩
  have hsame : supportedPages = fun bs => (payload .supportedPages bs).map id :=
    funext fun bs => congrFun Except.map_id.symm (payload .supportedPages bs)
  rw [hsame]
  exact readsFramed_payload .supportedPages id

/-- A serial number behind which the buffer was not emptied. -/
example : unitSerial (sent 5 0x80 [0x53, 0x4E, 0x34, 0x32, 0x20] ++ [0xFF, 0x20]) = .ok "SN42" := by
  rfl

end Scsi.ProductData
