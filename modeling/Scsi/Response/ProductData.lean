import Scsi.Command.Cdb
import Scsi.Response.Error
import Scsi.Response.Text

/-!
# Vital product data

A page of vital product data is framed by four bytes: device type, page code and the length of the
payload in two bytes.

## Main definitions

* `ProductData.frame`: page code and payload of a page
* `ProductData.payload`: the payload of a page of a given code
* `ProductData.supportedPages`: the page codes that a unit supports
* `ProductData.unitSerial`: the serial number of a unit

## Main results

* `ProductData.frame_eq_ok_iff`: what is framed, and what stands behind it does not matter
-/

namespace Scsi.ProductData

/-- The count of bytes in front of the payload. -/
def headerSize : Nat := 4

/-- The length of the payload that the header claims. -/
def claimedLength (bs : Bytes) : Nat := Bytes.number (bs.slice 2 2)

/-- Page code and payload of a page. -/
def frame (bs : Bytes) : Except ResponseError (UInt8 × Bytes) :=
  if bs.length < headerSize then .error (.vitalProductDataTooShort bs.length)
  else if bs.length < headerSize + claimedLength bs then
    .error (.vitalProductDataTruncated (claimedLength bs) (bs.length - headerSize))
  else .ok (bs.byteAt 1, bs.slice headerSize (claimedLength bs))

/-- The payload of a page, if it is the expected one. -/
def payload (page : VpdPage) (bs : Bytes) : Except ResponseError Bytes :=
  match frame bs with
  | .error e => .error e
  | .ok (code, payload) =>
    if code = page.code then .ok payload else .error (.wrongPage page.code code)

/-- The page codes that a unit supports. -/
def supportedPages (bs : Bytes) : Except ResponseError Bytes := payload .supportedPages bs

/-- The serial number of a unit. -/
def unitSerial (bs : Bytes) : Except ResponseError String :=
  (payload .unitSerial bs).map FieldText.read

theorem frame_eq_ok_iff {bs : Bytes} {code : UInt8} {payload : Bytes} :
    frame bs = .ok (code, payload) ↔ headerSize + claimedLength bs ≤ bs.length ∧
      bs.byteAt 1 = code ∧ bs.slice headerSize (claimedLength bs) = payload := by
  unfold frame
  split
  · next h => simp; omega
  · split
    · next h => simp; omega
    · next h => simp; omega

end Scsi.ProductData
