import Scsi.Text.Hex

/-!
# Errors of responses

Why the bytes that a target sent cannot be read.

## Main definitions

* `ResponseError`: the reasons
* `ResponseError.message`: the wording
-/

namespace Scsi

/-- Why the bytes that a target sent cannot be read. -/
inductive ResponseError
  | inquiryTooShort (length : Nat)
  | vitalProductDataTooShort (length : Nat)
  | vitalProductDataTruncated (claimed present : Nat)
  | wrongPage (expected actual : UInt8)
  | capacity10TooShort (length : Nat)
  | capacity16TooShort (length : Nat)
  | senseTooShort (length : Nat)
deriving DecidableEq

/-- The reason in words. -/
def ResponseError.message : ResponseError → String
  | inquiryTooShort length => s!"INQUIRY buffer too short: {length}"
  | vitalProductDataTooShort length => s!"VPD buffer too short: {length}"
  | vitalProductDataTruncated claimed present =>
    s!"VPD truncated: header says {claimed} bytes, have {present}"
  | wrongPage expected actual =>
    "expected VPD page 0x" ++ Hex.upper 2 expected.toNat ++ ", got 0x" ++ Hex.upper 2 actual.toNat
  | capacity10TooShort length => s!"READ CAPACITY(10): need ≥ 8 bytes, got {length}"
  | capacity16TooShort length => s!"READ CAPACITY(16): need ≥ 12 bytes, got {length}"
  | senseTooShort length => s!"sense buffer too small: {length} < 18"

end Scsi
