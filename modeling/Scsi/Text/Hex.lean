import Scsi.Bytes

/-!
# Hexadecimal text

How numbers and bytes are written in base 16 in log lines, error texts and record texts, and how
such digits are read.

## Main definitions

* `Hex.digits`: the two lower-case digits of every byte
* `Hex.dump`: the digits of the first bytes, with `..` where more follow
* `Hex.lower`, `Hex.upper`: a number with at least a given count of digits
* `Hex.number`: a number with `0x` in front of at least a given count of lower-case digits
* `Hex.value?`, `Hex.char?`: the value of a digit, and the character whose code digits are
-/

namespace Scsi.Hex

/-- The digits of a number with zeros in front up to `width` of them. -/
def padded (width n : Nat) : List Char :=
  let digits := Nat.toDigits 16 n
  List.replicate (width - digits.length) '0' ++ digits

/-- A number with at least `width` lower-case digits. -/
def lower (width n : Nat) : String := String.ofList (padded width n)

/-- A number with at least `width` upper-case digits. -/
def upper (width n : Nat) : String := String.ofList ((padded width n).map Char.toUpper)

/-- A number with `0x` in front of at least `width` lower-case digits. -/
def number (width n : Nat) : String := "0x" ++ lower width n

/-- The two digits of a byte. -/
def pair (b : UInt8) : List Char :=
  [Nat.digitChar (b.toNat / 16), Nat.digitChar (b.toNat % 16)]

/-- Every byte as two lower-case digits. -/
def digits (bs : Bytes) : String := String.ofList (bs.flatMap pair)

/-- The digits of the first `limit` bytes; two points stand for the bytes left out. -/
def dump (limit : Nat) (bs : Bytes) : String :=
  digits (bs.take limit) ++ if limit < bs.length then ".." else ""

/-- The value of a digit, in either case. -/
def value? (c : Char) : Option Nat :=
  if '0' ≤ c ∧ c ≤ '9' then some (c.toNat - '0'.toNat)
  else if 'a' ≤ c ∧ c ≤ 'f' then some (c.toNat - 'a'.toNat + 10)
  else if 'A' ≤ c ∧ c ≤ 'F' then some (c.toNat - 'A'.toNat + 10)
  else none

/-- The character whose code the digits are. -/
def char? (digits : List Char) : Option Char := do
  let code ← digits.foldlM (fun n c => (value? c).map (16 * n + ·)) 0
  if h : code.isValidChar then some (Char.ofNatAux code h) else none

end Scsi.Hex
