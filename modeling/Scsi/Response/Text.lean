import Scsi.Bytes

/-!
# Text in responses

Targets send texts in fields of fixed width, padded on either side. A field is read as ASCII: a
byte outside ASCII stands for an unknown character, and the white space around the text is no part
of it.

## Main definitions

* `FieldText.isBlank`: the bytes that pad a text
* `FieldText.character`: the character of a byte
* `FieldText.trimmed`: the bytes of a field without its padding
* `FieldText.read`: the text of a field
-/

namespace Scsi.FieldText

/-- The bytes that pad a text: tab to carriage return, and space. -/
def isBlank (b : UInt8) : Bool := (0x09 ≤ b && b ≤ 0x0D) || b == 0x20

/-- The character of a byte, a question mark outside ASCII. -/
def character (b : UInt8) : Char := if b < 0x80 then Char.ofNat b.toNat else '?'

/-- The list without the blanks at its front. -/
def trimmedFront (bs : Bytes) : Bytes := bs.dropWhile isBlank

/-- The list without the blanks at its end. -/
def trimmedEnd (bs : Bytes) : Bytes := (trimmedFront bs.reverse).reverse

/-- The bytes of a field without its padding. -/
def trimmed (bs : Bytes) : Bytes := trimmedEnd (trimmedFront bs)

/-- The text of a field. -/
def read (bs : Bytes) : String := String.ofList ((trimmed bs).map character)

end Scsi.FieldText
