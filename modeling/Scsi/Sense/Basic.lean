import Scsi.Sense.Key
import Scsi.Sense.Condition
import Scsi.Text.Hex
import Scsi.Text.Layout

/-!
# Sense

What a target says about a condition, reduced to three bytes: sense key, additional sense code and
qualifier.

## Main definitions

* `Sense`: the three bytes
* `Sense.zero`: nothing to report
* `Sense.describe`: the sense in words
* `Sense.text`: the sense as a record text
-/

namespace Scsi

/-- Sense key, additional sense code and qualifier. -/
structure Sense where
  key : UInt8
  asc : UInt8
  ascq : UInt8
deriving DecidableEq

namespace Sense

/-- Nothing to report. -/
def zero : Sense := ⟨0, 0, 0⟩

instance : Inhabited Sense := ⟨zero⟩

/-- The sense key in words. -/
def senseKey (s : Sense) : SenseKey := SenseKey.ofByte s.key

/-- The meaning of code and qualifier. -/
def meaning (s : Sense) : String := SenseCondition.meaning s.asc s.ascq

/-- The sense in words: the name of the key, code and qualifier, and their meaning. -/
def describe (s : Sense) : String :=
  let asc := Hex.number 2 s.asc.toNat
  let ascq := Hex.number 2 s.ascq.toNat
  s!"{s.senseKey.name} asc={asc} ascq={ascq}: {s.meaning}"

/-- The sense as a record text. -/
def text (s : Sense) : String :=
  Layout.record "SenseTriple"
    [("key", toString s.key), ("asc", toString s.asc), ("ascq", toString s.ascq)]

end Sense

end Scsi
