/-!
# Operation codes

The first byte of a command descriptor block names the operation.

## Main definitions

* `Opcode.testUnitReady` and the other operation codes in use
* `Opcode.readCapacity16Action`: the service action that selects READ CAPACITY(16)
* `Opcode.name`: the name of an operation in logs
-/

namespace Scsi.Opcode

/-- TEST UNIT READY. -/
def testUnitReady : UInt8 := 0x00

/-- REQUEST SENSE. -/
def requestSense : UInt8 := 0x03

/-- INQUIRY. -/
def inquiry : UInt8 := 0x12

/-- READ CAPACITY(10). -/
def readCapacity10 : UInt8 := 0x25

/-- READ(10). -/
def read10 : UInt8 := 0x28

/-- WRITE(10). -/
def write10 : UInt8 := 0x2A

/-- SYNCHRONIZE CACHE(10). -/
def synchronizeCache10 : UInt8 := 0x35

/-- READ(16). -/
def read16 : UInt8 := 0x88

/-- WRITE(16). -/
def write16 : UInt8 := 0x8A

/-- SERVICE ACTION IN(16). -/
def serviceActionIn16 : UInt8 := 0x9E

/-- The service action of SERVICE ACTION IN(16) that selects READ CAPACITY(16). -/
def readCapacity16Action : UInt8 := 0x10

/-- The names of the operations in use. -/
def names : List (UInt8 × String) :=
  [
    (testUnitReady, "TEST UNIT READY"),
    (requestSense, "REQUEST SENSE"),
    (inquiry, "INQUIRY"),
    (readCapacity10, "READ CAPACITY(10)"),
    (read10, "READ(10)"),
    (write10, "WRITE(10)"),
    (synchronizeCache10, "SYNCHRONIZE CACHE(10)"),
    (read16, "READ(16)"),
    (write16, "WRITE(16)"),
    (serviceActionIn16, "SERVICE ACTION IN(16)")
  ]

/-- The name of an operation in logs. -/
def name (opcode : UInt8) : String := (names.lookup opcode).getD "UNKNOWN"

end Scsi.Opcode
