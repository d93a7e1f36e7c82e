/-!
# Additional sense codes

The additional sense code and its qualifier say which condition a target reports. The table holds
the assignments seen from disks, optical drives and host adapters.

## Main definitions

* `SenseCondition.table`: the known pairs of code and qualifier with their meaning
* `SenseCondition.find?`: the meaning of a pair, if the table has it
* `SenseCondition.meaning`: the meaning of a pair, with one text for all others
-/

namespace Scsi.SenseCondition

/-- The known pairs of additional sense code and qualifier, in ascending order. -/
def table : List ((UInt8 × UInt8) × String) :=
  [
    ((0x00, 0x00), "No additional sense information"),
    ((0x00, 0x06), "I/O process terminated"),
    ((0x02, 0x00), "No seek complete"),
    ((0x04, 0x00), "Logical unit not ready, cause not reportable"),
    ((0x04, 0x01), "Logical unit is in process of becoming ready"),
    ((0x04, 0x02), "Logical unit not ready, initializing command required"),
    ((0x04, 0x03), "Logical unit not ready, manual intervention required"),
    ((0x04, 0x04), "Logical unit not ready, format in progress"),
    ((0x08, 0x00), "Logical unit communication failure"),
    ((0x08, 0x01), "Logical unit communication time-out"),
    ((0x0C, 0x00), "Write error"),
    ((0x11, 0x00), "Unrecovered read error"),
    ((0x14, 0x01), "Record not found"),
    ((0x1A, 0x00), "Parameter list length error"),
    ((0x20, 0x00), "Invalid command operation code"),
    ((0x21, 0x00), "Logical block address out of range"),
    ((0x24, 0x00), "Invalid field in CDB"),
    ((0x25, 0x00), "Logical unit not supported"),
    ((0x26, 0x00), "Invalid field in parameter list"),
    ((0x27, 0x00), "Write protected"),
    ((0x28, 0x00), "Not ready to ready change, medium may have changed"),
    ((0x29, 0x00), "Power on, reset, or bus device reset occurred"),
    ((0x29, 0x01), "Power on occurred"),
    ((0x29, 0x02), "SCSI bus reset occurred"),
    ((0x2A, 0x01), "Mode parameters changed"),
    ((0x30, 0x00), "Incompatible medium installed"),
    ((0x31, 0x00), "Medium format corrupted"),
    ((0x3A, 0x00), "Medium not present"),
    ((0x3A, 0x01), "Medium not present, tray closed"),
    ((0x3A, 0x02), "Medium not present, tray open"),
    ((0x3F, 0x0E), "Reported LUNs data has changed"),
    ((0x40, 0x00), "Data integrity error"),
    ((0x44, 0x00), "Internal target failure"),
    ((0x47, 0x00), "SCSI parity error"),
    ((0x48, 0x00), "Initiator detected error message received"),
    ((0x49, 0x00), "Invalid message error"),
    ((0x4E, 0x00), "Overlapped commands attempted"),
    ((0x5D, 0x00), "Failure prediction threshold exceeded")
  ]

/-- The meaning of a pair, if the table has it. -/
def find? (asc ascq : UInt8) : Option String := table.lookup (asc, ascq)

/-- The meaning of a pair, with one text for the pairs that are not in the table. -/
def meaning (asc ascq : UInt8) : String :=
  (find? asc ascq).getD "UNSPECIFIED / vendor specific"

end Scsi.SenseCondition
