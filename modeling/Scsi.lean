import Scsi.Bus.Attribute
import Scsi.Main
import Scsi.Response.ProductData
import Scsi.Log.Pattern
import Scsi.Text.Offset
import Scsi.Proofs.Session.BlockIO
import Scsi.Proofs.Session.Discovery
import Scsi.Proofs.Bus.Coherence
import Scsi.Proofs.Host.Completion
import Scsi.Proofs.Bus.Observer
import Scsi.Proofs.Session.Dialogue
import Scsi.Proofs.RamDisk.Submission
import Scsi.Proofs.Bus.Scan
import Scsi.Proofs.Bus.Persistence
import Scsi.Proofs.Session.Transfer
import Scsi.Proofs.RamDisk.BlockArray
import Scsi.Proofs.Command.Transfer
import Scsi.Proofs.RamDisk.Transfer
import Scsi.Proofs.Bytes
import Scsi.Proofs.RamDisk.History
import Scsi.Proofs.RamDisk.Traffic
import Scsi.Proofs.Through
import Scsi.Proofs.Bus.Morphism
import Scsi.Proofs.Bus.Recording
import Scsi.Proofs.Bus.Monitor
import Scsi.Proofs.Bus.Contacts
import Scsi.Proofs.Bus.Readiness
import Scsi.Proofs.Session.Attempt
import Scsi.Proofs.RamDisk.Scan
import Scsi.Proofs.Program.Exercise
import Scsi.Proofs.Bus.Bookkeeping
import Scsi.Proofs.RamDisk.Run
import Scsi.Proofs.RamDisk.Faults
import Scsi.Proofs.RamDisk.Reset
import Scsi.Proofs.RamDisk.PendingSense
import Scsi.Proofs.Bus.WithoutHost
import Scsi.Proofs.Session.Verdict
import Scsi.Proofs.RamDisk.Room
import Scsi.Proofs.Session.Account
import Scsi.Proofs.Bus.Tour
import Scsi.Proofs.Bus.Interruption
import Scsi.Proofs.Session.Stale
import Scsi.Proofs.Command.Short
import Scsi.Proofs.Command.Acceptance
import Scsi.Proofs.Command.Instruction
import Scsi.Proofs.Settings.Check
import Scsi.Proofs.Session.Count
import Scsi.Proofs.RamDisk.Footprint
import Scsi.Proofs.Bus.Return
import Scsi.Proofs.RamDisk.Crash
import Scsi.Proofs.RamDisk.Published
import Scsi.Proofs.Command.Allocation
import Scsi.Proofs.Session.Belief
import Scsi.Proofs.Bus.Sizing
import Scsi.Proofs.RamDisk.Probes
import Scsi.Proofs.Response.Framing
import Scsi.Proofs.Response.Trimming
import Scsi.Proofs.Sense.Decoding
import Scsi.Proofs.Bus.Defaults
import Scsi.Proofs.Command.Edits
import Scsi.Proofs.LogicalUnit.SectorShift
import Scsi.Proofs.Bus.Absence
