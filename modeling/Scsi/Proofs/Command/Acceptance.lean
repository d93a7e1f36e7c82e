import Scsi.Proofs.Command.Transfer

/-!
# Which transfers make a command

A transfer has three limits: its bytes are counted in 32 bits, its buffer has to hold them, and the
10-byte form has 32 bits for the first block and 16 for the count. A transfer within its limits
makes a command from which the target reads what was asked for; any other is refused, and nothing is
cut off to make it fit.

## Main definitions

* `Command.Fits`: the transfer is within its limits
* `Command.Encodes`: the command says what the transfer asks for

## Main results

* `Command.transfer_eq_ok_iff`: the transfers that make a command, and the command
* `Command.exists_fault_of_not_fits`: every other transfer is refused
* `Command.transfer_encodes_exactly`: a command is made exactly within the limits, it says what was
  asked for, and the longer form says the same as the shorter one
-/

namespace Scsi

/-- The direction in which an access moves bytes. -/
def Access.direction : Access → Direction
  | read => .input
  | write => .output

theorem Access.exists_buffer {access : Access} {data : DataBuffer}
    (h : data.direction = access.direction) : ∃ bs, data = access.buffer bs := by
  cases access with
  | read => cases data with
    | input bs => exact ⟨bs, rfl⟩
    | _ => exact nomatch h
  | write => cases data with
    | output bs => exact ⟨bs, rfl⟩
    | _ => exact nomatch h

namespace CdbForm

/-- How many bytes of the block have a meaning. -/
def length : CdbForm → Nat
  | ten => 10
  | sixteen => 16

/-- The operation code of a transfer. -/
def opcode : CdbForm → Access → UInt8
  | ten => Cdb.opcode10
  | sixteen => Cdb.opcode16

/-- Where the group number is. -/
def groupIndex : CdbForm → Nat
  | ten => 6
  | sixteen => 14

/-- Where the control byte is. -/
def controlIndex : CdbForm → Nat
  | ten => 9
  | sixteen => 15

end CdbForm

namespace Command

/-- The transfer is within its limits: the buffer is one for its direction, its bytes can be counted
in 32 bits and have room in the buffer, and in the 10-byte form block and count have room as well. -/
structure Fits (block : UInt64) (count blockSize : UInt32) (data : DataBuffer) (access : Access)
    (form : CdbForm) : Prop where
  direction : data.direction = access.direction
  span : count.toNat * blockSize.toNat < UInt32.size
  buffer : count.toNat * blockSize.toNat ≤ data.length
  form : form = .sixteen ∨ (block.toNat < UInt32.size ∧ count.toNat < UInt16.size)

/-- The command says what the transfer asks for, and nothing besides. -/
structure Encodes (c : Command) (block : UInt64) (count blockSize : UInt32) (data : DataBuffer)
    (access : Access) (form : CdbForm) : Prop where
  length : c.cdb.length = form.length
  opcode : c.cdb.opcode = form.opcode access
  flags : c.cdb.block.byteAt 1 = 0
  group : c.cdb.block.byteAt form.groupIndex = 0
  control : c.cdb.block.byteAt form.controlIndex = 0
  /-- What the target reads. -/
  request : Request.ofBytes? c.cdb.bytes = some (.transfer access block.toNat count.toNat)
  data : c.data = data
  dataLength : c.dataLength.toNat = count.toNat * blockSize.toNat

section

variable {block : UInt64} {count blockSize : UInt32} {data : DataBuffer} {access : Access}
  {form : CdbForm}

theorem Fits.narrow (h : Fits block count blockSize data access form) :
    form = .ten → block.toNat < UInt32.size ∧ count.toNat < UInt16.size := by
  rintro rfl
  exact h.form.resolve_left nofun

/-- What fits the short form fits the long one. -/
theorem Fits.sixteen (h : Fits block count blockSize data access form) :
    Fits block count blockSize data access .sixteen :=
  ⟨h.direction, h.span, h.buffer, .inl rfl⟩

theorem Fits.transfer_eq (h : Fits block count blockSize data access form) :
    transfer block count blockSize data access form =
      .ok (fresh (.ofTransfer access block count form) data
        (UInt32.ofNat (count.toNat * blockSize.toNat))) := by
  obtain ⟨bs, rfl⟩ := Access.exists_buffer h.direction
  exact transfer_of_fits h.span h.narrow (Access.length_buffer access bs ▸ h.buffer)

theorem Fits.encodes (h : Fits block count blockSize data access form) :
    Encodes (fresh (.ofTransfer access block count form) data
      (UInt32.ofNat (count.toNat * blockSize.toNat))) block count blockSize data access form where
  length := by cases form <;> rfl
  opcode := by cases form <;> cases access <;> rfl
  flags := by cases form <;> cases access <;> rfl
  group := by cases form <;> cases access <;> rfl
  control := by cases form <;> cases access <;> rfl
  request := Cdb.request_ofTransfer access h.narrow
  data := rfl
  dataLength := UInt32.toNat_ofNat_of_lt' h.span

theorem matchesAccess_iff : matchesAccess access data = true ↔ data.direction = access.direction := by
  cases access <;> cases data <;> simp [matchesAccess, DataBuffer.direction, Access.direction]

/-- A transfer over the wrong buffer is refused. -/
theorem transfer_of_wrong_direction (h : data.direction ≠ access.direction) :
    transfer block count blockSize data access form = .error (.invalidRequest .wrongDirection) := by
  have hmatch : matchesAccess access data = false := Bool.eq_false_iff.2 (mt matchesAccess_iff.1 h)
  simp only [transfer, hmatch, Bool.not_false, if_true]

/-- A transfer that is past one of its limits is refused before it is sent. -/
theorem exists_fault_of_not_fits (h : ¬ Fits block count blockSize data access form) :
    ∃ fault, transfer block count blockSize data access form = .error (.invalidRequest fault) := by
  by_cases hdirection : data.direction = access.direction
  case neg => exact ⟨_, transfer_of_wrong_direction hdirection⟩
  obtain ⟨bs, rfl⟩ := Access.exists_buffer hdirection
  rcases Nat.lt_or_ge (count.toNat * blockSize.toNat) UInt32.size with hspan | hspan
  case inr => exact ⟨_, transfer_of_too_long hspan⟩
  -- what the buffer can hold is looked at last
  have hbuffer : (form = .ten → block.toNat < UInt32.size ∧ count.toNat < UInt16.size) →
      ∃ fault, transfer block count blockSize (access.buffer bs) access form =
        .error (.invalidRequest fault) := by
    intro hform
    refine ⟨_, transfer_of_too_short hspan hform (Nat.not_le.1 fun hlength => h ?_)⟩
    refine ⟨hdirection, hspan, (Access.length_buffer access bs).symm ▸ hlength, ?_⟩
    cases form with
    | ten => exact .inr (hform rfl)
    | sixteen => exact .inl rfl
  cases form with
  | sixteen => exact hbuffer nofun
  | ten =>
    rcases Nat.lt_or_ge block.toNat UInt32.size with hblock | hblock
    case inr => exact ⟨_, transfer_of_too_far hspan hblock⟩
    rcases Nat.lt_or_ge count.toNat UInt16.size with hcount | hcount
    case inr => exact ⟨_, transfer_of_too_wide hspan hblock hcount⟩
    exact hbuffer fun _ => ⟨hblock, hcount⟩

theorem transfer_eq_ok_iff {c : Command} :
    transfer block count blockSize data access form = .ok c ↔
      Fits block count blockSize data access form ∧
        c = fresh (.ofTransfer access block count form) data
          (UInt32.ofNat (count.toNat * blockSize.toNat)) := by
  by_cases hfits : Fits block count blockSize data access form
  · rw [hfits.transfer_eq]
    exact ⟨fun h => ⟨hfits, (Except.ok.inj h).symm⟩, fun h => congrArg Except.ok h.2.symm⟩
  · obtain ⟨fault, hfault⟩ := exists_fault_of_not_fits hfits
    rw [hfault]
    exact ⟨(fun h => nomatch h), fun h => absurd h.1 hfits⟩

end

/-- **A transfer makes a command exactly within its limits.** Past one of them it is refused, and
within them the command says what was asked for: its form and operation, the first block and the
count that a target reads from it, and the size of the buffer that is to be moved. What the 10-byte
form can say, the 16-byte form says alike. -/
theorem transfer_encodes_exactly (block : UInt64) (count blockSize : UInt32) (data : DataBuffer)
    (access : Access) (form : CdbForm) :
    ((∃ c, transfer block count blockSize data access form = .ok c) ↔
        Fits block count blockSize data access form) ∧
      (¬ Fits block count blockSize data access form → ∃ fault,
        transfer block count blockSize data access form = .error (.invalidRequest fault)) ∧
      (∀ c, transfer block count blockSize data access form = .ok c →
        Encodes c block count blockSize data access form) ∧
      ∀ c, transfer block count blockSize data access .ten = .ok c →
        ∃ d, transfer block count blockSize data access .sixteen = .ok d ∧
          Request.ofBytes? d.cdb.bytes = Request.ofBytes? c.cdb.bytes ∧
          d.dataLength = c.dataLength := by
  refine ⟨⟨?_, fun h => ⟨_, h.transfer_eq⟩⟩, exists_fault_of_not_fits, ?_, ?_⟩
  · rintro ⟨c, hc⟩
    exact (transfer_eq_ok_iff.1 hc).1
  · intro c hc
    obtain ⟨hfits, rfl⟩ := transfer_eq_ok_iff.1 hc
    exact hfits.encodes
  · intro c hc
    obtain ⟨hfits, rfl⟩ := transfer_eq_ok_iff.1 hc
    refine ⟨_, hfits.sixteen.transfer_eq, ?_, rfl⟩
    rw [hfits.sixteen.encodes.request, hfits.encodes.request]

end Command

end Scsi
