import Scsi.Proofs.Command.Transfer

/-!
# How much a query asks for

INQUIRY, REQUEST SENSE and READ CAPACITY are built over the buffer that their answer goes to. How
much may be sent stands in the command and, in most forms, a second time in the descriptor block.
Both fields are narrower than the length of a buffer can be. INQUIRY and REQUEST SENSE refuse a
buffer that their field has no room for; READ CAPACITY refuses none, and of a length of 2³² or more
it keeps the lower 32 bits.

## Main definitions

* `Cdb.allocation?`: the allocation length in a descriptor block, where its form has one
* `Query`: the commands that are built over the buffer of their answer
* `Query.Asks`: the command asks for a number of bytes, wherever it says so
* `Query.Heeded`: the query is refused, or it asks for the whole buffer

## Main results

* `Query.command_of_narrow`, `Query.exists_command_of_capacity`: what is made of a buffer
* `Query.heeded_iff`: only READ CAPACITY over 2³² bytes or more asks for less than the buffer
* `Query.asks_for_low_bits`: the result for every query and every buffer
-/

namespace Scsi

namespace Cdb

/-- The allocation length in a descriptor block, where its form has one: a byte for INQUIRY and
REQUEST SENSE, four bytes for READ CAPACITY(16). -/
def allocation? (c : Cdb) : Option Nat :=
  if c.opcode = Opcode.inquiry ∨ c.opcode = Opcode.requestSense then
    some (c.block.byteAt 4).toNat
  else if c.opcode = Opcode.serviceActionIn16 then some (Bytes.number (c.block.slice 10 4))
  else none

theorem allocation_inquiry (page allocation control : UInt8) :
    (inquiry page allocation control).allocation? = some allocation.toNat := rfl

theorem allocation_requestSense (allocation control : UInt8) :
    (requestSense false allocation control).allocation? = some allocation.toNat := rfl

theorem allocation_readCapacity10 (control : UInt8) :
    (readCapacity10 control).allocation? = none := rfl

theorem allocation_readCapacity16 (allocation : UInt32) (control : UInt8) :
    (readCapacity16 allocation control).allocation? = some allocation.toNat := by
  have hfield := (slice_fields16 Opcode.serviceActionIn16 Opcode.readCapacity16Action
    (Bytes.length_bigEndian 8 0) (Bytes.length_bigEndian 4 allocation.toNat) [0, control]).2
  have hnumber := congrArg Bytes.number hfield
  rw [Bytes.number_bigEndian_of_lt allocation.toNat_lt] at hnumber
  exact congrArg some hnumber

end Cdb

/-- The commands that are built over the buffer of their answer. -/
inductive Query
  | inquiry (page : UInt8)
  | requestSense
  | readCapacity (action : UInt8)
deriving DecidableEq

namespace Query

/-- The command of the query over a buffer, or why there is none. -/
def command (buffer : Bytes) : Query → Except Error Command
  | inquiry page => Command.inquiry page buffer
  | requestSense => Command.requestSense buffer
  | readCapacity action => Command.readCapacity action buffer

/-- How a query over too long a buffer is refused, if it is looked at. -/
def tooLong? : Query → Option RequestFault
  | inquiry _ => some .inquiryTooLong
  | requestSense => some .requestSenseTooLong
  | readCapacity _ => none

/-- Whether the descriptor block of the query has a field for the allocation length. -/
def HasAllocation : Query → Prop
  | readCapacity action => action = Opcode.readCapacity16Action
  | inquiry _ | requestSense => True

instance : DecidablePred HasAllocation
  | readCapacity action => inferInstanceAs (Decidable (action = Opcode.readCapacity16Action))
  | inquiry _ | requestSense => inferInstanceAs (Decidable True)

/-- A new data-in command over the buffer that asks for `n` bytes of it, wherever it says so. -/
structure Asks (q : Query) (c : Command) (buffer : Bytes) (n : Nat) : Prop where
  fresh : c = .fresh c.cdb (.input buffer) c.dataLength
  dataLength : c.dataLength.toNat = n
  allocation : c.cdb.allocation? = if q.HasAllocation then some n else none
  /-- What the data-in phase may fill. -/
  dataIn : c.dataIn = some (buffer.take n)

/-- The query is refused, or it asks for the whole buffer and the data-in phase may fill all
of it. -/
def Heeded (q : Query) (buffer : Bytes) : Prop :=
  (∃ fault, q.command buffer = .error (.invalidRequest fault)) ∨
    ∃ c, q.command buffer = .ok c ∧ q.Asks c buffer buffer.length ∧ c.dataIn = some buffer

section

variable {q : Query} {buffer : Bytes}

theorem asks_fresh {cdb : Cdb} {length : UInt32} (hlength : length.toNat ≤ buffer.length)
    (hallocation : cdb.allocation? = if q.HasAllocation then some length.toNat else none) :
    q.Asks (.fresh cdb (.input buffer) length) buffer length.toNat where
  fresh := rfl
  dataLength := rfl
  allocation := hallocation
  dataIn := if_pos hlength

/-- A query for all bytes leaves none of the buffer out. -/
theorem Asks.dataIn_eq {c : Command} (h : q.Asks c buffer buffer.length) :
    c.dataIn = some buffer := by
  rw [h.dataIn, List.take_length]

/-- Up to 255 bytes are counted alike in a byte, in 32 bits and without a limit. -/
theorem toNat_ofNat_of_narrow (h : buffer.length ≤ 255) :
    (UInt8.ofNat buffer.length).toNat = buffer.length ∧
      (UInt32.ofNat buffer.length).toNat = buffer.length := by
  rw [UInt8.toNat_ofNat', UInt32.toNat_ofNat']
  omega

/-- A query that counts in a byte takes a buffer of up to 255 bytes, and asks for all of it. -/
theorem command_of_narrow (buffer : Bytes) {fault : RequestFault} (hq : q.tooLong? = some fault) :
    if buffer.length ≤ 255 then ∃ c, q.command buffer = .ok c ∧ q.Asks c buffer buffer.length
    else q.command buffer = .error (.invalidRequest fault) := by
  split
  case isFalse hlong =>
    cases q with
    | inquiry page => cases hq; exact if_neg hlong
    | requestSense => cases hq; exact if_neg hlong
    | readCapacity action => exact nomatch hq
  case isTrue hshort =>
    obtain ⟨hbyte, hword⟩ := toNat_ofNat_of_narrow hshort
    have hasks : ∀ cdb : Cdb, cdb.allocation? = some (UInt8.ofNat buffer.length).toNat →
        q.HasAllocation →
        q.Asks (.fresh cdb (.input buffer) (.ofNat buffer.length)) buffer buffer.length := by
      intro cdb hcdb hfield
      rw [hbyte] at hcdb
      have h := asks_fresh (q := q) (Nat.le_of_eq hword) (by rw [hcdb, if_pos hfield, hword])
      rwa [hword] at h
    cases q with
    | inquiry page =>
      exact ⟨_, Command.inquiry_eq_ok_iff.2 ⟨hshort, rfl⟩,
        hasks _ (Cdb.allocation_inquiry _ _ _) trivial⟩
    | requestSense =>
      exact ⟨_, Command.requestSense_eq_ok_iff.2 ⟨hshort, rfl⟩,
        hasks _ (Cdb.allocation_requestSense _ _) trivial⟩
    | readCapacity action => exact nomatch hq

/-- READ CAPACITY takes every buffer, and asks for the lower 32 bits of its length. -/
theorem exists_command_of_capacity (buffer : Bytes) (hq : q.tooLong? = none) :
    ∃ c, q.command buffer = .ok c ∧ q.Asks c buffer (buffer.length % UInt32.size) := by
  cases q with
  | inquiry page => exact nomatch hq
  | requestSense => exact nomatch hq
  | readCapacity action =>
    have hword : (UInt32.ofNat buffer.length).toNat = buffer.length % UInt32.size :=
      UInt32.toNat_ofNat'
    have hroom : (UInt32.ofNat buffer.length).toNat ≤ buffer.length := hword ▸ Nat.mod_le _ _
    rw [← hword]
    refine ⟨_, if_neg (Nat.not_lt.2 hroom), asks_fresh hroom ?_⟩
    by_cases haction : action = Opcode.readCapacity16Action
    · rw [if_pos haction, Cdb.allocation_readCapacity16]
      exact (if_pos haction).symm
    · rw [if_neg haction, Cdb.allocation_readCapacity10]
      exact (if_neg haction).symm

/-- Only READ CAPACITY over 2³² bytes or more asks for less than the buffer. -/
theorem heeded_iff : q.Heeded buffer ↔ (q.tooLong? = none → buffer.length < UInt32.size) := by
  cases hq : q.tooLong? with
  | some fault =>
    refine iff_of_true ?_ nofun
    have hcommand := command_of_narrow buffer hq
    split at hcommand
    · obtain ⟨c, hc, hasks⟩ := hcommand
      exact .inr ⟨c, hc, hasks, hasks.dataIn_eq⟩
    · exact .inl ⟨fault, hcommand⟩
  | none =>
    obtain ⟨c, hc, hasks⟩ := exists_command_of_capacity buffer hq
    constructor
    · rintro (⟨fault, hfault⟩ | ⟨d, hd, hwhole, -⟩) -
      · exact nomatch hc.symm.trans hfault
      · obtain rfl := Except.ok.inj (hc.symm.trans hd)
        rw [← hwhole.dataLength]
        exact c.dataLength.toNat_lt
    · intro hlt
      rw [Nat.mod_eq_of_lt (hlt rfl)] at hasks
      exact .inr ⟨c, hc, hasks, hasks.dataIn_eq⟩

end

/-- **How much a query asks for.** INQUIRY and REQUEST SENSE over a buffer of more than 255 bytes are
refused, each with its own fault, and over a shorter one they ask for all of it. READ CAPACITY is
never refused, and asks for the length of its buffer modulo 2³². In every case the command, its
descriptor block and the data-in phase agree on the number. So a query is refused or asks for the
whole buffer, unless it is READ CAPACITY over 2³² bytes or more. -/
theorem asks_for_low_bits (q : Query) (buffer : Bytes) :
    (∀ fault, q.tooLong? = some fault →
        if buffer.length ≤ 255 then ∃ c, q.command buffer = .ok c ∧ q.Asks c buffer buffer.length
        else q.command buffer = .error (.invalidRequest fault)) ∧
      (q.tooLong? = none → ∃ c, q.command buffer = .ok c ∧
        q.Asks c buffer (buffer.length % UInt32.size)) ∧
      (q.Heeded buffer ↔ (q.tooLong? = none → buffer.length < UInt32.size)) :=
  ⟨fun _ => command_of_narrow buffer, exists_command_of_capacity buffer, heeded_iff⟩

/-- READ CAPACITY(16) over 2³² bytes asks for none of them: the rule that a query is refused or asks
for its whole buffer does not hold of it. -/
theorem readCapacity16_asks_for_nothing :
    (∃ c, (readCapacity Opcode.readCapacity16Action).command (Bytes.zeros UInt32.size) = .ok c ∧
        c.dataLength = 0 ∧ c.cdb.allocation? = some 0 ∧ c.dataIn = some []) ∧
      ¬ ∀ (q : Query) (buffer : Bytes), q.Heeded buffer := by
  have hlength : (Bytes.zeros UInt32.size).length = UInt32.size := Bytes.length_zeros _
  constructor
  · obtain ⟨c, hc, hasks⟩ := exists_command_of_capacity
      (q := readCapacity Opcode.readCapacity16Action) (Bytes.zeros UInt32.size) rfl
    rw [hlength, Nat.mod_self] at hasks
    exact ⟨c, hc, UInt32.toNat.inj hasks.dataLength, hasks.allocation.trans (if_pos rfl),
      hasks.dataIn⟩
  · intro h
    have hlt := heeded_iff.1 (h (readCapacity 0) (Bytes.zeros UInt32.size)) rfl
    rw [hlength] at hlt
    exact Nat.lt_irrefl _ hlt

end Query

end Scsi
