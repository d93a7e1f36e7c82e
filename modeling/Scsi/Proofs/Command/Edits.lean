import Mathlib.Data.List.Induction
import Scsi.Proofs.Bytes
import Scsi.Session.Submission

/-!
# Edits of a command

Once a command was made, its holder may write each of its numbers, an adapter stores sense with it,
and before it is sent again its completion is cleared, in any order and any number of times. The
descriptor block stays as it was made. The sense is what was stored last, unless it was cleared
since. A data phase moves the front of the buffer, and nothing at all if the buffer is too short for
the size that is asked for by then.

In memory, descriptor block and sense lie in areas of fixed size, each with a byte that counts how
many of its bytes are in use. Sizes and counts of such an image say nothing by their types, and its
operations fail wherever an access leaves an area. None ever does, as the image stays that of a
command.

## Main definitions

* `Making`: the two ways of making a command from a descriptor block
* `Edit`: a change of a command that was made
* `Edit.lastSense`: the sense that was stored last and not cleared since
* `Command.Follows`: what is in a command after edits
* `CountedArea`, `Image`: a command as it lies in memory, with every access checked

## Main results

* `Making.command_eq_ok_iff`: what makes a command, and which
* `Command.sense_edited`: the sense after edits
* `Command.edited?_image`: no edit leaves the areas of an image
* `Making.follows_edits`: whatever way it was made and edited, a command follows its edits, in
  memory as well
-/

namespace Scsi

/-! ## Making a command -/

/-- The two ways of making a command: from a whole block of which the first bytes have a meaning,
and from the bytes with a meaning. -/
inductive Making
  | ofBlock (block : Bytes) (length_block : block.length = 16) (length : Nat)
  | ofBytes (bs : Bytes)

namespace Making

/-- The command over a data buffer, or why there is none. -/
def command (data : DataBuffer) (dataLength : UInt32) : Making → Except Error Command
  | ofBlock block h length => Command.ofBlock block h length data dataLength
  | ofBytes bs => Command.ofBytes bs data dataLength

/-- The bytes with a meaning. -/
def bytes : Making → Bytes
  | ofBlock block _ length => block.take length
  | ofBytes bs => bs

/-- How many bytes are said to have a meaning. -/
def length : Making → Nat
  | ofBlock _ _ length => length
  | ofBytes bs => bs.length

/-- The descriptor block, if no more bytes have a meaning than it has. -/
def cdb : (making : Making) → making.length ≤ 16 → Cdb
  | ofBlock block hblock length, h => ⟨block, length, hblock, h⟩
  | ofBytes bs, h => .ofBytes bs h

theorem bytes_cdb (making : Making) (h : making.length ≤ 16) :
    (making.cdb h).bytes = making.bytes := by
  cases making with
  | ofBlock block hblock length => rfl
  | ofBytes bs => exact Cdb.bytes_ofBytes bs h

variable {making : Making} {data : DataBuffer} {dataLength : UInt32} {c : Command}

theorem command_of_le (h : making.length ≤ 16) :
    making.command data dataLength = Command.ofCdb (making.cdb h) data dataLength := by
  cases making with
  | ofBlock block hblock length => exact dif_pos h
  | ofBytes bs => exact dif_pos h

theorem command_of_lt (h : 16 < making.length) :
    making.command data dataLength = .error (.invalidRequest .cdbTooLong) := by
  cases making with
  | ofBlock block hblock length => exact dif_neg (Nat.not_le_of_lt h)
  | ofBytes bs => exact dif_neg (Nat.not_le_of_lt h)

/-- A command is made of up to 16 bytes over a buffer that holds the requested transfer. -/
theorem command_eq_ok_iff : making.command data dataLength = .ok c ↔
    ∃ h : making.length ≤ 16, dataLength.toNat ≤ data.length ∧
      c = .fresh (making.cdb h) data dataLength := by
  rcases Nat.lt_or_ge 16 making.length with hlong | h
  · rw [command_of_lt hlong]
    constructor
    · rintro ⟨⟩
    · rintro ⟨h, -, -⟩
      exact absurd h (Nat.not_le_of_lt hlong)
  rw [command_of_le h, Command.ofCdb]
  split
  · next hshort =>
    constructor
    · rintro ⟨⟩
    · rintro ⟨-, hdata, -⟩
      exact absurd hdata (Nat.not_le_of_lt hshort)
  · next hdata =>
    constructor
    · exact fun hc => ⟨h, Nat.le_of_not_lt hdata, (Except.ok.inj hc).symm⟩
    · rintro ⟨-, -, rfl⟩
      rfl

end Making

/-! ## Edits -/

namespace Command

/-- The numbers of a command, each of which its holder may write. -/
structure Numbers where
  target : UInt8
  lun : UInt8
  dataLength : UInt32
  timeout : UInt32
  flags : CommandFlags
  retries : UInt8
  actualLength : UInt32
  status : UInt8

/-- The numbers in the command. -/
def numbers (c : Command) : Numbers :=
  ⟨c.target, c.lun, c.dataLength, c.timeout, c.flags, c.retries, c.actualLength, c.status⟩

/-- The command with the given numbers. -/
def withNumbers (c : Command) (ns : Numbers) : Command :=
  { c with
    target := ns.target
    lun := ns.lun
    dataLength := ns.dataLength
    timeout := ns.timeout
    flags := ns.flags
    retries := ns.retries
    actualLength := ns.actualLength
    status := ns.status }

end Command

/-- A change of a command that was made. -/
inductive Edit
  /-- Any of the numbers are written. -/
  | assign (write : Command.Numbers → Command.Numbers)
  /-- Sense is stored. -/
  | store (sense : Bytes)
  /-- The completion is cleared. -/
  | clear

namespace Edit

/-- What the edit makes of the sense, if it concerns the sense. -/
def sense? : Edit → Option Bytes
  | assign _ => none
  | store sense => some sense
  | clear => some []

/-- The sense that was stored last, empty if it was cleared since or if none was stored. -/
def lastSense (edits : List Edit) : Bytes := (edits.reverse.findSome? sense?).getD []

theorem lastSense_concat (edits : List Edit) (e : Edit) :
    lastSense (edits ++ [e]) = e.sense?.getD (lastSense edits) := by
  unfold lastSense
  rw [List.reverse_append, List.reverse_singleton, List.singleton_append, List.findSome?_cons]
  cases e.sense? <;> rfl

end Edit

namespace Command

/-- The command after an edit. -/
def edit (c : Command) : Edit → Command
  | .assign write => c.withNumbers (write c.numbers)
  | .store sense => c.withSense sense
  | .clear => c.cleared

/-- The command after edits, one after the other. -/
def edited (c : Command) (edits : List Edit) : Command := edits.foldl edit c

theorem edited_concat (c : Command) (edits : List Edit) (e : Edit) :
    c.edited (edits ++ [e]) = (c.edited edits).edit e := by
  rw [edited, List.foldl_append]
  rfl

/-! ### What one edit does -/

theorem cdb_edit (c : Command) (e : Edit) : (c.edit e).cdb = c.cdb := by
  cases e <;> rfl

theorem data_edit (c : Command) (e : Edit) : (c.edit e).data = c.data := by
  cases e <;> rfl

theorem sense_edit (c : Command) (e : Edit) :
    (c.edit e).sense = (e.sense?.map SenseBuffer.store).getD c.sense := by
  cases e <;> rfl

/-! ### What a run of edits does -/

theorem cdb_edited (c : Command) (edits : List Edit) : (c.edited edits).cdb = c.cdb := by
  induction edits using List.reverseRecOn with
  | nil => rfl
  | append_singleton edits e ih => rw [edited_concat, cdb_edit, ih]

theorem data_edited (c : Command) (edits : List Edit) : (c.edited edits).data = c.data := by
  induction edits using List.reverseRecOn with
  | nil => rfl
  | append_singleton edits e ih => rw [edited_concat, data_edit, ih]

/-- Of a command without sense, all that edits leave is the sense that was stored last. -/
theorem sense_edited {c : Command} (h : c.sense = .empty) (edits : List Edit) :
    (c.edited edits).sense = .store (Edit.lastSense edits) := by
  induction edits using List.reverseRecOn with
  | nil => exact h
  | append_singleton edits e ih =>
    rw [edited_concat, sense_edit, ih, Edit.lastSense_concat]
    cases e.sense? <;> rfl

end Command

/-- What is in a command that was made of the given bytes over a data buffer, after edits. -/
structure Command.Follows (c : Command) (bytes : Bytes) (data : DataBuffer) (edits : List Edit) :
    Prop where
  cdb : c.cdb.bytes = bytes
  length_cdb : c.cdb.bytes.length ≤ 16
  sense : c.sense.bytes = (Edit.lastSense edits).take 32
  /-- Behind the sense there are zeros, and nothing of sense that was stored before. -/
  area : c.sense.area =
    (Edit.lastSense edits).take 32 ++ Bytes.zeros (32 - (Edit.lastSense edits).length)
  buffer : c.data = data
  dataIn : ∀ part, c.dataIn = some part ↔
    (data.direction = .input ∨ data.direction = .bidirectional) ∧
      c.dataLength.toNat ≤ data.length ∧ part = data.bytes.take c.dataLength.toNat
  dataOut : ∀ part, c.dataOut = some part ↔
    (data.direction = .output ∨ data.direction = .bidirectional) ∧
      c.dataLength.toNat ≤ data.length ∧ part = data.bytes.take c.dataLength.toNat

theorem Command.follows_fresh (cdb : Cdb) (data : DataBuffer) (dataLength : UInt32)
    (edits : List Edit) : ((fresh cdb data dataLength).edited edits).Follows cdb.bytes data edits := by
  have hcdb : ((fresh cdb data dataLength).edited edits).cdb = cdb := cdb_edited _ edits
  have hdata : ((fresh cdb data dataLength).edited edits).data = data := data_edited _ edits
  have hsense := sense_edited (c := fresh cdb data dataLength) rfl edits
  refine ⟨by rw [hcdb], ?_, ?_, ?_, hdata, fun part => ?_, fun part => ?_⟩
  · rw [Cdb.length_bytes]
    exact Cdb.length_le _
  · rw [hsense]
    exact SenseBuffer.bytes_store _
  · rw [hsense]
    rfl
  · rw [dataIn, DataBuffer.inPhase_eq_some_iff, hdata]
  · rw [dataOut, DataBuffer.outPhase_eq_some_iff, hdata]

/-! ## Images -/

/-- The bytes with `new` written over their first `n`, missing if they are fewer or `new` has
another length. -/
def Bytes.copy? (bs : Bytes) (n : Nat) (new : Bytes) : Option Bytes := do
  let front ← bs.range? 0 n
  if front.length = new.length then some (new ++ bs.drop n) else none

/-- An area of memory, and a byte that counts how many of its bytes are in use. -/
structure CountedArea where
  area : Bytes
  count : UInt8

namespace CountedArea

/-- The area without a byte in use. -/
def cleared (size : Nat) : CountedArea := ⟨Bytes.zeros size, 0⟩

/-- The bytes in use, missing if there are more than the area has. -/
def read? (a : CountedArea) : Option Bytes := a.area.range? 0 a.count.toNat

/-- The area with the first `n` of the given bytes alone, missing if there are fewer or the area has
no room for them. -/
def store? (a : CountedArea) (bs : Bytes) (n : Nat) : Option CountedArea := do
  let front ← bs.range? 0 n
  let area ← (cleared a.area.length).area.copy? n front
  some ⟨area, UInt8.ofNat n⟩

/-- What is counted in a byte and has room in the area is read. -/
theorem read?_eq {area : Bytes} {n : Nat} (hroom : n ≤ area.length) (hbyte : n < 256) :
    read? ⟨area, UInt8.ofNat n⟩ = some (area.take n) := by
  have hcount : (UInt8.ofNat n).toNat = n := UInt8.toNat_ofNat_of_lt' hbyte
  rw [read?, hcount]
  exact Bytes.range?_zero hroom

theorem store?_eq {a : CountedArea} {bs : Bytes} {n : Nat} (hbs : n ≤ bs.length)
    (hroom : n ≤ a.area.length) :
    a.store? bs n = some ⟨bs.take n ++ Bytes.zeros (a.area.length - n), UInt8.ofNat n⟩ := by
  have hzeros : n ≤ (Bytes.zeros a.area.length).length := by rwa [Bytes.length_zeros]
  have hlength : ((Bytes.zeros a.area.length).take n).length = (bs.take n).length := by
    rw [List.length_take_of_le hzeros, List.length_take_of_le hbs]
  have hrest : (Bytes.zeros a.area.length).drop n = Bytes.zeros (a.area.length - n) :=
    List.drop_replicate
  simp only [store?, cleared, Bytes.copy?, Bytes.range?_zero hbs, Bytes.range?_zero hzeros, hrest,
    Option.bind_eq_bind, Option.bind_some, if_pos hlength]

end CountedArea

/-- A command as it lies in memory. Nothing is known of its areas and their counts. -/
structure Image where
  numbers : Command.Numbers
  cdb : CountedArea
  data : DataBuffer
  sense : CountedArea

namespace Image

/-- The image of a new command from a whole block, or why there is none. -/
def ofBlock (block : Bytes) (length : Nat) (data : DataBuffer) (dataLength : UInt32) :
    Except Error Image :=
  if 16 < length then .error (.invalidRequest .cdbTooLong)
  else if data.length < dataLength.toNat then .error (.invalidRequest .bufferTooShort)
  else
    .ok
      { numbers := ⟨0, 0, dataLength, 0, .empty, 0, 0, Status.good.code⟩
        cdb := ⟨block, UInt8.ofNat length⟩
        data
        sense := .cleared SenseBuffer.capacity }

/-- The image of a new command from the bytes of its block, or why there is none, missing if an
access left an area. -/
def ofBytes? (bs : Bytes) (data : DataBuffer) (dataLength : UInt32) :
    Option (Except Error Image) :=
  if 16 < bs.length then some (.error (.invalidRequest .cdbTooLong))
  else do
    let cdb ← (CountedArea.cleared 16).store? bs bs.length
    some (ofBlock cdb.area bs.length data dataLength)

/-- The part of the buffer that the data phase of a direction moves, if the variant has such a phase
and the buffer is as long; missing if the access to it left the buffer. -/
def phase? (i : Image) (direction : Direction) : Option (Option Bytes) :=
  if (i.data.direction = direction ∨ i.data.direction = .bidirectional) ∧
      i.numbers.dataLength.toNat ≤ i.data.length then
    (i.data.bytes.range? 0 i.numbers.dataLength.toNat).map some
  else some none

theorem phase?_eq {i : Image} {direction : Direction} {moved : Option Bytes}
    (h : ∀ part, moved = some part ↔
      (i.data.direction = direction ∨ i.data.direction = .bidirectional) ∧
        i.numbers.dataLength.toNat ≤ i.data.length ∧
        part = i.data.bytes.take i.numbers.dataLength.toNat) :
    i.phase? direction = some moved := by
  unfold phase?
  split
  · next hphase =>
    rw [Bytes.range?_zero hphase.2, (h _).2 ⟨hphase.1, hphase.2, rfl⟩]
    rfl
  · next hphase =>
    refine congrArg some (Option.eq_none_iff_forall_ne_some.2 fun part hpart => hphase ?_).symm
    obtain ⟨hdirection, hlength, -⟩ := (h part).1 hpart
    exact ⟨hdirection, hlength⟩

/-- The image after an edit, missing if an access left an area. -/
def edit? (i : Image) : Edit → Option Image
  | .assign write => some { i with numbers := write i.numbers }
  | .store sense => do
    let area ← i.sense.store? sense (min sense.length SenseBuffer.capacity)
    some { i with sense := area }
  | .clear =>
    some
      { i with
        numbers := { i.numbers with actualLength := 0, status := Status.good.code }
        sense := .cleared i.sense.area.length }

/-- The image after edits, one after the other, missing if an access left an area. -/
def edited? (i : Image) (edits : List Edit) : Option Image := edits.foldlM edit? i

/-- No access leaves the areas of the image or its buffer, and the command has the same bytes. -/
structure Shows (i : Image) (c : Command) : Prop where
  cdb : i.cdb.read? = some c.cdb.bytes
  sense : i.sense.read? = some c.sense.bytes
  area : i.sense.area = c.sense.area
  dataIn : i.phase? .input = some c.dataIn
  dataOut : i.phase? .output = some c.dataOut

end Image

/-- The command as it lies in memory. -/
def Command.image (c : Command) : Image where
  numbers := c.numbers
  cdb := ⟨c.cdb.block, UInt8.ofNat c.cdb.length⟩
  data := c.data
  sense := ⟨c.sense.area, UInt8.ofNat c.sense.used⟩

namespace Command

/-- What is read of an image is in the command, and no access leaves an area. -/
theorem image_shows (c : Command) : c.image.Shows c where
  cdb := by
    have hroom : c.cdb.length ≤ c.cdb.block.length := by
      rw [c.cdb.length_block]
      exact c.cdb.length_le
    exact CountedArea.read?_eq hroom (Nat.lt_of_le_of_lt c.cdb.length_le (by decide))
  sense := by
    have hroom : c.sense.used ≤ c.sense.area.length := by
      rw [c.sense.length_area]
      exact c.sense.used_le
    exact CountedArea.read?_eq hroom (Nat.lt_of_le_of_lt c.sense.used_le (by decide))
  area := rfl
  dataIn := Image.phase?_eq fun _ => DataBuffer.inPhase_eq_some_iff
  dataOut := Image.phase?_eq fun _ => DataBuffer.outPhase_eq_some_iff

/-- Whatever bytes are stored as sense, they are cut before they are copied. -/
theorem store?_sense_image (c : Command) (bs : Bytes) :
    c.image.sense.store? bs (min bs.length SenseBuffer.capacity) =
      some (c.withSense bs).image.sense := by
  have hlength : c.image.sense.area.length = SenseBuffer.capacity := c.sense.length_area
  have htake : bs.take (min bs.length SenseBuffer.capacity) = bs.take SenseBuffer.capacity := by
    rw [List.take_eq_take_iff]
    omega
  have hrest : SenseBuffer.capacity - min bs.length SenseBuffer.capacity =
      SenseBuffer.capacity - bs.length := by
    omega
  rw [CountedArea.store?_eq (Nat.min_le_left _ _) (hlength ▸ Nat.min_le_right _ _), hlength, htake,
    hrest]
  rfl

/-- No edit leaves the areas of an image. -/
theorem edit?_image (c : Command) (e : Edit) : c.image.edit? e = some (c.edit e).image := by
  cases e with
  | assign write => rfl
  | store bs =>
    rw [Image.edit?, store?_sense_image]
    rfl
  | clear =>
    have hlength : c.image.sense.area.length = 32 := c.sense.length_area
    rw [Image.edit?, hlength]
    rfl

/-- No run of edits leaves the areas of an image. -/
theorem edited?_image (c : Command) (edits : List Edit) :
    c.image.edited? edits = some (c.edited edits).image := by
  induction edits generalizing c with
  | nil => rfl
  | cons e edits ih =>
    rw [Image.edited?, List.foldlM_cons, edit?_image]
    exact ih (c.edit e)

theorem ofBlock_image (cdb : Cdb) (data : DataBuffer) (dataLength : UInt32) :
    Image.ofBlock cdb.block cdb.length data dataLength =
      (ofCdb cdb data dataLength).map image := by
  rw [Image.ofBlock, if_neg (Nat.not_lt_of_le cdb.length_le), ofCdb]
  split <;> rfl

end Command

namespace Making

/-- The image of a new command, or why there is none, missing if an access left an area. -/
def image? (data : DataBuffer) (dataLength : UInt32) : Making → Option (Except Error Image)
  | ofBlock block _ length => some (Image.ofBlock block length data dataLength)
  | ofBytes bs => Image.ofBytes? bs data dataLength

/-- No access leaves an area while a command is made. -/
theorem image?_eq (making : Making) (data : DataBuffer) (dataLength : UInt32) :
    making.image? data dataLength = some ((making.command data dataLength).map Command.image) := by
  rcases Nat.lt_or_ge 16 making.length with hlong | h
  · rw [command_of_lt hlong]
    cases making with
    | ofBlock block hblock length => exact congrArg some (if_pos hlong)
    | ofBytes bs => exact if_pos hlong
  rw [command_of_le h, ← Command.ofBlock_image]
  cases making with
  | ofBlock block hblock length => rfl
  | ofBytes bs =>
    have hlength : bs.length ≤ 16 := h
    have hcdb := CountedArea.store?_eq (a := .cleared 16) (Nat.le_refl bs.length) hlength
    rw [image?, Image.ofBytes?, if_neg (Nat.not_lt_of_le hlength), hcdb, List.take_length]
    rfl

/-- **A command follows its edits**, whatever way it was made and whatever is done to it. It is made
of up to 16 bytes over a buffer that holds the requested transfer. From then on the descriptor block
stays, the sense is what was stored last, and a data phase moves the front of the buffer or nothing.
In memory no access leaves an area, and the same bytes are read there. -/
theorem follows_edits (making : Making) (data : DataBuffer) (dataLength : UInt32) :
    ((∃ c, making.command data dataLength = .ok c) ↔
        making.length ≤ 16 ∧ dataLength.toNat ≤ data.length) ∧
      making.image? data dataLength = some ((making.command data dataLength).map Command.image) ∧
      ∀ c, making.command data dataLength = .ok c → ∀ edits,
        (c.edited edits).Follows making.bytes data edits ∧
        c.image.edited? edits = some (c.edited edits).image ∧
        (c.edited edits).image.Shows (c.edited edits) := by
  refine ⟨?_, image?_eq making data dataLength, fun c hc edits => ?_⟩
  · simp only [command_eq_ok_iff]
    constructor
    · rintro ⟨c, h, hdata, -⟩
      exact ⟨h, hdata⟩
    · rintro ⟨h, hdata⟩
      exact ⟨_, h, hdata, rfl⟩
  · obtain ⟨h, -, rfl⟩ := command_eq_ok_iff.1 hc
    have hfollows := Command.follows_fresh (making.cdb h) data dataLength edits
    rw [bytes_cdb] at hfollows
    exact ⟨hfollows, Command.edited?_image _ edits, Command.image_shows _⟩

/-- Short sense leaves nothing of longer sense that was stored before it. -/
example : (Command.testUnitReady.edited
    [.store (List.replicate 40 0xAA), .store [0x70]]).sense.area = 0x70 :: Bytes.zeros 31 := by
  decide

end Making

end Scsi
