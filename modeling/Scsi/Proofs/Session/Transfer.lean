import Scsi.Proofs.Bus.Call
import Scsi.Proofs.Command.Transfer
import Scsi.Proofs.Effect

/-!
# Transfers of a handle

Four calls of a handle move blocks, and all of them do the same work: a transfer in one direction and
with one form of descriptor block.

## Main definitions

* `Transfer`: a transfer of blocks, and `UnitCall.transfer?` the transfer that a call asks for
* `Transfer.work`: what a session does for a transfer

## Main results

* `Transfer.effect_run`: a call that asks for a transfer does its work
* `Transfer.block_lt_of_ten`: the calls with the 10-byte form have 32 bits for the first block
-/

namespace Scsi

open Activity

/-- A transfer of `count` blocks from `block` on, with the memory that is lent to it. -/
structure Transfer where
  access : Access
  form : CdbForm
  block : UInt64
  count : UInt32
  buffer : Bytes

/-- The transfer that a call of a handle asks for. -/
def UnitCall.transfer? : UnitCall → Option Transfer
  | read32 block count buffer => some ⟨.read, .ten, block.toUInt64, count, buffer⟩
  | write32 block count buffer => some ⟨.write, .ten, block.toUInt64, count, buffer⟩
  | read64 block count buffer => some ⟨.read, .sixteen, block, count, buffer⟩
  | write64 block count buffer => some ⟨.write, .sixteen, block, count, buffer⟩
  | _ => none

namespace Transfer

/-- The data buffer of the transfer. -/
def data (t : Transfer) : DataBuffer := t.access.buffer t.buffer

/-- What a session does for the transfer. -/
def work {σ : Type} [HostAdapter σ] (t : Transfer) :
    Activity (Session σ) (Except Error UInt32 × DataBuffer) :=
  transfer t.block t.count t.data t.access t.form

/-- What the handle answers when the work is done. -/
def answerOf (t : Transfer) (r : Except Error UInt32 × DataBuffer) : UnitAnswer :=
  match t.access with
  | .read => .filled r.1 r.2.bytes
  | .write => .moved r.1

section Handle

variable {σ : Type} [HostAdapter σ] (form : CdbForm) (block : UInt64) (count : UInt32)
  (buffer : Bytes) (s : Session σ)

/-- A read does the work of a transfer and answers with the buffer afterwards. -/
theorem effect_read : (read form block count buffer).effect s =
    ((((work ⟨.read, form, block, count, buffer⟩).effect s).1.map fun r => (r.1, r.2.bytes)),
      ((work ⟨.read, form, block, count, buffer⟩).effect s).2) :=
  effect_map _ _ _

/-- So does a write, which has no need of the buffer afterwards. -/
theorem effect_write : (write form block count buffer).effect s =
    (((work ⟨.write, form, block, count, buffer⟩).effect s).1.map Prod.fst,
      ((work ⟨.write, form, block, count, buffer⟩).effect s).2) :=
  effect_map _ _ _

end Handle

/-- The handle of a unit does the work of a transfer and answers with what came of it. -/
theorem effect_run {σ : Type} [HostAdapter σ] {call : UnitCall} {t : Transfer}
    (h : call.transfer? = some t) (s : Session σ) :
    call.run.effect s = ((t.work.effect s).1.map t.answerOf, (t.work.effect s).2) := by
  cases call with
  | read32 block count buffer =>
    obtain rfl := Option.some.inj h
    rw [UnitCall.run, effect_map, read32, effect_read, Option.map_map]
    rfl
  | read64 block count buffer =>
    obtain rfl := Option.some.inj h
    rw [UnitCall.run, effect_map, read64, effect_read, Option.map_map]
    rfl
  | write32 block count buffer =>
    obtain rfl := Option.some.inj h
    rw [UnitCall.run, effect_map, write32, effect_write, Option.map_map]
    rfl
  | write64 block count buffer =>
    obtain rfl := Option.some.inj h
    rw [UnitCall.run, effect_map, write64, effect_write, Option.map_map]
    rfl
  | _ => exact nomatch h

theorem block_lt_of_ten {call : UnitCall} {t : Transfer} (h : call.transfer? = some t)
    (hform : t.form = .ten) : t.block.toNat < UInt32.size := by
  cases call with
  | read32 block count buffer =>
    obtain rfl := Option.some.inj h
    exact (UInt32.toNat_toUInt64 block).symm ▸ block.toNat_lt
  | write32 block count buffer =>
    obtain rfl := Option.some.inj h
    exact (UInt32.toNat_toUInt64 block).symm ▸ block.toNat_lt
  | read64 block count buffer =>
    obtain rfl := Option.some.inj h
    exact nomatch hform
  | write64 block count buffer =>
    obtain rfl := Option.some.inj h
    exact nomatch hform
  | _ => exact nomatch h

end Transfer

end Scsi
