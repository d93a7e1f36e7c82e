import Scsi.Program.Run
import Scsi.Proofs.RamDisk.History
import Scsi.Proofs.RamDisk.Scan

/-!
# What comes of an exercise

An exercise writes and reads two blocks of the disk that its settings attach. Over checked settings
it never crashes, and its answer depends on three of them alone: it misses the unit if the scan does
not get to it, is refused the write if the disk has fewer than two blocks, and else ends well.

## Main definitions

* `Exercise.verdict`: how the exercise of the unit of a disk ends
* `Program.ending`: how the exercise of a disk ends over settings

## Main results

* `Exercise.exists_writeAndRead`: what is written is read back
* `Exercise.exists_onUnit`: the exercise of a unit
* `Exercise.exists_findAndExercise_of_ready`, `Exercise.exists_findAndExercise_of_missing`: the
  exercise of a bus
* `Program.answer_exercise`: the answer of the exercise over checked settings
* `Program.exercise_succeeds_iff`: when the exercise ends well
* `Program.exitCode_runFiles`: the exit code of a run that gets as far as its exercise
-/

namespace Scsi

open Activity Session RamDisk

namespace Exercise

/-! ## Steps -/

section Step

variable {S α β : Type} {s s' : S}

/-- After a step that ends well the exercise goes on. -/
theorem effect_bind_of_ok {x : Step S α} {a : α} (h : x.run.effect s = (some (.ok a), s'))
    (f : α → Step S β) : (x >>= f).run.effect s = (f a).run.effect s' := by
  rw [ExceptT.run_bind, effect_bind_of_answer h]

/-- After a step that fails it is over. -/
theorem effect_bind_of_error {x : Step S α} {e : ExerciseError}
    (h : x.run.effect s = (some (.error e), s')) (f : α → Step S β) :
    (x >>= f).run.effect s = (some (.error e), s') := by
  rw [ExceptT.run_bind, effect_bind_of_answer h]
  rfl

theorem effect_lift {x : Activity S α} {a : α} (h : x.effect s = (some a, s')) :
    (ExceptT.lift x : Step S α).run.effect s = (some (.ok a), s') := by
  show (Except.ok <$> x).effect s = _
  rw [effect_map, h]
  rfl

theorem effect_say (message : String) (s : S) :
    (say message).run.effect s = (some (.ok ()), s) := rfl

theorem effect_need {x : Activity S (Except Error α)} {answer : Except Error α}
    (h : x.effect s = (some answer, s')) :
    (need x).run.effect s = (some (answer.mapError ExerciseError.command), s') := by
  show (Except.mapError ExerciseError.command <$> x).effect s = _
  rw [effect_map, h]
  rfl

end Step

/-! ## The two transfers -/

/-- The write of the exercise. -/
def written (data : Bytes) : Transfer := ⟨.write, .ten, 0, 2, data⟩

/-- The read that follows it. -/
def readBack (data : Bytes) : Transfer := ⟨.read, .sixteen, 0, 2, Bytes.zeros data.length⟩

section Array

variable {array : BlockArray} {data : Bytes} (hlength : data.length = 2 * array.blockSize)
  (hsize : 2 * array.blockSize < UInt32.size)

include hsize

/-- Nothing but the end of the array refuses a transfer of the first two blocks. -/
theorem fault?_two {t : Transfer} (hblock : t.block = 0) (hcount : t.count = 2)
    (hbuffer : t.buffer.length = 2 * array.blockSize) :
    array.fault? t =
      if array.blocks < 2 then some (.checkCondition (some ⟨5, 0x21, 0x00⟩)) else none := by
  have hspan : array.span t = 2 * array.blockSize := by
    rw [BlockArray.span, hcount]
    rfl
  have hshort : t.form = .ten → t.count.toNat < UInt16.size := fun _ => by
    rw [hcount]
    decide
  rw [BlockArray.fault?_of_fits (hspan ▸ hsize) hshort (Nat.le_of_eq (hspan.trans hbuffer.symm)),
    hblock, hcount]
  rfl

include hlength

theorem fault?_written : array.fault? (written data) =
    if array.blocks < 2 then some (.checkCondition (some ⟨5, 0x21, 0x00⟩)) else none :=
  fault?_two hsize rfl rfl hlength

/-- If the write goes through, then so does the read, which brings back what was written. -/
theorem received_readBack (hfits : array.fault? (written data) = none) :
    (array.next (written data)).fault? (readBack data) = none ∧
      (array.next (written data)).received (readBack data) = data := by
  obtain ⟨hblockSize, hblocks, -⟩ := BlockArray.next_of_write rfl hfits
  -- the array is no shorter after the write, so the read is refused no more than the write
  have hread : (array.next (written data)).fault? (readBack data) = none := by
    rw [fault?_two (hblockSize ▸ hsize) rfl rfl
      ((Bytes.length_zeros _).trans (hblockSize ▸ hlength)), hblocks]
    exact (fault?_written hlength hsize).symm.trans hfits
  refine ⟨hread, ?_⟩
  -- the data are as long as the two blocks, and so is the buffer of the read
  have hspan : array.span (written data) = data.length := hlength.symm
  rw [BlockArray.received_next rfl hfits hread rfl rfl, hspan]
  show data.take data.length ++ (Bytes.zeros data.length).drop data.length = data
  rw [List.take_length, List.drop_of_length_le (Nat.le_of_eq (Bytes.length_zeros _)),
    List.append_nil]

end Array

/-! ## The exercise of a unit -/

/-- How the exercise of the unit of a disk ends: the write goes past the end of a disk with fewer
than two blocks. -/
def verdict (p : Profile) : Except ExerciseError Unit :=
  if 2 ≤ p.blocks.toNat then .ok ()
  else .error (.command (.checkCondition (some ⟨5, 0x21, 0x00⟩)))

section Unit

variable {p : Profile} {rest : Bytes} {array : BlockArray} {v : LogicalUnit}
  (hv : Known p p.address v) {s : Session RamDisk}

theorem exists_noData (hat : v.IsAt p.address) {c : Command}
    (hc : Request.ofBytes? c.cdb.bytes = some .noData)
    (hs : s.Frame v (Hosts (Represents p rest array))) :
    ∃ c' s', (perform c).effect s = (some (.ok (), c'), s') ∧
      s'.Frame v (Hosts (Represents p rest array)) :=
  exists_perform_of_fulfils (not_hosts_none _) (serves_represents (leavesMedium_of_noData hc) v)
    (fulfils_noData hat hc) hs

theorem isOk_identify {u : LogicalUnit} (h : u.inquiry.length = Inquiry.size) :
    ∃ identity, identify u = .ok identity := by
  have hlong : ¬ u.inquiry.length < Inquiry.minimumSize := by
    rw [h]
    decide
  exact ⟨_, by rw [identify, Identity.ofBytes, if_neg hlong]; rfl⟩

include hv

/-- The disk identifies itself and is ready. -/
theorem exists_greet (hs : s.Frame v (Hosts (Represents p rest array))) :
    ∃ s', greet.run.effect s = (some (.ok ()), s') ∧
      s'.Frame v (Hosts (Represents p rest array)) := by
  -- the INQUIRY data of a unit are long enough to be read, whatever they say
  have hinquiry : s.unit.inquiry.length = Inquiry.size := by
    rw [← hv.length_inquiry, ← hs.1]
    rfl
  obtain ⟨identity, hidentity⟩ := isOk_identify hinquiry
  obtain ⟨c', s', hready, hs'⟩ := exists_noData ⟨hv.target, hv.lun⟩ (c := .testUnitReady) rfl hs
  have hidentify : (ExceptT.mk (pure (identify s.unit)) : Step (Session RamDisk) _).run.effect s =
      (some (.ok identity), s) := by
    rw [hidentity]
    rfl
  have htest : testUnitReady.effect s = (some (.ok ()), s') := by
    rw [testUnitReady, effect_map, hready]
    rfl
  refine ⟨s', ?_, hs'⟩
  unfold greet
  rw [effect_bind_of_ok (effect_lift (effect_getUnit s)), effect_bind_of_ok hidentify,
    effect_bind_of_ok (effect_say _ _), effect_need htest]
  rfl

variable (hready : v.isReady = true)

include hready

theorem exists_flush (hs : s.Frame v (Hosts (Represents p rest array))) :
    ∃ s', synchronizeCache.effect s = (some (.ok ()), s') ∧
      s'.Frame v (Hosts (Represents p rest array)) := by
  have hoperations : s.unit.operations = .ready := by
    rw [← eq_of_beq hready, ← hs.1]
    rfl
  obtain ⟨c', s', hflush, hs'⟩ := exists_noData ⟨hv.target, hv.lun⟩ (c := .synchronizeCache) rfl hs
  refine ⟨s', ?_, hs'⟩
  rw [effect_synchronizeCache_of_ready hoperations s.host, hflush]
  rfl

variable (hsize : 2 * p.blockSize.toNat < UInt32.size)

include hsize

/-- **What is written is read back**, unless the disk has fewer than two blocks. -/
theorem exists_writeAndRead (hs : s.Frame v (Hosts (Represents p rest array))) :
    ∃ s' array', writeAndRead.run.effect s = (some (verdict p), s') ∧
      s'.Frame v (Hosts (Represents p rest array')) := by
  have hunit : s.unit.blockSize = p.blockSize := by
    rw [← (hv.ready hready).1, ← hs.1]
    rfl
  obtain ⟨hblockSize, hblocks⟩ :
      array.blockSize = p.blockSize.toNat ∧ array.blocks = p.blocks.toNat := by
    obtain ⟨-, disk, size, memory, -, hrepresents⟩ := hs
    exact ⟨hrepresents.blockSize, hrepresents.blocks⟩
  unfold writeAndRead
  rw [effect_bind_of_ok (effect_lift (effect_getUnit s))]
  generalize hdata : pattern (2 * s.unit.blockSize.toNat) = data
  have hlength : data.length = 2 * array.blockSize := by
    rw [← hdata, length_pattern, hunit, hblockSize]
  rw [← hblockSize] at hsize
  have hfault := fault?_written hlength hsize
  obtain ⟨s₁, hwrite, hs₁⟩ : ∃ s₁, (write32 0 2 data).effect s =
      (some (array.result (written data)), s₁) ∧
      s₁.Frame v (Hosts (Represents p rest (array.next (written data)))) :=
    exists_write hv hready hs fun _ => by decide
  rw [verdict, ← hblocks]
  by_cases hfew : array.blocks < 2
  -- the write is refused, and nothing is read
  · rw [if_pos hfew] at hfault
    rw [BlockArray.result_of_fault hfault] at hwrite
    rw [if_neg (Nat.not_le.2 hfew)]
    exact ⟨s₁, _, effect_bind_of_error (effect_need hwrite) _, hs₁⟩
  -- the write goes through, and the read brings back the same bytes
  · rw [if_neg hfew] at hfault
    obtain ⟨hfits, hreceived⟩ := received_readBack hlength hsize hfault
    obtain ⟨s₂, hread, hs₂⟩ : ∃ s₂, (read64 0 2 (Bytes.zeros data.length)).effect s₁ =
        (some ((array.next (written data)).result (readBack data),
          (array.next (written data)).received (readBack data)), s₂) ∧
        s₂.Frame v (Hosts (Represents p rest (array.next (written data)))) :=
      exists_read hv hready hs₁ fun h => nomatch h
    rw [BlockArray.result_of_fits hfault] at hwrite
    rw [BlockArray.result_of_fits hfits, hreceived] at hread
    rw [if_pos (Nat.not_lt.1 hfew)]
    refine ⟨s₂, _, ?_, hs₂⟩
    dsimp only
    rw [effect_bind_of_ok (effect_need hwrite), effect_bind_of_ok (effect_lift hread)]
    dsimp only
    rw [effect_bind_of_ok (effect_need (effect_pure _ _)), if_neg (not_not_intro rfl)]
    exact effect_say _ _

/-- **The exercise of the unit of a disk** ends with the verdict on the disk. -/
theorem exists_onUnit (hs : s.Frame v (Hosts (Represents p rest array))) :
    ∃ s', onUnit.run.effect s = (some (verdict p), s') := by
  obtain ⟨s₁, hgreet, hs₁⟩ := exists_greet hv hs
  obtain ⟨s₂, array₂, hwork, hs₂⟩ := exists_writeAndRead hv hready hsize hs₁
  obtain ⟨s₃, hflush, -⟩ := exists_flush hv hready hs₂
  unfold onUnit
  rw [effect_bind_of_ok hgreet]
  -- a write that is refused ends the exercise; after any other the cache is flushed
  cases hverdict : verdict p with
  | error e =>
    rw [hverdict] at hwork
    exact ⟨s₂, effect_bind_of_error hwork _⟩
  | ok _ =>
    rw [hverdict] at hwork
    exact ⟨s₃, (effect_bind_of_ok hwork _).trans (effect_need hflush)⟩

end Unit

/-! ## The exercise of a bus -/

section Bus

variable {p : Profile} {rest : Bytes} {array : BlockArray} {base bus : Bus RamDisk}
  (hp : p.blockSize ≠ 0) (hsize : 2 * p.blockSize.toNat < UInt32.size)
  (h : Searched p rest array base bus) (hluns : bus.maxLuns ≠ 0)

include hp hsize h hluns

/-- A scan that tries the address of the disk leads to the exercise of its unit. -/
theorem exists_findAndExercise_of_ready (allLuns : Bool)
    (hfound : bus.ReadyAt p.address ∨ bus.InRange allLuns p.address) :
    ∃ bus', (findAndExercise allLuns p.address).run.effect bus = (some (verdict p), bus') := by
  obtain ⟨found, bus₁, hscan, hbus₁, hready⟩ := h.exists_scan hp hluns allLuns
  obtain ⟨u, hu, huReady⟩ := hready.2 hfound
  obtain ⟨s', honUnit⟩ := exists_onUnit (hbus₁.holds.units hu).cleared huReady hsize
    (s := ⟨u, bus₁.host⟩) ⟨rfl, hbus₁.holds.host⟩
  have hunit := Bus.effect_withUnit hu (onUnit (σ := RamDisk)).run
  rw [honUnit] at hunit
  unfold findAndExercise
  rw [effect_bind_of_ok (effect_need hscan), effect_bind_of_ok (effect_say _ _),
    effect_bind_of_ok (effect_lift hunit)]
  exact ⟨_, rfl⟩

omit hsize in
/-- After any other scan there is no unit to exercise. -/
theorem exists_findAndExercise_of_missing (allLuns : Bool)
    (hmissing : ¬ (bus.ReadyAt p.address ∨ bus.InRange allLuns p.address)) :
    ∃ bus', (findAndExercise allLuns p.address).run.effect bus =
      (some (.error .unitMissing), bus') := by
  obtain ⟨found, bus₁, hscan, hbus₁, hready⟩ := h.exists_scan hp hluns allLuns
  have hnone : bus₁.units.get? p.address = none := by
    rw [← Option.not_isSome_iff_eq_none, ← hbus₁.readyAt_iff, hready]
    exact hmissing
  have hunit : (Bus.withUnit p.address (onUnit (σ := RamDisk)).run).effect bus₁ =
      (some none, bus₁) := by
    unfold Bus.withUnit
    rw [effect_bind_of_answer (effect_get _), hnone]
    rfl
  unfold findAndExercise
  rw [effect_bind_of_ok (effect_need hscan), effect_bind_of_ok (effect_say _ _),
    effect_bind_of_ok (effect_lift hunit)]
  exact ⟨_, rfl⟩

end Bus

end Exercise

/-! ## The exercise of a run -/

namespace Program

variable {s t : Settings} {p : Profile} {overflow : Overflow}

/-- The bus of checked settings, before it is scanned. -/
theorem searched_new (hcheck : s.check = .ok t) (hp : t.disk = some p) :
    ∃ rest array, let bus := Bus.new t.busSettings (some (RamDisk.new p overflow))
      Searched p rest array bus.emptied bus := by
  obtain ⟨-, hroom⟩ := Settings.room_of_check hcheck hp
  have hlength : (Memory.zeros t.busSettings.privateSize).toList.length =
      t.privateSize.toNat := Memory.length_toList _
  have hprofile : (RamDisk.new p overflow).profile = p := rfl
  have hcalm : (RamDisk.new p overflow).Calm := ⟨rfl, rfl, rfl⟩
  obtain ⟨array, -, hrepresents⟩ := exists_represents hprofile hcalm
    (isSmall_of_check hcheck hp) (hlength.symm ▸ hroom)
  have hhost : Hosts (Represents p _ array)
      (Bus.new t.busSettings (some (RamDisk.new p overflow))).host :=
    ⟨_, _, _, rfl, hrepresents⟩
  exact ⟨_, array, Bus.holds_new _ _ hhost, fun h => nomatch h⟩

/-- The disk of checked settings lies within the limits of their bus, so a scan tries its address if
it asks for all units or if the disk is the first one of its target. -/
theorem inRange_new_iff (hcheck : s.check = .ok t) (hp : t.disk = some p) :
    (Bus.new t.busSettings (some (RamDisk.new p overflow))).InRange t.scanLuns p.address ↔
      p.lun = 0 ∨ t.scanLuns = true := by
  obtain ⟨-, -, -, htarget, hlun⟩ :=
    Settings.diskFault?_eq_none_iff.1 (Settings.diskFault?_of_check hcheck hp)
  -- a limit with something below it is not open
  have hlimit : ∀ {a limit usual : UInt8}, a < limit → a < if limit = 0 then usual else limit := by
    intro a limit usual hlt
    rw [if_neg]
    · exact hlt
    · rintro rfl
      exact UInt8.not_lt_zero hlt
  have hscan : (t.scanLuns = false → p.lun = 0) ↔ p.lun = 0 ∨ t.scanLuns = true := by
    cases t.scanLuns <;> simp
  rw [← hscan]
  exact ⟨fun h => h.2.2, fun h => ⟨hlimit htarget, hlimit hlun, h⟩⟩

/-- Two blocks of the disk of checked settings fit a transfer. -/
theorem two_blocks_lt (hcheck : s.check = .ok t) (hp : t.disk = some p) :
    2 * p.blockSize.toNat < UInt32.size := by
  obtain ⟨-, hblocks, hlimit, -, -⟩ :=
    Settings.diskFault?_eq_none_iff.1 (Settings.diskFault?_of_check hcheck hp)
  -- a block is no larger than the medium, whose limit is less than half of what 32 bits count
  have hpos : 0 < p.blocks.toNat := Nat.pos_of_ne_zero fun h => hblocks (UInt64.toNat_inj.1 h)
  have hmedium : p.blocks.toNat * p.blockSize.toNat ≤ 1073741824 := by
    rw [← Settings.toNat_mediumSize hlimit]
    exact UInt64.le_iff_toNat_le.1 hlimit
  have hblock : p.blockSize.toNat ≤ p.blocks.toNat * p.blockSize.toNat :=
    Nat.le_mul_of_pos_left _ hpos
  have hwidth : UInt32.size = 4294967296 := rfl
  omega

/-- How the exercise of a disk ends over settings: it gets to the unit of the disk if the scan does,
and then ends with the verdict on the disk. -/
def ending (t : Settings) (p : Profile) : Except ExerciseError Unit :=
  if p.lun = 0 ∨ t.scanLuns = true then Exercise.verdict p else .error .unitMissing

theorem ending_eq_ok_iff :
    ending t p = .ok () ↔ 2 ≤ p.blocks.toNat ∧ (p.lun = 0 ∨ t.scanLuns = true) := by
  unfold ending Exercise.verdict
  by_cases hfound : p.lun = 0 ∨ t.scanLuns = true
  · rw [if_pos hfound]
    by_cases hblocks : 2 ≤ p.blocks.toNat
    · rw [if_pos hblocks]
      exact ⟨fun _ => ⟨hblocks, hfound⟩, fun _ => rfl⟩
    · rw [if_neg hblocks]
      exact ⟨(fun h => nomatch h), fun h => absurd h.1 hblocks⟩
  · rw [if_neg hfound]
    exact ⟨(fun h => nomatch h), fun h => absurd h.2 hfound⟩

/-- **The answer of the exercise** over checked settings. -/
theorem answer_exercise (hcheck : s.check = .ok t) (hp : t.disk = some p) :
    (exercise t p overflow).answer = some (ending t p) := by
  obtain ⟨rest, array, hsearched⟩ := searched_new hcheck hp
  obtain ⟨hblockSize, -⟩ := Settings.room_of_check hcheck hp
  have hluns := Bus.maxLuns_new t.busSettings (some (RamDisk.new p overflow))
  -- a new bus has no units, so it is for the scan to find the disk
  have hfound : (Bus.new t.busSettings (some (RamDisk.new p overflow))).ReadyAt p.address ∨
      (Bus.new t.busSettings (some (RamDisk.new p overflow))).InRange t.scanLuns p.address ↔
        p.lun = 0 ∨ t.scanLuns = true := by
    rw [← inRange_new_iff hcheck hp]
    exact or_iff_right fun ⟨_, hu, _⟩ => nomatch hu
  obtain ⟨bus', hwork⟩ : ∃ bus', (Exercise.findAndExercise t.scanLuns p.address).run.effect
      (Bus.new t.busSettings (some (RamDisk.new p overflow))) =
        (some (ending t p), bus') := by
    unfold ending
    split
    · next h =>
      exact Exercise.exists_findAndExercise_of_ready hblockSize (two_blocks_lt hcheck hp) hsearched
        hluns _ (hfound.2 h)
    · next h =>
      exact Exercise.exists_findAndExercise_of_missing hblockSize hsearched hluns _
        fun h' => h (hfound.1 h')
  -- giving the bus up at the end answers what was answered before
  unfold exercise
  rw [answer_run, effect_bind_of_answer (effect_report _ _)]
  show ((Exercise.onBus t.scanLuns p.address).effect _).1 = _
  obtain ⟨left, hdispose⟩ := RamDisk.exists_effect_dispose bus'
  unfold Exercise.onBus
  rw [effect_bind_of_answer hwork, effect_bind_of_answer hdispose]
  rfl

/-- **The exercise of checked settings ends well** exactly if their disk has at least two blocks and
the scan gets to it: it is the first unit of its target, or the scan asks for all units. -/
theorem exercise_succeeds_iff (hcheck : s.check = .ok t) (hp : t.disk = some p) :
    (exercise t p overflow).answer = some (.ok ()) ↔
      2 ≤ p.blocks.toNat ∧ (p.lun = 0 ∨ t.scanLuns = true) := by
  rw [answer_exercise hcheck hp, Option.some_inj]
  exact ending_eq_ok_iff

/-- A disk of two blocks that is the second unit of its target, and does not know READ CAPACITY(16).
-/
theorem exercise_succeeds_second_unit :
    let p : Profile := { Profile.disk 2 3 with target := 1, lun := 1, longCapacity := false }
    let s : Settings := ⟨0, 2, 0, [.dma], 0, 0, 0, true, some p⟩
    let t : Settings := { s with maxLuns := 8, privateSize := 6, defaultTimeout := 30000 }
    s.check = .ok t ∧ t.disk = some p ∧
      ((exercise t p).answer = some (.ok ()) ↔
        2 ≤ p.blocks.toNat ∧ (p.lun = 0 ∨ t.scanLuns = true)) ∧
      (exercise t p).answer = some (.ok ()) := by
  intro p s t
  have hcheck : s.check = .ok t := rfl
  have hiff : (exercise t p).answer = some (.ok ()) ↔
      2 ≤ p.blocks.toNat ∧ (p.lun = 0 ∨ t.scanLuns = true) :=
    exercise_succeeds_iff hcheck rfl
  exact ⟨hcheck, rfl, hiff, hiff.2 ⟨by decide, .inr rfl⟩⟩

/-- **The exit code of a run** that gets as far as its exercise. -/
theorem exitCode_runFiles {config logger : Lookup} {opens : Log.Destination → Bool}
    {log : Log.Logger} (hlog : openLog config logger opens = .ok log)
    (hprepare : prepare config = .ok (t, p)) :
    (runFiles config logger opens overflow).exitCode =
      if 2 ≤ p.blocks.toNat ∧ (p.lun = 0 ∨ t.scanLuns = true) then 0 else 1 := by
  obtain ⟨path, -, hload, hp⟩ := prepare_eq_ok_iff.1 hprepare
  obtain ⟨s, -, hcheck⟩ := Settings.load_eq_ok_iff.1 hload
  have hiff := ending_eq_ok_iff (t := t) (p := p)
  unfold runFiles
  rw [hlog, hprepare]
  show (Outcome.ofExercise log (exercise t p overflow)).exitCode = _
  unfold Outcome.ofExercise
  rw [answer_exercise hcheck hp]
  cases h : ending t p with
  | ok _ => rw [if_pos (hiff.1 h)]
  | error e =>
    rw [if_neg fun h' => nomatch h.symm.trans (hiff.2 h')]
    rfl

end Program

end Scsi
