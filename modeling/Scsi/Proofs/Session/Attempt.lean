import Scsi.Proofs.Bus.Monitor
import Scsi.Proofs.Host.Completion
import Scsi.Proofs.Session.BlockIO
import Scsi.RamDisk.Basic

/-!
# Attempts

A call of a handle that is no discovery is one attempt: it is refused on the host, before anything
is sent, or one command is submitted and the call ends as the adapter lets it end. The error tells
which of the two it was, and nothing is sent a second time.

## Main definitions

* `Error.isLocal`: the error arose on the host
* `UnitAnswer.isLocal`: the call ended with such an error
* `UnitCall.lent`, `UnitAnswer.lent`: the memory that is lent to a call, before it and after it
* `Quiet x Q`: the activity only works on the unit and comes to an end
* `Attempt s R A`: how an attempt from the session `s` can end

## Main results

* `attempts_perform`, `attempts_transfer`: a submission and a transfer are attempts
* `attempts_run`: so is every call of a handle that is no discovery
* `UnitCall.contacts_spec`: what a call submits, by its answer
-/

namespace Scsi

open Activity Session

/-- The error arose on the host, so no command was sent. -/
def Error.isLocal : Error → Bool
  | noInterface | unsupported | invalidRequest _ => true
  | protocolPhase | busy | checkCondition _ => false

/-- The result is an error that arose on the host. -/
def isRefusal {α : Type} : Except Error α → Bool
  | .error e => e.isLocal
  | .ok _ => false

/-- The call ended with an error that arose on the host. -/
def UnitAnswer.isLocal : UnitAnswer → Bool
  | done r | completed r _ => isRefusal r
  | moved r | filled r _ => isRefusal r
  | discovered (.error e) => e.command?.any Error.isLocal
  | discovered (.ok _) => false

/-- The memory that is lent to a call to be written to. -/
def UnitCall.lent : UnitCall → Option DataBuffer
  | read32 _ _ buffer | read64 _ _ buffer | requestSense buffer => some (.input buffer)
  | passThrough c | perform c => some c.data
  | _ => none

/-- The memory that was lent, as it comes back. -/
def UnitAnswer.lent : UnitAnswer → Option DataBuffer
  | filled _ buffer => some (.input buffer)
  | completed _ c => some c.data
  | _ => none

variable {σ α β : Type}

/-! ## Quiet work -/

/-- The activity only works on the unit, comes to an end, and its answer satisfies `Q`. -/
def Quiet (x : Activity (Session σ) α) (Q : α → Prop) : Prop :=
  ∀ s, ∃ a u, x.effect s = (some a, { s with unit := u }) ∧ Q a

section Quiet

variable {Q : α → Prop} {R : β → Prop}

theorem Quiet.pure {a : α} (h : Q a) : Quiet (pure a : Activity (Session σ) α) Q :=
  fun s => ⟨a, s.unit, rfl, h⟩

theorem Quiet.bind {x : Activity (Session σ) α} {f : α → Activity (Session σ) β} (hx : Quiet x Q)
    (hf : ∀ a, Q a → Quiet (f a) R) : Quiet (x >>= f) R := by
  intro s
  obtain ⟨a, u, heffect, ha⟩ := hx s
  obtain ⟨b, w, heffect', hb⟩ := hf a ha { s with unit := u }
  exact ⟨b, w, by rw [effect_bind_of_answer heffect, heffect'], hb⟩

theorem quiet_getUnit : Quiet (getUnit : Activity (Session σ) LogicalUnit) fun _ => True :=
  fun s => ⟨s.unit, s.unit, rfl, trivial⟩

theorem quiet_setLastActual (n : UInt32) :
    Quiet (setLastActual n : Activity (Session σ) Unit) fun _ => True :=
  fun _ => ⟨_, _, rfl, trivial⟩

theorem quiet_refuse : Quiet (refuse : Activity (Session σ) Error) fun e => e.isLocal = true :=
  fun _ => ⟨_, _, rfl, rfl⟩

end Quiet

/-! ## Attempts -/

/-- How an attempt from the monitored session `s` can end: it is refused with an answer in `R`, and
only the unit is different; one command is submitted, and the answer is in `A`; or the adapter does
not return from the command. -/
inductive Attempt [HostAdapter σ] (s : Session (Monitor σ)) (R A : α → Prop) :
    Option α × Session (Monitor σ) → Prop
  | refused {a : α} {u : LogicalUnit} (ha : R a) : Attempt s R A (some a, { s with unit := u })
  | answered {a : α} {s' : Session (Monitor σ)} {host : Host (Monitor σ)} {c : Command} (ha : A a)
      (hhost : s.host = some host)
      (hsent : s'.contacts = s.contacts ++ [⟨host.memory.toList, .submit c⟩]) :
    Attempt s R A (some a, s')
  | crashed {s' : Session (Monitor σ)} {host : Host (Monitor σ)} {c : Command}
      (hc : ¬ HostAdapter.Answers σ c) (hhost : s.host = some host)
      (hsent : s'.contacts = s.contacts ++ [⟨host.memory.toList, .submit c⟩]) :
    Attempt s R A (none, s')

/-- The host interface, if there is one, has a monitor. -/
def Session.IsWatched (s : Session (Monitor σ)) : Prop :=
  ∀ host, s.host = some host → host.adapter.isSome = true

/-- From every monitored session the activity is an attempt. -/
def Attempts [HostAdapter σ] (x : Activity (Session (Monitor σ)) α) (R A : α → Prop) : Prop :=
  ∀ s : Session (Monitor σ), s.IsWatched → Attempt s R A (x.effect s)

section Attempts

variable [HostAdapter σ] {R A Q : α → Prop} {R' A' : β → Prop} {x : Activity (Session (Monitor σ)) α}
  {f : α → Activity (Session (Monitor σ)) β}

/-- Quiet work is a refusal. -/
theorem Quiet.attempts (h : Quiet x R) : Attempts x R A := by
  intro s _
  obtain ⟨a, u, heffect, ha⟩ := h s
  rw [heffect]
  exact .refused ha

/-- Quiet work before an attempt is part of it. -/
theorem Quiet.bind_attempts (hx : Quiet x Q) (hf : ∀ a, Q a → Attempts (f a) R' A') :
    Attempts (x >>= f) R' A' := by
  intro s hs
  obtain ⟨a, u, heffect, ha⟩ := hx s
  rw [effect_bind_of_answer heffect]
  -- the unit plays no part in how an attempt ends, so the three ends are those of the rest
  have hrest := hf a ha { s with unit := u } hs
  generalize (f a).effect { s with unit := u } = ended at hrest ⊢
  cases hrest with
  | refused hb => exact .refused hb
  | answered hb hhost hsent => exact .answered hb hhost hsent
  | crashed hc hhost hsent => exact .crashed hc hhost hsent

/-- Quiet work after an attempt is part of it. -/
theorem Attempts.bind (hx : Attempts x R A) (hR : ∀ a, R a → Quiet (f a) R')
    (hA : ∀ a, A a → Quiet (f a) A') : Attempts (x >>= f) R' A' := by
  intro s hs
  have hfirst := hx s hs
  rw [effect_bind]
  generalize x.effect s = ended at hfirst ⊢
  cases hfirst with
  | @refused a u ha =>
    obtain ⟨b, w, heffect, hb⟩ := hR a ha { s with unit := u }
    dsimp only
    rw [heffect]
    exact .refused hb
  | @answered a s' host c ha hhost hsent =>
    obtain ⟨b, w, heffect, hb⟩ := hA a ha s'
    dsimp only
    rw [heffect]
    exact .answered hb hhost hsent
  | crashed hc hhost hsent => exact .crashed hc hhost hsent

theorem Attempts.map {g : α → β} (hx : Attempts x R A) (hR : ∀ a, R a → R' (g a))
    (hA : ∀ a, A a → A' (g a)) : Attempts (g <$> x) R' A' :=
  hx.bind (fun a ha => Quiet.pure (hR a ha)) fun a ha => Quiet.pure (hA a ha)

end Attempts

/-! ## Submissions -/

namespace Host

variable [HostAdapter σ]

/-- A submission is noted once, whatever comes of it. -/
theorem contacts_submit (c : Command) {host : Host (Monitor σ)} (h : host.adapter.isSome = true) :
    ((submit c).effect host).2.contacts =
      host.contacts ++ [⟨host.memory.toList, .submit c⟩] := by
  rw [effect_submit]
  exact notes_watch _ _ _ h

/-- A monitor crashes only with its adapter. -/
theorem not_answers_of_submit {c : Command} {host : Host (Monitor σ)}
    (h : ((submit c).effect host).1 = none) : ¬ HostAdapter.Answers σ c := by
  intro hc
  rw [effect_submit] at h
  obtain ⟨_ | ⟨_ | a, contacts⟩, size, memory⟩ := host
  · exact nomatch h
  · exact nomatch h
  · have hanswer : ((HostAdapter.submit c).run (a, memory)).answer = none := Option.map_eq_none_iff.1 h
    have hsome := hc size (a, memory)
    rw [hanswer] at hsome
    exact nomatch hsome

end Host

theorem Command.isRefusal_outcome (c : Command) : isRefusal c.outcome = false := by
  unfold outcome
  split <;> rfl

namespace Command

/-- A new command is over the given buffer, or it is refused on the host. -/
def Made (data : DataBuffer) : Except Error Command → Prop
  | .error e => e.isLocal = true
  | .ok c => c.data = data

theorem made_ofCdb (cdb : Cdb) (data : DataBuffer) (n : UInt32) : Made data (ofCdb cdb data n) := by
  unfold ofCdb
  split <;> rfl

theorem made_transfer (block : UInt64) (count blockSize : UInt32) (data : DataBuffer)
    (access : Access) (form : CdbForm) :
    Made data (transfer block count blockSize data access form) := by
  unfold transfer
  dsimp only
  -- the wrong direction, and a length that 32 bits do not hold
  split
  · rfl
  split
  · rfl
  cases form with
  | sixteen => exact made_ofCdb _ _ _
  | ten =>
    dsimp only
    -- an address and a count that the short form does not hold
    split
    · rfl
    split
    · rfl
    · exact made_ofCdb _ _ _

theorem made_requestSense (buffer : Bytes) : Made (.input buffer) (requestSense buffer) := by
  unfold requestSense
  split
  · exact made_ofCdb _ _ _
  · rfl

end Command

section

variable [HostAdapter σ]

/-- **A submission** is an attempt, which is refused if there is no host interface. -/
theorem attempts_perform (c : Command) :
    Attempts (perform c : Activity (Session (Monitor σ)) _)
      (fun r => isRefusal r.1 = true ∧ r.2.data = c.data) fun r => isRefusal r.1 = false := by
  rintro ⟨u, _ | host⟩ hs
  · rw [effect_perform_of_no_host]
    exact .refused ⟨rfl, rfl⟩
  · have hsent := Host.contacts_submit (c.addressed u) (hs host rfl)
    rw [effect_perform_of_host]
    -- the adapter crashed, lost the command, or delivered it
    rcases h : (Host.submit (c.addressed u)).effect host with ⟨_ | ⟨_ | _, c'⟩, host'⟩
    all_goals rw [h] at hsent
    · exact .crashed (Host.not_answers_of_submit (congrArg Prod.fst h)) rfl hsent
    · exact .answered rfl rfl hsent
    · exact .answered c'.isRefusal_outcome rfl hsent

/-- **A transfer** is an attempt, which is refused with the buffer as it was. -/
theorem attempts_transfer (block : UInt64) (count : UInt32) (data : DataBuffer) (access : Access)
    (form : CdbForm) :
    Attempts (transfer block count data access form : Activity (Session (Monitor σ)) _)
      (fun r => isRefusal r.1 = true ∧ r.2 = data) fun r => isRefusal r.1 = false := by
  refine quiet_getUnit.bind_attempts fun u _ => ?_
  cases u.operations with
  | unsupported => exact (quiet_refuse.bind fun _ he => Quiet.pure ⟨he, rfl⟩).attempts
  | ready =>
    refine (quiet_setLastActual 0).bind_attempts fun _ _ => ?_
    have hmade := Command.made_transfer block count u.blockSize data access form
    cases hc : Command.transfer block count u.blockSize data access form with
    | error e =>
      rw [hc] at hmade
      exact (Quiet.pure ⟨hmade, rfl⟩).attempts
    | ok c =>
      rw [hc] at hmade
      -- what is done after the submission is quiet, so it neither sends anything nor crashes
      refine (attempts_perform c).bind ?_ ?_
      · rintro ⟨e | _, after⟩ ⟨he, hafter⟩
        · exact Quiet.pure ⟨he, hafter.trans hmade⟩
        · exact nomatch he
      · rintro ⟨e | _, after⟩ he
        · exact Quiet.pure he
        · exact (quiet_setLastActual _).bind fun _ _ => Quiet.pure rfl

theorem attempts_read (form : CdbForm) (block : UInt64) (count : UInt32) (buffer : Bytes) :
    Attempts (read form block count buffer : Activity (Session (Monitor σ)) _)
      (fun r => isRefusal r.1 = true ∧ r.2 = buffer) fun r => isRefusal r.1 = false := by
  refine (attempts_transfer _ _ _ _ _).bind ?_ fun _ h => Quiet.pure h
  rintro ⟨_, _⟩ ⟨hrefused, rfl⟩
  exact Quiet.pure ⟨hrefused, rfl⟩

theorem attempts_write (form : CdbForm) (block : UInt64) (count : UInt32) (buffer : Bytes) :
    Attempts (write form block count buffer : Activity (Session (Monitor σ)) _)
      (fun r => isRefusal r = true) fun r => isRefusal r = false :=
  (attempts_transfer _ _ _ _ _).map (fun _ h => h.1) fun _ h => h

theorem attempts_synchronizeCache :
    Attempts (synchronizeCache : Activity (Session (Monitor σ)) _)
      (fun r => isRefusal r = true) fun r => isRefusal r = false := by
  refine quiet_getUnit.bind_attempts fun u _ => ?_
  cases u.operations with
  | unsupported => exact (quiet_refuse.bind fun _ he => Quiet.pure he).attempts
  | ready => exact (attempts_perform _).map (fun _ h => h.1) fun _ h => h

theorem attempts_passThrough (c : Command) :
    Attempts (passThrough c : Activity (Session (Monitor σ)) _)
      (fun r => isRefusal r.1 = true ∧ r.2.data = c.data) fun r => isRefusal r.1 = false := by
  refine quiet_getUnit.bind_attempts fun u _ => ?_
  cases u.operations with
  | unsupported => exact (quiet_refuse.bind fun _ he => Quiet.pure ⟨he, rfl⟩).attempts
  | ready => exact attempts_perform c

theorem attempts_requestSense (buffer : Bytes) :
    Attempts (requestSense buffer : Activity (Session (Monitor σ)) _)
      (fun r => isRefusal r.1 = true ∧ r.2 = buffer) fun r => isRefusal r.1 = false := by
  have hmade := Command.made_requestSense buffer
  unfold requestSense
  cases hc : Command.requestSense buffer with
  | error e =>
    rw [hc] at hmade
    exact (Quiet.pure ⟨hmade, rfl⟩).attempts
  | ok c =>
    rw [hc] at hmade
    refine (attempts_perform c).bind ?_ ?_
    · rintro ⟨e | _, after⟩ ⟨he, hafter⟩
      · exact Quiet.pure ⟨he, congrArg DataBuffer.bytes (hafter.trans hmade)⟩
      · exact nomatch he
    · rintro ⟨e | _, after⟩ he
      · exact Quiet.pure he
      · exact Quiet.pure rfl

/-- **A call of a handle** that is no discovery is an attempt, which is refused with the memory that
was lent to it as it was. -/
theorem attempts_run {call : UnitCall} (hcall : call ≠ .discover) :
    Attempts (call.run : Activity (Session (Monitor σ)) _)
      (fun answer => answer.isLocal = true ∧ answer.lent = call.lent)
      fun answer => answer.isLocal = false := by
  have hfilled {x : Activity (Session (Monitor σ)) (Except Error UInt32 × Bytes)} {buffer : Bytes}
      (h : Attempts x (fun r => isRefusal r.1 = true ∧ r.2 = buffer) fun r => isRefusal r.1 = false) :
      Attempts ((fun r => UnitAnswer.filled r.1 r.2) <$> x)
        (fun answer => answer.isLocal = true ∧ answer.lent = some (.input buffer))
        fun answer => answer.isLocal = false :=
    h.map (fun _ hr => ⟨hr.1, hr.2 ▸ rfl⟩) fun _ hr => hr
  have hcompleted {x : Activity (Session (Monitor σ)) (Except Error Unit × Command)} {c : Command}
      (h : Attempts x (fun r => isRefusal r.1 = true ∧ r.2.data = c.data)
        fun r => isRefusal r.1 = false) :
      Attempts ((fun r => UnitAnswer.completed r.1 r.2) <$> x)
        (fun answer => answer.isLocal = true ∧ answer.lent = some c.data)
        fun answer => answer.isLocal = false :=
    h.map (fun _ hr => ⟨hr.1, congrArg some hr.2⟩) fun _ hr => hr
  cases call with
  | read32 block count buffer => exact hfilled (attempts_read _ _ _ _)
  | write32 block count buffer =>
    exact (attempts_write _ _ _ _).map (fun _ hr => ⟨hr, rfl⟩) fun _ hr => hr
  | read64 block count buffer => exact hfilled (attempts_read _ _ _ _)
  | write64 block count buffer =>
    exact (attempts_write _ _ _ _).map (fun _ hr => ⟨hr, rfl⟩) fun _ hr => hr
  | synchronizeCache =>
    exact attempts_synchronizeCache.map (fun _ hr => ⟨hr, rfl⟩) fun _ hr => hr
  | passThrough c => exact hcompleted (attempts_passThrough c)
  | perform c => exact hcompleted (attempts_perform c)
  | testUnitReady =>
    exact ((attempts_perform _).map (fun _ h => h.1) fun _ h => h).map (fun _ hr => ⟨hr, rfl⟩)
      fun _ hr => hr
  | requestSense buffer => exact hfilled (attempts_requestSense buffer)
  | discover => exact absurd rfl hcall

end

/-! ## What is submitted -/

variable [HostAdapter σ]

/-- **Every call of a handle but its discovery submits once or not at all**, and the answer tells
which: an error that arose on the host tells that nothing was submitted and that adapter, private
block and lent memory are as they were; every other answer tells of one submission. A call ends
with an answer if the adapter returns from all commands, and submits no second time even if it does
not. -/
theorem UnitCall.contacts_spec {call : UnitCall} (hcall : call ≠ .discover) (s : Session σ) :
    ((∀ c, HostAdapter.Answers σ c) → (call.run.run s).answer.isSome = true) ∧
      (call.contacts s).length ≤ 1 ∧
      ∀ answer, (call.run.run s).answer = some answer →
        (answer.isLocal = false → ∃ host c, s.host = some host ∧
          call.contacts s = [⟨host.memory.toList, .submit c⟩]) ∧
        (answer.isLocal = true → call.contacts s = [] ∧ (call.run.run s).state.host = s.host ∧
          answer.lent = call.lent) := by
  have hwatched : s.monitored.IsWatched := by
    intro host hhost
    obtain ⟨_, _, rfl⟩ := Option.map_eq_some_iff.1 hhost
    rfl
  -- the attempt is one from the session with a monitor put in, and the session does the same
  have hattempt := attempts_run (σ := σ) hcall s.monitored hwatched
  have hrun : call.run.effect s = ((call.run.effect s.monitored).1,
      (call.run.effect s.monitored).2.view Host.unmonitored) := by
    rw [effect, call.run_monitored]
    rfl
  simp only [answer_run, state_run, contacts]
  rw [hrun]
  generalize call.run.effect s.monitored = ended at hattempt ⊢
  cases hattempt with
  | @refused answer u h =>
    have hnone : ({ s.monitored with unit := u } : Session (Monitor σ)).contacts = [] :=
      s.contacts_monitored
    refine ⟨fun _ => rfl, by rw [hnone]; exact Nat.zero_le 1, ?_⟩
    rintro _ ⟨⟩
    have hhost : s.monitored.host.map Host.unmonitored = s.host :=
      congrArg Session.host (view_of_section Host.unmonitored_monitored s)
    exact ⟨fun h' => absurd (h'.symm.trans h.1) Bool.false_ne_true, fun _ => ⟨hnone, hhost, h.2⟩⟩
  | @answered answer s' host c h hhost hsent =>
    rw [s.contacts_monitored, List.nil_append] at hsent
    obtain ⟨host', hhost', rfl⟩ := Option.map_eq_some_iff.1 hhost
    refine ⟨fun _ => rfl, by rw [hsent]; exact Nat.le_refl 1, ?_⟩
    rintro _ ⟨⟩
    exact ⟨fun _ => ⟨host', c, hhost', hsent⟩,
      fun h' => absurd (h.symm.trans h') Bool.false_ne_true⟩
  | @crashed s' host c hc hhost hsent =>
    rw [s.contacts_monitored, List.nil_append] at hsent
    refine ⟨fun hanswers => absurd (hanswers c) hc, by rw [hsent]; exact Nat.le_refl 1, ?_⟩
    rintro _ ⟨⟩

/-- On a disk whose unit was not discovered, a read is refused and TEST UNIT READY is submitted. -/
theorem UnitCall.contacts_spec_disk :
    let s : Session RamDisk := ⟨.new 0 0 0 0, some (.new (some (RamDisk.new (.disk 4 4))) 16)⟩
    let buffer : Bytes := [1, 2, 3, 4]
    ((read32 0 1 buffer).contacts s = [] ∧ ((read32 0 1 buffer).run.run s).state.host = s.host) ∧
      ∃ host c, s.host = some host ∧
        testUnitReady.contacts s = [⟨host.memory.toList, .submit c⟩] := by
  intro s buffer
  have hread : read32 0 1 buffer ≠ .discover := fun h => nomatch h
  have htest : testUnitReady ≠ .discover := fun h => nomatch h
  have hrefused : ((read32 0 1 buffer).run.run s).answer =
      some (.filled (.error .unsupported) buffer) := rfl
  have hanswered : (testUnitReady.run.run s).answer = some (.done (.ok ())) := rfl
  obtain ⟨hcontacts, hhost, -⟩ := ((contacts_spec hread s).2.2 _ hrefused).2 rfl
  exact ⟨⟨hcontacts, hhost⟩, ((contacts_spec htest s).2.2 _ hanswered).1 rfl⟩

end Scsi
