import Mathlib.Algebra.Group.Nat.Defs
import Scsi.Proofs.Bus.Interruption
import Scsi.Proofs.Session.Belief

/-!
# Where a capacity comes from

A reply to READ CAPACITY names the address of the last block, and the medium has one block more. The
10-byte form names it in 32 bits, and one more always fits in the 64 bits of a capacity. The 16-byte
form names it in all 64 bits, and from the highest address of all the count goes round to zero.

A unit is made ready by nothing but a discovery, and stays as it was found. So the capacity of each
ready unit goes back to one reply that came in during one of the calls before.

## Main definitions

* `CapacityForm`: the two forms of the reply, with their questions and the last block that they name
* `Exchange.settled`: an exchange as its sender gets it
* `LogicalUnit.SizedBy e form last`: the capacity of a unit comes from the reply `e`, which names
  `last` as the last block

## Main results

* `Course.exists_sizing`: the course of a discovery that succeeds ends with the reply that counts
* `sizedBy_of_discover`: a unit that a discovery makes ready is sized by its last reply
* `Bus.tells_sized`: what the exchanges with an address tell of the capacity there
* `Bus.hasUnit_or_sizedIn_apply`, `Bus.exists_sizedIn_after`: what a call does to where the capacity
  of a ready unit comes from, and what a run does
* `capacity_counts_blocks`: a capacity is one more than the last block of a reply, in 64 bits
-/

namespace Scsi

open Activity Session

/-! ## Replies -/

/-- The two forms of a reply to READ CAPACITY. -/
inductive CapacityForm
  | short
  | long
deriving DecidableEq

namespace CapacityForm

/-- The question that is answered in the form. -/
def question : CapacityForm → Command
  | short => Question.shortCapacity
  | long => Question.longCapacity

/-- The count of bytes of the address in the form. -/
def width : CapacityForm → Nat
  | short => 4
  | long => 8

/-- The address of the last block that a reply names. -/
def lastBlock (form : CapacityForm) (bs : Bytes) : Nat := Bytes.number (bs.slice 0 form.width)

/-- The numbers in a reply. -/
def reply : CapacityForm → Bytes → CapacityReply
  | short => shortReply
  | long => longReply

theorem lastBlock_lt (form : CapacityForm) (bs : Bytes) :
    form.lastBlock bs < 256 ^ form.width := Bytes.number_slice_lt _ _ _

/-- Only the 16-byte form can name the highest address of all. -/
theorem lastBlock_add_one_le (form : CapacityForm) (bs : Bytes) :
    form.lastBlock bs + 1 ≤ UInt64.size ∧ (form.lastBlock bs + 1 = UInt64.size → form = .long) := by
  have hlast := form.lastBlock_lt bs
  have hsize : UInt64.size = 256 ^ 8 := rfl
  cases form with
  | short =>
    have hshort : lastBlock .short bs < 256 ^ 4 := hlast
    exact ⟨by omega, fun h => absurd h (by omega)⟩
  | long =>
    have hlong : lastBlock .long bs < 256 ^ 8 := hlast
    exact ⟨by omega, fun _ => rfl⟩

/-- There is one block more than the last address, counted in 64 bits. -/
theorem toNat_blocks_reply (form : CapacityForm) (bs : Bytes) :
    (form.reply bs).capacity.blocks.toNat = (form.lastBlock bs + 1) % UInt64.size := by
  have hlast : (form.reply bs).lastBlock = UInt64.ofNat (form.lastBlock bs) := by
    cases form <;> rfl
  show ((form.reply bs).lastBlock + 1).toNat = _
  rw [hlast, UInt64.toNat_add, UInt64.toNat_ofNat']
  exact Nat.mod_add_mod _ _ _

end CapacityForm

/-- The capacity of the unit comes from the exchange, a reply in the form that names `last` as the
address of the last block. -/
structure LogicalUnit.SizedBy (w : LogicalUnit) (e : Exchange) (form : CapacityForm) (last : Nat) :
    Prop where
  asks : e.sent = form.question.addressed w
  names : ∃ bs, e.EndsWell bs ∧ form.lastBlock bs = last
  last_lt : last < 256 ^ form.width
  /-- One more is the capacity, as far as 64 bits can count. -/
  exact : last + 1 < UInt64.size → w.capacity.toNat = last + 1
  /-- Only the 16-byte form goes as far as that, and the capacity is zero then. -/
  wraps : last + 1 = UInt64.size → form = .long ∧ w.capacity = 0
  pos_iff : 0 < w.capacity.toNat ↔ ¬ (form = .long ∧ last = UInt64.size - 1)

/-- What the last command left on a unit has no part in where its capacity comes from. -/
theorem LogicalUnit.SizedBy.congr {u w : LogicalUnit} {e : Exchange} {form : CapacityForm}
    {last : Nat} (hcleared : u.cleared = w.cleared) (h : u.SizedBy e form last) :
    w.SizedBy e form last := by
  have hcapacity : u.capacity = w.capacity := congrArg (fun v => v.capacity) hcleared
  have hasks := h.asks
  rw [Command.addressed_congr hcleared] at hasks
  exact ⟨hasks, h.names, h.last_lt, hcapacity ▸ h.exact, hcapacity ▸ h.wraps, hcapacity ▸ h.pos_iff⟩

/-- A count in 64 bits is right for all addresses but the highest. -/
theorem LogicalUnit.sizedBy_of_toNat_capacity {w : LogicalUnit} {e : Exchange}
    {form : CapacityForm} {bs : Bytes} (hasks : e.sent = form.question.addressed w)
    (hbs : e.EndsWell bs) (h : w.capacity.toNat = (form.lastBlock bs + 1) % UInt64.size) :
    w.SizedBy e form (form.lastBlock bs) := by
  obtain ⟨hle, hlong⟩ := form.lastBlock_add_one_le bs
  have hexact : form.lastBlock bs + 1 < UInt64.size → w.capacity.toNat = form.lastBlock bs + 1 :=
    fun hlt => h.trans (Nat.mod_eq_of_lt hlt)
  have hzero : form.lastBlock bs + 1 = UInt64.size → w.capacity = 0 := by
    intro heq
    rw [heq, Nat.mod_self] at h
    exact UInt64.toNat_inj.1 h
  refine ⟨hasks, ⟨bs, hbs, rfl⟩, form.lastBlock_lt bs, hexact,
    fun heq => ⟨hlong heq, hzero heq⟩, ?_⟩
  rcases Nat.lt_or_eq_of_le hle with hlt | heq
  · rw [hexact hlt]
    refine iff_of_true (Nat.succ_pos _) ?_
    rintro ⟨-, hhighest⟩
    omega
  · rw [hzero heq]
    exact iff_of_false (Nat.lt_irrefl 0) (Classical.not_not.2 ⟨hlong heq, by omega⟩)

/-! ## Discoveries -/

/-- The questions about a capacity that is found out end with the reply that it is taken from. -/
theorem Sizing.exists_reply {u : LogicalUnit} {sent : List Exchange} {capacity : Capacity}
    (h : Sizing u sent (some (.ok capacity))) :
    ∃ (front : List Exchange) (e : Exchange) (form : CapacityForm) (bs : Bytes),
      sent = front ++ [e] ∧ e.sent = form.question.addressed u ∧ e.EndsWell bs ∧
      capacity = (form.reply bs).capacity := by
  cases h with
  | @long l bs hl hresult =>
    exact ⟨[], l, .long, bs, rfl, hl, Exchange.result_eq_ok_iff.1 hresult, rfl⟩
  | @short l s error bs hl hresult hs hresult' =>
    exact ⟨[l], s, .short, bs, rfl, hs, Exchange.result_eq_ok_iff.1 hresult', rfl⟩

/-- **The course of a discovery that succeeds** ends with the reply that counts the blocks. -/
theorem Course.exists_sizing {u w : LogicalUnit} {sent : List Exchange} {f : Findings}
    (h : Course u sent (some (.ok f))) (hw : w.cleared = u.cleared.publish f) :
    ∃ (front : List Exchange) (e : Exchange) (form : CapacityForm) (last : Nat),
      sent = front ++ [e] ∧ w.SizedBy e form last := by
  cases h with
  | @found i inquiry sent capacity hi hresult hsizing =>
    obtain ⟨front, e, form, bs, rfl, hasks, hbs, rfl⟩ := hsizing.exists_reply
    refine ⟨i :: front, e, form, form.lastBlock bs, rfl, ?_⟩
    refine LogicalUnit.sizedBy_of_toNat_capacity ?_ hbs ?_
    -- what is published has no part in where a question goes
    · have htarget : w.target = u.target := congrArg (fun v => v.target) hw
      have hlun : w.lun = u.lun := congrArg (fun v => v.lun) hw
      have htimeout : w.defaultTimeout = u.defaultTimeout :=
        congrArg (fun v => v.defaultTimeout) hw
      rw [hasks, Command.addressed, Command.addressed, htarget, hlun, htimeout]
    · have hcapacity : w.capacity = (form.reply bs).capacity.blocks :=
        congrArg (fun v => v.capacity) hw
      rw [hcapacity, form.toNat_blocks_reply]

section

variable {σ : Type} [HostAdapter σ]

/-- **A unit that a discovery makes ready** is sized by the last reply that the discovery got. -/
theorem sizedBy_of_discover {u : LogicalUnit} (hopen : u.IsOpen) {host : Option (Host σ)}
    {s : Session σ} (hs : (discover.effect (⟨u, host⟩ : Session σ)).2 = s)
    (hready : s.unit.state = .ready) :
    ∃ (h h' : Host σ) (front : List Exchange) (e : Exchange) (form : CapacityForm) (last : Nat),
      host = some h ∧ s.host = some h' ∧ Host.Had h (front ++ [e]) h' ∧
      s.unit.SizedBy e form last := by
  subst hs
  cases host with
  | none =>
    rw [effect_discover_of_isOpen hopen, effect_explore_of_no_host] at hready
    exact nomatch hready
  | some h =>
    obtain ⟨sent, answer, w, h', hcourse, hhad, heffect, hw⟩ := effect_discover_course hopen h
    rw [heffect] at hready ⊢
    have hstate : (u.cleared.concluded answer).state = .ready := by
      rw [← hready]
      exact (congrArg LogicalUnit.state hw).symm
    obtain ⟨f, rfl⟩ := LogicalUnit.state_concluded_eq_ready_iff.1 hstate
    obtain ⟨front, e, form, last, rfl, hsized⟩ := hcourse.exists_sizing hw
    exact ⟨h, h', front, e, form, last, rfl, rfl, hhad, hsized⟩

end

namespace Bus

variable {σ : Type} [HostAdapter σ]

/-- The unit is sized by one of the exchanges. -/
def SizedIn (sent : List Exchange) (w : LogicalUnit) : Prop :=
  ∃ e ∈ sent, ∃ form last, w.SizedBy e.settled form last

/-- The exchanges with an address tell where the capacity of a ready unit comes from, unless the unit
was ready before. -/
theorem tells_sized (a : Address) :
    Tells σ a fun found sent left => ∀ w, left = some w → w.state = .ready →
      (∃ u, found = some u ∧ u.cleared = w.cleared) ∨ SizedIn sent w where
  still found w hw _ := .inl ⟨w, hw, rfl⟩
  dropped _ _ _ h := nomatch h
  discovered {found u host sent} hu hsent w hw hready := by
    obtain rfl := Option.some.inj hw
    by_cases hopen : u.IsOpen
    · obtain ⟨h, h', front, e, form, last, rfl, hhost, hhad, hsized⟩ :=
        sizedBy_of_discover hopen rfl hready
      have he : e ∈ front ++ [e] := List.mem_append_right _ List.mem_cons_self
      have hadapter : h.adapter.isSome = true := by
        -- without an adapter all is lost, and nothing ends well
        rw [Option.isSome_iff_ne_none]
        intro hnone
        obtain ⟨bs, ⟨after, hanswer, -⟩, -⟩ := hsized.names
        obtain ⟨after', hlost⟩ := (hhad.lost hnone).2 e he
        exact nomatch hanswer.symm.trans hlost
      obtain ⟨recorded, hexchanges, hsettled⟩ := hhad.exists_recorded hadapter
      obtain ⟨r, hr, rfl⟩ := List.mem_map.1 (hsettled ▸ he)
      -- what was recorded in the discovery is what is accounted for
      have hlog := hsent.log_eq
      rw [Session.exchanges, Session.notes, hhost] at hlog
      obtain rfl := List.append_cancel_left (hexchanges.symm.trans hlog)
      exact .inr ⟨r, hr, form, last, hsized⟩
    · obtain ⟨error, heffect⟩ := effect_discover_of_not_isOpen hopen host
      rw [heffect]
      cases hu with
      | found => exact .inl ⟨u, rfl, rfl⟩
      | made number timeout => exact absurd (.inl rfl) hopen

/-- **A unit that is ready after a call** was so before, or the call discovered it and one of its
exchanges sizes the unit. -/
theorem hasUnit_or_sizedIn_apply {base bus : Bus σ}
    (hbus : Holds base LogicalUnit.IsAt (fun _ => True) bus) (call : Call σ) {a : Address}
    {w : LogicalUnit} (hw : (call.apply bus).units.get? a = some w) (hready : w.state = .ready) :
    HasUnit a w.cleared bus ∨ call.IsDiscovery ∧ SizedIn (call.exchanges bus) w := by
  by_cases hcall : call.IsDiscovery
  · have htold := Tells.call (fun _ _ => tells_sized a) hcall hbus
    refine (htold w hw hready).imp id fun h => ⟨hcall, ?_⟩
    obtain ⟨e, he, hsized⟩ := h
    exact ⟨e, (Call.mem_sentTo_iff.1 he).1, hsized⟩
  · let Q (v : LogicalUnit) : Prop := v.state = .ready → HasUnit a v.cleared bus
    have hcongr : ∀ u v : LogicalUnit, u.cleared = v.cleared → Q u → Q v := by
      intro u v hcleared hu hv
      exact hcleared ▸ hu ((congrArg LogicalUnit.state hcleared).trans hv)
    -- a unit that is made without a discovery is not ready
    have hnew : ∀ number target lun timeout, Q (LogicalUnit.new number target lun timeout) :=
      fun _ _ _ _ => nofun
    exact .inl (units_apply_of_not_isDiscovery hnew hcongr hcall (fun u hu _ => ⟨u, hu, rfl⟩) hw
      hready)

/-- **After a run** each ready unit is sized by an exchange of one of the calls. -/
theorem exists_sizedIn_after (settings : BusSettings) (adapter : Option σ) {calls : List (Call σ)}
    {a : Address} {w : LogicalUnit}
    (hw : (after calls (new settings adapter)).units.get? a = some w) (hready : w.state = .ready) :
    ∃ earlier call later, calls = earlier ++ call :: later ∧ call.IsDiscovery ∧
      SizedIn (call.exchanges (after earlier (new settings adapter))) w := by
  -- by induction on the calls from the last one back, which found the unit ready or made it so
  induction calls using List.reverseRecOn generalizing w with
  | nil => exact nomatch hw
  | append_singleton calls call ih =>
    rw [after_append, after_cons, after_nil] at hw
    rcases hasUnit_or_sizedIn_apply (isAt_after settings adapter calls) call hw hready with
      ⟨u, hu, hcleared⟩ | ⟨hcall, hsized⟩
    · obtain ⟨earlier, call', later, rfl, hcall, e, he, form, last, hsized⟩ :=
        ih hu ((congrArg LogicalUnit.state hcleared).trans hready)
      exact ⟨earlier, call', later ++ [call], by simp, hcall, e, he, form, last,
        hsized.congr hcleared⟩
    · exact ⟨calls, call, [], rfl, hcall, hsized⟩

end Bus

/-- **A capacity counts the blocks of its reply.** For every adapter, a discovery that succeeds ends
with a reply to READ CAPACITY, and the capacity of the unit is one more than the last block that is
named there: for every reply in the 10-byte form, and in the 16-byte form unless the last block is the
highest that 64 bits can name, from which the count goes round to zero. The capacity of every ready
unit of every bus goes back to such a reply of an earlier call, so it is not zero unless that reply
named the highest block. -/
theorem capacity_counts_blocks {σ : Type} [HostAdapter σ] :
    (∀ (u : LogicalUnit) (host : Option (Host σ)) (s : Session σ),
      discover.effect (⟨u, host⟩ : Session σ) = (some (.ok ()), s) →
      ∃ (h h' : Host σ) (front : List Exchange) (e : Exchange) (form : CapacityForm) (last : Nat),
        host = some h ∧ s.host = some h' ∧ Host.Had h (front ++ [e]) h' ∧
        s.unit.SizedBy e form last) ∧
    ∀ (settings : BusSettings) (adapter : Option σ) (calls : List (Bus.Call σ)) (a : Address)
      (w : LogicalUnit), (Bus.after calls (Bus.new settings adapter)).units.get? a = some w →
      w.state = .ready →
      ∃ earlier call later, calls = earlier ++ call :: later ∧ call.IsDiscovery ∧
        Bus.SizedIn (call.exchanges (Bus.after earlier (Bus.new settings adapter))) w := by
  refine ⟨fun u host s heffect => ?_, fun settings adapter calls a w hw hready =>
    Bus.exists_sizedIn_after settings adapter hw hready⟩
  by_cases hopen : u.IsOpen
  · obtain ⟨hleft, -⟩ : u.Discovered Findings.Sound
        (discover.effect (⟨u, host⟩ : Session σ)).1 _ ∧ True :=
      discovered_discover (gives_explore_sound fun _ _ _ _ => trivial) (H := fun _ => True) trivial
    rw [heffect] at hleft
    refine sizedBy_of_discover hopen (congrArg Prod.snd heffect) ?_
    cases hleft with
    | published _ _ hw => exact congrArg (fun v => v.state) hw
  · obtain ⟨error, herror⟩ := effect_discover_of_not_isOpen hopen host
    exact nomatch (congrArg Prod.fst heffect).symm.trans (congrArg Prod.fst herror)

/-- A refusal of the command, without sense data. -/
def Completion.refusal : Completion := ⟨true, Status.checkCondition.code, .empty, 0, []⟩

/-- A reply in the 16-byte form that names the highest block of all. -/
def Completion.highestBlock : Completion :=
  ⟨true, Status.good.code, .empty, 32, List.replicate 8 0xFF ++ [0, 0, 2, 0] ++ Bytes.zeros 20⟩

/-- A unit that refuses the 16-byte form and names block 99 in the 10-byte form has 100 blocks. -/
theorem capacity_counts_blocks_hundred :
    let adapter : Scripted := ⟨[.zeroInquiry, .refusal, .hundredBlocks]⟩
    let settings : BusSettings := ⟨0, 2, 2, .empty, 1, 16, 0⟩
    let session : Session Scripted := ⟨LogicalUnit.new 0 0 0 0, some (Host.new (some adapter) 16)⟩
    let calls : List (Bus.Call Scripted) := [.discover ⟨0, 0⟩]
    (∃ (e : Exchange) (form : CapacityForm) (last : Nat),
      (discover.effect session).2.unit.SizedBy e form last) ∧
    ∃ w, (Bus.after calls (Bus.new settings (some adapter))).units.get? ⟨0, 0⟩ = some w ∧
      w.state = .ready ∧ w.capacity = 100 ∧
      ∃ earlier call later, calls = earlier ++ call :: later ∧ call.IsDiscovery ∧
        Bus.SizedIn (call.exchanges (Bus.after earlier (Bus.new settings (some adapter)))) w := by
  intro adapter settings session calls
  obtain ⟨hdiscovery, hrun⟩ := capacity_counts_blocks (σ := Scripted)
  have heffect : discover.effect session = (some (.ok ()), (discover.effect session).2) := rfl
  obtain ⟨-, -, -, e, form, last, -, -, -, hsized⟩ := hdiscovery _ _ _ heffect
  have hfound : ((Bus.after calls (Bus.new settings (some adapter))).units.get? ⟨0, 0⟩).any
      (fun w => w.state = .ready ∧ w.capacity = 100) = true := by decide +kernel
  obtain ⟨w, hw, hleft⟩ := (Option.any_eq_true _ _).1 hfound
  obtain ⟨hready, hhundred⟩ := of_decide_eq_true hleft
  exact ⟨⟨e, form, last, hsized⟩, w, hw, hready, hhundred,
    hrun settings (some adapter) calls ⟨0, 0⟩ w hw hready⟩

/-- The capacity of a unit that names the highest block of all goes round to zero: the discovery
succeeds and leaves a ready unit without a block, and not with one more than the last. -/
theorem highest_block_wraps :
    let settings : BusSettings := ⟨0, 2, 2, .empty, 1, 16, 0⟩
    let bus : Bus Scripted := Bus.new settings (some ⟨[.zeroInquiry, .highestBlock]⟩)
    ((Bus.discoverAt ⟨0, 0⟩).effect bus).1 = some (.ok ()) ∧
      ∃ w, (Bus.after [.discover ⟨0, 0⟩] bus).units.get? ⟨0, 0⟩ = some w ∧ w.state = .ready ∧
        w.capacity = 0 ∧
        w.capacity.toNat ≠ CapacityForm.long.lastBlock Completion.highestBlock.bytes + 1 := by
  intro settings bus
  have hfound : ((Bus.after [.discover ⟨0, 0⟩] bus).units.get? ⟨0, 0⟩).any
      (fun w => w.state = .ready ∧ w.capacity = 0) = true := by decide +kernel
  obtain ⟨w, hw, hleft⟩ := (Option.any_eq_true _ _).1 hfound
  obtain ⟨hready, hzero⟩ := of_decide_eq_true hleft
  refine ⟨rfl, w, hw, hready, hzero, ?_⟩
  rw [hzero]
  decide

end Scsi
