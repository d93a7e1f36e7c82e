import Scsi.Proofs.Bus.Monitor
import Scsi.Proofs.Bus.Scan

/-!
# Contacts of a bus

Whatever is done with a bus, what its adapter receives is in order: every private block has the size
that was declared, and every command is addressed to the unit that it was made for, asks for sense,
carries nothing of an earlier completion and is allowed some time.

## Main definitions

* `BusSettings.allowed`: the time that a command is allowed
* `Command.SentFor`: a record as it is sent for the unit at an address
* `LogicalUnit.Placed bus a`: the unit is the one at the address `a` of the bus
* `Contact.IsDue`: a contact is in order

## Main results

* `Bus.placed_after`: every unit of a bus is where its address says, whatever was done before
* `Bus.Call.isDue_of_mem_contacts`: every contact of a call is in order
-/

namespace Scsi

open Activity

variable {σ : Type}

/-- The time that a command is allowed on a bus: its own, or else the default of the bus, or else the
standard one, in milliseconds. -/
def BusSettings.allowed (settings : BusSettings) (own : UInt32) : UInt32 :=
  if own ≠ 0 then own else if settings.defaultTimeout ≠ 0 then settings.defaultTimeout else 30000

/-- The command `c` is the record as it is sent for the unit at the address `a`. -/
structure Command.SentFor (settings : BusSettings) (a : Address) (record c : Command) : Prop where
  target : c.target = a.target
  lun : c.lun = a.lun
  autosense : c.flags.contains CommandFlags.autosense = true
  status : c.status = 0
  sense : c.sense.bytes = []
  actualLength : c.actualLength = 0
  length_cdb : c.cdb.bytes.length ≤ 16
  timeout : c.timeout = settings.allowed record.timeout
  timeout_ne_zero : c.timeout ≠ 0
  cdb : c.cdb = record.cdb
  data : c.data = record.data
  dataLength : c.dataLength = record.dataLength

/-! ## Units at their addresses -/

/-- The unit is the one at the address `a` of the bus, and allows commands the time of the bus. -/
structure LogicalUnit.Placed (bus : Bus σ) (a : Address) (u : LogicalUnit) : Prop where
  isAt : u.IsAt a
  target_lt : a.target < bus.maxTargets
  lun_lt : a.lun < bus.maxLuns
  timeout : u.defaultTimeout =
    if bus.defaultTimeout = 0 then LogicalUnit.standardTimeout else bus.defaultTimeout

theorem LogicalUnit.Placed.of_timeout {bus : Bus σ} {a : Address} {u w : LogicalUnit}
    (hu : u.Placed bus a) (hat : w.IsAt a) (htimeout : w.defaultTimeout = u.defaultTimeout) :
    w.Placed bus a :=
  ⟨hat, hu.target_lt, hu.lun_lt, htimeout.trans hu.timeout⟩

/-- Where a unit may be depends on the limits and the settings of the bus alone. -/
theorem LogicalUnit.Placed.of_limits {τ : Type} {bus : Bus σ} {bus' : Bus τ} {a : Address}
    {u : LogicalUnit} (hu : u.Placed bus a) (htargets : bus'.maxTargets = bus.maxTargets)
    (hluns : bus'.maxLuns = bus.maxLuns) (htimeout : bus'.defaultTimeout = bus.defaultTimeout) :
    u.Placed bus' a where
  isAt := hu.isAt
  target_lt := htargets ▸ hu.target_lt
  lun_lt := hluns ▸ hu.lun_lt
  timeout := htimeout ▸ hu.timeout

theorem LogicalUnit.Placed.congr {bus : Bus σ} {a : Address} {u w : LogicalUnit}
    (h : u.cleared = w.cleared) (hu : u.Placed bus a) : w.Placed bus a :=
  hu.of_timeout (hu.isAt.congr h) (congrArg LogicalUnit.defaultTimeout h).symm

theorem LogicalUnit.Discovered.placed {Q : Findings → Prop} {bus : Bus σ} {a : Address}
    {u w : LogicalUnit} {answer : Option (Except DiscoveryError Unit)}
    (h : u.Discovered Q answer w) (hu : u.Placed bus a) : w.Placed bus a :=
  hu.of_timeout (h.isAt hu.isAt) (h.unchanged (fun _ => rfl) (fun _ _ => rfl) fun _ _ => rfl)

/-- A record is sent for a unit at its address as it has to be. -/
theorem LogicalUnit.Placed.sentFor {settings : BusSettings} {bus : Bus σ} {a : Address}
    {u : LogicalUnit} (hu : u.Placed bus a) (hbus : bus.defaultTimeout = settings.defaultTimeout)
    (record : Command) : Command.SentFor settings a record (record.addressed u) := by
  have htimeout : (record.addressed u).timeout = settings.allowed record.timeout := by
    simp only [Command.addressed, BusSettings.allowed, hu.timeout, hbus, LogicalUnit.standardTimeout,
      ne_eq, ite_not]
  refine ⟨hu.isAt.1, hu.isAt.2, Flags.contains_union_right _ _, rfl, rfl, rfl, ?_, htimeout, ?_, rfl,
    rfl, rfl⟩
  · exact Nat.le_trans (Nat.le_of_eq (Cdb.length_bytes _)) record.cdb.length_le
  -- whichever of the three times it is, it is not zero
  · rw [htimeout, BusSettings.allowed]
    split
    · assumption
    · split
      · assumption
      · decide

/-! ## Private blocks -/

/-- The private block, if there is one, has the size. -/
def Host.Sized (size : Nat) (host : Option (Host σ)) : Prop := ∀ h, host = some h → h.size = size

theorem Host.keeps_sized_call {α : Type} {size : Nat}
    (x : (size : Nat) → Activity (σ × Memory size) α) (absent : α) :
    Keeps (fun host => Sized size (some host)) (call x absent) := by
  rintro host hhost _ ⟨⟩
  exact (size_call _ _ _).trans (hhost host rfl)

theorem Host.serves_sized [HostAdapter σ] {size : Nat} {v : LogicalUnit} {c : Command} :
    Host.Serves v (Sized (σ := σ) size) c := by
  intro host hhost
  rw [effect_submit]
  exact keeps_sized_call _ _ host hhost

namespace Bus

theorem keeps_discover_placed {τ : Type} [HostAdapter τ] {H : Option (Host τ) → Prop} {bus : Bus σ}
    {a : Address} (hH : ∀ v : LogicalUnit, v.Placed bus a → ∀ c ∈ Question.all, Host.Serves v H c) :
    Keeps (Session.Has (LogicalUnit.Placed bus a) H) (discover : Activity (Session τ) _) := by
  refine keeps_discover (fun v hv => gives_explore_sound (hH _ ?_))
    fun _ _ _ hu hleft => hleft.placed hu
  exact hv.of_timeout hv.isAt rfl

variable [HostAdapter σ]

/-- Every call keeps the units where they are and the size of the private block. -/
theorem sustains_placed (base : Bus σ) (size : Nat) (call : Call σ) :
    call.Sustains base (LogicalUnit.Placed base) (Host.Sized size) where
  new _ ht hl := ⟨⟨rfl, rfl⟩, ht, hl, rfl⟩
  congr h hu := hu.congr h
  discover _ _ := keeps_discover_placed fun _ _ _ _ => Host.serves_sized
  lend _ _ _ := Loan.keeps (H := fun _ => True) (fun _ _ h hu => hu.congr h)
    (fun _ _ _ _ _ _ => trivial) (fun _ => keeps_discover_placed fun _ _ _ _ _ _ => trivial) trivial
  serves _ _ := Host.serves_sized
  reset _ := Host.keeps_sized_call _ _
  configureTarget _ _ := Host.keeps_sized_call _ _
  poll := Host.keeps_sized_call _ _
  gone _ := by
    rintro _ ⟨⟩
  write _ _ host h := by
    rintro _ ⟨⟩
    exact h host rfl
  -- also an adapter that is changed from outside keeps its private block
  change _ _ host h := by
    rintro _ ⟨⟩
    exact h host rfl

/-- After any calls of a new bus every unit is where its address says, and the private block has the
size that was declared. -/
theorem placed_after (settings : BusSettings) (adapter : Option σ) (calls : List (Call σ)) :
    Holds (new settings adapter).emptied (LogicalUnit.Placed (new settings adapter).emptied)
      (Host.Sized settings.privateSize) (after calls (new settings adapter)) := by
  refine (holds_new _ _ fun host hhost => ?_).after fun call _ => sustains_placed _ _ call
  simp only [new] at hhost
  split at hhost
  · obtain rfl := Option.some.inj hhost
    rfl
  · cases hhost

end Bus

/-! ## Contacts -/

/-- The contact brings the private block and, if it is a submission, a record that may be issued for
an address of the bus, as it has to be sent. -/
structure Contact.IsDue (settings : BusSettings) (bus : Bus σ)
    (Issues : Address → Command → Prop) (contact : Contact) : Prop where
  block : contact.block.length = settings.privateSize
  command : ∀ c, contact.demand = .submit c → ∃ a record, Issues a record ∧
    a.target < bus.maxTargets ∧ a.lun < bus.maxLuns ∧ Command.SentFor settings a record c

/-- The private block has the size, and the contacts that were noted satisfy `P`. -/
def Host.Noted (size : Nat) (P : Contact → Prop) (host : Option (Host (Monitor σ))) : Prop :=
  ∀ h, host = some h → h.size = size ∧ ∀ contact ∈ h.contacts, P contact

/-- One more contact is noted at most, whatever comes of an operation. -/
theorem Host.keeps_watch {α : Type} {size : Nat} {P : Contact → Prop} {demand : Demand}
    (hP : ∀ block : Bytes, block.length = size → P ⟨block, demand⟩)
    (x : (size : Nat) → Activity (Option σ × Memory size) α) (absent : α) :
    Keeps (fun host => Noted size P (some host))
      (call (fun size => Observer.watch (fun block _ => [⟨block, demand⟩]) (x size)) absent) := by
  rintro host hhost _ ⟨⟩
  obtain ⟨hsize, hcontacts⟩ := hhost host rfl
  refine ⟨(size_call _ _ _).trans hsize, ?_⟩
  rw [state_run]
  -- without a monitor nothing is noted
  cases hadapter : host.adapter with
  | none =>
    rw [effect_call_of_none hadapter]
    exact hcontacts
  | some m =>
    have hsome : host.adapter.isSome = true := by rw [hadapter]; rfl
    intro contact hcontact
    rw [contacts, notes_watch (fun block => [⟨block, demand⟩]) x absent hsome] at hcontact
    rcases List.mem_append.1 hcontact with hold | hnew
    · exact hcontacts contact hold
    · obtain rfl := List.mem_singleton.1 hnew
      exact hP _ ((Memory.length_toList _).trans hsize)

section

variable [HostAdapter σ] {settings : BusSettings} {Issues : Address → Command → Prop}

/-- A record that may be issued for a unit is sent for it as it has to be. -/
theorem Host.serves_noted {bus : Bus (Monitor σ)}
    (hbus : bus.defaultTimeout = settings.defaultTimeout) {a : Address} {v : LogicalUnit}
    (hv : v.Placed bus a) {c : Command} (hc : Issues a c) :
    Host.Serves v (Noted (σ := σ) settings.privateSize (Contact.IsDue settings bus Issues)) c := by
  intro host hhost
  rw [effect_submit]
  refine keeps_watch (fun block hblock => ⟨hblock, ?_⟩) _ _ host hhost
  rintro _ ⟨⟩
  exact ⟨a, c, hc, hv.target_lt, hv.lun_lt, hv.sentFor hbus c⟩

namespace Bus

omit [HostAdapter σ] in
theorem Call.issues_monitored (call : Call σ) (a : Address) (c : Command) :
    call.monitored.Issues a c ↔ call.Issues a c := by
  cases call <;> exact Iff.rfl

omit [HostAdapter σ] in
/-- A change of the adapter from outside is not noted. -/
theorem Call.noted_adapter {call : Call σ} {change : Monitor σ → Monitor σ}
    (hcall : call.monitored = .adapter change) {size : Nat} {P : Contact → Prop}
    {host : Host (Monitor σ)} (h : Host.Noted size P (some host)) :
    Host.Noted size P (some { host with adapter := host.adapter.map change }) := by
  -- such a change comes from one of the adapter behind the monitor
  have hchange : ∀ m, (change m).notes = m.notes := by
    cases call with
    | adapter =>
      obtain rfl := Call.adapter.inj hcall
      exact fun _ => rfl
    | _ => exact nomatch hcall
  rintro _ ⟨⟩
  obtain ⟨hsize, hcontacts⟩ := h host rfl
  refine ⟨hsize, ?_⟩
  obtain ⟨_ | m, size, memory⟩ := host
  · exact hcontacts
  · intro contact hcontact
    have hm : contact ∈ (change m).notes := hcontact
    rw [hchange] at hm
    exact hcontacts contact hm

omit [HostAdapter σ] in
/-- When a monitor is put in, nothing was noted yet. -/
theorem Holds.monitored {base bus : Bus σ} {size : Nat}
    (h : Holds base (LogicalUnit.Placed base) (Host.Sized size) bus) (P : Contact → Prop) :
    Holds bus.monitored.emptied (LogicalUnit.Placed bus.monitored.emptied) (Host.Noted size P)
      bus.monitored := by
  refine ⟨rfl, fun hu => ?_, fun host hhost => ?_⟩
  · have hunit := h.units hu
    rw [← h.emptied] at hunit
    exact hunit.of_limits rfl rfl rfl
  · obtain ⟨host', hhost', rfl⟩ := Option.map_eq_some_iff.1 hhost
    exact ⟨h.host host' hhost', fun _ h => nomatch h⟩

/-- A call of a monitored bus keeps its contacts in order. -/
theorem Call.sustains_noted (call : Call σ) {bus : Bus (Monitor σ)}
    (hbus : bus.defaultTimeout = settings.defaultTimeout) :
    call.monitored.Sustains bus (LogicalUnit.Placed bus)
      (Host.Noted settings.privateSize (Contact.IsDue settings bus call.monitored.Issues)) where
  new _ ht hl := ⟨⟨rfl, rfl⟩, ht, hl, rfl⟩
  congr h hu := hu.congr h
  discover _ ha := keeps_discover_placed fun _ hv _ hc => Host.serves_noted hbus hv (ha.issues hc)
  -- what a unit that is lent is asked does not come to the monitor
  lend a loan hcall := (sustains_placed bus settings.privateSize _).lend a loan hcall
  serves hv hc := Host.serves_noted hbus hv hc
  reset _ := Host.keeps_watch (fun _ hblock => ⟨hblock, fun _ h => nomatch h⟩) _ _
  configureTarget _ _ := Host.keeps_watch (fun _ hblock => ⟨hblock, fun _ h => nomatch h⟩) _ _
  poll := Host.keeps_watch (fun _ hblock => ⟨hblock, fun _ h => nomatch h⟩) _ _
  gone _ := by
    rintro _ ⟨⟩
  write _ _ host h := by
    rintro _ ⟨⟩
    exact h host rfl
  change _ hchange _ h := call.noted_adapter hchange h

/-- **Every contact is in order**: whatever was done with a bus and however its adapter behaved, all
that the adapter receives in a call comes with the private block as it was declared, and each command
is a record that the call issues for an address of the bus, as it has to be sent for that address. -/
theorem Call.isDue_of_mem_contacts (settings : BusSettings) (adapter : Option σ)
    (calls : List (Call σ)) (call : Call σ) {contact : Contact}
    (h : contact ∈ call.contacts (after calls (new settings adapter))) :
    contact.IsDue settings (after calls (new settings adapter)) call.Issues := by
  have hplaced := placed_after settings adapter calls
  generalize after calls (new settings adapter) = bus at h hplaced ⊢
  -- the monitor is put in just before the call, so what it notes is what the call asks for
  have htimeout : bus.monitored.emptied.defaultTimeout = settings.defaultTimeout :=
    congrArg Bus.defaultTimeout hplaced.emptied
  have hnoted := (hplaced.monitored _).apply (call.sustains_noted htimeout)
  have hmem : contact ∈ (call.monitored.apply bus.monitored).host.elim [] Host.contacts := h
  cases hhost : (call.monitored.apply bus.monitored).host with
  | none =>
    rw [hhost] at hmem
    exact nomatch hmem
  | some host =>
    rw [hhost] at hmem
    obtain ⟨hblock, hcommand⟩ := (hnoted.host host hhost).2 contact hmem
    refine ⟨hblock, fun c hc => ?_⟩
    obtain ⟨a, record, hissues, hleft⟩ := hcommand c hc
    exact ⟨a, record, (call.issues_monitored a record).1 hissues, hleft⟩

/-- A record that still has the address and the completion of another unit is sent to a disk. -/
theorem Call.isDue_stale :
    let settings : BusSettings := ⟨0, 2, 2, .empty, 1, 16, 0⟩
    let bus := after [.scan false] (new settings (some (RamDisk.new (.disk 4 4))))
    let stale : Command := { Command.testUnitReady with
      target := 9, lun := 9, flags := Flags.single 1, actualLength := 7, status := 2,
      sense := .store [0x70, 0, 6] }
    let call : Call RamDisk := .unit ⟨0, 0⟩ (.perform stale)
    let sent : Command := { Command.testUnitReady with
      timeout := 30000, flags := Flags.single 1 ∪ CommandFlags.autosense }
    ⟨Bytes.zeros 16, .submit sent⟩ ∈ call.contacts bus ∧
      Contact.IsDue settings bus call.Issues ⟨Bytes.zeros 16, .submit sent⟩ := by
  intro settings bus stale call sent
  have hmem : ⟨Bytes.zeros 16, .submit sent⟩ ∈ call.contacts bus := by decide +kernel
  exact ⟨hmem, call.isDue_of_mem_contacts settings (some (RamDisk.new (.disk 4 4))) [.scan false] hmem⟩

end Bus

end

end Scsi
