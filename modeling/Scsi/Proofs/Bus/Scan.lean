import Scsi.Proofs.Bus.Persistence
import Scsi.Proofs.Bus.Recording
import Scsi.Proofs.RamDisk.Discovery

/-!
# Scans

A scan visits the addresses of its range one after the other. A visit leaves a ready unit alone; at
any other address it leaves a ready unit or none, and all that it sends goes to that address. So the
addresses that a scan finds are those of the units that it leaves, in order.

## Main definitions

* `LogicalUnit.IsAt a`: the unit has the address `a`
* `Bus.Visited a bus found bus'`: a visit of `a` leads from `bus` to `bus'`
* `Bus.Scanned addresses bus found bus'`: visits of the addresses lead from `bus` to `bus'`
* `Bus.ScanResult allLuns bus found bus' sent`: a scan finds addresses and leads from `bus` to
  `bus'` after some exchanges

## Main results

* `Bus.exists_visited`, `Bus.exists_scanned`: visits come to an end and do no more than that
* `Bus.Reachable.exists_scanResult`: a scan of a reachable bus comes to its end
* `Bus.scan_spec`: what a scan answers and leaves
-/

namespace Scsi

open Activity

/-- The unit has the address. -/
def LogicalUnit.IsAt (a : Address) (u : LogicalUnit) : Prop := u.target = a.target ∧ u.lun = a.lun

theorem LogicalUnit.IsAt.congr {a : Address} {u w : LogicalUnit} (h : u.cleared = w.cleared)
    (hu : u.IsAt a) : w.IsAt a :=
  ⟨(congrArg LogicalUnit.target h).symm.trans hu.1, (congrArg LogicalUnit.lun h).symm.trans hu.2⟩

theorem LogicalUnit.Discovered.isAt {Q : Findings → Prop} {a : Address} {u w : LogicalUnit}
    {answer : Option (Except DiscoveryError Unit)} (h : u.Discovered Q answer w) (hu : u.IsAt a) :
    w.IsAt a := by
  have htarget : w.target = u.target := h.unchanged (fun _ => rfl) (fun _ _ => rfl) fun _ _ => rfl
  have hlun : w.lun = u.lun := h.unchanged (fun _ => rfl) (fun _ _ => rfl) fun _ _ => rfl
  exact ⟨htarget.trans hu.1, hlun.trans hu.2⟩

theorem LogicalUnit.Discovered.isReady_of_ok {Q : Findings → Prop} {u w : LogicalUnit}
    (h : u.Discovered Q (some (.ok ())) w) : w.isReady = true := by
  cases h with
  | published _ _ hw => exact congrArg isReady hw

/-- The command was sent to the address. -/
def Exchange.IsTo (a : Address) (e : Exchange) : Prop :=
  e.sent.target = a.target ∧ e.sent.lun = a.lun

instance (a : Address) (e : Exchange) : Decidable (e.IsTo a) :=
  inferInstanceAs (Decidable (_ ∧ _))

/-- A command is sent to one address only. -/
theorem Exchange.IsTo.eq {a b : Address} {e : Exchange} (ha : e.IsTo a) (hb : e.IsTo b) : a = b := by
  obtain ⟨ht, hl⟩ := ha
  obtain ⟨ht', hl'⟩ := hb
  cases a
  cases b
  exact congr (congrArg Address.mk (ht.symm.trans ht')) (hl.symm.trans hl')

/-! ## Exchanges with one address -/

section

variable {σ : Type} [HostAdapter σ] {a : Address} {before : List Exchange} {v : LogicalUnit}

/-- After the exchanges `before`, all that was sent went to the address. -/
def Host.Talked (a : Address) (before : List Exchange) (host : Option (Host (Recorder σ))) : Prop :=
  ∃ h, host = some h ∧ ∃ sent, h.exchanges = before ++ sent ∧ ∀ e ∈ sent, e.IsTo a

omit [HostAdapter σ] in
/-- At the start nothing was sent yet. -/
theorem Host.talked_start {bus : Bus (Recorder σ)} (hhost : bus.host.isSome = true) :
    Host.Talked a bus.exchanges bus.host := by
  obtain ⟨host, hsome⟩ := Option.isSome_iff_exists.1 hhost
  refine ⟨host, hsome, [], ?_, fun _ h => nomatch h⟩
  rw [Bus.exchanges, Bus.notes, hsome, List.append_nil]
  rfl

theorem Host.serves_talked (hv : v.IsAt a) (c : Command) :
    Host.Serves v (Host.Talked (σ := σ) a before) c := by
  rintro host ⟨_, ⟨⟩, sent, hexchanges, hsent⟩
  obtain ⟨_ | recorder, size, memory⟩ := host
  · rw [Host.effect_submit, Host.effect_call_of_none rfl]
    exact ⟨_, rfl, sent, hexchanges, hsent⟩
  · rw [Host.effect_submit_recorder]
    let answer := ((HostAdapter.submit (c.addressed v)).run (recorder.adapter, memory)).answer
    refine ⟨_, rfl, sent ++ [⟨c.addressed v, answer⟩], ?_, ?_⟩
    · rw [← List.append_assoc, ← hexchanges]
      rfl
    · intro e he
      rcases List.mem_append.1 he with he | he
      · exact hsent e he
      · obtain rfl := List.mem_singleton.1 he
        exact hv

end

namespace Bus

variable {σ : Type}

theorem keeps_discover_isAt [HostAdapter σ] (a : Address) :
    Keeps (Session.Has (LogicalUnit.IsAt a) fun _ => True) (discover : Activity (Session σ) _) :=
  keeps_discover (fun _ _ => gives_explore_sound fun _ _ _ _ => trivial)
    fun _ _ _ hu hleft => hleft.isAt hu

theorem sustains_isAt [HostAdapter σ] (base : Bus σ) (call : Call σ) :
    call.Sustains base LogicalUnit.IsAt fun _ => True :=
  sustains_of_units (fun _ _ _ => ⟨rfl, rfl⟩) (fun h hu => hu.congr h) call
    fun _ _ _ => keeps_discover_isAt

/-! ## One address -/

/-- A visit of `a` leads from `bus` to `bus'`. -/
structure Visited (a : Address) (bus : Bus (Recorder σ)) (found : Bool) (bus' : Bus (Recorder σ)) :
    Prop where
  host : bus'.host.isSome = true
  elsewhere : ∀ {b}, b ≠ a → bus'.units.get? b = bus.units.get? b
  found_iff : found = true ↔ bus'.ReadyAt a
  ready : ∀ {u}, bus'.units.get? a = some u → u.isReady = true
  kept : bus.ReadyAt a → bus' = bus
  sent : ∃ sent, bus'.exchanges = bus.exchanges ++ sent ∧
    ∀ e ∈ sent, ¬ bus.ReadyAt a ∧ e.IsTo a

section AddUnit

variable {a : Address} {bus : Bus σ}

/-- A unit that is there is found. -/
theorem effect_addUnit_of_get? {u : LogicalUnit} (ht : a.target < bus.maxTargets)
    (hl : a.lun < bus.maxLuns) (hu : bus.units.get? a = some u) :
    (addUnit a).effect bus = (some (.ok u), bus) := by
  unfold addUnit
  rw [effect_bind_of_answer (effect_get _)]
  simp only [UInt8.not_le.2 ht, UInt8.not_le.2 hl, if_false, hu, effect_pure]

/-- Where none is, one is made. -/
theorem effect_addUnit_of_vacant (ht : a.target < bus.maxTargets) (hl : a.lun < bus.maxLuns)
    (hu : bus.units.get? a = none) :
    (addUnit a).effect bus =
      (some (.ok (LogicalUnit.new bus.number a.target a.lun bus.defaultTimeout)),
        { bus with
          units := bus.units.insert a
            (LogicalUnit.new bus.number a.target a.lun bus.defaultTimeout) }) := by
  unfold addUnit
  rw [effect_bind_of_answer (effect_get _)]
  simp only [UInt8.not_le.2 ht, UInt8.not_le.2 hl, if_false, hu]
  rfl

/-- Past the limits of the bus no unit is found or made. -/
theorem effect_addUnit_of_outside (h : ¬ (a.target < bus.maxTargets ∧ a.lun < bus.maxLuns)) :
    ∃ e, (addUnit a).effect bus = (some (.error e), bus) := by
  unfold addUnit
  rw [effect_bind_of_answer (effect_get _)]
  by_cases ht : bus.maxTargets ≤ a.target
  · rw [if_pos ht]
    exact ⟨_, rfl⟩
  · have hl : bus.maxLuns ≤ a.lun := UInt8.not_lt.1 fun hl => h ⟨UInt8.not_le.1 ht, hl⟩
    rw [if_neg ht, if_pos hl]
    exact ⟨_, rfl⟩

/-- Within the limits of the bus a unit is found or made. -/
theorem effect_addUnit (ht : a.target < bus.maxTargets) (hl : a.lun < bus.maxLuns) :
    ∃ u units, (addUnit a).effect bus = (some (.ok u), { bus with units }) ∧
      (bus.units.get? a = some u ∨
        u = LogicalUnit.new bus.number a.target a.lun bus.defaultTimeout) ∧
      ∀ {b}, b ≠ a → units.get? b = bus.units.get? b := by
  cases h : bus.units.get? a with
  | some u => exact ⟨u, bus.units, effect_addUnit_of_get? ht hl h, .inl rfl, fun _ => rfl⟩
  | none =>
    refine ⟨_, _, effect_addUnit_of_vacant ht hl h, .inr rfl, fun hb => ?_⟩
    exact UnitTable.get?_insert_of_ne _ _ (Ne.symm hb)

end AddUnit

theorem effect_discoverAt [HostAdapter σ] {a : Address} {bus : Bus σ} {u : LogicalUnit}
    {units : UnitTable} (h : (addUnit a).effect bus = (some (.ok u), { bus with units })) :
    (discoverAt a).effect bus =
      let ended := discover.effect (⟨u, bus.host⟩ : Session σ)
      (ended.1, ⟨bus.number, bus.maxTargets, bus.maxLuns, bus.features, bus.queueDepth,
        bus.defaultTimeout, ended.2.host, units.insert a ended.2.unit, some a⟩) := by
  unfold discoverAt
  rw [effect_bind_of_answer h]
  rfl

variable [HostAdapter σ]

/-- A discovery within the limits of the bus comes to an end if the adapter returns from its
questions, and it has to do with the unit at its address alone. -/
theorem exists_discoverAt {H : Option (Host σ) → Prop} {a : Address} {bus : Bus σ}
    (hserves : ∀ v : LogicalUnit, v.IsAt a → ∀ c ∈ Question.all, Host.Serves v H c)
    (hreturns : ∀ v : LogicalUnit, ∀ c ∈ Question.all, Host.Returns v H c) (hhost : H bus.host)
    (ht : a.target < bus.maxTargets) (hl : a.lun < bus.maxLuns)
    (hunit : ∀ {u}, bus.units.get? a = some u → u.IsAt a) :
    ∃ (answer : Except DiscoveryError Unit) (bus' : Bus σ) (u w : LogicalUnit),
      (discoverAt a).effect bus = (some answer, bus') ∧
      u.Discovered Findings.Sound (some answer) w ∧ bus'.units.get? a = some w ∧
      H bus'.host ∧ ∀ {b}, b ≠ a → bus'.units.get? b = bus.units.get? b := by
  obtain ⟨u, units, hadd, hu, helsewhere⟩ := effect_addUnit ht hl
  -- the unit that is found or made there is the one that is asked
  have hat : u.IsAt a := by
    rcases hu with hu | rfl
    · exact hunit hu
    · exact ⟨rfl, rfl⟩
  have hserves' := hserves { u.cleared with state := .discovering } hat
  obtain ⟨hleft, hkept⟩ := discovered_discover (gives_explore_sound hserves') hhost
  have hfinished := isSome_discover (finishes_explore hserves' (hreturns _)) hhost
  have heffect := effect_discoverAt hadd
  rcases hended : discover.effect (⟨u, bus.host⟩ : Session σ) with ⟨_ | answer, w, host⟩
  all_goals rw [hended] at hleft hkept hfinished heffect
  -- the adapter returned from all questions, so there was no crash
  · exact nomatch hfinished
  · refine ⟨answer, _, u, w, heffect, hleft, UnitTable.get?_insert_self _ _ _, hkept, ?_⟩
    intro b hb
    rw [UnitTable.get?_insert_of_ne _ _ (Ne.symm hb), helsewhere hb]

/-- A visit of a ready unit does nothing. -/
theorem effect_visit_of_ready {a : Address} {bus : Bus σ} (h : bus.ReadyAt a) :
    (visit a).effect bus = (some true, bus) := by
  unfold visit
  rw [effect_bind_of_answer (effect_get _), if_pos (readyAt_iff.2 h)]
  rfl

/-- A visit of any other unit is a discovery of it, after which the unit is kept or dropped. -/
theorem effect_visit_of_discovered {a : Address} {bus bus₁ : Bus σ} (hnot : ¬ bus.ReadyAt a)
    {answer : Except DiscoveryError Unit} (h : (discoverAt a).effect bus = (some answer, bus₁)) :
    (visit a).effect bus =
      match answer with
      | .ok _ => (some true, bus₁)
      | .error _ => (some false, { bus₁ with units := bus₁.units.erase a }) := by
  unfold visit
  rw [effect_bind_of_answer (effect_get _), if_neg fun h => hnot (readyAt_iff.1 h),
    effect_bind_of_answer h]
  cases answer <;> rfl

/-- A visit is cut off where its discovery is. -/
theorem effect_visit_of_crash {a : Address} {bus bus₁ : Bus σ} (hnot : ¬ bus.ReadyAt a)
    (h : (discoverAt a).effect bus = (none, bus₁)) : (visit a).effect bus = (none, bus₁) := by
  unfold visit
  rw [effect_bind_of_answer (effect_get _), if_neg fun h => hnot (readyAt_iff.1 h),
    effect_bind_of_crash h]

omit [HostAdapter σ] in
theorem Visited.of_ready {a : Address} {bus : Bus (Recorder σ)} (hhost : bus.host.isSome = true)
    (h : bus.ReadyAt a) : Visited a bus true bus := by
  refine ⟨hhost, fun _ => rfl, ⟨fun _ => h, fun _ => rfl⟩, ?_, fun _ => rfl, [],
    (List.append_nil _).symm, fun _ h => nomatch h⟩
  intro u hu
  obtain ⟨v, hv, hready⟩ := h
  obtain rfl := Option.some.inj (hu.symm.trans hv)
  exact hready

section Discovered

variable {a : Address} {bus bus₁ : Bus (Recorder σ)} {w : LogicalUnit}
  (hnot : ¬ bus.ReadyAt a) (htalked : Host.Talked a bus.exchanges bus₁.host)
  (helsewhere : ∀ {b}, b ≠ a → bus₁.units.get? b = bus.units.get? b)

omit [HostAdapter σ]

include htalked in
theorem isSome_of_talked : bus₁.host.isSome = true := by
  obtain ⟨host, hhost, -⟩ := htalked
  rw [hhost]
  rfl

include hnot htalked in
/-- All that was sent went to the address, whose unit was not ready. -/
theorem exists_sent_of_talked : ∃ sent, bus₁.exchanges = bus.exchanges ++ sent ∧
    ∀ e ∈ sent, ¬ bus.ReadyAt a ∧ e.IsTo a := by
  obtain ⟨host, hhost, sent, hexchanges, hto⟩ := htalked
  refine ⟨sent, ?_, fun e he => ⟨hnot, hto e he⟩⟩
  rw [← hexchanges, exchanges, notes, hhost]
  rfl

include hnot htalked helsewhere

/-- A unit that a discovery made ready is kept. -/
theorem Visited.of_kept (hw : bus₁.units.get? a = some w) (hready : w.isReady = true) :
    Visited a bus true bus₁ := by
  refine ⟨isSome_of_talked htalked, helsewhere, ⟨fun _ => ⟨w, hw, hready⟩, fun _ => rfl⟩, ?_,
    fun h => absurd h hnot, exists_sent_of_talked hnot htalked⟩
  intro v hv
  obtain rfl := Option.some.inj (hw.symm.trans hv)
  exact hready

/-- Any other unit is dropped. -/
theorem Visited.of_dropped :
    Visited a bus false { bus₁ with units := bus₁.units.erase a } := by
  have hgone : ∀ v, (bus₁.units.erase a).get? a ≠ some v := fun v hv =>
    nomatch (UnitTable.get?_erase_self _ a).symm.trans hv
  refine ⟨isSome_of_talked htalked, ?_, ?_, fun hv => absurd hv (hgone _), fun h => absurd h hnot,
    exists_sent_of_talked hnot htalked⟩
  · intro b hb
    exact (UnitTable.get?_erase_of_ne _ (Ne.symm hb)).trans (helsewhere hb)
  · exact ⟨(fun h => nomatch h), fun ⟨v, hv, _⟩ => absurd hv (hgone v)⟩

end Discovered

/-- **A visit** comes to an end if the adapter returns from the questions of a discovery, and does
no more than discover the unit at its address. -/
theorem exists_visited (hanswers : ∀ u : LogicalUnit, ∀ c ∈ u.questions, HostAdapter.Answers σ c)
    {a : Address} {bus : Bus (Recorder σ)} (hhost : bus.host.isSome = true)
    (ht : a.target < bus.maxTargets) (hl : a.lun < bus.maxLuns)
    (hunit : ∀ {u}, bus.units.get? a = some u → u.IsAt a) :
    ∃ found bus', (visit a).effect bus = (some found, bus') ∧ Visited a bus found bus' := by
  by_cases hready : bus.ReadyAt a
  -- a ready unit is left alone
  · exact ⟨true, bus, effect_visit_of_ready hready, .of_ready hhost hready⟩
  -- any other is discovered, and kept or dropped after that
  · obtain ⟨answer, bus₁, u, w, heffect, hleft, hw, htalked, helsewhere⟩ :=
      exists_discoverAt (fun _ hat _ _ => Host.serves_talked hat _)
        (fun v c hc => Host.returns_of_answers (hanswers v _ (List.mem_map_of_mem hc)).observer)
        (Host.talked_start hhost) ht hl hunit
    have hvisit := effect_visit_of_discovered hready heffect
    cases answer with
    | ok _ => exact ⟨true, bus₁, hvisit, .of_kept hready htalked helsewhere hw hleft.isReady_of_ok⟩
    | error e => exact ⟨false, _, hvisit, .of_dropped hready htalked helsewhere⟩

/-! ## Several addresses -/

/-- Visits of the addresses lead from `bus` to `bus'`. -/
structure Scanned (addresses : List Address) (bus : Bus (Recorder σ)) (found : List Address)
    (bus' : Bus (Recorder σ)) : Prop where
  host : bus'.host.isSome = true
  sublist : found.Sublist addresses
  elsewhere : ∀ {b}, b ∉ addresses → bus'.units.get? b = bus.units.get? b
  mem_iff : ∀ {a}, a ∈ addresses → (a ∈ found ↔ bus'.ReadyAt a)
  ready : ∀ {a u}, a ∈ addresses → bus'.units.get? a = some u → u.isReady = true
  kept : ∀ {a u}, a ∈ addresses → bus.units.get? a = some u → u.isReady = true →
    bus'.units.get? a = some u
  sent : ∃ sent, bus'.exchanges = bus.exchanges ++ sent ∧
    ∀ e ∈ sent, ∃ a ∈ addresses, ¬ bus.ReadyAt a ∧ e.IsTo a

omit [HostAdapter σ] in
theorem readyAt_congr {bus bus' : Bus σ} {a : Address}
    (h : bus'.units.get? a = bus.units.get? a) : bus'.ReadyAt a ↔ bus.ReadyAt a := by
  rw [ReadyAt, ReadyAt, h]

omit [HostAdapter σ] in
/-- A visit of one address and visits of others are visits of them all. -/
theorem Scanned.cons {a : Address} {rest others : List Address} {found : Bool}
    {bus bus₁ bus₂ : Bus (Recorder σ)} (ha : a ∉ rest) (hfirst : Visited a bus found bus₁)
    (hrest : Scanned rest bus₁ others bus₂) :
    Scanned (a :: rest) bus (if found then a :: others else others) bus₂ := by
  have hne : ∀ {b}, b ∈ rest → b ≠ a := by
    rintro b hb rfl
    exact ha hb
  have hlast : bus₂.units.get? a = bus₁.units.get? a := hrest.elsewhere ha
  constructor
  case host => exact hrest.host
  case sublist =>
    split
    · exact hrest.sublist.cons_cons a
    · exact hrest.sublist.cons a
  case elsewhere =>
    intro b hb
    rw [hrest.elsewhere (List.not_mem_of_not_mem_cons hb),
      hfirst.elsewhere (List.ne_of_not_mem_cons hb)]
  case mem_iff =>
    intro b hb
    have hothers : a ∉ others := fun h => ha (hrest.sublist.subset h)
    rcases List.mem_cons.1 hb with rfl | hb
    · rw [readyAt_congr hlast, ← hfirst.found_iff]
      cases found <;> simp [hothers]
    · rw [← hrest.mem_iff hb]
      cases found <;> simp [hne hb]
  case ready =>
    intro b u hb hu
    rcases List.mem_cons.1 hb with rfl | hb
    · exact hfirst.ready (hlast ▸ hu)
    · exact hrest.ready hb hu
  case kept =>
    intro b u hb hu hready
    rcases List.mem_cons.1 hb with rfl | hb
    · rw [hlast, hfirst.kept ⟨u, hu, hready⟩, hu]
    · exact hrest.kept hb ((hfirst.elsewhere (hne hb)).trans hu) hready
  case sent =>
    obtain ⟨sent₁, hexchanges₁, hsent₁⟩ := hfirst.sent
    obtain ⟨sent₂, hexchanges₂, hsent₂⟩ := hrest.sent
    -- what the others send goes to addresses that the first visit did not touch
    refine ⟨sent₁ ++ sent₂, by rw [hexchanges₂, hexchanges₁, List.append_assoc], ?_⟩
    intro e he
    rcases List.mem_append.1 he with he | he
    · exact ⟨a, List.mem_cons_self, hsent₁ e he⟩
    · obtain ⟨b, hb, hready, hto⟩ := hsent₂ e he
      refine ⟨b, List.mem_cons_of_mem a hb, fun h => hready ?_, hto⟩
      exact (readyAt_congr (hfirst.elsewhere (hne hb))).2 h

/-- **Visits of several addresses** come to an end, and each does no more than a visit does. -/
theorem exists_scanned (hanswers : ∀ u : LogicalUnit, ∀ c ∈ u.questions, HostAdapter.Answers σ c)
    {base : Bus (Recorder σ)} {addresses : List Address}
    (hlimits : ∀ a ∈ addresses, a.target < base.maxTargets ∧ a.lun < base.maxLuns)
    (hdistinct : addresses.Nodup) {bus : Bus (Recorder σ)}
    (hbus : Holds base LogicalUnit.IsAt (fun _ => True) bus) (hhost : bus.host.isSome = true) :
    ∃ found bus', (visitAll addresses).effect bus = (some found, bus') ∧
      Scanned addresses bus found bus' := by
  induction addresses generalizing bus with
  | nil =>
    refine ⟨[], bus, rfl, hhost, List.Sublist.refl _, fun _ => rfl, ?_, ?_, ?_, [],
      (List.append_nil _).symm, fun _ h => nomatch h⟩
    all_goals intros; contradiction
  | cons a rest ih =>
    -- the visits of the rest start from what the first visit leaves, where all units are still at
    -- their addresses
    obtain ⟨ha, hrest⟩ := List.nodup_cons.1 hdistinct
    obtain ⟨ht, hl⟩ := hlimits a List.mem_cons_self
    have hbase := hbus.emptied
    obtain ⟨found, bus₁, hvisit, hvisited⟩ := exists_visited hanswers hhost
      (by rw [← hbase] at ht; exact ht) (by rw [← hbase] at hl; exact hl) hbus.units
    have hbus₁ : Holds base LogicalUnit.IsAt (fun _ => True) bus₁ := by
      have h := keeps_visit (fun _ _ _ => ⟨rfl, rfl⟩) (keeps_discover_isAt a) bus hbus
      rw [state_run, hvisit] at h
      exact h
    obtain ⟨others, bus₂, hvisits, hscanned⟩ :=
      ih (fun b hb => hlimits b (List.mem_cons_of_mem a hb)) hrest hbus₁ hvisited.host
    refine ⟨_, bus₂, ?_, Scanned.cons ha hvisited hscanned⟩
    unfold visitAll
    rw [effect_bind_of_answer hvisit, effect_bind_of_answer hvisits]
    rfl

/-! ## Scans -/

/-- A scan of the bus, of all units or of the first behind each target, tries the address. -/
def InRange (bus : Bus σ) (allLuns : Bool) (a : Address) : Prop :=
  a.target < bus.maxTargets ∧ a.lun < bus.maxLuns ∧ (allLuns = false → a.lun = 0)

omit [HostAdapter σ] in
/-- What a scan tries depends on the limits of the bus alone. -/
theorem inRange_congr {bus bus' : Bus σ} (h : bus'.emptied = bus.emptied) {allLuns : Bool}
    {a : Address} : bus'.InRange allLuns a ↔ bus.InRange allLuns a := by
  show bus'.emptied.InRange allLuns a ↔ bus.emptied.InRange allLuns a
  rw [h]

omit [HostAdapter σ] in
theorem mem_scanRange_iff {bus : Bus σ} (h : bus.maxLuns ≠ 0) {allLuns : Bool} {a : Address} :
    a ∈ bus.scanRange allLuns ↔ bus.InRange allLuns a := by
  rw [scanRange, Address.mem_range_iff, InRange]
  cases allLuns with
  | true => simp
  | false =>
    -- a scan of first units is one of a single unit behind each target
    have hone : a.lun < 1 ↔ a.lun = 0 := by
      rw [UInt8.lt_iff_toNat_lt, ← UInt8.toNat_inj]
      show a.lun.toNat < 1 ↔ a.lun.toNat = 0
      omega
    have hpos : 0 < bus.maxLuns := by
      rw [UInt8.lt_iff_toNat_lt]
      exact Nat.pos_of_ne_zero fun h' => h (UInt8.toNat_inj.1 h')
    simp only [Bool.false_eq_true, if_false, hone, forall_const]
    constructor
    · rintro ⟨ht, hl⟩
      exact ⟨ht, hl ▸ hpos, hl⟩
    · rintro ⟨ht, -, hl⟩
      exact ⟨ht, hl⟩

omit [HostAdapter σ] in
/-- A scan tries each address once. -/
theorem nodup_scanRange (bus : Bus σ) (allLuns : Bool) : (bus.scanRange allLuns).Nodup :=
  (Address.pairwise_range _ _).imp Address.ne_of_lt

omit [HostAdapter σ] in
theorem maxLuns_new (settings : BusSettings) (adapter : Option σ) :
    (Bus.new settings adapter).maxLuns ≠ 0 := by
  show (if settings.maxLuns = 0 then BusSettings.usualLuns else settings.maxLuns) ≠ 0
  split
  · decide
  · assumption

theorem Reachable.maxLuns_ne_zero {bus : Bus σ} (hbus : bus.Reachable) : bus.maxLuns ≠ 0 := by
  obtain ⟨settings, adapter, hholds⟩ := hbus.holds sustains_isAt
  show bus.emptied.maxLuns ≠ 0
  rw [hholds.emptied]
  exact maxLuns_new settings adapter

omit [HostAdapter σ] in
theorem start_of_no_host {bus : Bus σ} (h : bus.host = none) :
    start.effect bus = (some (.error .noInterface), bus) := by
  unfold start
  rw [effect_bind_of_answer (effect_get _), h]
  rfl

omit [HostAdapter σ] in
theorem start_of_host {bus : Bus σ} (h : bus.host.isSome = true) :
    start.effect bus = (some (.ok ()), bus) := by
  obtain ⟨host, hhost⟩ := Option.isSome_iff_exists.1 h
  unfold start
  rw [effect_bind_of_answer (effect_get _), hhost]
  rfl

theorem scan_of_no_host {bus : Bus σ} (h : bus.host = none) (allLuns : Bool) :
    (scan allLuns).effect bus = (some (.error .noInterface), bus) := by
  unfold scan
  rw [effect_bind_of_answer (start_of_no_host h)]
  rfl

theorem scan_of_host {bus bus' : Bus σ} (h : bus.host.isSome = true) {allLuns : Bool}
    {found : List Address}
    (hvisits : (visitAll (bus.scanRange allLuns)).effect bus = (some found, bus')) :
    (scan allLuns).effect bus = (some (.ok found), { bus' with selected := none }) := by
  unfold scan
  rw [effect_bind_of_answer (start_of_host h)]
  show (get >>= _).effect bus = _
  rw [effect_bind_of_answer (effect_get _), effect_bind_of_answer hvisits]
  rfl

/-- A scan is cut off where one of its visits is. -/
theorem scan_of_crash {bus bus' : Bus σ} (h : bus.host.isSome = true) {allLuns : Bool}
    (hvisits : (visitAll (bus.scanRange allLuns)).effect bus = (none, bus')) :
    (scan allLuns).effect bus = (none, bus') := by
  unfold scan
  rw [effect_bind_of_answer (start_of_host h)]
  show (get >>= _).effect bus = _
  rw [effect_bind_of_answer (effect_get _), effect_bind_of_crash hvisits]

/-- A scan does what the visits of its range do, up to the unit that is selected. -/
theorem effect_scan_of_host {bus : Bus σ} (h : bus.host.isSome = true) (allLuns : Bool) :
    ∃ selected, (scan allLuns).effect bus =
      (((visitAll (bus.scanRange allLuns)).effect bus).1.map .ok,
        { ((visitAll (bus.scanRange allLuns)).effect bus).2 with selected }) := by
  rcases hvisits : (visitAll (bus.scanRange allLuns)).effect bus with ⟨_ | found, bus'⟩
  · exact ⟨bus'.selected, scan_of_crash h hvisits⟩
  · exact ⟨none, scan_of_host h hvisits⟩

/-- A scan of `bus` finds the addresses and leaves `bus'` after these exchanges. -/
structure ScanResult (allLuns : Bool) (bus : Bus σ) (found : List Address) (bus' : Bus σ)
    (sent : List Exchange) : Prop where
  ordered : found.Pairwise fun a b => a < b
  mem_iff : ∀ a, a ∈ found ↔ bus.InRange allLuns a ∧ bus'.ReadyAt a
  ready : ∀ a u, bus.InRange allLuns a → bus'.units.get? a = some u → u.isReady = true
  kept : ∀ a u, bus.InRange allLuns a → bus.units.get? a = some u → u.isReady = true →
    bus'.units.get? a = some u ∧ a ∈ found
  unsent : ∀ a, bus.InRange allLuns a → bus.ReadyAt a → ∀ e ∈ sent, ¬ e.IsTo a
  elsewhere : ∀ a, ¬ bus.InRange allLuns a → bus'.units.get? a = bus.units.get? a
  selected : bus'.selected = none

omit [HostAdapter σ] in
/-- Visits of the whole range make a scan. -/
theorem Scanned.result {bus bus' : Bus (Recorder σ)} {allLuns : Bool} {found : List Address}
    (hluns : bus.maxLuns ≠ 0) (h : Scanned (bus.scanRange allLuns) bus found bus') :
    ∃ sent, bus'.exchanges = bus.exchanges ++ sent ∧
      ScanResult allLuns bus found { bus' with selected := none } sent := by
  have hrange : ∀ {a}, a ∈ bus.scanRange allLuns ↔ bus.InRange allLuns a :=
    mem_scanRange_iff hluns
  have hordered : (bus.scanRange allLuns).Pairwise fun a b => a < b :=
    Address.pairwise_range _ _
  obtain ⟨sent, hexchanges, hsent⟩ := h.sent
  refine ⟨sent, hexchanges, ?_⟩
  constructor
  case ordered => exact hordered.sublist h.sublist
  case mem_iff =>
    intro a
    constructor
    · intro ha
      have hin := h.sublist.subset ha
      exact ⟨hrange.1 hin, (h.mem_iff hin).1 ha⟩
    · rintro ⟨hin, hready⟩
      exact (h.mem_iff (hrange.2 hin)).2 hready
  case ready =>
    intro a u hin hu
    exact h.ready (hrange.2 hin) hu
  case kept =>
    intro a u hin hu hready
    have hkept := h.kept (hrange.2 hin) hu hready
    exact ⟨hkept, (h.mem_iff (hrange.2 hin)).2 ⟨u, hkept, hready⟩⟩
  case unsent =>
    rintro a - hready e he hto
    obtain ⟨b, -, hnot, hto'⟩ := hsent e he
    exact hnot (hto.eq hto' ▸ hready)
  case elsewhere =>
    intro a hout
    exact h.elsewhere fun hin => hout (hrange.1 hin)
  case selected => rfl

/-- A scan over a recorder comes to its end, and what it sent is recorded. -/
theorem exists_scanResult {base : Bus (Recorder σ)} {bus : Bus (Recorder σ)}
    (hbus : Holds base LogicalUnit.IsAt (fun _ => True) bus) (hluns : bus.maxLuns ≠ 0)
    (hanswers : ∀ u : LogicalUnit, ∀ c ∈ u.questions, HostAdapter.Answers σ c)
    (hhost : bus.host.isSome = true) (allLuns : Bool) :
    ∃ found bus' sent, (scan allLuns).effect bus = (some (.ok found), bus') ∧
      bus'.exchanges = bus.exchanges ++ sent ∧ ScanResult allLuns bus found bus' sent := by
  have hlimits : ∀ a ∈ bus.scanRange allLuns, a.target < base.maxTargets ∧ a.lun < base.maxLuns := by
    intro a ha
    obtain ⟨ht, hl, -⟩ := (mem_scanRange_iff hluns).1 ha
    rw [← hbus.emptied]
    exact ⟨ht, hl⟩
  obtain ⟨found, bus', hvisits, hscanned⟩ :=
    exists_scanned hanswers hlimits (nodup_scanRange bus allLuns) hbus hhost
  obtain ⟨sent, hexchanges, hresult⟩ := hscanned.result hluns
  exact ⟨found, _, sent, scan_of_host hhost hvisits, hexchanges, hresult⟩

/-- A scan of a reachable bus comes to its end. What it sends is what a recorder that is put in
records. -/
theorem Reachable.exists_scanResult {bus : Bus σ} (hbus : bus.Reachable)
    (hanswers : ∀ u : LogicalUnit, ∀ c ∈ u.questions, HostAdapter.Answers σ c)
    (hhost : bus.host.isSome = true) (allLuns : Bool) :
    ∃ (found : List Address) (bus' : Bus σ), (scan allLuns).effect bus = (some (.ok found), bus') ∧
      ScanResult allLuns bus found bus' ((scan allLuns).run bus.recorded).state.exchanges := by
  obtain ⟨settings, adapter, hholds⟩ := hbus.holds sustains_isAt
  have hluns : bus.recorded.maxLuns ≠ 0 := hbus.maxLuns_ne_zero
  -- a recorder that is put in now touches none of the units
  have hrecorded : Holds bus.recorded.emptied LogicalUnit.IsAt (fun _ => True) bus.recorded :=
    ⟨rfl, hholds.units, trivial⟩
  have hhost' : bus.recorded.host.isSome = true := by
    rw [← hhost]
    exact Option.isSome_map
  obtain ⟨found, bus', sent, heffect, hexchanges, hresult⟩ :=
    Bus.exists_scanResult hrecorded hluns hanswers hhost' allLuns
  rw [exchanges_recorded, List.nil_append] at hexchanges
  have hrun := run_of_through (Observer.morphism.host.scan allLuns) bus
  refine ⟨found, bus'.unrecorded, ?_, ?_⟩
  · rw [effect, hrun, answer_run, state_run, heffect]
  -- without its exchanges a bus has the same units
  · rw [state_run, heffect, hexchanges]
    exact ⟨hresult.ordered, hresult.mem_iff, hresult.ready, hresult.kept, hresult.unsent,
      hresult.elsewhere, hresult.selected⟩

/-- **A scan** finds the units that it leaves in its range, which are all ready, in the order of
their addresses. It leaves alone, and sends nothing to, the units that were ready before, and it
leaves alone all units outside of its range. Without a host interface it does nothing. -/
theorem scan_spec {bus : Bus σ} (hbus : bus.Reachable)
    (hanswers : ∀ u : LogicalUnit, ∀ c ∈ u.questions, HostAdapter.Answers σ c) (allLuns : Bool) :
    (bus.host = none →
      ((scan allLuns).run bus).answer = some (.error .noInterface) ∧
      ((scan allLuns).run bus).state = bus) ∧
    (bus.host.isSome = true → ∃ (found : List Address) (bus' : Bus σ),
      ((scan allLuns).run bus).answer = some (.ok found) ∧
      ((scan allLuns).run bus).state = bus' ∧
      ScanResult allLuns bus found bus' ((scan allLuns).run bus.recorded).state.exchanges) := by
  constructor
  · intro h
    rw [answer_run, state_run, scan_of_no_host h]
    exact ⟨rfl, rfl⟩
  · intro hhost
    obtain ⟨found, bus', heffect, hresult⟩ := hbus.exists_scanResult hanswers hhost allLuns
    rw [answer_run, state_run, heffect]
    exact ⟨found, bus', rfl, rfl, hresult⟩

/-- A scan of a bus on which a small disk was discovered before. -/
theorem scan_spec_ramDisk :
    let bus := after [.discover ⟨0, 0⟩]
      (new ⟨0, 2, 2, .empty, 1, 16, 0⟩ (some (RamDisk.new (.disk 4 4))))
    bus.ReadyAt ⟨0, 0⟩ ∧ ∃ (found : List Address) (bus' : Bus RamDisk),
      ((scan true).run bus).answer = some (.ok found) ∧
      ((scan true).run bus).state = bus' ∧
      ScanResult true bus found bus' ((scan true).run bus.recorded).state.exchanges := by
  intro bus
  have hready : (bus.units.get? ⟨0, 0⟩).any LogicalUnit.isReady = true := by decide +kernel
  refine ⟨readyAt_iff.1 hready, ?_⟩
  have hanswers : ∀ u : LogicalUnit, ∀ c ∈ u.questions, HostAdapter.Answers RamDisk c :=
    fun u c hc => (RamDisk.completes_questions u c hc).answers
  exact (scan_spec ⟨_, _, _, rfl⟩ hanswers true).2 (by decide +kernel)

end Bus

end Scsi
