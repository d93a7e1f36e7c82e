import Scsi.Proofs.Bus.Scan
import Scsi.Proofs.Session.Course

/-!
# Accounts of what is sent

A recorder records the course of a discovery, which is cut off exactly if one of its questions is not
answered. So whether a discovery was cut off, and at which unit, can be read off its exchanges.

## Main definitions

* `Activity.Accounted log P s ended sent`: what led from `s` to `ended` added the exchanges `sent`

## Main results

* `exists_accounted_discover`: a discovery accounts for its questions
* `exists_first_question`: a discovery that starts asks for the INQUIRY data first
-/

namespace Scsi

open Activity Session

namespace Activity

variable {S T α β : Type}

/-- What led from the state `s` to `ended` added `sent` to the exchanges that `log` reads off a
state; they satisfy `P`, and there is no answer exactly if one of them has none. -/
structure Accounted (log : S → List Exchange) (P : Exchange → Prop) (s : S)
    (ended : Option α × S) (sent : List Exchange) : Prop where
  log_eq : log ended.2 = log s ++ sent
  only : ∀ e ∈ sent, P e
  cut_iff : ended.1 = none ↔ ∃ e ∈ sent, e.answer = none

variable {log : S → List Exchange} {P : Exchange → Prop}

/-- What sends nothing and comes to its end is accounted for. -/
theorem Accounted.nil {s : S} {ended : Option α × S} (hlog : log ended.2 = log s)
    (hanswer : ended.1.isSome = true) : Accounted log P s ended [] where
  log_eq := hlog.trans (List.append_nil _).symm
  only _ h := nomatch h
  cut_iff := by
    constructor
    · intro h
      rw [h] at hanswer
      exact nomatch hanswer
    · rintro ⟨_, h, -⟩
      exact nomatch h

/-- The same exchanges account for work that embeds this one, if it is cut off where this one is. -/
theorem Accounted.congr {log' : T → List Exchange} {s : S} {s' : T} {ended : Option α × S}
    {ended' : Option β × T} {sent : List Exchange} (h : Accounted log P s ended sent)
    (hstart : log' s' = log s) (hend : log' ended'.2 = log ended.2)
    (hcut : ended'.1 = none ↔ ended.1 = none) : Accounted log' P s' ended' sent where
  log_eq := by rw [hend, hstart, h.log_eq]
  only := h.only
  cut_iff := hcut.trans h.cut_iff

end Activity

section

variable {σ : Type} [HostAdapter σ] {a : Address} {u : LogicalUnit}

/-- The questions of a discovery go to the address of its unit. -/
theorem Exchange.isTo_of_mem_questions (e : Exchange) (hu : u.IsAt a) (he : e.sent ∈ u.questions) :
    e.IsTo a := by
  obtain ⟨question, -, hsent⟩ := List.mem_map.1 he
  rw [IsTo, ← hsent]
  exact hu

/-- **A discovery** sends to the address of its unit alone, and is cut off exactly if one of its
questions is not answered. -/
theorem exists_accounted_discover (s : Session (Recorder σ)) (hs : s.unit.IsAt a) :
    ∃ sent, Accounted Session.exchanges (Exchange.IsTo a) s (discover.effect s) sent := by
  obtain ⟨u, host⟩ := s
  by_cases hopen : u.IsOpen
  case neg =>
    obtain ⟨e, he⟩ := effect_discover_of_not_isOpen hopen host
    rw [he]
    exact ⟨[], .nil rfl rfl⟩
  cases host with
  | none =>
    rw [effect_discover_of_isOpen hopen, effect_explore_of_no_host]
    exact ⟨[], .nil rfl rfl⟩
  | some host =>
    obtain ⟨sent, answer, w, host', hcourse, hhad, heffect, -⟩ := effect_discover_course hopen host
    rw [heffect]
    cases hadapter : host.adapter with
    | none =>
      -- what is lost comes back at once, and is not recorded
      obtain ⟨rfl, hlost⟩ := hhad.lost hadapter
      have hanswered : answer.isSome = true := by
        refine hcourse.isSome_answer fun e he => ?_
        obtain ⟨after, hafter⟩ := hlost e he
        rw [hafter]
        rfl
      exact ⟨[], .nil rfl (Option.isSome_map.trans hanswered)⟩
    | some recorder =>
      obtain ⟨recorded, hexchanges, rfl⟩ := hhad.exists_recorded (by rw [hadapter]; rfl)
      refine ⟨recorded, hexchanges, fun e he => ?_, ?_⟩
      · have hsettled : e.settled ∈ recorded.map Exchange.settled := List.mem_map_of_mem he
        have hasked : e.settled.sent ∈ u.questions := hcourse.mem_questions hsettled
        exact e.isTo_of_mem_questions hs hasked
      · have hcut := hcourse.cut_iff
        simpa [Exchange.settled] using hcut

/-- **A discovery that starts** asks for the INQUIRY data first. -/
theorem exists_first_question (hopen : u.IsOpen) {host : Host (Recorder σ)}
    (hadapter : host.adapter.isSome = true) :
    ∃ answer rest, (discover.effect (⟨u, some host⟩ : Session (Recorder σ))).2.exchanges =
      host.exchanges ++ ⟨Question.identity.addressed u, answer⟩ :: rest := by
  obtain ⟨sent, answer, w, host', hcourse, hhad, heffect, -⟩ := effect_discover_course hopen host
  obtain ⟨recorded, hexchanges, rfl⟩ := hhad.exists_recorded hadapter
  obtain ⟨n, hpos, -, hasked⟩ := hcourse.exists_take
  obtain ⟨n, rfl⟩ := Nat.exists_eq_add_one.2 hpos
  cases recorded with
  | nil => exact nomatch hasked
  | cons e rest =>
    have hfirst : e.sent = Question.identity.addressed u := (List.cons.inj hasked).1
    refine ⟨e.answer, rest, ?_⟩
    rw [heffect, ← hfirst]
    exact hexchanges

end

end Scsi
