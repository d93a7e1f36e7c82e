import Scsi.Yaml.Quotation

/-!
# Plain scalars

A scalar without quotes. It goes on in later lines and may hold any character, but ends before a
colon with a gap behind it, before a comment, before a mark around the document, between brackets
before a sign and, outside of them, before a line that does not stand further right than the block
it belongs to.

## Main definitions

* `Plain.Surroundings`: what decides where a plain scalar ends
* `Plain.read?`: the scalar from its first character on

## Main results

* `Plain.read?_word`: a word of characters without a meaning stands for itself
-/

namespace Scsi.Yaml

namespace Plain

/-- What decides where a plain scalar ends: whether it stands between brackets, and the first
column that its lines may start in. -/
structure Surroundings where
  inside : Bool
  low : Nat
deriving DecidableEq

/-- The signs that end a plain scalar between brackets. -/
def isSign (c : Char) : Bool := [',', '[', ']', '{', '}'].contains c

/-- Whether a scalar does not go on at a character behind a gap. -/
def stopsBefore (s : Surroundings) (p : Place) (c : Char) (rest : List Char) : Bool :=
  c = '#' || p.column = 0 && atMark (c :: rest) || !s.inside && p.column < s.low

/-- Whether a character ends the scalar wherever it stands. -/
def ends (s : Surroundings) (c : Char) (rest : List Char) : Bool :=
  c = ':' && atGap rest || s.inside && isSign c

/-- Whether a colon stands where it neither ends a scalar nor belongs to it. -/
def isMisplaced (s : Surroundings) (c : Char) (rest : List Char) : Bool :=
  s.inside && c = ':' && rest.head?.any fun d => d = '?' || isSign d

/-- A plain scalar, behind whose last word there is a gap, with the gap that follows it. A tab must
not stand in front of the first column. -/
def readFrom (s : Surroundings) (p : Place) (g : Gap) : List Char → Option (Scalar × Gap)
  | [] => some (⟨[], p, []⟩, g)
  | c :: rest =>
    if isBlank c || isBreak c then
      if c = '\t' && g.isBroken && p.column < s.low then none
      else readFrom s (p.after c) (g.adding c) rest
    else if g ≠ .empty && stopsBefore s p c rest || ends s c rest then
      some (⟨[], p, c :: rest⟩, g)
    else if isMisplaced s c rest then none
    else
      (readFrom s (p.after c) .empty rest).map fun (scalar, after) =>
        (scalar.prepend (g.text ++ [c]), after)

/-- The plain scalar from its first character on, and whether a line break follows it. -/
def read? (s : Surroundings) (p : Place) (cs : List Char) : Option (Scalar × Bool) :=
  (readFrom s p .empty cs).map fun (scalar, after) => (scalar, after.isBroken)

/-- Whether a character means nothing in a plain scalar. -/
def isOrdinary (c : Char) : Bool := !isBlank c && !isBreak c && c ≠ ':' && !isSign c

theorem readFrom_word (s : Surroundings) {word : List Char} (h : ∀ c ∈ word, isOrdinary c = true)
    (p : Place) : readFrom s p .empty word = some (⟨word, p.past word, []⟩, .empty) := by
  induction word generalizing p with
  | nil => rfl
  | cons c word ih =>
    have hc := h c (by simp)
    simp only [isOrdinary, Bool.and_eq_true, Bool.not_eq_true', decide_eq_true_eq] at hc
    obtain ⟨⟨⟨hBlank, hBreak⟩, hColon⟩, hSign⟩ := hc
    simp [readFrom, hBlank, hBreak, hColon, hSign, ends, isMisplaced,
      ih (fun c hc => h c (by simp [hc])) (p.after c), Scalar.prepend, Gap.text_empty, Place.past]

theorem read?_word (s : Surroundings) {word : List Char} (h : ∀ c ∈ word, isOrdinary c = true)
    (p : Place) : read? s p word = some (⟨word, p.past word, []⟩, false) := by
  rw [read?, readFrom_word s h p]
  rfl

end Plain

end Scsi.Yaml
