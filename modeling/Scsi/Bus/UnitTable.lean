import Scsi.Bus.Address
import Scsi.LogicalUnit.Basic

/-!
# Tables of units

The units of a bus by their address, in ascending order.

## Main definitions

* `UnitTable`: the table
* `UnitTable.get?`: the unit at an address
* `UnitTable.insert`, `UnitTable.erase`: the table with another unit, or none, at an address
* `UnitTable.addresses`: the addresses in use, in order

## Main results

* `UnitTable.get?_empty`, `UnitTable.get?_insert`, `UnitTable.get?_erase`: what is found afterwards
* `UnitTable.mem_addresses_iff`: an address is in use if a unit is found there
-/

namespace Scsi

/-- Units by their address, in ascending order. -/
structure UnitTable where
  entries : List (Address × LogicalUnit)
  sorted : entries.Pairwise fun a b => a.1 < b.1
deriving DecidableEq

namespace UnitTable

/-- The table without units. -/
def empty : UnitTable := ⟨[], .nil⟩

instance : Inhabited UnitTable := ⟨empty⟩

/-- The count of units. -/
def size (t : UnitTable) : Nat := t.entries.length

/-- The addresses in use, in order. -/
def addresses (t : UnitTable) : List Address := t.entries.map Prod.fst

/-- The first unit with an address in a list of entries. -/
def find (a : Address) : List (Address × LogicalUnit) → Option LogicalUnit
  | [] => none
  | (b, u) :: rest => if b = a then some u else find a rest

/-- The unit at an address. -/
def get? (t : UnitTable) (a : Address) : Option LogicalUnit := find a t.entries

/-- A sorted list of entries with a unit put in at its address. -/
def put (a : Address) (u : LogicalUnit) :
    List (Address × LogicalUnit) → List (Address × LogicalUnit)
  | [] => [(a, u)]
  | (b, v) :: rest =>
    if a < b then (a, u) :: (b, v) :: rest
    else if a = b then (a, u) :: rest
    else (b, v) :: put a u rest

theorem mem_put {a : Address} {u : LogicalUnit} {entries : List (Address × LogicalUnit)}
    {e : Address × LogicalUnit} (h : e ∈ put a u entries) : e = (a, u) ∨ e ∈ entries := by
  induction entries with
  | nil => simpa [put] using h
  | cons b rest ih =>
    obtain ⟨b, v⟩ := b
    unfold put at h
    split at h
    · simpa using h
    · split at h
      · rcases List.mem_cons.1 h with h | h
        · exact .inl h
        · exact .inr (List.mem_cons_of_mem _ h)
      · rcases List.mem_cons.1 h with h | h
        · exact .inr (h ▸ List.mem_cons_self)
        · rcases ih h with h | h
          · exact .inl h
          · exact .inr (List.mem_cons_of_mem _ h)

theorem sorted_put (a : Address) (u : LogicalUnit) {entries : List (Address × LogicalUnit)}
    (h : entries.Pairwise fun a b => a.1 < b.1) :
    (put a u entries).Pairwise fun a b => a.1 < b.1 := by
  induction entries with
  | nil => simp [put]
  | cons b rest ih =>
    obtain ⟨b, v⟩ := b
    obtain ⟨hb, hrest⟩ := List.pairwise_cons.1 h
    unfold put
    split
    · next hlt =>
      refine List.pairwise_cons.2 ⟨?_, h⟩
      intro e he
      rcases List.mem_cons.1 he with rfl | he
      · exact hlt
      · exact Address.lt_trans hlt (hb e he)
    · next hnlt =>
      split
      · next heq =>
        subst heq
        exact List.pairwise_cons.2 ⟨hb, hrest⟩
      · next hne =>
        refine List.pairwise_cons.2 ⟨?_, ih hrest⟩
        intro e he
        rcases mem_put he with rfl | he
        · exact Address.lt_of_not_lt_of_ne hnlt hne
        · exact hb e he

/-- The table with a unit at an address. -/
def insert (t : UnitTable) (a : Address) (u : LogicalUnit) : UnitTable :=
  ⟨put a u t.entries, sorted_put a u t.sorted⟩

/-- The table without a unit at an address. -/
def erase (t : UnitTable) (a : Address) : UnitTable :=
  ⟨t.entries.filter fun e => e.1 ≠ a, t.sorted.filter _⟩

/-! ## What is found -/

@[simp] theorem get?_empty (a : Address) : empty.get? a = none := rfl

theorem find_put (a a' : Address) (u : LogicalUnit) (entries : List (Address × LogicalUnit)) :
    find a' (put a u entries) = if a = a' then some u else find a' entries := by
  induction entries with
  | nil => rfl
  | cons b rest ih =>
    obtain ⟨b, v⟩ := b
    unfold put
    split
    · rfl
    · split
      · next heq =>
        subst heq
        simp only [find]
        split <;> rfl
      · next hne =>
        simp only [find, ih]
        split
        · next hb =>
          subst hb
          simp [hne]
        · rfl

theorem get?_insert (t : UnitTable) (a a' : Address) (u : LogicalUnit) :
    (t.insert a u).get? a' = if a = a' then some u else t.get? a' :=
  find_put a a' u t.entries

@[simp] theorem get?_insert_self (t : UnitTable) (a : Address) (u : LogicalUnit) :
    (t.insert a u).get? a = some u := by
  simp [get?_insert]

theorem get?_insert_of_ne (t : UnitTable) {a a' : Address} (u : LogicalUnit) (h : a ≠ a') :
    (t.insert a u).get? a' = t.get? a' := by
  simp [get?_insert, h]

theorem find_filter_ne (a a' : Address) (entries : List (Address × LogicalUnit)) :
    find a' (entries.filter fun e => e.1 ≠ a) = if a = a' then none else find a' entries := by
  induction entries with
  | nil => simp [find]
  | cons b rest ih =>
    obtain ⟨b, v⟩ := b
    by_cases hb : b = a
    · subst hb
      simp only [ne_eq, not_true_eq_false, decide_false, Bool.false_eq_true, not_false_eq_true,
        List.filter_cons_of_neg, ih, find]
      split <;> rfl
    · simp only [ne_eq, hb, not_false_eq_true, decide_true, List.filter_cons_of_pos, find, ih]
      split
      · next h =>
        subst h
        simp [Ne.symm hb]
      · rfl

theorem get?_erase (t : UnitTable) (a a' : Address) :
    (t.erase a).get? a' = if a = a' then none else t.get? a' :=
  find_filter_ne a a' t.entries

@[simp] theorem get?_erase_self (t : UnitTable) (a : Address) : (t.erase a).get? a = none := by
  simp [get?_erase]

theorem get?_erase_of_ne (t : UnitTable) {a a' : Address} (h : a ≠ a') :
    (t.erase a).get? a' = t.get? a' := by
  simp [get?_erase, h]

theorem mem_of_find {a : Address} {u : LogicalUnit} {entries : List (Address × LogicalUnit)}
    (h : find a entries = some u) : (a, u) ∈ entries := by
  induction entries with
  | nil => exact nomatch h
  | cons b rest ih =>
    obtain ⟨b, v⟩ := b
    unfold find at h
    split at h
    · next heq =>
      obtain rfl := Option.some.inj h
      exact heq ▸ List.mem_cons_self
    · exact List.mem_cons_of_mem _ (ih h)

theorem put_of_find {a : Address} {u : LogicalUnit} {entries : List (Address × LogicalUnit)}
    (hsorted : entries.Pairwise fun a b => a.1 < b.1) (h : find a entries = some u) :
    put a u entries = entries := by
  induction entries with
  | nil => exact nomatch h
  | cons b rest ih =>
    obtain ⟨b, v⟩ := b
    obtain ⟨hb, hrest⟩ := List.pairwise_cons.1 hsorted
    unfold find at h
    split at h
    · next heq =>
      subst heq
      obtain rfl := Option.some.inj h
      rw [put, if_neg (fun hlt => Address.ne_of_lt hlt rfl), if_pos rfl]
    · next hne =>
      -- the address is that of a later entry, so it is no smaller than this one
      have hlt : b < a := hb (a, u) (mem_of_find h)
      have hnot : ¬ a < b := fun h' => Address.ne_of_lt (Address.lt_trans hlt h') rfl
      rw [put, if_neg hnot, if_neg (Ne.symm hne), ih hrest h]

/-- A unit that is put in where it is already leaves the table as it was. -/
theorem insert_of_get?_eq_some {t : UnitTable} {a : Address} {u : LogicalUnit}
    (h : t.get? a = some u) : t.insert a u = t := by
  obtain ⟨entries, hsorted⟩ := t
  simp only [insert, put_of_find hsorted h]

theorem mem_addresses_iff {t : UnitTable} {a : Address} :
    a ∈ t.addresses ↔ (t.get? a).isSome = true := by
  unfold addresses get?
  induction t.entries with
  | nil => simp [find]
  | cons b rest ih =>
    obtain ⟨b, v⟩ := b
    simp only [List.map_cons, List.mem_cons, find, ih]
    split
    · next h => simp [h]
    · next h => simp [Ne.symm h]

end UnitTable

end Scsi
