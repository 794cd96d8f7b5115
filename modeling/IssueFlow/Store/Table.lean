import Mathlib.Data.List.Nodup
import Mathlib.Order.Lattice
import Mathlib.Tactic.Common

/-!
# Tables with a serial key

A table of rows whose key is drawn from a counter that only moves forward. The
rows are listed in key order, no two rows share a key, and no key has been
drawn that the counter has not passed; the structure carries these facts, so
that a row is found by its key and a key is never used twice.

## Main definitions

* `Table`, `Table.get?` — tables and lookup by key
* `Table.insert`, `Table.update`, `Table.set`, `Table.remove` — the ways to change one

## Main results

* `Table.get?_insert`, `Table.get?_update`, `Table.get?_set`, `Table.get?_remove` —
  what a lookup finds after a change
* `Table.filter_insert`, `Table.filter_set`, `Table.filter_remove` — rows that do not see it
* `Table.filter_of_visible` — the rows two tables share
-/

namespace IssueFlow.Store

/-- Rows with distinct keys: a key picks its row. -/
theorem filter_key_of_nodup {α γ : Type} [DecidableEq γ] {key : α → γ} {rows : List α}
    (distinct : (rows.map key).Nodup) {row : α} (member : row ∈ rows) :
    (rows.filter fun other => key other = key row) = [row] := by
  induction rows with
  | nil => cases member
  | cons first rows ih =>
      obtain ⟨fresh, distinct⟩ := List.nodup_cons.mp distinct
      rw [List.filter_cons]
      rcases List.mem_cons.mp member with rfl | later
      · have none : (rows.filter fun other => key other = key row) = [] := by
          rw [List.filter_eq_nil_iff]
          intro other otherMember same
          exact fresh (of_decide_eq_true same ▸ List.mem_map_of_mem otherMember)
        rw [if_pos (decide_eq_true rfl), none]
      · have other : key first ≠ key row := by
          intro same
          exact fresh (same ▸ List.mem_map_of_mem later)
        rw [if_neg (by simpa using other), ih distinct later]

/-- Distinct rows: some of them in their order are picked by membership. -/
theorem filter_mem_of_sublist {α : Type} [DecidableEq α] {picked rows : List α}
    (within : picked.Sublist rows) (distinct : rows.Nodup) : rows.filter (· ∈ picked) = picked := by
  have kept : picked.filter (· ∈ picked) = picked := by
    rw [List.filter_eq_self]
    exact fun row member => decide_eq_true member
  have below := within.filter (· ∈ picked)
  rw [kept] at below
  have bounded : (rows.filter (· ∈ picked)).length ≤ picked.length := by
    refine (distinct.filter _).length_le_of_subset fun row member => ?_
    exact of_decide_eq_true (List.mem_filter.mp member).2
  exact (below.eq_of_length_le bounded).symm

/-- Rows that carry their key. -/
class Keyed (ρ : Type) where
  key : ρ → ℕ

open Keyed (key)

/-- Rows in the order of their keys, and the next key to be drawn. -/
structure Table (ρ : Type) [Keyed ρ] where
  rows : List ρ
  next : ℕ
  ascending : rows.Pairwise fun first second => key first < key second
  below : ∀ row ∈ rows, key row < next

namespace Table

variable {ρ : Type} [Keyed ρ] {t : Table ρ} {id : ℕ} {row : ρ}

/-- A table is its rows and its next key. -/
@[ext] theorem ext {t t' : Table ρ} (rows : t.rows = t'.rows) (next : t.next = t'.next) :
    t = t' := by
  cases t
  cases t'
  cases rows
  cases next
  rfl

/-- No rows; keys are drawn from 1 on. -/
def empty : Table ρ := ⟨[], 1, .nil, by simp⟩

/-- The row with a key. -/
def get? (t : Table ρ) (id : ℕ) : Option ρ := t.rows.find? fun row => key row = id

/-- Append the row made from the next key. -/
def insert (t : Table ρ) (make : ℕ → ρ) (keyed : ∀ id, key (make id) = id) : Table ρ where
  rows := t.rows ++ [make t.next]
  next := t.next + 1
  ascending := by
    refine List.pairwise_append.mpr ⟨t.ascending, List.pairwise_singleton _ _, ?_⟩
    intro row member other last
    rw [List.mem_singleton.mp last, keyed]
    exact t.below row member
  below := by
    intro row member
    rcases List.mem_append.mp member with old | last
    · exact (t.below row old).trans (Nat.lt_succ_self _)
    · rw [List.mem_singleton.mp last, keyed]
      exact Nat.lt_succ_self _

/-- Draw a key without using it. -/
def skip (t : Table ρ) : Table ρ :=
  { t with next := t.next + 1, below := fun row member => (t.below row member).trans_le (by omega) }

/-- Keys drawn in `later` stay drawn. -/
def keepDrawn (t later : Table ρ) : Table ρ :=
  { t with
    next := max t.next later.next
    below := fun row member => (t.below row member).trans_le (le_max_left _ _) }

/-- Change the rows that satisfy a condition, leaving their keys alone. -/
def update (t : Table ρ) (p : ρ → Bool) (f : ρ → ρ)
    (keyed : ∀ row, p row = true → key (f row) = key row) : Table ρ where
  rows := t.rows.map fun row => if p row then f row else row
  next := t.next
  ascending := by
    refine List.pairwise_map.mpr (t.ascending.imp fun {first second} less => ?_)
    split_ifs <;> simp [*]
  below := by
    intro row member
    obtain ⟨old, oldMember, rfl⟩ := List.mem_map.mp member
    split_ifs with holds
    · simpa only [keyed old holds] using t.below old oldMember
    · exact t.below old oldMember

/-- Write a row over the one with its key. -/
def set (t : Table ρ) (row : ρ) : Table ρ :=
  t.update (fun old => key old = key row) (fun _ => row) fun _ same =>
    (of_decide_eq_true same).symm

/-- Remove the rows that satisfy a condition. -/
def remove (t : Table ρ) (p : ρ → Bool) : Table ρ where
  rows := t.rows.filter fun row => !p row
  next := t.next
  ascending := t.ascending.filter _
  below := fun row member => t.below row (List.mem_filter.mp member).1

@[simp] theorem get?_empty : (empty : Table ρ).get? id = none := rfl

/-- Lookups only depend on the rows. -/
theorem get?_congr {t t' : Table ρ} (same : t'.rows = t.rows) (id : ℕ) :
    t'.get? id = t.get? id := by
  rw [get?, get?, same]

/-- No two rows have the same key. -/
theorem nodup_keys (t : Table ρ) : (t.rows.map key).Nodup :=
  List.pairwise_map.mpr (t.ascending.imp fun {_ _} less => less.ne)

theorem eq_of_key_eq {first second : ρ} (firstMember : first ∈ t.rows)
    (secondMember : second ∈ t.rows) (same : key first = key second) : first = second :=
  List.inj_on_of_nodup_map t.nodup_keys firstMember secondMember same

/-- Lookup finds exactly the rows that are stored. -/
theorem get?_eq_some_iff : t.get? id = some row ↔ row ∈ t.rows ∧ key row = id := by
  constructor
  · intro found
    exact ⟨List.mem_of_find?_eq_some found, by simpa using List.find?_some found⟩
  · rintro ⟨member, rfl⟩
    cases found : t.get? (key row) with
    | none => simpa using List.find?_eq_none.mp found row member
    | some other =>
        have keyOther : key other = key row := by simpa using List.find?_some found
        rw [eq_of_key_eq (List.mem_of_find?_eq_some found) member keyOther]

theorem get?_key (member : row ∈ t.rows) : t.get? (key row) = some row :=
  get?_eq_some_iff.mpr ⟨member, rfl⟩

theorem key_of_get? (found : t.get? id = some row) : key row = id :=
  (get?_eq_some_iff.mp found).2

theorem mem_of_get? (found : t.get? id = some row) : row ∈ t.rows :=
  (get?_eq_some_iff.mp found).1

theorem get?_eq_none_iff : t.get? id = none ↔ ∀ row ∈ t.rows, key row ≠ id := by
  simp [get?]

/-- A key that has not been drawn finds nothing. -/
theorem get?_of_next_le (fresh : t.next ≤ id) : t.get? id = none :=
  get?_eq_none_iff.mpr fun row member same =>
    absurd (t.below row member) (by omega)

theorem lt_next_of_get? (found : t.get? id = some row) : id < t.next := by
  by_contra fresh
  rw [get?_of_next_le (by omega)] at found
  cases found

/-- A lookup with a further condition on the row. -/
theorem find?_key_and (p : ρ → Bool) :
    t.rows.find? (fun row => key row = id && p row) = (t.get? id).filter p := by
  ext row
  rw [Option.filter_eq_some_iff, get?_eq_some_iff]
  constructor
  · intro found
    have holds := List.find?_some found
    simp only [Bool.and_eq_true, decide_eq_true_eq] at holds
    exact ⟨⟨List.mem_of_find?_eq_some found, holds.1⟩, holds.2⟩
  · rintro ⟨⟨member, keyRow⟩, holds⟩
    cases found : t.rows.find? (fun row => key row = id && p row) with
    | none =>
        have absent := List.find?_eq_none.mp found row member
        simp [keyRow, holds] at absent
    | some other =>
        have keyOther := List.find?_some found
        simp only [Bool.and_eq_true, decide_eq_true_eq] at keyOther
        rw [eq_of_key_eq (List.mem_of_find?_eq_some found) member
          (keyOther.1.trans keyRow.symm)]

@[simp] theorem get?_skip : t.skip.get? id = t.get? id := rfl

@[simp] theorem get?_keepDrawn (later : Table ρ) : (t.keepDrawn later).get? id = t.get? id := rfl

/-- After an insertion the next key finds the new row. -/
theorem get?_insert (make : ℕ → ρ) (keyed : ∀ id, key (make id) = id) :
    (t.insert make keyed).get? id = if id = t.next then some (make id) else t.get? id := by
  ext row
  rw [get?_eq_some_iff]
  simp only [insert, List.mem_append, List.mem_singleton]
  split_ifs with fresh
  · subst fresh
    constructor
    · rintro ⟨old | rfl, keyRow⟩
      · exact absurd (t.below row old) (by omega)
      · rfl
    · intro same
      obtain rfl := Option.some.inj same
      exact ⟨.inr rfl, keyed _⟩
  · rw [get?_eq_some_iff]
    constructor
    · rintro ⟨old | rfl, keyRow⟩
      · exact ⟨old, keyRow⟩
      · exact absurd ((keyed _).symm.trans keyRow).symm fresh
    · rintro ⟨old, keyRow⟩
      exact ⟨.inl old, keyRow⟩

/-- A stored row stays stored when another one is inserted. -/
theorem isSome_get?_insert (make : ℕ → ρ) (keyed : ∀ id, key (make id) = id)
    (stored : (t.get? id).isSome) : ((t.insert make keyed).get? id).isSome := by
  rw [get?_insert]
  split_ifs
  · rfl
  · exact stored

/-- After an update a key finds the updated row. -/
@[simp] theorem get?_update (p : ρ → Bool) (f : ρ → ρ)
    (keyed : ∀ row, p row = true → key (f row) = key row) :
    (t.update p f keyed).get? id = (t.get? id).map fun row => if p row then f row else row := by
  have keys (row : ρ) : key (if p row then f row else row) = key row := by
    split_ifs with holds
    · exact keyed row holds
    · rfl
  simp only [get?, update, List.find?_map]
  congr 2
  funext row
  simp [keys]

/-- After a removal a key finds the rows that stay. -/
@[simp] theorem get?_remove (p : ρ → Bool) :
    (t.remove p).get? id = (t.get? id).filter fun row => !p row := by
  ext row
  rw [Option.filter_eq_some_iff, get?_eq_some_iff, get?_eq_some_iff]
  simp only [remove, List.mem_filter]
  tauto

/-- After a write the key of the row finds it, if it found a row before. -/
theorem get?_set (row : ρ) :
    (t.set row).get? id =
      if id = key row then (t.get? id).map fun _ => row else t.get? id := by
  rw [set, get?_update]
  cases found : t.get? id with
  | none => simp
  | some old =>
      obtain rfl := key_of_get? found
      split_ifs with same <;> simp [same]

/-- Writing a row over itself changes nothing. -/
theorem set_stored {row : ρ} (stored : t.get? (key row) = some row) : t.set row = t := by
  refine ext ?_ rfl
  have same : ∀ other ∈ t.rows, (if decide (key other = key row) then row else other) = other := by
    intro other member
    split_ifs with here
    · exact t.eq_of_key_eq (mem_of_get? stored) member (of_decide_eq_true here).symm
    · rfl
  exact (List.map_congr_left same).trans (List.map_id' _)

/-- Of two rows written to one key the second stays. -/
theorem set_set {row row' : ρ} (same : key row' = key row) :
    (t.set row).set row' = t.set row' := by
  refine ext ?_ rfl
  simp only [set, update, List.map_map]
  refine List.map_congr_left fun other _ => ?_
  simp only [Function.comp_apply, same]
  split_ifs <;> simp_all

/-- The rows after a write: the one that was written, and old ones. -/
theorem mem_set {other : ρ} (member : other ∈ (t.set row).rows) :
    other ∈ t.rows ∨ other = row ∧ ∃ old ∈ t.rows, key old = key row := by
  obtain ⟨old, oldMember, rfl⟩ := List.mem_map.mp member
  by_cases same : key old = key row
  · rw [if_pos (decide_eq_true same)]
    exact .inr ⟨rfl, old, oldMember, same⟩
  · rw [if_neg (by simpa using same)]
    exact .inl oldMember

/-! ### The rows that satisfy a condition -/

/-- Two lists with the same visible part, and conditions that hold of visible
elements only and agree on them. -/
theorem filter_of_visible {α : Type} {visible visible' p p' : α → Bool} {l l' : List α}
    (same : l'.filter visible' = l.filter visible)
    (sees : ∀ x ∈ l, p x = true → visible x = true)
    (sees' : ∀ x ∈ l', p' x = true → visible' x = true)
    (agree : ∀ x ∈ l.filter visible, p' x = p x) : l'.filter p' = l.filter p := by
  have narrow {visible p : α → Bool} {l : List α}
      (sees : ∀ x ∈ l, p x = true → visible x = true) :
      (l.filter visible).filter p = l.filter p := by
    rw [List.filter_filter]
    apply List.filter_congr
    intro x member
    cases seen : p x with
    | false => rfl
    | true => rw [sees x member seen, Bool.and_self]
  calc l'.filter p' = (l'.filter visible').filter p' := (narrow sees').symm
    _ = (l.filter visible).filter p' := by rw [same]
    _ = (l.filter visible).filter p := List.filter_congr agree
    _ = l.filter p := narrow sees

/-- An insertion is not seen by a condition that the new row does not satisfy. -/
theorem filter_insert (p : ρ → Bool) (make : ℕ → ρ) (keyed : ∀ id, key (make id) = id)
    (unseen : p (make t.next) = false) :
    (t.insert make keyed).rows.filter p = t.rows.filter p := by
  rw [insert, List.filter_append, List.filter_cons_of_neg (Bool.eq_false_iff.mp unseen),
    List.filter_nil, List.append_nil]

/-- A removal is not seen by a condition that no removed row satisfies. -/
theorem filter_remove (p q : ρ → Bool)
    (unseen : ∀ row ∈ t.rows, q row = true → p row = false) :
    (t.remove q).rows.filter p = t.rows.filter p := by
  rw [remove, List.filter_filter]
  apply List.filter_congr
  intro row member
  cases removed : q row with
  | false => simp
  | true => simp [unseen row member removed]

/-- A write is not seen by a condition that neither the old row nor the new one
satisfies. -/
theorem filter_set (p : ρ → Bool) {old : ρ} (stored : t.get? (key row) = some old)
    (unseenOld : p old = false) (unseenNew : p row = false) :
    (t.set row).rows.filter p = t.rows.filter p := by
  rw [set, update, List.filter_map]
  -- The condition sees neither the new row nor, as it has the same key, the old one.
  have same : (p ∘ fun other => if decide (key other = key row) = true then row else other) =
      fun other => if key other = key row then false else p other := by
    funext other
    by_cases here : key other = key row <;> simp [here, unseenNew]
  have kept : t.rows.filter (fun other => if key other = key row then false else p other) =
      t.rows.filter p := by
    apply List.filter_congr
    intro other member
    split_ifs with here
    · rw [eq_of_key_eq member (mem_of_get? stored) (here.trans (key_of_get? stored).symm),
        unseenOld]
    · rfl
  rw [same, kept]
  refine (List.map_congr_left fun other member => ?_).trans (List.map_id _)
  rw [if_neg]
  · rfl
  · intro here
    obtain ⟨member, seen⟩ := List.mem_filter.mp member
    have isOld := eq_of_key_eq member (mem_of_get? stored)
      ((of_decide_eq_true here).trans (key_of_get? stored).symm)
    rw [isOld, unseenOld] at seen
    cases seen

@[simp] theorem next_update (p : ρ → Bool) (f : ρ → ρ)
    (keyed : ∀ row, p row = true → key (f row) = key row) :
    (t.update p f keyed).next = t.next := rfl

@[simp] theorem next_set (row : ρ) : (t.set row).next = t.next := rfl

end Table

end IssueFlow.Store
