import IssueFlow.Store.Table
import Mathlib.Data.List.Dedup
import Mathlib.Data.List.Sort
import Mathlib.Logic.Function.Basic

/-!
# SELECT with a left join and groups

The clauses of a SELECT on lists of rows. A left join keeps every row on its
left: a row without a match is paired with NULLs. When the rows on the left
have distinct keys, grouping the join by these keys gives one group a row, and
counting a column of the right side in it gives the number of matches.

## Main definitions

* `leftJoin` — `LEFT JOIN … ON …`
* `groupBy` — `GROUP BY …`
* `countColumn` — `COUNT(column)`
* `orderBy` — `ORDER BY …`
* `LexBefore` — the order by one column and then another
* `page`, `pageCount` — `LIMIT … OFFSET …`, and the number of pages

## Main results

* `filter_leftJoin` — a WHERE on the left side comes before the join
* `groupBy_leftJoin` — one group for each row on the left
* `countColumn_joined` — a group counts its matches
* `orderBy_sublist` — some of the rows, in order
* `getD_foldl_update` — rows collected under their keys
* `flatMap_page_pageCount`, `length_page_of_lt`, `page_eq_nil_of_le` — pages partition the rows
-/

namespace IssueFlow.Store

variable {α β γ δ : Type}

/-- The rows of a left join that come from one row on the left. -/
def joined (on : α → β → Bool) (right : List β) (row : α) : List (α × Option β) :=
  match right.filter (on row) with
  | [] => [(row, none)]
  | found => found.map fun other => (row, some other)

/-- `LEFT JOIN right ON on` -/
def leftJoin (on : α → β → Bool) (left : List α) (right : List β) : List (α × Option β) :=
  left.flatMap (joined on right)

/-- `GROUP BY key`: every key that occurs, with the rows that have it. -/
def groupBy [DecidableEq γ] (key : α → γ) (rows : List α) : List (γ × List α) :=
  (rows.map key).dedup.map fun k => (k, rows.filter fun row => key row = k)

/-- `COUNT(column)`: the rows in which the column is not NULL. -/
def countColumn (column : α → Option δ) (rows : List α) : ℕ := (rows.filterMap column).length

/-- `ORDER BY` -/
def orderBy (before : α → α → Prop) [DecidableRel before] (rows : List α) : List α :=
  rows.insertionSort before

section Join

variable {on : α → β → Bool} {left : List α} {right : List β}

theorem fst_of_mem_joined {row : α} {pair : α × Option β} (member : pair ∈ joined on right row) :
    pair.1 = row := by
  unfold joined at member
  split at member
  · rw [List.mem_singleton.mp member]
  · obtain ⟨other, -, rfl⟩ := List.mem_map.mp member
    rfl

/-- A left join keeps every row on its left. -/
theorem joined_ne_nil (row : α) : joined on right row ≠ [] := by
  unfold joined
  generalize right.filter (on row) = found
  cases found with
  | nil => exact List.cons_ne_nil _ _
  | cons first rest => exact List.cons_ne_nil _ _

/-- **A WHERE on the left side** comes before the join. -/
theorem filter_leftJoin (p : α → Bool) :
    (leftJoin on left right).filter (fun pair => p pair.1) =
      leftJoin on (left.filter p) right := by
  unfold leftJoin
  induction left with
  | nil => rfl
  | cons row left ih =>
      rw [List.flatMap_cons, List.filter_append, ih, List.filter_cons]
      cases holds : p row with
      | true =>
          have all : (joined on right row).filter (fun pair => p pair.1) = joined on right row := by
            rw [List.filter_eq_self]
            intro pair member
            rw [fst_of_mem_joined member, holds]
          rw [all, if_pos rfl, List.flatMap_cons]
      | false =>
          have none : (joined on right row).filter (fun pair => p pair.1) = [] := by
            rw [List.filter_eq_nil_iff]
            intro pair member
            simp [fst_of_mem_joined member, holds]
          rw [none, List.nil_append, if_neg Bool.false_ne_true]

/-- The number of matches of a row. -/
theorem countColumn_joined (column : β → δ) (row : α) :
    countColumn (fun pair => pair.2.map column) (joined on right row) =
      (right.filter (on row)).length := by
  unfold countColumn joined
  split
  · rename_i none
    rw [none]
    rfl
  · simp [List.filterMap_map]

end Join

section Group

variable [DecidableEq γ] {key : α → γ} {on : α → β → Bool} {left : List α} {right : List β}

/-- Repetitions of one key are one key. -/
theorem dedup_append_of_constant {keys more : List γ} {k : γ} (constant : ∀ other ∈ keys, other = k)
    (nonempty : keys ≠ []) (fresh : k ∉ more) : (keys ++ more).dedup = k :: more.dedup := by
  induction keys with
  | nil => exact absurd rfl nonempty
  | cons first keys ih =>
      obtain ⟨rfl, constant⟩ := List.forall_mem_cons.mp constant
      rw [List.cons_append]
      by_cases last : keys = []
      · rw [last, List.nil_append, List.dedup_cons_of_notMem fresh]
      · have again : first ∈ keys ++ more := by
          obtain ⟨other, member⟩ := List.exists_mem_of_ne_nil keys last
          exact List.mem_append_left _ (constant other member ▸ member)
        rw [List.dedup_cons_of_mem again, ih constant last]

/-- The keys of a left join are those of its left side. -/
theorem dedup_map_leftJoin (distinct : (left.map key).Nodup) :
    ((leftJoin on left right).map fun pair => key pair.1).dedup = left.map key := by
  unfold leftJoin
  induction left with
  | nil => rfl
  | cons row left ih =>
      obtain ⟨fresh, distinct⟩ := List.nodup_cons.mp distinct
      rw [List.flatMap_cons, List.map_append, List.map_cons,
        dedup_append_of_constant (k := key row), ih distinct]
      · intro k member
        obtain ⟨pair, pairMember, rfl⟩ := List.mem_map.mp member
        rw [fst_of_mem_joined pairMember]
      · simpa using joined_ne_nil row
      · intro member
        obtain ⟨pair, pairMember, same⟩ := List.mem_map.mp member
        obtain ⟨other, otherMember, here⟩ := List.mem_flatMap.mp pairMember
        rw [fst_of_mem_joined here] at same
        exact fresh (same ▸ List.mem_map_of_mem otherMember)

/-- **One group for each row on the left**, when their keys are distinct. -/
theorem groupBy_leftJoin (distinct : (left.map key).Nodup) :
    groupBy (fun pair => key pair.1) (leftJoin on left right) =
      left.map fun row => (key row, joined on right row) := by
  rw [groupBy, dedup_map_leftJoin distinct, List.map_map]
  refine List.map_congr_left fun row member => ?_
  have group : (leftJoin on left right).filter (fun pair => decide (key pair.1 = key row)) =
      leftJoin on (left.filter fun other => decide (key other = key row)) right :=
    filter_leftJoin fun other => decide (key other = key row)
  rw [filter_key_of_nodup distinct member] at group
  show (key row, (leftJoin on left right).filter fun pair => key pair.1 = key row) = _
  rw [group, leftJoin, List.flatMap_cons, List.flatMap_nil, List.append_nil]

end Group

/-- **Rows collected under their keys** by a loop: a key has its rows, in order. -/
theorem getD_foldl_update [DecidableEq γ] (rows : List (γ × δ)) (map : γ → Option (List δ))
    (key : γ) :
    (rows.foldl
        (fun (map : γ → Option (List δ)) row =>
          Function.update map row.1 (some ((map row.1).getD [] ++ [row.2])))
        map key).getD [] =
      (map key).getD [] ++ (rows.filter fun row => row.1 = key).map Prod.snd := by
  induction rows generalizing map with
  | nil => simp
  | cons row rows ih =>
      rw [List.foldl_cons, ih]
      by_cases same : row.1 = key
      · simp [← same]
      · simp [same, Function.update_of_ne (Ne.symm same)]

section Order

variable [LinearOrder γ] [LinearOrder δ] (first : α → γ) (second : α → δ)

/-- In the order of one column, and of another one where the first is equal. -/
def LexBefore (a b : α) : Prop := first a < first b ∨ first a = first b ∧ second a ≤ second b

instance : Std.Total (LexBefore first second) where
  total a b := by
    unfold LexBefore
    rcases lt_trichotomy (first a) (first b) with less | same | greater
    · exact .inl (.inl less)
    · rcases le_total (second a) (second b) with le | ge
      · exact .inl (.inr ⟨same, le⟩)
      · exact .inr (.inr ⟨same.symm, ge⟩)
    · exact .inr (.inl greater)

instance : IsTrans α (LexBefore first second) where
  trans a b c := by
    rintro (less | ⟨same, le⟩) (less' | ⟨same', le'⟩)
    · exact .inl (less.trans less')
    · exact .inl (same' ▸ less)
    · exact .inl (same ▸ less')
    · exact .inr ⟨same.trans same', le.trans le'⟩

/-- Some of the rows are sorted as they stand among all rows, if no two of these
may stand in either order. -/
theorem orderBy_sublist {before : α → α → Prop} [DecidableRel before] [Std.Total before]
    [IsTrans α before] {few rows : List α} (sublist : few.Sublist rows)
    (strict : ∀ a ∈ rows, ∀ b ∈ rows, before a b → before b a → a = b) :
    (orderBy before few).Sublist (orderBy before rows) := by
  have perm := List.perm_insertionSort before rows
  have subperm : (orderBy before few).Subperm (orderBy before rows) :=
    ((List.perm_insertionSort before few).subperm.trans sublist.subperm).trans perm.symm.subperm
  obtain ⟨middle, same, inside⟩ := subperm
  -- Both are the same rows, in order.
  have equal : middle = orderBy before few := by
    refine same.eq_of_pairwise ?_ ((List.pairwise_insertionSort before rows).sublist inside)
      (List.pairwise_insertionSort before few)
    intro a b here there le ge
    have member {c : α} (found : c ∈ middle) : c ∈ rows := perm.mem_iff.mp (inside.subset found)
    exact strict a (member here) b (member (same.mem_iff.mpr there)) le ge
  exact equal ▸ inside

end Order

/-! ### Pages -/

/-- `LIMIT size OFFSET offset` -/
def page (size offset : ℕ) (rows : List α) : List α := (rows.drop offset).take size

/-- **Pages one after the other** are the first rows. -/
theorem flatMap_page (size count : ℕ) (rows : List α) :
    ((List.range count).flatMap fun number => page size (number * size) rows) =
      rows.take (count * size) := by
  induction count with
  | zero => simp
  | succ count ih =>
      rw [List.range_succ, List.flatMap_append, ih, List.flatMap_singleton, Nat.succ_mul,
        List.take_add]
      rfl

theorem length_page (size offset : ℕ) (rows : List α) :
    (page size offset rows).length = min size (rows.length - offset) := by
  rw [page, List.length_take, List.length_drop]

/-- The number of pages that are not empty. -/
def pageCount (size total : ℕ) : ℕ := (total + size - 1) / size

section PageCount

variable {size number total : ℕ} {rows : List α}

theorem le_pageCount_mul (positive : 0 < size) : total ≤ pageCount size total * size := by
  have split := Nat.div_add_mod' (total + size - 1) size
  have rest := Nat.mod_lt (total + size - 1) positive
  rw [pageCount]
  omega

/-- A page before the last one begins a full page before the end. -/
theorem succ_mul_le_of_lt_pageCount (before : number < pageCount size total) :
    number * size + 1 ≤ total := by
  have reached : (number + 1) * size ≤ total + size - 1 :=
    (Nat.mul_le_mul_right size before).trans (Nat.div_mul_le_self _ _)
  rw [Nat.succ_mul] at reached
  rcases Nat.eq_zero_or_pos size with rfl | positive
  · simp [pageCount] at before
  · omega

/-- **The pages that are not empty**, one after the other, are the rows. -/
theorem flatMap_page_pageCount (positive : 0 < size) :
    ((List.range (pageCount size rows.length)).flatMap fun number =>
      page size (number * size) rows) = rows := by
  rw [flatMap_page, List.take_of_length_le (le_pageCount_mul positive)]

/-- Every page but the last is full. -/
theorem length_page_of_lt (before : number + 1 < pageCount size rows.length) :
    (page size (number * size) rows).length = size := by
  have begins := succ_mul_le_of_lt_pageCount before
  rw [Nat.succ_mul] at begins
  rw [length_page]
  omega

theorem page_eq_nil {offset : ℕ} (past : rows.length ≤ offset) : page size offset rows = [] := by
  rw [page, List.drop_of_length_le past, List.take_nil]

/-- Every later page is empty. -/
theorem page_eq_nil_of_le (positive : 0 < size) (past : pageCount size rows.length ≤ number) :
    page size (number * size) rows = [] :=
  page_eq_nil ((le_pageCount_mul positive).trans (Nat.mul_le_mul_right size past))

end PageCount

end IssueFlow.Store
