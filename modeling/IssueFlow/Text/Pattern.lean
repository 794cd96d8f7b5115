import Mathlib.Data.List.Basic
import Mathlib.Data.List.TakeWhile

/-!
# Regular expressions with captures

Matching by backtracking: a pattern has a list of results on a text, in the
order in which an engine tries them, and a repetition takes as much as it can
first. Repetitions are of single characters of a class, which is enough where
a text is split into fields.

What is matched is described without an engine by `Accepts`. An anchored match
finds a result for the whole text if there is any, and a search finds the
first position with a result, and there the preferred one.

## Main definitions

* `Pattern`, `Pattern.results` — patterns and their results
* `Pattern.Accepts` — what a pattern matches and captures
* `Pattern.exec`, `Pattern.search` — `/^…$/` and `/…/`

## Main results

* `Pattern.mem_results_iff` — the results are what the pattern accepts
* `Pattern.exec_eq_some_of_unique`, `Pattern.isSome_exec_iff` — the anchored match
* `Pattern.head?_results_some` — a repetition is greedy
-/

namespace IssueFlow.Text

/-- A pattern over characters `α`. -/
inductive Pattern (α : Type)
  /-- `[…]` -/
  | one (p : α → Bool)
  /-- `[…]*` -/
  | many (p : α → Bool)
  | seq (first second : Pattern α)
  /-- `(…)` -/
  | group (inner : Pattern α)

namespace Pattern

variable {α : Type}

/-- `[…]+` -/
def some (p : α → Bool) : Pattern α := .seq (.one p) (.many p)

/-- What a repetition leaves, with the longest match first. -/
def rests (p : α → Bool) : List α → List (List α)
  | [] => [[]]
  | c :: cs => if p c then rests p cs ++ [c :: cs] else [c :: cs]

/-- The results on a text, in order of preference: the captures, and what is
left of the text. -/
def results : Pattern α → List α → List (List (List α) × List α)
  | one _, [] => []
  | one p, c :: cs => if p c then [([], cs)] else []
  | many p, cs => (rests p cs).map fun rest => ([], rest)
  | seq first second, cs => (first.results cs).flatMap fun found =>
      (second.results found.2).map fun next => (found.1 ++ next.1, next.2)
  | group inner, cs => (inner.results cs).map fun found =>
      (cs.take (cs.length - found.2.length) :: found.1, found.2)

/-- The pattern matches a text and captures parts of it. -/
def Accepts : Pattern α → List α → List (List α) → Prop
  | one p, taken, captures => captures = [] ∧ ∃ c, p c ∧ taken = [c]
  | many p, taken, captures => captures = [] ∧ ∀ c ∈ taken, p c
  | seq first second, taken, captures => ∃ before after captured more,
      taken = before ++ after ∧ captures = captured ++ more ∧
        first.Accepts before captured ∧ second.Accepts after more
  | group inner, taken, captures => ∃ captured, captures = taken :: captured ∧
      inner.Accepts taken captured

/-- An anchored match: the preferred result that uses up the text. -/
def exec (pattern : Pattern α) (cs : List α) : Option (List (List α)) :=
  ((pattern.results cs).find? fun found => found.2.isEmpty).map Prod.fst

/-- `test` of an anchored pattern. -/
def test (pattern : Pattern α) (cs : List α) : Bool := (pattern.exec cs).isSome

/-- A search: the preferred result at the first position that has one. -/
def search (pattern : Pattern α) : List α → Option (List (List α) × List α)
  | [] => (pattern.results []).head?
  | c :: cs =>
      match (pattern.results (c :: cs)).head? with
      | .some found => .some found
      | .none => pattern.search cs

/-! ### What is accepted -/

theorem mem_rests_iff {p : α → Bool} {cs rest : List α} :
    rest ∈ rests p cs ↔ ∃ taken, cs = taken ++ rest ∧ ∀ c ∈ taken, p c := by
  induction cs with
  | nil => simp [rests]
  | cons c cs ih =>
      rw [rests]
      constructor
      · intro member
        split_ifs at member with accepted
        · -- The longer runs come first, and stopping here is the last resort.
          rcases List.mem_append.mp member with later | here
          · obtain ⟨taken, rfl, all⟩ := ih.mp later
            exact ⟨c :: taken, rfl, List.forall_mem_cons.mpr ⟨accepted, all⟩⟩
          · exact ⟨[], (List.mem_singleton.mp here).symm, by simp⟩
        · exact ⟨[], (List.mem_singleton.mp member).symm, by simp⟩
      · rintro ⟨taken, split, all⟩
        -- Here nothing is taken, whether or not the first character may be.
        cases taken with
        | nil =>
            rw [List.nil_append] at split
            split_ifs <;> simp [split]
        | cons first taken =>
            obtain ⟨rfl, rfl⟩ := List.cons.inj split
            obtain ⟨accepted, all⟩ := List.forall_mem_cons.mp all
            rw [if_pos accepted]
            exact List.mem_append_left _ (ih.mpr ⟨taken, rfl, all⟩)

/-- **The results of a pattern are what it accepts**, with any rest. -/
theorem mem_results_iff {pattern : Pattern α} {cs rest : List α} {captures : List (List α)} :
    (captures, rest) ∈ pattern.results cs ↔
      ∃ taken, cs = taken ++ rest ∧ pattern.Accepts taken captures := by
  induction pattern generalizing cs rest captures with
  -- One case for each form of a pattern; a sequence splits what was taken.
  | one p =>
      cases cs with
      | nil => simp [results, Accepts]
      | cons c cs =>
          simp only [results, Accepts]
          split_ifs with accepted
          · constructor
            · intro member
              obtain ⟨rfl, rfl⟩ := Prod.mk.inj (List.mem_singleton.mp member)
              exact ⟨[c], rfl, rfl, c, accepted, rfl⟩
            · rintro ⟨_, split, rfl, _, _, rfl⟩
              obtain ⟨rfl, rfl⟩ := List.cons.inj split
              exact List.mem_singleton.mpr rfl
          · constructor
            · intro member
              cases member
            · rintro ⟨_, split, rfl, _, holds, rfl⟩
              obtain ⟨rfl, -⟩ := List.cons.inj split
              exact absurd holds accepted
  | many p =>
      simp only [results, Accepts, List.mem_map, Prod.mk.injEq]
      constructor
      · rintro ⟨_, member, rfl, rfl⟩
        obtain ⟨taken, split, all⟩ := mem_rests_iff.mp member
        exact ⟨taken, split, rfl, all⟩
      · rintro ⟨taken, split, rfl, all⟩
        exact ⟨rest, mem_rests_iff.mpr ⟨taken, split, all⟩, rfl, rfl⟩
  | seq first second ihFirst ihSecond =>
      simp only [results, Accepts, List.mem_flatMap, List.mem_map, Prod.mk.injEq]
      constructor
      · rintro ⟨⟨captured, middle⟩, member, ⟨more, last⟩, next, rfl, rfl⟩
        obtain ⟨before, rfl, acceptsFirst⟩ := ihFirst.mp member
        obtain ⟨after, rfl, acceptsSecond⟩ := ihSecond.mp next
        exact ⟨before ++ after, (List.append_assoc ..).symm, before, after, captured, more, rfl,
          rfl, acceptsFirst, acceptsSecond⟩
      · rintro ⟨_, rfl, before, after, captured, more, rfl, rfl, acceptsFirst, acceptsSecond⟩
        refine ⟨(captured, after ++ rest), ihFirst.mpr ⟨before, List.append_assoc .., acceptsFirst⟩,
          (more, rest), ihSecond.mpr ⟨after, rfl, acceptsSecond⟩, rfl, rfl⟩
  | group inner ih =>
      simp only [results, Accepts, List.mem_map, Prod.mk.injEq]
      constructor
      · rintro ⟨⟨captured, last⟩, member, rfl, rfl⟩
        obtain ⟨taken, rfl, accepts⟩ := ih.mp member
        exact ⟨taken, rfl, captured, by simp, accepts⟩
      · rintro ⟨taken, rfl, captured, rfl, accepts⟩
        exact ⟨(captured, rest), ih.mpr ⟨taken, rfl, accepts⟩, by simp, rfl⟩

/-- A nonempty run of a class. -/
theorem accepts_some_iff {p : α → Bool} {taken : List α} {captures : List (List α)} :
    (some p).Accepts taken captures ↔ captures = [] ∧ taken ≠ [] ∧ ∀ c ∈ taken, p c := by
  constructor
  · rintro ⟨_, after, _, _, rfl, rfl, ⟨rfl, c, accepted, rfl⟩, rfl, all⟩
    refine ⟨rfl, List.cons_ne_nil _ _, ?_⟩
    exact List.forall_mem_cons.mpr ⟨accepted, all⟩
  · rintro ⟨rfl, nonempty, all⟩
    obtain ⟨c, after, rfl⟩ := List.exists_cons_of_ne_nil nonempty
    obtain ⟨accepted, all⟩ := List.forall_mem_cons.mp all
    exact ⟨[c], after, [], [], rfl, rfl, ⟨rfl, c, accepted, rfl⟩, rfl, all⟩

/-! ### Anchored matches -/

theorem accepts_of_exec {pattern : Pattern α} {cs : List α} {captures : List (List α)}
    (found : pattern.exec cs = .some captures) : pattern.Accepts cs captures := by
  obtain ⟨⟨captured, rest⟩, first, rfl⟩ := Option.map_eq_some_iff.mp found
  obtain rfl : rest = [] := by simpa using List.find?_some first
  obtain ⟨taken, rfl, accepts⟩ := mem_results_iff.mp (List.mem_of_find?_eq_some first)
  rwa [List.append_nil]

theorem isSome_exec_iff {pattern : Pattern α} {cs : List α} :
    (pattern.exec cs).isSome ↔ ∃ captures, pattern.Accepts cs captures := by
  constructor
  · intro found
    obtain ⟨captures, same⟩ := Option.isSome_iff_exists.mp found
    exact ⟨captures, accepts_of_exec same⟩
  · rintro ⟨captures, accepts⟩
    have member : (captures, []) ∈ pattern.results cs :=
      mem_results_iff.mpr ⟨cs, (List.append_nil cs).symm, accepts⟩
    rw [exec, Option.isSome_map, List.find?_isSome]
    exact ⟨_, member, rfl⟩

/-- An anchored match whose captures are determined by the text. -/
theorem exec_eq_some_of_unique {pattern : Pattern α} {cs : List α} {captures : List (List α)}
    (accepts : pattern.Accepts cs captures)
    (unique : ∀ other, pattern.Accepts cs other → other = captures) :
    pattern.exec cs = .some captures := by
  obtain ⟨found, same⟩ := Option.isSome_iff_exists.mp (isSome_exec_iff.mpr ⟨captures, accepts⟩)
  rw [same, unique found (accepts_of_exec same)]

/-- Anchored, a nonempty run of a class is the whole text. -/
theorem test_some_iff {p : α → Bool} {cs : List α} :
    (some p).test cs ↔ cs ≠ [] ∧ ∀ c ∈ cs, p c := by
  simp only [test, isSome_exec_iff, accepts_some_iff, exists_eq_left]

theorem exec_eq_none_iff {pattern : Pattern α} {cs : List α} :
    pattern.exec cs = .none ↔ ∀ captures, ¬ pattern.Accepts cs captures := by
  rw [← not_iff_not, ← ne_eq, Option.ne_none_iff_isSome, isSome_exec_iff]
  simp only [not_forall, not_not]

/-! ### Greedy repetitions -/

theorem head?_rests (p : α → Bool) (cs : List α) : (rests p cs).head? = .some (cs.dropWhile p) := by
  induction cs with
  | nil => rfl
  | cons c cs ih =>
      rw [rests, List.dropWhile_cons]
      split_ifs
      · rw [List.head?_append, ih, Option.some_or]
      · rfl

/-- What a repetition has taken. -/
theorem take_dropWhile (p : α → Bool) (cs : List α) :
    cs.take (cs.length - (cs.dropWhile p).length) = cs.takeWhile p := by
  have split : cs.takeWhile p ++ cs.dropWhile p = cs := List.takeWhile_append_dropWhile
  have length : cs.length - (cs.dropWhile p).length = (cs.takeWhile p).length := by
    have total := congrArg List.length split
    rw [List.length_append] at total
    omega
  rw [length]
  exact (congrArg (List.take _) split.symm).trans (List.take_left ..)

/-- **A repetition takes all it can**, if there is anything to take. -/
theorem head?_results_some (p : α → Bool) (cs : List α) :
    ((some p).results cs).head? =
      if (cs.takeWhile p).isEmpty then .none else .some ([], cs.dropWhile p) := by
  cases cs with
  | nil => rfl
  | cons c cs =>
      rw [some, results, results, List.takeWhile_cons, List.dropWhile_cons]
      cases p c with
      | true =>
          simp only [if_true, List.flatMap_singleton, results, List.map_map, List.head?_map,
            head?_rests, List.isEmpty_cons, Bool.false_eq_true, if_false]
          rfl
      | false => rfl

theorem results_seq_one_cons (p : α → Bool) (second : Pattern α) (c : α) (cs : List α) :
    (seq (one p) second).results (c :: cs) = if p c then second.results cs else [] := by
  simp only [results]
  split_ifs
  · rw [List.flatMap_singleton]
    exact List.map_id' _
  · rfl

theorem head?_results_group (inner : Pattern α) (cs : List α) :
    ((group inner).results cs).head? = ((inner.results cs).head?).map fun found =>
      (cs.take (cs.length - found.2.length) :: found.1, found.2) := by
  rw [results, List.head?_map]

end Pattern

end IssueFlow.Text
