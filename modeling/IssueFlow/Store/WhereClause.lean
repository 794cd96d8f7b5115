import IssueFlow.Store.SetClause

/-!
# Dynamically built WHERE clauses

A search with optional filters builds its condition at run time: a list of
comparisons such as `action = $3` that are joined by `AND`, a list of
parameters, and a counter for the next placeholder. The database first binds the
parameters, which may fail by itself, and then tests each row.

`Selects` ties the two sides together: whatever parameters are appended later,
the clause built so far picks the rows that satisfy `holds`.

## Main definitions

* `Where`, `Where.push` — building a clause
* `Where.compile`, `Where.select` — the rows it picks
* `Where.Selects` — the meaning of a clause under construction

## Main results

* `Where.Selects.push` — one more comparison
* `Where.Selects.select` — the rows picked by a clause with this meaning
-/

namespace IssueFlow.Store

/-- The comparisons of columns to placeholders, the parameters and the next
placeholder. -/
structure Where (κ : Type) where
  conditions : List (κ × ℕ)
  params : List Param
  i : ℕ
  deriving DecidableEq, Repr

/-- How the columns `κ` of rows `ρ` are compared to a parameter. Binding it can
fail before any row is looked at. -/
class Comparable (κ ρ : Type) where
  equals : κ → Param → Except PgError (ρ → Bool)

namespace Where

variable {κ ρ : Type}

/-- No condition; placeholders count from 1. -/
def start : Where κ := ⟨[], [], 1⟩

/-- Compare a column to its own placeholder, unless the filter is left out. -/
def push (clause : Where κ) (column : κ) : Option Param → Where κ
  | none => clause
  | some param =>
      { conditions := clause.conditions ++ [(column, clause.i)]
        params := clause.params ++ [param]
        i := clause.i + 1 }

/-- Two conditions, joined by `AND`. -/
def and (first second : Except PgError (ρ → Bool)) : Except PgError (ρ → Bool) := do
  let holdsFirst ← first
  let holdsSecond ← second
  return fun row => holdsFirst row && holdsSecond row

/-- No condition. -/
def always : Except PgError (ρ → Bool) := .ok fun _ => true

theorem and_assoc (first second third : Except PgError (ρ → Bool)) :
    and (and first second) third = and first (and second third) := by
  rcases first with _ | first
  · rfl
  rcases second with _ | second
  · rfl
  rcases third with _ | third
  · rfl
  refine congrArg Except.ok (funext fun row => ?_)
  exact Bool.and_assoc ..

@[simp] theorem ok_and_ok (first second : ρ → Bool) :
    and (.ok first) (.ok second) = .ok fun row => first row && second row := rfl

@[simp] theorem always_and (holds : Except PgError (ρ → Bool)) : and always holds = holds := by
  rcases holds with _ | holds
  · rfl
  · exact congrArg Except.ok (funext fun row => Bool.true_and _)

@[simp] theorem and_always (holds : Except PgError (ρ → Bool)) : and holds always = holds := by
  rcases holds with _ | holds
  · rfl
  · exact congrArg Except.ok (funext fun row => Bool.and_true _)

variable [Comparable κ ρ]

/-- The condition of a statement with the given parameters. -/
def compile (params : List Param) : List (κ × ℕ) → Except PgError (ρ → Bool)
  | [] => always
  | (column, index) :: conditions =>
      and (Clause.lookup params index >>= Comparable.equals column) (compile params conditions)

/-- The rows a statement with this clause picks. -/
def select (clause : Where κ) (rows : List ρ) : Except PgError (List ρ) :=
  (compile clause.params clause.conditions).map fun holds => rows.filter holds

theorem compile_append (params : List Param) (conditions more : List (κ × ℕ)) :
    (compile params (conditions ++ more) : Except PgError (ρ → Bool)) =
      and (compile params conditions) (compile params more) := by
  induction conditions with
  | nil => simp [compile]
  | cons condition conditions ih =>
      obtain ⟨column, index⟩ := condition
      simp only [List.cons_append, compile, ih, and_assoc]

/-- The clause picks the rows that satisfy `holds`, whatever parameters are
appended, and its counter stands behind its last parameter. -/
structure Selects (clause : Where κ) (holds : Except PgError (ρ → Bool)) : Prop where
  next : clause.i = clause.params.length + 1
  picks : ∀ more, compile (clause.params ++ more) clause.conditions = holds

/-- What an optional filter asks for. -/
def compareOption (column : κ) : Option Param → Except PgError (ρ → Bool)
  | none => always
  | some param => Comparable.equals column param

theorem selects_start : (start : Where κ).Selects (always : Except PgError (ρ → Bool)) where
  next := rfl
  picks _ := rfl

variable {clause : Where κ} {holds : Except PgError (ρ → Bool)}

/-- **One more comparison**: its placeholder is bound to the parameter pushed
with it. -/
theorem Selects.push (selects : clause.Selects holds) (column : κ) (param : Option Param) :
    (clause.push column param).Selects (and holds (compareOption column param)) := by
  cases param with
  | none => simpa [Where.push, compareOption] using selects
  | some param =>
      refine ⟨by simp [Where.push, selects.next], fun more => ?_⟩
      have bound : (Clause.lookup (clause.params ++ param :: more) clause.i >>=
          Comparable.equals column : Except PgError (ρ → Bool)) =
          Comparable.equals column param := by
        rw [selects.next, Clause.lookup_next]
        rfl
      simp only [Where.push, List.append_assoc, List.singleton_append, compile_append,
        selects.picks, compile, bound, and_always, compareOption]

/-- The rows picked by a clause whose comparisons all bind. -/
theorem Selects.select {p : ρ → Bool} (selects : clause.Selects (.ok p)) (rows : List ρ) :
    clause.select rows = .ok (rows.filter p) := by
  have compiled := selects.picks []
  rw [List.append_nil] at compiled
  rw [Where.select, compiled]
  rfl

end Where

end IssueFlow.Store
