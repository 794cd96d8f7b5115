import Mathlib.Data.List.Basic
import Mathlib.Tactic.Common

/-!
# Dynamically built SET clauses

A repository that writes only some columns builds its statement at run time: a
list of assignments such as `title = $1`, a list of parameters, and a counter
for the next placeholder. The database first binds the parameters, which may
fail by itself. On each row it then evaluates the expressions of the literals,
before any constraint is looked at, and assigns the columns; both may fail on
that row.

`Denotes` ties the two sides together: whatever parameters are appended later,
the clause built so far assigns what `writes` says. Each step of a builder has
a lemma, so the meaning of a whole clause is the list of its steps.

## Main definitions

* `Clause`, `Clause.push`, `Clause.pushLiteral` — building a clause
* `Clause.compile` — what a clause does to a row
* `Clause.evaluate` — whether its literals can be evaluated on a row
* `Clause.Denotes` — the meaning of a clause under construction
* `Clause.Binds` — what its placeholders are bound to

## Main results

* `Clause.Denotes.push`, `Clause.Denotes.pushLiteral` — one more assignment
* `Clause.lookup_param` — the parameters pushed after the assignments
* `Clause.Binds.push` — one more placeholder
-/

namespace IssueFlow.Store

/-- The SQLSTATE conditions a statement can raise. -/
inductive PgError
  /-- 22001 -/
  | stringDataRightTruncation
  /-- 22003 -/
  | numericValueOutOfRange
  /-- 23502 -/
  | notNullViolation
  /-- 23503 -/
  | foreignKeyViolation
  /-- 23505 -/
  | uniqueViolation
  /-- 23514 -/
  | checkViolation
  /-- 25P02 -/
  | inFailedSqlTransaction
  /-- 22P02 -/
  | invalidTextRepresentation
  /-- 22007 and 22008 -/
  | invalidDatetime
  /-- 42P02 -/
  | undefinedParameter
  /-- 42804 -/
  | datatypeMismatch
  /-- 08006 -/
  | connectionFailure
  deriving DecidableEq, Repr

/-- A parameter bound to a placeholder. -/
inductive Param
  | null
  | text (value : String)
  | number (value : ℕ)
  deriving DecidableEq, Repr

/-- The parameter of a value that may be `null`. -/
def Param.ofOption {α : Type} (wrap : α → Param) : Option α → Param
  | none => .null
  | some value => wrap value

/-- Is the parameter equal to the number? Nothing is equal to NULL. -/
def Param.matchesNumber : Param → ℕ → Bool
  | .number value, stored => stored = value
  | _, _ => false

/-- The literals written on the right of an assignment. -/
inductive Literal
  | boolean (value : Bool)
  /-- The column plus one. -/
  | successor
  deriving DecidableEq, Repr

/-- The right-hand side of an assignment. -/
inductive Operand
  | placeholder (index : ℕ)
  | literal (literal : Literal)
  deriving DecidableEq, Repr

/-- The assignments, the parameters and the next placeholder. -/
structure Clause (κ : Type) where
  sets : List (κ × Operand)
  params : List Param
  i : ℕ
  deriving DecidableEq, Repr

/-- How the columns `κ` of rows `ρ` are assigned. Binding a parameter can fail
before any row is looked at, and an assignment can fail on its row. -/
class Columns (κ ρ : Type) where
  bind : κ → Param → Except PgError (ρ → Except PgError ρ)
  literal : κ → Literal → ρ → Except PgError ρ
  /-- The error of evaluating a literal, which comes before those of assigning. -/
  evaluate : κ → Literal → ρ → Except PgError Unit := fun _ _ _ => .ok ()

namespace Clause

variable {κ ρ : Type}

/-- A clause whose statement has already used some placeholders. -/
def start (params : List Param) : Clause κ := ⟨[], params, params.length + 1⟩

/-- Assign a column its own placeholder, unless the input leaves it out. -/
def push (clause : Clause κ) (column : κ) : Option Param → Clause κ
  | none => clause
  | some param =>
      { sets := clause.sets ++ [(column, .placeholder clause.i)]
        params := clause.params ++ [param]
        i := clause.i + 1 }

/-- Assign a column a literal. -/
def pushLiteral (clause : Clause κ) (column : κ) (literal : Literal) : Clause κ :=
  { clause with sets := clause.sets ++ [(column, .literal literal)] }

/-- Use a further placeholder outside the assignments. -/
def param (clause : Clause κ) (value : Param) : ℕ × Clause κ :=
  (clause.i, { clause with params := clause.params ++ [value], i := clause.i + 1 })

/-- The parameter a placeholder stands for; placeholders count from 1. -/
def lookup (params : List Param) (index : ℕ) : Except PgError Param :=
  if index = 0 then .error .undefinedParameter
  else
    match params[index - 1]? with
    | some param => .ok param
    | none => .error .undefinedParameter

/-- Two assignments, one after the other. -/
def andThen (first second : Except PgError (ρ → Except PgError ρ)) :
    Except PgError (ρ → Except PgError ρ) := do
  let assignFirst ← first
  let assignSecond ← second
  return fun row => assignFirst row >>= assignSecond

/-- No assignment. -/
def assignNothing : Except PgError (ρ → Except PgError ρ) := .ok .ok

theorem andThen_assoc (first second third : Except PgError (ρ → Except PgError ρ)) :
    andThen (andThen first second) third = andThen first (andThen second third) := by
  rcases first with _ | first
  · rfl
  rcases second with _ | second
  · rfl
  rcases third with _ | third
  · rfl
  refine congrArg Except.ok (funext fun row => ?_)
  exact bind_assoc (first row) second third

@[simp] theorem ok_andThen_ok (first second : ρ → Except PgError ρ) :
    andThen (.ok first) (.ok second) = .ok fun row => first row >>= second := rfl

@[simp] theorem ok_andThen_error (first : ρ → Except PgError ρ) (exception : PgError) :
    andThen (.ok first) (.error exception) = .error exception := rfl

@[simp] theorem assignNothing_andThen (assign : Except PgError (ρ → Except PgError ρ)) :
    andThen assignNothing assign = assign := by
  cases assign <;> rfl

@[simp] theorem andThen_assignNothing (assign : Except PgError (ρ → Except PgError ρ)) :
    andThen assign assignNothing = assign := by
  rcases assign with _ | assign
  · rfl
  refine congrArg Except.ok (funext fun row => ?_)
  exact bind_pure (assign row)

section Compile

variable [Columns κ ρ]

/-- One assignment of a statement with the given parameters. -/
def compileOne (params : List Param) (column : κ) :
    Operand → Except PgError (ρ → Except PgError ρ)
  | .placeholder index => lookup params index >>= Columns.bind column
  | .literal literal => .ok (Columns.literal column literal)

/-- The assignments of a statement with the given parameters. -/
def compile (params : List Param) : List (κ × Operand) → Except PgError (ρ → Except PgError ρ)
  | [] => assignNothing
  | (column, operand) :: sets => andThen (compileOne params column operand) (compile params sets)

theorem compile_append (params : List Param) (sets more : List (κ × Operand)) :
    (compile params (sets ++ more) : Except PgError (ρ → Except PgError ρ)) =
      andThen (compile params sets) (compile params more) := by
  induction sets with
  | nil => simp [compile]
  | cons set sets ih =>
      obtain ⟨column, operand⟩ := set
      simp only [List.cons_append, compile, ih, andThen_assoc]

/-- The expressions of one assignment. -/
def evaluateOne (row : ρ) (set : κ × Operand) : Except PgError Unit :=
  match set.2 with
  | .placeholder _ => .ok ()
  | .literal literal => Columns.evaluate set.1 literal row

/-- Evaluate the expressions of a clause on a row. -/
def evaluate (sets : List (κ × Operand)) (row : ρ) : Except PgError Unit :=
  sets.forM (evaluateOne row)

@[simp] theorem evaluate_start (params : List Param) (row : ρ) :
    evaluate (start params : Clause κ).sets row = .ok () := rfl

theorem evaluate_append (sets more : List (κ × Operand)) (row : ρ) :
    evaluate (sets ++ more) row = evaluate sets row >>= fun _ => evaluate more row :=
  List.forM_append

/-- A placeholder has nothing to evaluate. -/
@[simp] theorem evaluate_push (clause : Clause κ) (column : κ) (param : Option Param) (row : ρ) :
    evaluate (clause.push column param).sets row = evaluate clause.sets row := by
  cases param with
  | none => rfl
  | some param =>
      simp only [push, evaluate_append]
      cases evaluate clause.sets row <;> rfl

@[simp] theorem evaluate_pushLiteral (clause : Clause κ) (column : κ) (literal : Literal)
    (row : ρ) :
    evaluate (clause.pushLiteral column literal).sets row =
      evaluate clause.sets row >>= fun _ => Columns.evaluate column literal row := by
  simp only [pushLiteral, evaluate_append]
  cases evaluate clause.sets row with
  | error exception => rfl
  | ok done => cases evaluated : Columns.evaluate column literal row <;>
      simp [evaluate, evaluateOne, evaluated, bind, Except.bind, pure, Except.pure]

@[simp] theorem evaluate_param (clause : Clause κ) (value : Param) (row : ρ) :
    evaluate (clause.param value).2.sets row = evaluate clause.sets row := rfl

/-- The clause assigns what `writes` says, whatever parameters are appended,
and its counter stands behind its last parameter. -/
structure Denotes (clause : Clause κ) (writes : Except PgError (ρ → Except PgError ρ)) :
    Prop where
  next : clause.i = clause.params.length + 1
  assigns : ∀ more, compile (clause.params ++ more) clause.sets = writes

theorem Denotes.of_eq {clause : Clause κ} {writes writes' : Except PgError (ρ → Except PgError ρ)}
    (denotes : clause.Denotes writes) (same : writes = writes') : clause.Denotes writes' :=
  same ▸ denotes

/-- What an optional parameter assigns. -/
def assignOption (column : κ) : Option Param → Except PgError (ρ → Except PgError ρ)
  | none => assignNothing
  | some param => Columns.bind column param

theorem denotes_start (params : List Param) :
    Denotes (start params : Clause κ) (assignNothing : Except PgError (ρ → Except PgError ρ)) where
  next := rfl
  assigns _ := rfl

/-- The placeholder drawn next is bound to the parameter pushed with it. -/
theorem lookup_next (params more : List Param) (param : Param) :
    lookup (params ++ param :: more) (params.length + 1) = .ok param := by
  simp [lookup]

variable {clause : Clause κ} {writes : Except PgError (ρ → Except PgError ρ)}

/-- **One more placeholder** assigns its column the parameter pushed with it. -/
theorem Denotes.push (denotes : clause.Denotes writes) (column : κ) (param : Option Param) :
    (clause.push column param).Denotes (andThen writes (assignOption column param)) := by
  cases param with
  | none => simpa [Clause.push, assignOption] using denotes
  | some param =>
      refine ⟨by simp [Clause.push, denotes.next], fun more => ?_⟩
      have bound : compileOne (clause.params ++ param :: more) column (.placeholder clause.i) =
          (Columns.bind column param : Except PgError (ρ → Except PgError ρ)) := by
        rw [compileOne, denotes.next, lookup_next]
        rfl
      simp only [Clause.push, List.append_assoc, List.singleton_append, compile_append,
        denotes.assigns, compile, bound, andThen_assignNothing, assignOption]

/-- **One more literal.** -/
theorem Denotes.pushLiteral (denotes : clause.Denotes writes) (column : κ) (literal : Literal) :
    (clause.pushLiteral column literal).Denotes
      (andThen writes (.ok (Columns.literal column literal))) := by
  refine ⟨denotes.next, fun more => ?_⟩
  simp only [Clause.pushLiteral, compile_append, denotes.assigns, compile, compileOne,
    andThen_assignNothing]

/-- The placeholder of a parameter pushed for the condition is bound to it. -/
theorem lookup_param (next : clause.i = clause.params.length + 1) (value : Param)
    (more : List Param) :
    lookup ((clause.param value).2.params ++ more) (clause.param value).1 = .ok value := by
  simp only [Clause.param, List.append_assoc, List.singleton_append, next, lookup_next]

/-- A parameter pushed for the condition leaves the assignments alone, and its
placeholder is bound to it. -/
theorem Denotes.param (denotes : clause.Denotes writes) (value : Param) :
    (clause.param value).2.Denotes writes ∧
      ∀ more,
        lookup ((clause.param value).2.params ++ more) (clause.param value).1 = .ok value := by
  refine ⟨⟨by simp [Clause.param, denotes.next], fun more => ?_⟩, lookup_param denotes.next value⟩
  simp only [Clause.param, List.append_assoc, denotes.assigns]

end Compile

/-! ### Columns and placeholders -/

/-- The columns a clause assigns, in order. -/
def columns (clause : Clause κ) : List κ := clause.sets.map Prod.fst

@[simp] theorem columns_start (params : List Param) : (start params : Clause κ).columns = [] := rfl

@[simp] theorem columns_push (clause : Clause κ) (column : κ) (param : Option Param) :
    (clause.push column param).columns =
      clause.columns ++ (param.map fun _ => column).toList := by
  cases param with
  | none => simp [push]
  | some param => simp [push, columns]

@[simp] theorem columns_pushLiteral (clause : Clause κ) (column : κ) (literal : Literal) :
    (clause.pushLiteral column literal).columns = clause.columns ++ [column] := by
  simp [pushLiteral, columns]

@[simp] theorem columns_param (clause : Clause κ) (value : Param) :
    (clause.param value).2.columns = clause.columns := rfl

/-- Every placeholder of an assignment is bound to the parameter its column is
supplied with, whatever parameters are appended. -/
structure Binds (clause : Clause κ) (supplied : κ → Option Param) : Prop where
  next : clause.i = clause.params.length + 1
  bound : ∀ column index, (column, .placeholder index) ∈ clause.sets → ∀ more,
    ∃ param, supplied column = some param ∧ lookup (clause.params ++ more) index = .ok param

section Binds

variable {clause : Clause κ} {supplied : κ → Option Param}

/-- **One more placeholder** is bound to the parameter pushed with it. -/
theorem Binds.push (binds : clause.Binds supplied) (column : κ) :
    (clause.push column (supplied column)).Binds supplied := by
  cases given : supplied column with
  | none => exact binds
  | some param =>
      refine ⟨by simp [Clause.push, binds.next], fun assigned index member more => ?_⟩
      simp only [Clause.push, List.append_assoc, List.singleton_append]
      rcases List.mem_append.mp member with earlier | last
      · exact binds.bound assigned index earlier (param :: more)
      · obtain ⟨rfl, same⟩ := Prod.mk.inj (List.mem_singleton.mp last)
        obtain rfl := Operand.placeholder.inj same
        exact ⟨param, given, by rw [binds.next, lookup_next]⟩

theorem Binds.pushLiteral (binds : clause.Binds supplied) (column : κ) (literal : Literal) :
    (clause.pushLiteral column literal).Binds supplied := by
  refine ⟨binds.next, fun assigned index member => ?_⟩
  rcases List.mem_append.mp member with earlier | last
  · exact binds.bound assigned index earlier
  · have same := (Prod.mk.inj (List.mem_singleton.mp last)).2
    cases same

/-- A parameter pushed for the condition rebinds nothing. -/
theorem Binds.param (binds : clause.Binds supplied) (value : Param) :
    (clause.param value).2.Binds supplied := by
  refine ⟨by simp [Clause.param, binds.next], fun column index member more => ?_⟩
  simp only [Clause.param, List.append_assoc]
  exact binds.bound column index member ([value] ++ more)

end Binds

end Clause

end IssueFlow.Store
