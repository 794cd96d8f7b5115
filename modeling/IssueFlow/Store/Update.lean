import IssueFlow.Store.SetClause
import IssueFlow.Store.Table

/-!
# UPDATE statements by key

An UPDATE whose condition pins the key finds at most one row. It evaluates the
expressions of its clause, assigns the columns, lets the table check and
complete the new row, and returns it.

## Main definitions

* `updateRow` — `UPDATE … SET … WHERE id = $k AND … RETURNING …`

## Main results

* `updateRow_of_bound` — the row found by key and condition is written
-/

namespace IssueFlow.Store

open Keyed (key)

variable {κ ρ : Type} [Keyed ρ] [Columns κ ρ] {t : Table ρ}

/-- Write the row an UPDATE has found. `commit` is given the old and the
assigned row; it checks the constraints of the table and applies its triggers. -/
def writeRow (sets : List (κ × Operand)) (assign : ρ → Except PgError ρ)
    (commit : ρ → ρ → Except PgError ρ) (row : ρ) (t : Table ρ) :
    Except PgError (Option ρ) × Table ρ :=
  match Clause.evaluate sets row >>= fun _ => assign row >>= commit row with
  | .error exception => (.error exception, t)
  | .ok new => (.ok (some new), t.set new)

/-- Execute an UPDATE. Its parameters are bound before any row is looked at. -/
def updateRow (clause : Clause κ) (idIdx : ℕ) (condition : Except PgError (ρ → Bool))
    (commit : ρ → ρ → Except PgError ρ) (t : Table ρ) : Except PgError (Option ρ) × Table ρ :=
  match Clause.compile (ρ := ρ) clause.params clause.sets, Clause.lookup clause.params idIdx,
      condition with
  | .error exception, _, _ => (.error exception, t)
  | _, .error exception, _ => (.error exception, t)
  | _, _, .error exception => (.error exception, t)
  | .ok assign, .ok id, .ok condition =>
      match t.rows.find? fun row => id.matchesNumber (key row) && condition row with
      | none => (.ok none, t)
      | some row => writeRow clause.sets assign commit row t

variable {clause : Clause κ} {idIdx id : ℕ} {assign : ρ → Except PgError ρ}

/-- An UPDATE whose parameters bind finds its row by key and condition. -/
theorem updateRow_of_bound
    (compiled : Clause.compile clause.params clause.sets = .ok assign)
    (bound : Clause.lookup clause.params idIdx = .ok (.number id))
    (condition : ρ → Bool) (commit : ρ → ρ → Except PgError ρ) :
    updateRow clause idIdx (.ok condition) commit t =
      match (t.get? id).filter condition with
      | none => (.ok none, t)
      | some row => writeRow clause.sets assign commit row t := by
  simp only [updateRow, compiled, bound, Param.matchesNumber]
  rw [← Table.find?_key_and]

/-- An UPDATE whose parameters do not bind changes nothing. -/
theorem updateRow_of_unbound {exception : PgError}
    (compiled : (Clause.compile clause.params clause.sets : Except PgError (ρ → Except PgError ρ)) =
      .error exception)
    (condition : Except PgError (ρ → Bool)) (commit : ρ → ρ → Except PgError ρ) :
    updateRow clause idIdx condition commit t = (.error exception, t) := by
  simp only [updateRow, compiled]

end IssueFlow.Store
