import IssueFlow.Database.Transitions
import IssueFlow.System.Requests

/-!
# What a version determines

A part of a ticket's content is determined by its version when no statement
changes it without raising the version. Along such statements the version of a
stored ticket grows, or it and that part of the content stay the same.

## Main definitions

* `FixedByVersion` — the version has grown, or the content is the same

## Main results

* `fixedByVersion_exec` — statements that change the content raise the version
* `status_fixedByVersion` — the version determines the status
-/

namespace IssueFlow

open Store Semantics

variable {α : Type} {content : TicketRow → α} {id : ℕ}

/-- The ticket is still stored, and its version has grown or it still has the
same version and content. -/
def FixedByVersion (content : TicketRow → α) (id : ℕ) (before after : Db) : Prop :=
  ∀ row ∈ before.tickets.get? id, ∃ row' ∈ after.tickets.get? id,
    row.version < row'.version ∨ row'.version = row.version ∧ content row' = content row

theorem FixedByVersion.refl (db : Db) : FixedByVersion content id db db :=
  fun row stored => ⟨row, stored, .inr ⟨rfl, rfl⟩⟩

theorem FixedByVersion.trans {first second third : Db}
    (earlier : FixedByVersion content id first second)
    (later : FixedByVersion content id second third) : FixedByVersion content id first third := by
  intro row stored
  obtain ⟨row', stored', grown | ⟨version, same⟩⟩ := earlier row stored
  · obtain ⟨row'', stored'', grown' | ⟨version', -⟩⟩ := later row' stored'
    · exact ⟨row'', stored'', .inl (grown.trans grown')⟩
    · exact ⟨row'', stored'', .inl (grown.trans_eq version'.symm)⟩
  · obtain ⟨row'', stored'', grown' | ⟨version', same'⟩⟩ := later row' stored'
    · exact ⟨row'', stored'', .inl (version ▸ grown')⟩
    · exact ⟨row'', stored'', .inr ⟨version'.trans version, same'.trans same⟩⟩

theorem fixedByVersion_advance (elapsed : ℕ) (db : Db) :
    FixedByVersion content id db (advance elapsed db) :=
  FixedByVersion.refl db

/-- The same version on both sides is the same content. -/
theorem FixedByVersion.content_eq {before after : Db} {row row' : TicketRow}
    (fixed : FixedByVersion content id before after) (stored : before.tickets.get? id = some row)
    (stored' : after.tickets.get? id = some row') (version : row'.version = row.version) :
    content row' = content row := by
  obtain ⟨found, found', grown | ⟨-, same⟩⟩ := fixed row stored
  · obtain rfl := Option.some.inj (stored'.symm.trans found')
    exact absurd version grown.ne'
  · obtain rfl := Option.some.inj (stored'.symm.trans found')
    exact same

variable [Postgres]

/-- A statement moves along, if every transition that leaves the version leaves
the content. -/
theorem fixedByVersion_exec {statement : Statement} {db : Db}
    (keeps : ∀ row row', db.tickets.get? id = some row → TicketTransition db statement row row' →
      row'.version = row.version → content row' = content row) :
    FixedByVersion content id db (exec statement db).2 := by
  intro row stored
  obtain ⟨row', stored', transition⟩ := ticket_transition statement stored
  refine ⟨row', stored', ?_⟩
  have version := transition.version
  split_ifs at version with writes
  · exact .inl (by omega)
  · exact .inr ⟨version, keeps row row' stored transition version⟩

/-- **The version determines the status.** -/
theorem status_fixedByVersion (statement : Statement) (db : Db) :
    FixedByVersion (·.status) id db (exec statement db).2 := by
  apply fixedByVersion_exec
  intro row row' stored transition version
  obtain ⟨assigneeId, deletedAt, updatedAt, rfl, -⟩ := transition.of_version_eq version
  rfl

end IssueFlow
