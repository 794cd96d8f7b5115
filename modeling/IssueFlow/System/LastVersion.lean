import IssueFlow.System.Revisions
import IssueFlow.System.Sequential

/-!
# Tickets whose version cannot be raised

Every PATCH raises the version of its ticket by one, and the version is an
`INTEGER`. PATCHes that send the title a ticket already has take it to any
version up to the last one, beyond which no UPDATE of it succeeds.

## Main definitions

* `retitle` — a PATCH that sends a title
* `retitles` — such PATCHes of one ticket, each with the version the one before has left

## Main results

* `serve_retitle` — one of these PATCHes
* `serveAll_retitles` — any number of them
-/

namespace IssueFlow

open Store Semantics JavaScript

/-- The body `{title, version}`. -/
def retitle (title : String) (version : ℕ) : UpdateTicketDto where
  title := .value title
  description := .undefined
  status := .undefined
  priority := .undefined
  assigneeId := .undefined
  dueDate := .undefined
  version := .value version

/-- PATCHes of one ticket, from a version on. -/
def retitles (id : ℕ) (title : String) (version performedBy count : ℕ) : List Input :=
  (List.range count).map fun earlier =>
    .request (.updateTicket id (retitle title (version + earlier)) performedBy)

theorem retitles_succ (id : ℕ) (title : String) (version performedBy count : ℕ) :
    retitles id title version performedBy (count + 1) =
      retitles id title version performedBy count ++
        [.request (.updateTicket id (retitle title (version + count)) performedBy)] := by
  simp [retitles, List.range_succ]

section Serving

variable [Postgres] {db : Db} {id : ℕ} {row : TicketRow}

/-- The UPDATE of such a PATCH raises the version. -/
theorem updateWithVersionCheck_retitle (found : TicketsRepository.findById id db = some row)
    (successor : versionOverflows row.version = false) :
    TicketsRepository.updateWithVersionCheck id (retitle row.title row.version).version.toOption
      (retitle row.title row.version).toTicketUpdate
      (retitle row.title row.version).priority.isDefined db =
      (.ok (some { row with version := row.version + 1, updatedAt := db.now }),
        { db with
          tickets := db.tickets.set { row with version := row.version + 1, updatedAt := db.now } })
      := by
  rw [TicketsRepository.updateWithVersionCheck_eq, found]
  simp [retitle, TicketsRepository.dueInstant, Field.toOption, TicketsRepository.violatesNotNull,
    Field.isNull, TicketsRepository.assigneeExists, TicketsRepository.patchedRow, Field.orKeep,
    Field.getD, Field.isDefined, Option.filter, successor]

variable [Bcrypt] [Unicode]

/-- **A PATCH with the title a ticket has** raises its version. -/
theorem serve_retitle (performedBy : ℕ) (found : TicketsRepository.findById id db = some row)
    (unresolved : row.status ≠ .done) (successor : versionOverflows row.version = false) :
    ∃ logs, (serve (.updateTicket id (retitle row.title row.version) performedBy) db).2 =
      { db with
        tickets := db.tickets.set { row with version := row.version + 1, updatedAt := db.now }
        auditLogs := logs } := by
  have wellFormed : (Request.updateTicket id (retitle row.title row.version)
      performedBy).WellFormed := ⟨rfl, rfl, by simp [retitle]⟩
  obtain ⟨entry, run⟩ := TicketsService.run_update_passed wellFormed found unresolved rfl
    (by simp [retitle]) (by simp [retitle]) (updateWithVersionCheck_retitle found successor)
  rw [serve, Request.program, Program.run_map, run]
  exact ⟨_, rfl⟩

/-- **Any number of them** raise it by as much, up to the last one. -/
theorem serveAll_retitles (performedBy count : ℕ)
    (found : TicketsRepository.findById id db = some row) (unresolved : row.status ≠ .done)
    (settled : row.updatedAt = db.now) (fits : row.version + count ≤ MAX_INTEGER) :
    ∃ logs, serveAll (retitles id row.title row.version performedBy count) db =
      { db with
        tickets := db.tickets.set { row with version := row.version + count }
        auditLogs := logs } := by
  obtain ⟨stored, live⟩ := Option.filter_eq_some_iff.mp found
  have key : Keyed.key row = id := Table.key_of_get? stored
  induction count with
  | zero =>
      have same : db.tickets.set { row with version := row.version + 0 } = db.tickets :=
        Table.set_stored (key ▸ stored)
      exact ⟨db.auditLogs, by rw [same]; rfl⟩
  | succ count ih =>
      obtain ⟨logs, reached⟩ := ih (by omega)
      rw [retitles_succ, serveAll_append, reached]
      -- The ticket is stored with the version that the PATCHes so far have left.
      let raised : TicketRow := { row with version := row.version + count }
      have here : TicketsRepository.findById id
          { db with tickets := db.tickets.set raised, auditLogs := logs } = some raised := by
        have keyed : Keyed.key raised = id := key
        refine Option.filter_eq_some_iff.mpr ⟨?_, live⟩
        show (db.tickets.set raised).get? id = some raised
        rw [Table.get?_set, if_pos keyed.symm, stored]
        rfl
      have successor : versionOverflows raised.version = false := by
        refine decide_eq_false ?_
        show ¬ MAX_INTEGER ≤ row.version + count
        omega
      obtain ⟨logs', served⟩ := serve_retitle performedBy here unresolved successor
      refine ⟨logs', served.trans ?_⟩
      let next : TicketRow := { raised with version := raised.version + 1, updatedAt := db.now }
      have twice : (db.tickets.set raised).set next = db.tickets.set next := Table.set_set rfl
      have same : next = { row with version := row.version + (count + 1) } := by
        simp only [next, raised, ← settled, Nat.add_assoc]
      rw [← same, ← twice]

end Serving

end IssueFlow
