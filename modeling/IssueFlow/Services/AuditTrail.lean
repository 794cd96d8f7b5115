import IssueFlow.Database.Effects
import IssueFlow.Repositories.Audit

/-!
# Reading the audit log

`AuditService.find`, which is `GET /audit-logs`: one statement, which searches
the log with the filters of the query and maps the rows. The time of an entry is
an instant here, not its ISO text.
-/

namespace IssueFlow

open Store

structure AuditLogResponse extends AuditInsert where
  id : ℕ
  timestamp : Timestamp
  deriving DecidableEq, Repr

def toAuditLogResponse (row : AuditLogRow) : AuditLogResponse where
  id := row.id
  action := row.action
  entityType := row.entityType
  entityId := row.entityId
  performedBy := row.performedBy
  actor := row.actor
  metadata := row.metadata
  timestamp := row.timestamp

/-- The query, as validated: a supplied id is positive. -/
structure AuditFilterQuery extends AuditFilters where
  entityId_min : ∀ id ∈ entityId, 1 ≤ id := by decide

namespace AuditService

def find (filters : AuditFilterQuery) (db : Db) : Except PgError (List AuditLogResponse) :=
  (AuditRepository.find filters.toAuditFilters db).map fun rows => rows.map toAuditLogResponse

end AuditService

end IssueFlow
