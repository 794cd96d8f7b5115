import IssueFlow.Semantics.Embedding
import IssueFlow.Services.AuditTrail
import IssueFlow.Services.Filters
import IssueFlow.System.Reads

/-!
# Programs of the controllers

The controllers call the services, and a few of them read what no other service
reads: the deleted records, the audit log, and a probe of the connection. Their
programs are over these reads and the statements of the services, and they may
be rejected by a guard or a pipe before any service is called.

## Main definitions

* `AppStatement`, `AppStatement.exec` — the statements of the services, and the other reads
* `HttpError`, `HttpError.statusCode` — what a request is rejected with
* `App`, `App.service` — programs of the controllers, and a service called by one
-/

namespace IssueFlow

open Store Semantics

/-- The reads for administrators, the search of the audit log, and `SELECT 1`. -/
inductive AppQuery
  | findDeletedProjects
  | findDeletedTicketsByProject (projectId : ℕ)
  | findAuditLogs (filters : AuditFilters)
  | probe

abbrev AppQuery.Rows : AppQuery → Type
  | findDeletedProjects => List ProjectRow
  | findDeletedTicketsByProject _ => List TicketRow
  | findAuditLogs _ => List AuditLogRow
  | probe => Unit

inductive AppStatement
  | service (statement : Statement)
  | read (query : AppQuery)

abbrev AppStatement.Ans : AppStatement → Type
  | service statement => statement.Ans
  | read query => Except PgError query.Rows

def AppQuery.eval : (query : AppQuery) → Db → Except PgError query.Rows
  | findDeletedProjects, db => .ok (ProjectsRepository.findDeleted db)
  | findDeletedTicketsByProject projectId, db =>
      .ok (TicketsRepository.findDeletedByProject projectId db)
  | findAuditLogs filters, db => AuditRepository.find filters db
  | probe, _ => .ok ()

def AppStatement.exec [Postgres] : (statement : AppStatement) → Db → statement.Ans × Db
  | service statement, db => IssueFlow.exec statement db
  | read query, db => (query.eval db, db)

/-- What a request is rejected with: by a service or the database, by the
validation of its body, by the guard of roles, or because its file is too large
or its path unknown. -/
inductive HttpError
  | exception (thrown : Exception)
  | validation (messages : List String)
  | forbidden (message : String)
  | payloadTooLarge (message : String)
  | notRouted (message : String)
  deriving DecidableEq, Repr

/-- The status of the answer; all but the first are HTTP exceptions. -/
def HttpError.statusCode : HttpError → ℕ
  | exception thrown => thrown.statusCode
  | validation _ => 400
  | forbidden _ => 403
  | payloadTooLarge _ => 413
  | notRouted _ => 404

/-- A program of a controller. -/
abbrev App (α : Type) := Program AppStatement AppStatement.Ans HttpError α

section App

variable [Postgres] {α : Type}

/-- The statements of the services are executed as they are. -/
def serviceStatements : Embedding exec AppStatement.exec where
  op := .service
  answer _ given := given
  exec_eq _ _ := rfl

/-- Call a service. -/
def App.service (p : Service α) : App α := p.embed serviceStatements (Except.mapError .exception)

omit [Postgres] in
/-- Send one of the other reads. -/
def App.query (read : AppQuery) : App read.Rows :=
  .call (.read read) fun answer => .done (answer.mapError fun failure =>
    .exception (.database failure))

end App

namespace ProjectsService

def findDeleted : App (List ProjectResponse) := do
  let rows ← App.query .findDeletedProjects
  return rows.map toProjectResponse

end ProjectsService

namespace TicketsService

variable [Postgres]

def findDeletedByProject (projectId : ℕ) : App (List TicketResponse) := do
  App.service (ProjectsService.assertExists projectId)
  let rows ← App.query (.findDeletedTicketsByProject projectId)
  return rows.map toTicketResponse

end TicketsService

/-! ### The root controller -/

structure HealthResponse where
  status : String
  database : String
  timestamp : Timestamp
  deriving DecidableEq, Repr

namespace AppService

def greeting : String := "IssueFlow is running!"

variable [Postgres]

/-- A probe that fails is caught. -/
def health : App HealthResponse := do
  let database ← Program.tryCatch
    (do
      App.query .probe
      return "up")
    fun _ => return "down"
  let timestamp ← App.service (select .dateNow)
  return ⟨if database = "up" then "ok" else "degraded", database, timestamp⟩

end AppService

end IssueFlow
