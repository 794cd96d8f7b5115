import IssueFlow.Services.Tickets

/-!
# The CSV export

`csv-export.service.ts`. Writing the file is third-party code and a parameter,
`CsvStringify`.
-/

namespace IssueFlow

open Semantics

/-- The value of a cell. -/
inductive CsvCell
  | text (value : String)
  | number (value : ℕ)
  deriving DecidableEq, Repr

/-- A ticket as it is exported. -/
structure CsvExportRecord where
  id : ℕ
  title : String
  description : String
  status : TicketStatus
  priority : TicketPriority
  type : TicketType
  assigneeId : CsvCell
  deriving DecidableEq, Repr

/-- csv-stringify. -/
class CsvStringify where
  /-- The file with a header, for a list of columns and the records. -/
  stringify : List String → List CsvExportRecord → String

namespace CsvExportService

def COLUMNS : List String :=
  ["id", "title", "description", "status", "priority", "type", "assigneeId"]

/-- A ticket without an assignee has a blank cell. -/
def toRecord (row : TicketRow) : CsvExportRecord where
  id := row.id
  title := row.title
  description := row.description.getD ""
  status := row.status
  priority := row.priority
  type := row.type
  assigneeId := row.assigneeId.elim (.text "") .number

def exportProject [CsvStringify] (projectId : ℕ) : Service String := do
  ProjectsService.assertExists projectId
  let rows ← select (.findTicketsByProject projectId)
  return CsvStringify.stringify COLUMNS (rows.map toRecord)

end CsvExportService

end IssueFlow
