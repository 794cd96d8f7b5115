import IssueFlow.Services.Tickets
import IssueFlow.Text.JavaScript

/-!
# The CSV import

`csv-import.service.ts`. Parsing the file is third-party code, so a request
carries the records, or the message of the parser. Every record is validated
and inserted by itself.
-/

namespace IssueFlow

open Semantics JavaScript

/-- The cells of a parsed record; a column the file does not have is absent. -/
structure CsvRecord where
  title : Option String
  description : Option String
  type : Option String
  status : Option String
  priority : Option String
  assigneeId : Option String
  deriving DecidableEq, Repr

structure ImportRowError where
  row : ℕ
  message : String
  deriving DecidableEq, Repr

structure ImportSummary where
  created : ℕ
  failed : ℕ
  errors : List ImportRowError
  deriving DecidableEq, Repr

namespace CsvImportService

variable [Unicode]

/-- `(cell ?? '').trim()` -/
def cell (text : Option String) : String := trim (text.getD "")

/-- `Object.values(…).join(', ')` -/
def expected {α : Type} (values : List α) (text : α → String) : String :=
  ", ".intercalate (values.map text)

/-- A blank cell is left out; otherwise the cell has to be a label. -/
def optionalEnum {α : Type} (name : String) (values : List α) (text : α → String)
    (raw : Option String) : Except String (Field α) :=
  let label := toUpperCase (cell raw)
  if label.isEmpty then .ok .undefined
  else
    match values.find? fun value => text value = label with
    | some value => .ok (.value value)
    | none =>
        .error (s!"{name} \"{label}\" is invalid " ++ s!"(expected one of: {expected values text})")

def validateType (raw : Option String) : Except String TicketType :=
  match optionalEnum "type" TicketType.values TicketType.text raw with
  | .ok (.value type) => .ok type
  | .ok _ => .error "type is required"
  | .error message => .error message

def validateAssignee (raw : Option String) : Except String (Field ℕ) :=
  let text := cell raw
  if text.isEmpty then .ok .undefined
  else
    match positiveInteger text with
    | some n => .ok (.value n)
    | none => .error s!"assigneeId \"{text}\" is invalid (expected a positive integer)"

/-- The input for the ticket of a record, or the first problem found. -/
def validateRow (projectId : ℕ) (raw : CsvRecord) : Except String TicketInput := do
  let title := cell raw.title
  if title.isEmpty then throw "title is required and must not be empty"
  if utf16Length title > 255 then throw "title exceeds 255 characters"
  let description := cell raw.description
  let type ← validateType raw.type
  let status ← optionalEnum "status" TicketStatus.values TicketStatus.text raw.status
  let priority ← optionalEnum "priority" TicketPriority.values TicketPriority.text raw.priority
  let assigneeId ← validateAssignee raw.assigneeId
  return {
    title := title
    description := if description.isEmpty then .undefined else .value description
    status := status
    priority := priority
    type := type
    projectId := projectId
    assigneeId := assigneeId
    dueDate := .undefined }

/-- Validate and insert one record. -/
def importRow (projectId : ℕ) (raw : CsvRecord) : Service Unit :=
  match validateRow projectId raw with
  | .error message => throw (.error message)
  | .ok input => do
      let _ ← execute (.createTicket input)
      pure ()

variable [Postgres]

/-- Import one record and count it; a failure is caught. -/
def countRow (projectId : ℕ) (summary : ImportSummary) (rowNumber : ℕ) (raw : CsvRecord) :
    Service ImportSummary :=
  tryCatch
    (do
      importRow projectId raw
      return { summary with created := summary.created + 1 })
    fun exception => return { summary with
      failed := summary.failed + 1
      errors := summary.errors ++ [⟨rowNumber, exception.message⟩] }

/-- The loop over the records; `rowNumber` is the number of the first one. -/
def importRows (projectId : ℕ) (summary : ImportSummary) (rowNumber : ℕ) :
    List CsvRecord → Service ImportSummary
  | [] => return summary
  | raw :: records => do
      let summary ← countRow projectId summary rowNumber raw
      importRows projectId summary (rowNumber + 1) records

def importIntoProject (projectId : ℕ) (parsed : Except String (List CsvRecord))
    (performedBy : ℕ) : Service ImportSummary := do
  ProjectsService.assertExists projectId
  match parsed with
  | .error message => badRequest s!"CSV could not be parsed: {message}"
  | .ok records =>
      let summary ← importRows projectId ⟨0, 0, []⟩ 1 records
      AuditService.log
        { action := .create
          entityType := .project
          entityId := projectId
          performedBy := some performedBy
          actor := .user
          metadata := [("operation", .value (.text "csv-import")),
            ("created", .value (.number summary.created)),
            ("failed", .value (.number summary.failed))] }
      return summary

end CsvImportService

end IssueFlow
