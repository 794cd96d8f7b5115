import IssueFlow.Services.Projects

/-!
# The tickets service

`tickets.service.ts`: creation with auto-assignment, the versioned PATCH with
its lifecycle and blocker checks, soft deletion and restoring.
-/

namespace IssueFlow

open Semantics

structure TicketResponse where
  id : ℕ
  title : String
  description : Option String
  status : TicketStatus
  priority : TicketPriority
  type : TicketType
  projectId : ℕ
  assigneeId : Option ℕ
  dueDate : Option Timestamp
  isOverdue : Bool
  version : ℕ
  deriving DecidableEq, Repr

def toTicketResponse (row : TicketRow) : TicketResponse where
  id := row.id
  title := row.title
  description := row.description
  status := row.status
  priority := row.priority
  type := row.type
  projectId := row.projectId
  assigneeId := row.assigneeId
  dueDate := row.dueDate
  isOverdue := row.isOverdue
  version := row.version

/-- The body of a new ticket has the fields the repository inserts. -/
abbrev CreateTicketDto := TicketInput

/-- The body of a PATCH: the fields that are written, and the version. -/
structure UpdateTicketDto extends TicketUpdate where
  version : Field ℕ
  deriving DecidableEq, Repr

/-- Forward-only status transitions. -/
def STATUS_ORDER : TicketStatus → ℕ
  | .todo => 0
  | .inProgress => 1
  | .inReview => 2
  | .done => 3

namespace TicketsService

def getOrThrow (id : ℕ) : Service TicketRow := do
  match ← select (.findTicketById id) with
  | some row => return row
  | none => notFound s!"Ticket {id} not found"

def assertExistsAndGet (id : ℕ) : Service TicketRow := getOrThrow id

def findByProject (projectId : ℕ) : Service (List TicketResponse) := do
  ProjectsService.assertExists projectId
  let rows ← select (.findTicketsByProject projectId)
  return rows.map toTicketResponse

def findAll : Service (List TicketResponse) := do
  let rows ← select .findAllTickets
  return rows.map toTicketResponse

def findById (id : ℕ) : Service TicketResponse := do
  return toTicketResponse (← getOrThrow id)

def getWorkload (projectId : ℕ) : Service (List WorkloadRow) := do
  ProjectsService.assertExists projectId
  select (.workloadByProject projectId)

/-- A supplied assignee has to exist. -/
def assertAssigneeExists (assigneeId : Field ℕ) : Service Unit :=
  if assigneeId.isDefined then do
    let _ ← UsersService.findById assigneeId.toOption
    pure ()
  else pure ()

/-! ### Create -/

/-- The least-loaded developer, when no assignee is supplied. -/
def autoAssign (dto : CreateTicketDto) : Service (Option ℕ) :=
  if dto.assigneeId.isDefined then return none
  else do
    let workload ← select (.workloadByProject dto.projectId)
    return workload.head?.map (·.userId)

/-- `dto.assigneeId ?? autoAssignedId` -/
def effectiveAssignee (dto : CreateTicketDto) (autoAssignedId : Option ℕ) : Field ℕ :=
  match dto.assigneeId, autoAssignedId with
  | .value assignee, _ => .value assignee
  | _, some assignee => .value assignee
  | _, none => .undefined

/-- The entry about an assignment the system made. -/
def logAutoAssign (ticketId : ℕ) : Option ℕ → Service Unit
  | none => pure ()
  | some assignee =>
      AuditService.log
        { action := .autoAssign
          entityType := .ticket
          entityId := ticketId
          performedBy := none
          actor := .system
          metadata := [("assigneeId", .value (.number assignee)),
            ("reason", .value (.text "least-loaded DEVELOPER in project"))] }

def create (dto : CreateTicketDto) (performedBy : ℕ) : Service TicketResponse := do
  ProjectsService.assertExists dto.projectId
  assertAssigneeExists dto.assigneeId
  let autoAssignedId ← autoAssign dto
  let row ← execute (.createTicket
    { dto with assigneeId := effectiveAssignee dto autoAssignedId })
  AuditService.log
    { action := .create
      entityType := .ticket
      entityId := row.id
      performedBy := some performedBy
      actor := .user
      metadata := [("title", .value (.text row.title)),
        ("projectId", .value (.number row.projectId)), ("type", .value (.text row.type.text)),
        ("status", .value (.text row.status.text)),
        ("priority", .value (.text row.priority.text)),
        ("assigneeId", .value (.ofOption .number row.assigneeId))] }
  logAutoAssign row.id autoAssignedId
  return toTicketResponse row

/-! ### Update -/

def hasUpdate (dto : UpdateTicketDto) : Bool :=
  dto.title.isDefined || dto.description.isDefined || dto.status.isDefined ||
    dto.priority.isDefined || dto.assigneeId.isDefined || dto.dueDate.isDefined

/-- Is the supplied status behind the stored one? `null` is not behind any. -/
def isIllegalTransition (before : TicketStatus) : Field TicketStatus → Bool
  | .value next => next ≠ before && STATUS_ORDER next < STATUS_ORDER before
  | _ => false

/-- The text of a supplied status in a message. -/
def statusText : Field TicketStatus → String
  | .value status => status.text
  | _ => ""

/-- A ticket may move to `DONE` only without unresolved blockers. -/
def assertNoUnresolvedBlockers (id : ℕ) (status : Field TicketStatus) : Service Unit :=
  if status = .value .done then do
    let unresolved ← select (.countUnresolvedBlockers id)
    if unresolved > 0 then
      conflict (s!"Ticket {id} cannot move to DONE: " ++
        s!"it has {unresolved} unresolved blocker(s). Resolve them first.")
    else pure ()
  else pure ()

/-- The fields a PATCH is compared on. -/
def diffFields : List (String × (TicketRow → Value)) :=
  [("title", fun row => .text row.title),
    ("description", fun row => .ofOption .text row.description),
    ("status", fun row => .text row.status.text),
    ("priority", fun row => .text row.priority.text),
    ("assignee_id", fun row => .ofOption .bigint row.assigneeId),
    ("due_date", fun row => .ofOption .date row.dueDate),
    ("is_overdue", fun row => .bool row.isOverdue)]

/-- What follows the versioned UPDATE. -/
def finishUpdate (id : ℕ) (dto : UpdateTicketDto) (performedBy : ℕ) (before : TicketRow) :
    Option TicketRow → Service TicketResponse
  | none => do
      let live ← select (.findTicketById id)
      let liveVersion := (live.map fun row => toString row.version).getD "?"
      conflict (s!"Ticket {id} was modified by another writer. Expected version " ++
        s!"{showNumber dto.version.toOption}, current is {liveVersion}. Please reload and retry.")
  | some updated => do
      AuditService.log
        { action := .update
          entityType := .ticket
          entityId := id
          performedBy := some performedBy
          actor := .user
          metadata := diffMetadata before updated diffFields }
      return toTicketResponse updated

def update (id : ℕ) (dto : UpdateTicketDto) (performedBy : ℕ) : Service TicketResponse := do
  if !hasUpdate dto then
    badRequest "At least one updatable field must be provided"
  else if !dto.version.isDefined then
    badRequest ("\"version\" is required for concurrency control. " ++
      "Send the value from the most recent ticket response.")
  else
    let before ← getOrThrow id
    if before.status = .done then
      conflict s!"Ticket {id} is DONE and cannot be updated"
    else if isIllegalTransition before.status dto.status then
      badRequest (s!"Illegal status transition {before.status.text} → " ++
        s!"{statusText dto.status}. Status moves forward only.")
    else
      assertNoUnresolvedBlockers id dto.status
      assertAssigneeExists dto.assigneeId
      -- A manual priority change clears the overdue flag.
      let resetOverdueFlag := dto.priority.isDefined
      let updated ← execute (.updateWithVersionCheck id dto.version.toOption
        dto.toTicketUpdate resetOverdueFlag)
      finishUpdate id dto performedBy before updated

/-! ### Soft deletion -/

def softDelete (id performedBy : ℕ) : Service Unit := do
  let before ← getOrThrow id
  let deleted ← execute (.softDeleteTicket id)
  if !deleted then notFound s!"Ticket {id} not found"
  else
    AuditService.log
      { action := .delete
        entityType := .ticket
        entityId := id
        performedBy := some performedBy
        actor := .user
        metadata := [("title", .value (.text before.title)),
          ("projectId", .value (.number before.projectId))] }

def restore (id performedBy : ℕ) : Service Unit := do
  match ← select (.findTicketByIdAnyState id) with
  | none => notFound s!"Ticket {id} not found"
  | some existing =>
      if existing.deletedAt.isNone then
        conflict s!"Ticket {id} is not deleted; nothing to restore"
      else
        let _ ← execute (.restoreTicket id)
        AuditService.log
          { action := .restore
            entityType := .ticket
            entityId := id
            performedBy := some performedBy
            actor := .user
            metadata := [("title", .value (.text existing.title)),
              ("projectId", .value (.number existing.projectId))] }

end TicketsService

end IssueFlow
