import IssueFlow.Services.Users

/-!
# The projects service

`projects.service.ts`.
-/

namespace IssueFlow

open Semantics

structure ProjectResponse where
  id : ℕ
  name : String
  description : Option String
  ownerId : ℕ
  deriving DecidableEq, Repr

def toProjectResponse (row : ProjectRow) : ProjectResponse where
  id := row.id
  name := row.name
  description := row.description
  ownerId := row.ownerId

/-- The body of a new project has the fields the repository inserts. -/
abbrev CreateProjectDto := ProjectInput

/-- The body of a project PATCH has the fields the repository writes. -/
abbrev UpdateProjectDto := ProjectUpdate

namespace ProjectsService

def getOrThrow (id : ℕ) : Service ProjectRow := do
  match ← select (.findProjectById id) with
  | some row => return row
  | none => notFound s!"Project {id} not found"

def assertExists (id : ℕ) : Service Unit := do
  let _ ← getOrThrow id

def findAll : Service (List ProjectResponse) := do
  let rows ← select .findAllProjects
  return rows.map toProjectResponse

def findById (id : ℕ) : Service ProjectResponse := do
  return toProjectResponse (← getOrThrow id)

def create (dto : CreateProjectDto) (performedBy : ℕ) : Service ProjectResponse := do
  let _ ← UsersService.findById (some dto.ownerId)
  let row ← execute (.createProject dto)
  AuditService.log
    { action := .create
      entityType := .project
      entityId := row.id
      performedBy := some performedBy
      actor := .user
      metadata := [("name", .value (.text row.name)), ("ownerId", .value (.number row.ownerId))] }
  return toProjectResponse row

/-- The fields an update is compared on. -/
def diffFields : List (String × (ProjectRow → Value)) :=
  [("name", fun row => .text row.name),
    ("description", fun row => .ofOption .text row.description)]

def update (id : ℕ) (dto : UpdateProjectDto) (performedBy : ℕ) : Service ProjectResponse := do
  if !dto.name.isDefined && !dto.description.isDefined then
    badRequest "At least one of \"name\" or \"description\" must be provided"
  else
    let before ← getOrThrow id
    match ← execute (.updateProject id dto) with
    | none => notFound s!"Project {id} not found"
    | some updated =>
        AuditService.log
          { action := .update
            entityType := .project
            entityId := id
            performedBy := some performedBy
            actor := .user
            metadata := diffMetadata before updated diffFields }
        return toProjectResponse updated

def softDelete (id performedBy : ℕ) : Service Unit := do
  let before ← getOrThrow id
  let deleted ← execute (.softDeleteProject id)
  if !deleted then notFound s!"Project {id} not found"
  else
    AuditService.log
      { action := .delete
        entityType := .project
        entityId := id
        performedBy := some performedBy
        actor := .user
        metadata := [("name", .value (.text before.name))] }

def restore (id performedBy : ℕ) : Service Unit := do
  match ← select (.findProjectByIdAnyState id) with
  | none => notFound s!"Project {id} not found"
  | some existing =>
      if existing.deletedAt.isNone then
        conflict s!"Project {id} is not deleted; nothing to restore"
      else
        let _ ← execute (.restoreProject id)
        AuditService.log
          { action := .restore
            entityType := .project
            entityId := id
            performedBy := some performedBy
            actor := .user
            metadata := [("name", .value (.text existing.name))] }

end ProjectsService

end IssueFlow
