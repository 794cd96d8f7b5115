import IssueFlow.Services.Audit

/-!
# The dependencies service

`dependencies.service.ts`. The cycle check is a depth-first walk that reads the
blockers of one ticket at a time. Its number of steps is bounded by an argument,
`fuel`; results about concurrent requests hold for every value, and a request
that runs alone is given enough.
-/

namespace IssueFlow

open Semantics

namespace DependenciesService

/-- The loop of `wouldCreateCycle`. The head of `stack` is the element that is
popped next. -/
def walk (ticketId : ℕ) : ℕ → List ℕ → List ℕ → Service Bool
  | _, _, [] => return false
  | 0, _, _ :: _ => throw .outOfFuel
  | fuel + 1, visited, current :: stack =>
      if current = ticketId then return true
      else if current ∈ visited then walk ticketId fuel visited stack
      else do
        let next ← select (.blockerIdsOf current)
        let visited := current :: visited
        -- `push` puts the last blocker on top.
        walk ticketId fuel visited ((next.filter fun n => n ∉ visited).reverse ++ stack)

def wouldCreateCycle (fuel ticketId blockerId : ℕ) : Service Bool :=
  walk ticketId fuel [] [blockerId]

/-- What follows the cycle check. -/
def insertEdge (ticketId blockerId performedBy : ℕ) : Service Unit := do
  let added ← execute (.addDependency ticketId blockerId)
  if added then
    AuditService.log
      { action := .create
        entityType := .dependency
        entityId := ticketId
        performedBy := some performedBy
        actor := .user
        metadata := [("ticketId", .value (.number ticketId)),
          ("blockedBy", .value (.number blockerId))] }
  else pure ()

def add (fuel ticketId blockerId performedBy : ℕ) : Service Unit := do
  if ticketId = blockerId then badRequest "A ticket cannot depend on itself"
  else
    match ← select (.findTicketById ticketId) with
    | none => notFound s!"Ticket {ticketId} not found"
    | some ticket =>
        match ← select (.findTicketById blockerId) with
        | none => notFound s!"Ticket {blockerId} not found"
        | some blocker =>
            if ticket.projectId ≠ blocker.projectId then
              badRequest ("Tickets must belong to the same project " ++
                s!"(ticket {ticketId} is in project {ticket.projectId}, " ++
                s!"ticket {blockerId} is in project {blocker.projectId})")
            else if ← wouldCreateCycle fuel ticketId blockerId then
              badRequest ("Adding this dependency would create a cycle: " ++
                s!"ticket {blockerId} already depends (directly or transitively) on " ++
                s!"ticket {ticketId}")
            else insertEdge ticketId blockerId performedBy

def remove (ticketId blockerId performedBy : ℕ) : Service Unit := do
  let removed ← execute (.removeDependency ticketId blockerId)
  if !removed then notFound s!"Ticket {ticketId} is not blocked by ticket {blockerId}"
  else
    AuditService.log
      { action := .delete
        entityType := .dependency
        entityId := ticketId
        performedBy := some performedBy
        actor := .user
        metadata := [("ticketId", .value (.number ticketId)),
          ("blockedBy", .value (.number blockerId))] }

def list (ticketId : ℕ) : Service (List BlockerRow) := do
  match ← select (.findTicketById ticketId) with
  | none => notFound s!"Ticket {ticketId} not found"
  | some _ => select (.listBlockers ticketId)

end DependenciesService

end IssueFlow
