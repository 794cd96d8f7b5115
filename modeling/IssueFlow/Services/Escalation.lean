import IssueFlow.Services.Audit

/-!
# The escalation service

`escalation.service.ts`: one cycle scans the overdue tickets and then decides
and writes them one by one, from the rows of the scan.
-/

namespace IssueFlow

open Semantics

def PRIORITY_LADDER : List TicketPriority := [.low, .medium, .high, .critical]

structure EscalationSummary where
  scanned : ℕ
  promoted : ℕ
  markedOverdue : ℕ
  skipped : ℕ
  deriving DecidableEq, Repr

/-- The tickets a cycle has dealt with. -/
def EscalationSummary.handled (summary : EscalationSummary) : ℕ :=
  summary.promoted + summary.markedOverdue + summary.skipped

namespace EscalationService

/-- One step up the ladder. -/
def nextPriority (p : TicketPriority) : TicketPriority :=
  let idx := PRIORITY_LADDER.idxOf p
  if idx ≥ PRIORITY_LADDER.length - 1 then .critical
  else PRIORITY_LADDER.getD (idx + 1) .critical

/-- What a cycle does to a ticket it has scanned, if anything. -/
def decision (ticket : TicketRow) : Option EscalationChange :=
  if ticket.priority ≠ .critical then some (.promote (nextPriority ticket.priority))
  else if !ticket.isOverdue then some .markOverdue
  else none

/-- The details of the entry about a change. -/
def escalationMetadata (ticket : TicketRow) : EscalationChange → Metadata
  | .promote newPriority =>
      [("priority", .change (.text ticket.priority.text) (.text newPriority.text))]
  | .markOverdue =>
      [("isOverdue", .change (.bool false) (.bool true)),
        ("priority", .value (.text TicketPriority.critical.text))]

/-- The entry about a change. -/
def escalationEntry (ticket : TicketRow) (change : EscalationChange) : AuditInsert where
  action := .priorityEscalated
  entityType := .ticket
  entityId := ticket.id
  performedBy := none
  actor := .system
  metadata := escalationMetadata ticket change

/-- Count a write. -/
def EscalationSummary.count (summary : EscalationSummary) :
    EscalationChange → EscalationSummary
  | .promote _ => { summary with promoted := summary.promoted + 1 }
  | .markOverdue => { summary with markedOverdue := summary.markedOverdue + 1 }

/-- Decide and write one scanned ticket. -/
def escalate (summary : EscalationSummary) (ticket : TicketRow) : Service EscalationSummary :=
  match decision ticket with
  | none => return { summary with skipped := summary.skipped + 1 }
  | some change => do
      match ← execute (.applyEscalation ticket.id change) with
      | none => return { summary with skipped := summary.skipped + 1 }
      | some _ =>
          AuditService.log (escalationEntry ticket change)
          return EscalationSummary.count summary change

/-- The loop over the scanned tickets. -/
def escalateAll (summary : EscalationSummary) : List TicketRow → Service EscalationSummary
  | [] => return summary
  | ticket :: overdue => do
      let summary ← escalate summary ticket
      escalateAll summary overdue

def runOnce : Service EscalationSummary := do
  let overdue ← select .findOverdueUnresolved
  escalateAll ⟨overdue.length, 0, 0, 0⟩ overdue

end EscalationService

end IssueFlow
