import IssueFlow.System.Effects
import Mathlib.Data.List.TakeWhile

/-!
# What a request served alone does to the tickets

Between two requests a stored ticket is written by at most one PATCH, one
escalation step, one deletion or restoration, or the removal of its assignee,
and a new ticket is the row its INSERT makes.

## Main definitions

* `EscalationService.cycledRow` — a ticket after an escalation cycle
* `TicketEffect` — the ways a request changes a stored ticket

## Main results

* `EscalationService.get?_cycled` — a cycle, ticket by ticket
* `serve_ticket`, `serve_created` — stored tickets and new ones
* `serve_updateTicket_ok` — what a PATCH that succeeds has done
-/

namespace IssueFlow

open Store Semantics JavaScript

/-! ### A cycle, ticket by ticket -/

namespace EscalationService

/-- A scanned ticket after its decision was written. -/
def decidedRow (now : Timestamp) (row : TicketRow) : TicketRow :=
  match decision row with
  | none => row
  | some change => { TicketsRepository.escalatedRow change row with updatedAt := now }

/-- A ticket after an escalation cycle. -/
def cycledRow (now : Timestamp) (row : TicketRow) : TicketRow :=
  if TicketsRepository.isOverdueUnresolved now row then decidedRow now row else row

variable {db : Db} {id : ℕ}

theorem now_escalated (ticket : TicketRow) : (escalated db ticket).now = db.now := by
  unfold escalated
  cases decision ticket <;> rfl

/-- One decision writes one ticket. -/
theorem get?_escalated {ticket : TicketRow} (stored : db.tickets.get? ticket.id = some ticket) :
    (escalated db ticket).tickets.get? id =
      if id = ticket.id then some (decidedRow db.now ticket) else db.tickets.get? id := by
  unfold escalated decidedRow
  cases decided : decision ticket with
  | none =>
      by_cases same : id = ticket.id
      · rw [if_pos same, same]
        exact stored
      · rw [if_neg same]
  | some change =>
      have key : Keyed.key ({ TicketsRepository.escalatedRow change ticket with
          updatedAt := db.now } : TicketRow) = ticket.id := by
        cases change <;> rfl
      show (db.tickets.set _).get? id = _
      rw [Table.get?_set, key]
      by_cases same : id = ticket.id
      · rw [if_pos same, if_pos same, same, stored]
        rfl
      · rw [if_neg same, if_neg same]

/-- The decisions of a cycle write the scanned tickets and no others. -/
theorem get?_foldl_escalated {overdue : List TicketRow} (distinct : (overdue.map (·.id)).Nodup)
    (stored : ∀ ticket ∈ overdue, db.tickets.get? ticket.id = some ticket) :
    (overdue.foldl escalated db).tickets.get? id =
      (db.tickets.get? id).map fun row => if row ∈ overdue then decidedRow db.now row else row := by
  induction overdue generalizing db with
  | nil => simp
  | cons ticket overdue ih =>
      obtain ⟨fresh, distinct⟩ := List.nodup_cons.mp distinct
      have here := stored ticket List.mem_cons_self
      -- Deciding one ticket leaves the others as they were scanned.
      have remaining : ∀ other ∈ overdue,
          (escalated db ticket).tickets.get? other.id = some other := by
        intro other member
        have different : other.id ≠ ticket.id := by
          intro same
          exact fresh (List.mem_map.mpr ⟨other, member, same⟩)
        rw [get?_escalated here, if_neg different]
        exact stored other (List.mem_cons_of_mem _ member)
      rw [List.foldl_cons, ih distinct remaining, get?_escalated here, now_escalated]
      by_cases same : id = ticket.id
      · -- The ticket is decided once: no later one has its id.
        have later : decidedRow db.now ticket ∉ overdue := by
          intro member
          refine fresh (List.mem_map.mpr ⟨_, member, ?_⟩)
          unfold decidedRow
          cases decision ticket with
          | none => rfl
          | some change => cases change <;> rfl
        rw [if_pos same, same, here]
        simp [later]
      · rw [if_neg same]
        cases found : db.tickets.get? id with
        | none => rfl
        | some row =>
            have other : row ≠ ticket := by
              rintro rfl
              exact same (Table.key_of_get? found).symm
            simp [other]

theorem nodup_scanned (db : Db) :
    ((TicketsRepository.findOverdueUnresolved db).map (·.id)).Nodup :=
  db.tickets.nodup_keys.sublist (List.filter_sublist.map _)

/-- A ticket that a cycle gets to was scanned. -/
theorem scanned_of_reached {row : TicketRow} (member : row ∈ reached db) :
    row ∈ TicketsRepository.findOverdueUnresolved db :=
  (List.takeWhile_sublist _).subset member

/-- **A cycle, ticket by ticket.** -/
theorem get?_cycled (db : Db) (id : ℕ) :
    (cycled db).tickets.get? id =
      (db.tickets.get? id).map fun row => if row ∈ reached db then decidedRow db.now row else row :=
  get?_foldl_escalated
    ((nodup_scanned db).sublist ((List.takeWhile_sublist _).map _))
    fun _ member => Table.get?_key (List.mem_filter.mp (scanned_of_reached member)).1

/-- A cycle that stops at no ticket gets to all of them. -/
theorem reached_of_onward (onward : stops db = false) :
    reached db = TicketsRepository.findOverdueUnresolved db := by
  refine List.takeWhile_eq_self_iff.mpr fun ticket member => ?_
  simpa using List.any_eq_false.mp onward ticket member

/-- A ticket after a cycle that stops at none. -/
theorem get?_cycled_of_onward (onward : stops db = false) (id : ℕ) :
    (cycled db).tickets.get? id = (db.tickets.get? id).map (cycledRow db.now) := by
  rw [get?_cycled, reached_of_onward onward]
  cases found : db.tickets.get? id with
  | none => rfl
  | some row =>
      have scanned : row ∈ TicketsRepository.findOverdueUnresolved db ↔
          TicketsRepository.isOverdueUnresolved db.now row = true := by
        rw [TicketsRepository.findOverdueUnresolved, List.mem_filter]
        exact and_iff_right (Table.mem_of_get? found)
      simp only [Option.map_some, cycledRow, scanned]

end EscalationService

/-! ### Stored tickets -/

section Serving

variable [Postgres]

/-- What a request can do to a stored ticket. -/
inductive TicketEffect (db : Db) : Request → TicketRow → TicketRow → Prop
  | kept {request : Request} {row : TicketRow} : TicketEffect db request row row
  | patched {row : TicketRow} {dto : UpdateTicketDto} {due : Field Timestamp} {performedBy : ℕ}
      (live : row.isLive) (version : dto.version.toOption = some row.version)
      (bound : TicketsRepository.dueInstant dto.dueDate = .ok due) :
      TicketEffect db (.updateTicket row.id dto performedBy) row
        { TicketsRepository.patchedRow dto.toTicketUpdate due dto.priority.isDefined row with
          updatedAt := db.now }
  | cycled {row : TicketRow} :
      TicketEffect db .escalate row (EscalationService.cycledRow db.now row)
  | softDeleted {row : TicketRow} {performedBy : ℕ} (live : row.isLive) :
      TicketEffect db (.softDeleteTicket row.id performedBy) row
        { row with deletedAt := some db.now, updatedAt := db.now }
  | restored {row : TicketRow} {performedBy : ℕ} (deleted : row.isLive = false) :
      TicketEffect db (.restoreTicket row.id performedBy) row
        { row with deletedAt := none, updatedAt := db.now }
  | unassigned {row : TicketRow} {user performedBy : ℕ} (assigned : row.assigneeId = some user) :
      TicketEffect db (.deleteUser user performedBy) row
        { row with assigneeId := none, updatedAt := db.now }

variable [Bcrypt] [Unicode] {db : Db} {request : Request} {id : ℕ} {row : TicketRow}

omit [Bcrypt] [Unicode] in
/-- The one write of a request, seen from a stored ticket. -/
theorem TicketEffect.of_transition {write : Command} {row' : TicketRow}
    (transition : TicketTransition db (.command write) row row') (may : request.MayWrite write)
    (checked : request.Checked db) : TicketEffect db request row row' := by
  cases transition with
  | kept silent => exact .kept
  | patched live version bound writes =>
      obtain ⟨dto, performedBy, rfl, rfl, rfl, rfl⟩ :=
        Request.mayWrite_updateWithVersionCheck may
      exact .patched live version bound
  | escalated live unresolved writes =>
      obtain rfl := Request.mayWrite_applyEscalation may
      exact checked.elim
  | softDeleted live =>
      obtain ⟨performedBy, rfl⟩ := Request.mayWrite_softDeleteTicket may
      exact .softDeleted live
  | restored deleted =>
      obtain ⟨performedBy, rfl⟩ := Request.mayWrite_restoreTicket may
      exact .restored deleted
  | unassigned assigned removed =>
      obtain ⟨performedBy, rfl⟩ := Request.mayWrite_deleteUser may
      exact .unassigned assigned

omit [Bcrypt] [Unicode] in
/-- INSERTs keep the tickets that are stored. -/
theorem get?_foldl_create (inputs : List TicketInput) (stored : db.tickets.get? id = some row) :
    (inputs.foldl (fun db input => (TicketsRepository.create input db).2) db).tickets.get? id =
      some row := by
  induction inputs generalizing db with
  | nil => exact stored
  | cons input inputs ih =>
      apply ih
      obtain ⟨row', stored', transition⟩ :=
        ticket_transition (.command (.createTicket input)) stored
      cases transition
      exact stored'

omit [Bcrypt] [Unicode] in
/-- A ticket that INSERTs have added is the row of one of them. -/
theorem created_of_foldl {inputs : List TicketInput} (absent : db.tickets.get? id = none)
    (stored : (inputs.foldl (fun db input => (TicketsRepository.create input db).2) db).tickets.get?
      id = some row) :
    ∃ input due, row = TicketsRepository.createdRow input due db.now id := by
  induction inputs generalizing db with
  | nil =>
      rw [List.foldl_nil, absent] at stored
      cases stored
  | cons input inputs ih =>
      rw [List.foldl_cons] at stored
      cases here : (TicketsRepository.create input db).2.tickets.get? id with
      | none =>
          -- The clock stands still between the INSERTs.
          have now := ((Command.createTicket input).exec_sameOutside db).now
          obtain ⟨input, due, same⟩ := ih here stored
          refine ⟨input, due, ?_⟩
          rw [same]
          exact congrArg (TicketsRepository.createdRow input due · id) now
      | some first =>
          have kept := get?_foldl_create inputs here
          obtain rfl : row = first := Option.some.inj (stored.symm.trans kept)
          have inserted :
              (exec (.command (.createTicket input)) db).2.tickets.get? id = some row := here
          obtain ⟨input, due, -, -, same⟩ := ticket_created absent inserted
          exact ⟨input, due, same⟩

omit [Bcrypt] [Unicode] in
/-- A stored ticket after a cycle, whether that has stopped or not. -/
theorem EscalationService.cycled_ticket (stored : db.tickets.get? id = some row) :
    ∃ row', (cycled db).tickets.get? id = some row' ∧ TicketEffect db .escalate row row' := by
  rw [get?_cycled, stored, Option.map_some]
  refine ⟨_, rfl, ?_⟩
  split_ifs with gotTo
  · have scanned := (List.mem_filter.mp (scanned_of_reached gotTo)).2
    have same : cycledRow db.now row = decidedRow db.now row := if_pos scanned
    exact same ▸ .cycled
  · exact .kept

omit [Postgres] [Bcrypt] [Unicode] in
/-- A cycle adds no ticket. -/
theorem EscalationService.get?_cycled_of_absent (absent : db.tickets.get? id = none) :
    ¬ (cycled db).tickets.get? id = some row := by
  simp [get?_cycled, absent]

/-- **A stored ticket stays stored**, and a request that is served alone changes
it in one of the listed ways. -/
theorem serve_ticket (request : Request) (stored : db.tickets.get? id = some row) :
    ∃ row', (serve request db).2.tickets.get? id = some row' ∧
      TicketEffect db request row row' := by
  have effect := serve_effect request db
  generalize serve request db = outcome at effect
  cases effect with
  | rejected same => exact ⟨row, (Table.get?_congr same.tickets id).trans stored, .kept⟩
  | answered same nothing => exact ⟨row, (Table.get?_congr same.tickets id).trans stored, .kept⟩
  | @performed _ _ write rows after entries checked may primary executed found due =>
      obtain ⟨row', stored', transition⟩ := ticket_transition (.command write) stored
      rw [exec_command, executed] at stored'
      obtain ⟨auditLogs, logged⟩ := Db.foldl_log entries after
      refine ⟨row', ?_, .of_transition transition may checked⟩
      rw [logged]
      exact stored'
  | imported due => exact ⟨row, get?_foldl_create _ stored, .kept⟩
  | escalated onward => exact EscalationService.cycled_ticket stored
  | stopped stops => exact EscalationService.cycled_ticket stored

/-- **A new ticket** is the row of an INSERT. -/
theorem serve_created (absent : db.tickets.get? id = none)
    (stored : (serve request db).2.tickets.get? id = some row) :
    ∃ input due, row = TicketsRepository.createdRow input due db.now id := by
  have effect := serve_effect request db
  generalize serve request db = outcome at effect stored
  cases effect with
  | rejected same =>
      rw [Table.get?_congr same.tickets, absent] at stored
      cases stored
  | answered same nothing =>
      rw [Table.get?_congr same.tickets, absent] at stored
      cases stored
  | @performed _ _ write rows after entries checked may primary executed found due =>
      obtain ⟨auditLogs, logged⟩ := Db.foldl_log entries after
      rw [logged] at stored
      -- The entries add no ticket, so it is the primary write that did.
      have created : (exec (.command write) db).2.tickets.get? id = some row := by
        rw [exec_command, executed]
        exact stored
      obtain ⟨input, instant, -, -, same⟩ := ticket_created absent created
      exact ⟨input, instant, same⟩
  | @imported projectId performedBy records value entry due =>
      change (CsvImportService.imported projectId records db).tickets.get? id = some row at stored
      exact created_of_foldl absent stored
  | escalated onward => exact absurd stored (EscalationService.get?_cycled_of_absent absent)
  | stopped stops => exact absurd stored (EscalationService.get?_cycled_of_absent absent)

/-- A PATCH that succeeds has executed its UPDATE, and logged it. -/
theorem serve_updateTicket_executed {dto : UpdateTicketDto} {performedBy : ℕ}
    {response : Response}
    (succeeded : (serve (.updateTicket id dto performedBy) db).1 = .ok response) :
    ∃ new stored auditLogs,
      TicketsRepository.updateWithVersionCheck id dto.version.toOption dto.toTicketUpdate
        dto.priority.isDefined db = (.ok (some new), stored) ∧
      (serve (.updateTicket id dto performedBy) db).2 = { stored with auditLogs := auditLogs } := by
  have effect := serve_effect (.updateTicket id dto performedBy) db
  generalize serve (.updateTicket id dto performedBy) db = outcome at effect succeeded ⊢
  cases effect with
  | rejected same => cases succeeded
  | answered same nothing => cases nothing
  | @performed _ _ write rows stored entries checked may primary executed found keys =>
      obtain ⟨auditLogs, logged⟩ := Db.foldl_log entries stored
      rcases may with rfl | ⟨input, rfl, -⟩
      · cases rows with
        | none => cases found
        | some new => exact ⟨new, stored, auditLogs, executed, logged⟩
      · cases primary

/-- The tickets after a PATCH that succeeds: the row it has found is written, and
no other one. -/
theorem serve_updateTicket_tickets {dto : UpdateTicketDto} {performedBy : ℕ} {response : Response}
    (succeeded : (serve (.updateTicket id dto performedBy) db).1 = .ok response) :
    ∃ row due, TicketsRepository.findById id db = some row ∧
      dto.version.toOption = some row.version ∧
      TicketsRepository.dueInstant dto.dueDate = .ok due ∧
      TicketsRepository.violatesNotNull dto.toTicketUpdate = false ∧
      versionOverflows row.version = false ∧
      ∀ other, (serve (.updateTicket id dto performedBy) db).2.tickets.get? other =
        if other = id then
          some { TicketsRepository.patchedRow dto.toTicketUpdate due dto.priority.isDefined row with
            updatedAt := db.now }
        else db.tickets.get? other := by
  obtain ⟨new, stored, auditLogs, executed, after⟩ := serve_updateTicket_executed succeeded
  obtain ⟨row, due, found, version, bound, notNull, successor, same, rfl⟩ :=
    TicketsRepository.updateWithVersionCheck_ok executed
  obtain ⟨here, -⟩ := Option.filter_eq_some_iff.mp found
  refine ⟨row, due, found, version, bound, notNull, successor, fun other => ?_⟩
  -- The row is written under the key it was found with.
  have own : row.id = id := Table.key_of_get? here
  have key : Keyed.key new = id := by
    rw [same]
    exact own
  rw [after, ← same]
  show (db.tickets.set new).get? other = _
  rw [Table.get?_set, key]
  by_cases addressed : other = id
  · rw [if_pos addressed, if_pos addressed, addressed, here]
    rfl
  · rw [if_neg addressed, if_neg addressed]

/-- **A PATCH that succeeds** has written the ticket with the expected version. -/
theorem serve_updateTicket_ok {dto : UpdateTicketDto} {performedBy : ℕ} {response : Response}
    (succeeded : (serve (.updateTicket id dto performedBy) db).1 = .ok response) :
    ∃ row due, db.tickets.get? id = some row ∧ row.isLive ∧
      dto.version.toOption = some row.version ∧
      TicketsRepository.dueInstant dto.dueDate = .ok due ∧
      (serve (.updateTicket id dto performedBy) db).2.tickets.get? id = some
        { TicketsRepository.patchedRow dto.toTicketUpdate due dto.priority.isDefined row with
          updatedAt := db.now } := by
  obtain ⟨row, due, found, version, bound, -, -, tickets⟩ := serve_updateTicket_tickets succeeded
  obtain ⟨here, live⟩ := Option.filter_eq_some_iff.mp found
  refine ⟨row, due, here, live, version, bound, ?_⟩
  rw [tickets, if_pos rfl]

end Serving

end IssueFlow
