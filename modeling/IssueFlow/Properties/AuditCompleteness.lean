import IssueFlow.System.AuditBlind
import IssueFlow.System.Cycles
import IssueFlow.System.LastVersion

/-!
# The audit log is complete, and nothing depends on it

A request that succeeds appends exactly the entries that are due to it, and one
that is rejected appends none; only an escalation cycle that stops at a ticket
has logged the tickets it wrote before. A failure to log an entry goes
unnoticed, except in the two transactions on comments, which log inside and are
rolled back.

## Main definitions

* `Request.dueRejected` — the entries due to a request that is rejected
* `dueAlong` — the entries due along a run
* `Plan.FailsAudits`, `Refused` — audit inserts of transactions fail, and the request with them

## Main results

* `serve_appended` — the entries of a request
* `serve_independent`, `serve_refused` — failing audit inserts
* `audit_complete` — both, along every run
* `stopped_cycle_logs` — a request that is rejected and has logged an entry
-/

namespace IssueFlow

open Store Semantics JavaScript

/-! ### The entries of a request -/

/-- The entries due to a request that is rejected: none, except for a cycle that
stops at a ticket and has written those before it. -/
def Request.dueRejected (before after : Db) : Request → List EntryKey
  | escalate =>
      if EscalationService.stops before then
        (before.writtenTickets after).map fun id =>
          ⟨.priorityEscalated, .ticket, id, none, .system⟩
      else []
  | _ => []

section Entries

/-- How many entries were appended is seen in the log. -/
theorem Appended.length_eq {before after : Db} {entries others : List AuditInsert}
    (appended : Appended entries before after) (appended' : Appended others before after) :
    entries.length = others.length := by
  obtain ⟨rows, grown, rfl⟩ := appended
  obtain ⟨rows', grown', rfl⟩ := appended'
  rw [List.append_cancel_left (grown.symm.trans grown')]

variable [Postgres] [Unicode]

/-- Creating tickets logs nothing. -/
theorem imported_auditLogs (projectId : ℕ) (records : List CsvRecord) (db : Db) :
    (CsvImportService.imported projectId records db).auditLogs = db.auditLogs := by
  unfold CsvImportService.imported
  induction CsvImportService.inputs projectId records generalizing db with
  | nil => rfl
  | cons input inputs ih =>
      rw [List.foldl_cons, ih]
      exact ((Command.createTicket input).exec_sameOutside db).auditLogs (by simp [Command.tables])

variable [Bcrypt]

/-- **The entries of a request** are those due to it, whether it succeeds or is
rejected. -/
theorem serve_appended (request : Request) (db : Db) :
    (∀ response after, serve request db = (.ok response, after) →
      ∃ entries, Appended entries db after ∧
        entries.map AuditInsert.key = request.due db after response) ∧
    ∀ exception after, serve request db = (.error exception, after) →
      ∃ entries, Appended entries db after ∧
        entries.map AuditInsert.key = request.dueRejected db after := by
  have effect := serve_effect request db
  generalize serve request db = outcome at effect
  constructor
  · rintro response after rfl
    cases effect with
    | answered same nothing => exact ⟨[], .of_rows_eq same.auditLogs, nothing.symm⟩
    | @performed _ _ write rows stored entries checked may primary executed found due =>
        exact ⟨_, (write.exec_appended executed).trans (Appended.foldl_log entries stored), due⟩
    | @imported projectId performedBy records _ entry due =>
        refine ⟨[entry], ?_, congrArg (fun key => [key]) due⟩
        have nothing : Appended [] db (CsvImportService.imported projectId records db) :=
          .of_rows_eq (congrArg Table.rows (imported_auditLogs projectId records db))
        exact nothing.trans (Appended.log _ entry)
    | escalated onward => exact ⟨_, appended_cycled db, keys_cycleEntries db⟩
  · rintro exception after rfl
    cases effect with
    | rejected same =>
        refine ⟨[], .of_rows_eq same.auditLogs, ?_⟩
        cases request with
        | escalate =>
            -- No ticket differs, so none was written.
            have unwritten : db.writtenTickets after = [] := by
              rw [Db.writtenTickets, List.map_eq_nil_iff, List.filter_eq_nil_iff]
              intro row member
              have stored : db.tickets.get? row.id = some row := Table.get?_key member
              simp [Table.get?_congr same.tickets, stored]
            simp [Request.dueRejected, unwritten]
        | _ => rfl
    | stopped stops =>
        refine ⟨_, appended_cycled db, ?_⟩
        rw [keys_cycleEntries, Request.dueRejected, if_pos stops]

end Entries

/-! ### Failing audit inserts -/

section Independence

variable [Postgres] {plan : Plan}

namespace EscalationService

/-- One ticket of a cycle, in states that agree apart from the audit log. -/
theorem escalate_agree (audits : plan.AuditOnly) (summary : EscalationSummary)
    (ticket : TicketRow) {db : Db} {state : Db × ℕ} (same : state.1.business = db.business) :
    ((escalate summary ticket).run (execUnder plan) state).1 =
        ((escalate summary ticket).run exec db).1 ∧
      ((escalate summary ticket).run (execUnder plan) state).2.1.business =
        ((escalate summary ticket).run exec db).2.business := by
  unfold escalate
  cases decision ticket with
  | none => exact ⟨rfl, same⟩
  | some change =>
      have sent : execUnder plan (.command (.applyEscalation ticket.id change)) state = _ :=
        execUnder_plain audits rfl state
      obtain ⟨answer, kept⟩ := (applyEscalation_business ticket.id change).same same
      simp only [execute, query, Program.call_bind, Program.run_call, sent, exec_command,
        Command.exec]
      generalize TicketsRepository.applyEscalation ticket.id change state.1 = first at answer kept ⊢
      generalize TicketsRepository.applyEscalation ticket.id change db = second at answer kept ⊢
      obtain ⟨result, after⟩ := first
      obtain ⟨result', after'⟩ := second
      obtain rfl : result = result' := answer
      cases result with
      | error error => exact ⟨rfl, kept⟩
      | ok found =>
          cases found with
          | none => exact ⟨rfl, kept⟩
          | some updated => exact (Closing.loggedAndReturned _ _).agree plan kept

theorem escalateAll_agree (audits : plan.AuditOnly) (tickets : List TicketRow)
    (summary : EscalationSummary) {db : Db} {state : Db × ℕ}
    (same : state.1.business = db.business) :
    ((escalateAll summary tickets).run (execUnder plan) state).1 =
        ((escalateAll summary tickets).run exec db).1 ∧
      ((escalateAll summary tickets).run (execUnder plan) state).2.1.business =
        ((escalateAll summary tickets).run exec db).2.business := by
  induction tickets generalizing summary db state with
  | nil => exact ⟨rfl, same⟩
  | cons ticket tickets ih =>
      obtain ⟨answer, kept⟩ := escalate_agree audits summary ticket same
      rw [escalateAll, Program.run_bind, Program.run_bind]
      generalize (escalate summary ticket).run (execUnder plan) state = first at answer kept ⊢
      generalize (escalate summary ticket).run exec db = second at answer kept ⊢
      obtain ⟨result, after⟩ := first
      obtain ⟨result', after'⟩ := second
      obtain rfl : result = result' := answer
      cases result with
      | ok counted => exact ih counted kept
      | error exception => exact ⟨rfl, kept⟩

theorem runOnce_independent : Independent runOnce := by
  intro plan audits state
  have spared : plan.statements state.2 (.select .findOverdueUnresolved) = none := by
    rw [Plan.statements, audits _ _ rfl]
    rfl
  have scan : execUnder plan (.select .findOverdueUnresolved) state =
      (.ok (TicketsRepository.findOverdueUnresolved state.1), state.1, state.2 + 1) := by
    rw [execUnder_select, faulty_none spared]
    rfl
  unfold runOnce
  simp only [select, query, Program.call_bind, Program.run_call, scan]
  exact escalateAll_agree audits _ _ rfl

end EscalationService

/-! ### Comments, which log inside their transactions -/

/-- Every audit insert of a transaction fails. -/
def Plan.FailsAudits (plan : Plan) : Prop :=
  ∀ number input, ∃ error, plan number (.client (.insertAudit input)) = some error

/-- A transaction body that is through has given one of these answers. -/
def AnswersOnly {α : Type} (plan : Plan) (good : α → Prop) (body : Transaction α) : Prop :=
  ∀ state value after, body.run (faulty ClientStatement.exec plan.clients) state =
    (.ok value, after) → good value

section Answers

omit [Postgres]

variable {α β : Type} {good : α → Prop}

theorem AnswersOnly.bind {first : Transaction β} {next : β → Transaction α}
    (rest : ∀ value, AnswersOnly plan good (next value)) :
    AnswersOnly plan good (first >>= next) := by
  intro state value after ran
  rw [Program.run_bind] at ran
  generalize first.run (faulty ClientStatement.exec plan.clients) state = reached at ran
  obtain ⟨result, middle⟩ := reached
  cases result with
  | ok earlier => exact rest earlier middle value after ran
  | error error => cases (Prod.mk.inj ran).1

/-- No body gets past an audit insert that fails. -/
theorem AnswersOnly.audit (fails : plan.FailsAudits) (input : AuditInsert)
    (next : Unit → Transaction α) :
    AnswersOnly plan good ((ClientStatement.insertAudit input).query >>= next) := by
  intro state value after ran
  obtain ⟨error, planned⟩ := fails state.2 input
  have failed : plan.clients state.2 (.insertAudit input) = some (.error error) := by
    rw [Plan.clients, planned]
    rfl
  simp only [ClientStatement.query, Program.call_bind, Program.run_call, faulty, failed] at ran
  cases (Prod.mk.inj ran).1

theorem createWithMentions_answers (fails : plan.FailsAudits) (input : CommentInput)
    (onCommitting : CommentRow → AuditInsert) : AnswersOnly plan (fun _ => False)
      (CommentsRepository.createWithMentions input onCommitting) := by
  apply AnswersOnly.bind
  intro comment
  apply AnswersOnly.bind
  intro _
  exact .audit fails _ _

theorem updateContentAndMentions_answers (fails : plan.FailsAudits) (id : ℕ)
    (expectedVersion : Option ℕ) (content : String) (mentionedUserIds : List ℕ)
    (onCommitting : CommentRow → AuditInsert) : AnswersOnly plan (· = none)
      (CommentsRepository.updateContentAndMentions id expectedVersion content mentionedUserIds
        onCommitting) := by
  apply AnswersOnly.bind
  intro found
  cases found with
  | none =>
      intro state value after ran
      exact (Except.ok.inj (Prod.mk.inj ran).1).symm
  | some updated =>
      apply AnswersOnly.bind
      intro _
      apply AnswersOnly.bind
      intro _
      exact .audit fails _ _

/-- What a whole transaction answers. -/
theorem AnswersOnly.transaction {body : Transaction α} (answers : AnswersOnly plan good body)
    {state : Db × ℕ} {value : α} (committed : (transactionUnder plan body state).1 = .ok value) :
    good value := by
  obtain ⟨number, ran⟩ := transactionUnder_committed committed
  exact answers _ _ _ ran

end Answers

/-- Rejected, with every row left as it was. -/
def Refused {α : Type} (plan : Plan) (p : Service α) : Prop :=
  ∀ state, ∃ exception after, p.run (execUnder plan) state = (.error exception, after) ∧
    SameRows state.1 after.1

section Refused

variable {α β : Type}

theorem Refused.throw (exception : Exception) :
    Refused plan (.done (.error exception) : Service α) :=
  fun state => ⟨exception, state, rfl, .refl _⟩

/-- A part that only reads comes first. -/
theorem Refused.first {p : Service β} {next : β → Service α} (only : p.Only IsRead)
    (rest : ∀ value, Refused plan (next value)) : Refused plan (p >>= next) := by
  intro state
  have kept := run_reads_under plan only state
  rw [Program.run_bind]
  generalize p.run (execUnder plan) state = reached at kept ⊢
  obtain ⟨result, middle⟩ := reached
  obtain ⟨db, number⟩ := middle
  obtain rfl : db = state.1 := kept
  cases result with
  | ok value => exact rest value (state.1, number)
  | error exception => exact ⟨exception, _, rfl, .refl _⟩

/-- A write that fails or misses comes next. -/
theorem Refused.write {write : Command} {next : write.Rows → Service α}
    (misses : ∀ state, write.missed (execUnder plan (.command write) state).1 = true)
    (rest : ∀ rows, write.foundNone rows = true → Refused plan (next rows)) :
    Refused plan (execute write >>= next) := by
  intro state
  have same := execUnder_sameRows plan write state (misses state)
  have missed := misses state
  simp only [execute, query, Program.call_bind, Program.run_call]
  generalize execUnder plan (.command write) state = answered at same missed ⊢
  obtain ⟨answer, middle⟩ := answered
  cases answer with
  | error error => exact ⟨_, _, rfl, same⟩
  | ok rows =>
      obtain ⟨exception, after, ran, later⟩ := rest rows missed middle
      exact ⟨exception, after, ran, same.trans later⟩

end Refused

namespace CommentsService

theorem create_refused (fails : plan.FailsAudits) (ticketId : ℕ) (dto : CreateCommentDto)
    (performedBy : ℕ) : Refused plan (create ticketId dto performedBy) := by
  unfold create
  apply Refused.first (TicketsService.getOrThrow_reads _)
  intro ticket
  apply Refused.first (UsersService.findById_reads _)
  intro author
  apply Refused.first (resolveMentions_reads _)
  intro mentionedUserIds
  apply Refused.write
  · intro state
    simp only [execUnder]
    cases answered :
        (transactionUnder plan (CommentsRepository.createWithMentions _ _) state).1 with
    | error error => rfl
    | ok comment => exact ((createWithMentions_answers fails _ _).transaction answered).elim
  · intro comment none
    cases none

theorem update_refused (fails : plan.FailsAudits) (ticketId commentId : ℕ)
    (dto : UpdateCommentDto) (performedBy : ℕ) :
    Refused plan (update ticketId commentId dto performedBy) := by
  unfold update
  split_ifs
  · exact .throw _
  apply Refused.first (getOrThrow_reads _)
  intro existing
  split_ifs
  · exact .throw _
  apply Refused.first (resolveMentions_reads _)
  intro mentionedUserIds
  apply Refused.write
  · intro state
    simp only [execUnder]
    cases answered : (transactionUnder plan
      (CommentsRepository.updateContentAndMentions _ _ _ _ _) state).1 with
    | error error => rfl
    | ok found =>
        obtain rfl := (updateContentAndMentions_answers fails _ _ _ _ _).transaction answered
        rfl
  · intro found none
    cases found with
    | none => exact .first (read_only _) fun live => .throw _
    | some updated => cases none

end CommentsService

end Independence

/-! ### Whole runs -/

section Runs

variable [Postgres] [Bcrypt] [Unicode]

/-- The requests that log inside a transaction. -/
def Request.logsInside : Request → Bool
  | createComment .. | updateComment .. => true
  | _ => false

/-- The entries due to an input. -/
def Input.due (db : Db) : Input → List EntryKey
  | .request sent =>
      match serve sent db with
      | (.ok response, after) => sent.due db after response
      | (.error _, after) => sent.dueRejected db after
  | .advance _ => []

/-- The entries due along a sequence of inputs. -/
def dueAlong : List Input → Db → List EntryKey
  | [], _ => []
  | input :: inputs, db => input.due db ++ dueAlong inputs (input.apply db)

/-- An input appends the entries due to it. -/
theorem apply_appended (input : Input) (db : Db) :
    ∃ entries, Appended entries db (input.apply db) ∧
      entries.map AuditInsert.key = input.due db := by
  cases input with
  | advance elapsed => exact ⟨[], .of_rows_eq rfl, rfl⟩
  | request sent =>
      obtain ⟨succeeds, fails⟩ := serve_appended sent db
      simp only [Input.apply, Input.due]
      generalize serve sent db = outcome at succeeds fails ⊢
      obtain ⟨result, after⟩ := outcome
      cases result with
      | ok response => exact succeeds response after rfl
      | error exception => exact fails exception after rfl

theorem serveAll_appended (inputs : List Input) (db : Db) :
    ∃ entries, Appended entries db (serveAll inputs db) ∧
      entries.map AuditInsert.key = dueAlong inputs db := by
  induction inputs generalizing db with
  | nil => exact ⟨[], .of_rows_eq rfl, rfl⟩
  | cons input inputs ih =>
      obtain ⟨first, appended, keys⟩ := apply_appended input db
      obtain ⟨later, appended', keys'⟩ := ih (input.apply db)
      refine ⟨first ++ later, appended.trans appended', ?_⟩
      rw [List.map_append, keys, keys', dueAlong]

/-- **A failing audit insert goes unnoticed**, except inside a transaction. -/
theorem serve_independent {plan : Plan} (audits : plan.AuditOnly) {request : Request}
    (outside : request.logsInside = false) (db : Db) :
    (serveUnder plan request db).1 = (serve request db).1 ∧
      (serveUnder plan request db).2.1.business = (serve request db).2.business := by
  have independent : Independent (request.program (walkFuel db)) := by
    cases shaped : request.isShaped with
    | true =>
        obtain ⟨α, p, wrap, program, shape⟩ := request.shape shaped (walkFuel db)
        rw [program]
        exact shape.independent.map wrap
    | false =>
        cases request with
        | escalate => exact EscalationService.runOnce_independent.map _
        | createComment | updateComment => cases outside
        | _ => cases shaped
  exact independent plan audits (db, 0)

omit [Bcrypt] [Unicode] in
theorem refused_map {α : Type} {plan : Plan} {p : Service α} (refused : Refused plan p)
    (wrap : α → Response) : Refused plan (wrap <$> p) := by
  intro state
  obtain ⟨exception, after, ran, same⟩ := refused state
  rw [Program.run_map, ran]
  exact ⟨exception, after, rfl, same⟩

/-- A comment that cannot be logged is not stored. -/
theorem serve_refused {plan : Plan} (fails : plan.FailsAudits) {request : Request}
    (inside : request.logsInside = true) (db : Db) :
    ∃ exception after, serveUnder plan request db = (.error exception, after) ∧
      SameRows db after.1 := by
  have refused : Refused plan (request.program (walkFuel db)) := by
    cases request with
    | createComment ticketId dto performedBy =>
        exact refused_map (CommentsService.create_refused fails ticketId dto performedBy) _
    | updateComment ticketId commentId dto performedBy =>
        exact refused_map
          (CommentsService.update_refused fails ticketId commentId dto performedBy) _
    | _ => cases inside
  exact refused (db, 0)

/-- **The audit log is complete, and nothing depends on it.** Along every
sequence of requests each request that succeeds appends the entries due to it.
One that is rejected appends none, unless it is a cycle that stops, which has
appended the entries of the tickets it wrote. In every state that is reached,
audit inserts that fail change neither the answer to a request nor anything but
the audit log, except for the two requests that log inside a transaction: these
are rejected and store nothing. -/
theorem audit_complete (inputs : List Input) (start : Db) :
    (∃ entries, Appended entries start (serveAll inputs start) ∧
      entries.map AuditInsert.key = dueAlong inputs start) ∧
    ∀ request,
      let db := serveAll inputs start
      ((∀ response after, serve request db = (.ok response, after) →
          ∃ entries, Appended entries db after ∧
            entries.map AuditInsert.key = request.due db after response) ∧
        ∀ exception after, serve request db = (.error exception, after) →
          ∃ entries, Appended entries db after ∧
            entries.map AuditInsert.key = request.dueRejected db after) ∧
      (∀ plan : Plan, plan.AuditOnly → request.logsInside = false →
        (serveUnder plan request db).1 = (serve request db).1 ∧
          (serveUnder plan request db).2.1.business = (serve request db).2.business) ∧
      ∀ plan : Plan, plan.FailsAudits → request.logsInside = true →
        ∃ exception after, serveUnder plan request db = (.error exception, after) ∧
          SameRows db after.1 := by
  refine ⟨serveAll_appended inputs start, fun request => ⟨serve_appended request _, ?_, ?_⟩⟩
  · intro plan audits outside
    exact serve_independent audits outside _
  · intro plan fails inside
    exact serve_refused fails inside _

end Runs

/-! ### A cycle that stops after it has logged a ticket -/

section Example

open Sample

/-- Two tickets that are due after one second. -/
def dueTickets : Db := serveAll (setup ++ [dueTicket, dueTicket]) Db.empty

/-- The second one is raised to the last `INTEGER`, and then both are overdue. -/
def overdueTickets : List Input :=
  setup ++ [dueTicket, dueTicket] ++ retitles 2 "Ticket" 1 1 2147483646 ++ [.advance 2000]

/-- The second ticket, with some version. -/
def secondTicket (version : ℕ) : TicketRow :=
  ⟨2, "Ticket", none, .todo, .medium, .bug, 1, none, some 1000, false, version, none, 0, 0⟩

/-- That state, apart from the audit log. -/
def raisedTickets : Db :=
  advance 2000 { dueTickets with tickets := dueTickets.tickets.set (secondTicket MAX_INTEGER) }

theorem serveAll_overdueTickets : ∃ logs,
    serveAll overdueTickets Db.empty = { raisedTickets with auditLogs := logs } := by
  have found : TicketsRepository.findById 2 dueTickets = some (secondTicket 1) := by
    decide +kernel
  obtain ⟨logs, reached⟩ := serveAll_retitles 1 2147483646 found (by decide) (by decide +kernel)
    (by decide)
  refine ⟨logs, ?_⟩
  rw [overdueTickets, serveAll_append, serveAll_append]
  exact congrArg (advance 2000) reached

/-- **Not every request that is rejected has logged nothing**: a cycle has logged
the first ticket when it stops at the second. -/
theorem stopped_cycle_logs :
    ¬ ∀ (inputs : List Input) (request : Request) (exception : Exception) (after : Db),
      serve request (serveAll inputs Db.empty) = (.error exception, after) →
        Appended [] (serveAll inputs Db.empty) after := by
  intro all
  obtain ⟨logs, reached⟩ := serveAll_overdueTickets
  -- What a cycle does depends on the tickets and the clock only.
  have stops : EscalationService.stops (serveAll overdueTickets Db.empty) = true := by
    have looked : EscalationService.stops raisedTickets = true := by decide +kernel
    rw [reached]
    exact looked
  have logged : (cycleEntries (serveAll overdueTickets Db.empty)).length = 1 := by
    have looked : (cycleEntries raisedTickets).length = 1 := by decide +kernel
    rw [reached]
    exact looked
  have nothing := all overdueTickets .escalate _ _ (serve_escalate_of_stops stops)
  have same := nothing.length_eq (appended_cycled _)
  rw [logged] at same
  cases same

end Example

end IssueFlow
