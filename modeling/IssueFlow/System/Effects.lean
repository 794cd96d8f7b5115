import IssueFlow.Database.Effects
import IssueFlow.System.Writes

/-!
# Requests that are served alone

What a request does as a whole when nothing runs in between: it is rejected and
leaves every row as it was, or it makes the one write it is about and logs the
entries that are due. The import and the escalation cycle make several writes;
they have closed forms. A cycle stops at a ticket whose version cannot be raised.

## Main definitions

* `EntryKey`, `Request.due` — what an audit entry names, and the entries due to a request
* `Request.Checked` — what a request has checked before its write
* `Effect` — the outcomes of a request

## Main results

* `serve_effect` — every request has one of these outcomes
-/

namespace IssueFlow

open Store Semantics JavaScript

/-! ### Entries that are due -/

/-- What an audit entry says, apart from its metadata. -/
structure EntryKey where
  action : AuditAction
  entityType : AuditEntity
  entityId : ℕ
  performedBy : Option ℕ
  actor : AuditActor
  deriving DecidableEq, Repr

def AuditInsert.key (entry : AuditInsert) : EntryKey :=
  ⟨entry.action, entry.entityType, entry.entityId, entry.performedBy, entry.actor⟩

/-- An entry of a user. -/
def EntryKey.byUser (action : AuditAction) (entityType : AuditEntity) (entityId performedBy : ℕ) :
    EntryKey :=
  ⟨action, entityType, entityId, some performedBy, .user⟩

/-- The tickets that differ in a later state. -/
def Db.writtenTickets (before after : Db) : List ℕ :=
  (before.tickets.rows.filter fun row => after.tickets.get? row.id ≠ some row).map (·.id)

/-- The audit entries due to a request that has succeeded with a response. -/
def Request.due (before after : Db) : Request → Response → List EntryKey
  | createUser _ performedBy _, .user created =>
      [.byUser .create .user created.id (performedBy.getD created.id)]
  | updateUser id _ performedBy, _ => [.byUser .update .user id performedBy]
  | deleteUser id performedBy, _ => [.byUser .delete .user id performedBy]
  | createProject _ performedBy, .project created =>
      [.byUser .create .project created.id performedBy]
  | updateProject id _ performedBy, _ => [.byUser .update .project id performedBy]
  | softDeleteProject id performedBy, _ => [.byUser .delete .project id performedBy]
  | restoreProject id performedBy, _ => [.byUser .restore .project id performedBy]
  | createTicket dto performedBy, .ticket created =>
      .byUser .create .ticket created.id performedBy ::
        -- The system has chosen the assignee.
        if !dto.assigneeId.isDefined && created.assigneeId.isSome then
          [⟨.autoAssign, .ticket, created.id, none, .system⟩]
        else []
  | updateTicket id _ performedBy, _ => [.byUser .update .ticket id performedBy]
  | softDeleteTicket id performedBy, _ => [.byUser .delete .ticket id performedBy]
  | restoreTicket id performedBy, _ => [.byUser .restore .ticket id performedBy]
  | importTickets projectId _ performedBy, _ => [.byUser .create .project projectId performedBy]
  | addDependency ticketId blockerId performedBy, _ =>
      -- Nothing is due when the dependency was there before.
      if before.blockedBy ticketId blockerId then []
      else [.byUser .create .dependency ticketId performedBy]
  | removeDependency ticketId _ performedBy, _ => [.byUser .delete .dependency ticketId performedBy]
  | escalate, _ =>
      (before.writtenTickets after).map fun id => ⟨.priorityEscalated, .ticket, id, none, .system⟩
  | createComment _ _ performedBy, .comment created =>
      [.byUser .create .comment created.id performedBy]
  | updateComment _ id _ performedBy, _ => [.byUser .update .comment id performedBy]
  | deleteComment _ id performedBy, _ => [.byUser .delete .comment id performedBy]
  | uploadAttachment _ _ uploaderId _ _, .attachment created =>
      [.byUser .create .attachment created.id uploaderId]
  | deleteAttachment _ id performedBy, _ => [.byUser .delete .attachment id performedBy]
  | _, _ => []

/-! ### Checks -/

section Serving

variable [Postgres]

/-- What a request with a single write has found when it makes it. -/
def Request.Checked (db : Db) : Request → Prop
  -- These make no write, or any number of them.
  | importTickets .. | escalate | login .. | authenticate _ => False
  | updateUser id .. | deleteUser id _ => (db.users.get? id).isSome
  | createProject dto _ => (db.users.get? dto.ownerId).isSome
  | updateProject id .. | softDeleteProject id _ => (ProjectsRepository.findById id db).isSome
  | restoreProject id _ => ∃ row, db.projects.get? id = some row ∧ row.isLive = false
  | createTicket dto _ => (ProjectsRepository.findById dto.projectId db).isSome
  | updateTicket id dto _ =>
      ∃ before, TicketsRepository.findById id db = some before ∧ before.status ≠ .done ∧
        TicketsService.isIllegalTransition before.status dto.status = false ∧
        (dto.status = .value .done → db.Unblocked id)
  | softDeleteTicket id _ => (TicketsRepository.findById id db).isSome
  | restoreTicket id _ => ∃ row, db.tickets.get? id = some row ∧ row.isLive = false
  | addDependency ticketId blockerId _ =>
      ticketId ≠ blockerId ∧ ∃ ticket blocker,
        TicketsRepository.findById ticketId db = some ticket ∧
        TicketsRepository.findById blockerId db = some blocker ∧
        ticket.projectId = blocker.projectId
  | createComment ticketId dto _ =>
      (TicketsRepository.findById ticketId db).isSome ∧ (db.users.get? dto.authorId).isSome
  | updateComment ticketId id .. | deleteComment ticketId id _ =>
      ∃ existing, db.comments.get? id = some existing ∧ existing.ticketId = ticketId
  | uploadAttachment ticketId .. => (TicketsRepository.findById ticketId db).isSome
  | deleteAttachment ticketId id _ =>
      ∃ row, db.attachments.get? id = some row ∧ row.ticketId = ticketId
  | _ => True

/-! ### Closed forms of the loops -/

section Import

variable [Unicode]

/-- The tickets a record list asks for, those that are not valid left out. -/
def CsvImportService.inputs (projectId : ℕ) (records : List CsvRecord) : List TicketInput :=
  records.filterMap fun raw => (validateRow projectId raw).toOption

/-- The database after the tickets of a record list were inserted. -/
def CsvImportService.imported (projectId : ℕ) (records : List CsvRecord) (db : Db) : Db :=
  (inputs projectId records).foldl (fun db input => (TicketsRepository.create input db).2) db

end Import

/-- The database after a decision about a ticket was written and logged. -/
def EscalationService.escalated (db : Db) (ticket : TicketRow) : Db :=
  match decision ticket with
  | none => db
  | some change =>
      let new := { TicketsRepository.escalatedRow change ticket with updatedAt := db.now }
      Db.log { db with tickets := db.tickets.set new } (escalationEntry ticket change)

/-- Does the write that is decided for a ticket fail? Its version is the last one. -/
def EscalationService.stopsAt (ticket : TicketRow) : Bool :=
  (decision ticket).isSome && versionOverflows ticket.version

/-- The scanned tickets that a cycle gets to: those before one it stops at. -/
def EscalationService.reached (db : Db) : List TicketRow :=
  (TicketsRepository.findOverdueUnresolved db).takeWhile fun ticket => !stopsAt ticket

/-- Does a cycle stop at one of the tickets it scans? -/
def EscalationService.stops (db : Db) : Bool :=
  (TicketsRepository.findOverdueUnresolved db).any stopsAt

/-- The database after a cycle. -/
def EscalationService.cycled (db : Db) : Db := (reached db).foldl escalated db

/-! ### Outcomes -/

variable [Unicode]

/-- The outcomes of a request, or of a part of its program, on a database. The
value of a part is wrapped to the response of the request. -/
inductive Effect {α : Type} (wrap : α → Response) (db : Db) :
    Request → Except Exception α × Db → Prop
  | rejected {request : Request} {exception : Exception} {after : Db} (same : SameRows db after) :
      Effect wrap db request (.error exception, after)
  | answered {request : Request} {value : α} {after : Db} (same : SameRows db after)
      (nothing : request.due db after (wrap value) = []) :
      Effect wrap db request (.ok value, after)
  | performed {request : Request} {value : α} {write : Command} {rows : write.Rows} {stored : Db}
      {entries : List AuditInsert} (checked : request.Checked db) (may : request.MayWrite write)
      (primary : write.isAudit = false) (executed : write.exec db = (.ok rows, stored))
      (found : write.foundNone rows = false)
      (due : (write.entries rows ++ entries).map AuditInsert.key =
        request.due db (entries.foldl Db.log stored) (wrap value)) :
      Effect wrap db request (.ok value, entries.foldl Db.log stored)
  | imported {projectId performedBy : ℕ} {records : List CsvRecord} {value : α}
      {entry : AuditInsert}
      (due : entry.key = .byUser .create .project projectId performedBy) :
      Effect wrap db (.importTickets projectId (.ok records) performedBy)
        (.ok value, (CsvImportService.imported projectId records db).log entry)
  | escalated {value : α} (onward : EscalationService.stops db = false) :
      Effect wrap db .escalate (.ok value, EscalationService.cycled db)
  | stopped (stops : EscalationService.stops db = true) :
      Effect wrap db .escalate
        (.error (.database .numericValueOutOfRange), EscalationService.cycled db)

/-! ### Rules -/

section Rules

variable {α β : Type} {wrap : α → Response} {db : Db} {request : Request}

omit [Unicode] in
/-- A part that only reads leaves the state. -/
theorem run_reads {p : Service α} (only : p.Only IsRead) (db : Db) : (p.run exec db).2 = db := by
  induction p with
  | done result => rfl
  | call statement next ih =>
      obtain ⟨⟨read, rfl⟩, rest⟩ := only
      exact ih _ (rest _)

/-- A part that only reads comes first: if it throws, the request is rejected. -/
theorem Effect.reads {p : Service β} {next : β → Service α} (only : p.Only IsRead)
    (rest : ∀ value, (p.run exec db).1 = .ok value →
      Effect wrap db request ((next value).run exec db)) :
    Effect wrap db request ((p >>= next).run exec db) := by
  have kept := run_reads only db
  rw [Program.run_bind]
  generalize p.run exec db = reached at kept rest ⊢
  obtain ⟨result, after⟩ := reached
  cases kept
  cases result with
  | ok value => exact rest value rfl
  | error exception => exact .rejected (.refl _)

/-- A write comes next: if it fails, the request is rejected. -/
theorem Effect.write {write : Command} {next : write.Rows → Service α}
    (rest : ∀ rows after, write.exec db = (.ok rows, after) →
      (write.foundNone rows = true → SameRows db after) →
      Effect wrap db request ((next rows).run exec after)) :
    Effect wrap db request ((execute write >>= next).run exec db) := by
  rw [run_execute]
  have missed := write.exec_sameRows db
  generalize answered : write.exec db = answer at missed ⊢
  obtain ⟨result, after⟩ := answer
  cases result with
  | ok rows => exact rest rows after answered missed
  | error error => exact .rejected (missed rfl)

/-- A request that makes its write and logs an entry, and perhaps more. -/
theorem Effect.logged_cons {value : α} {write : Command} {rows : write.Rows} {stored : Db}
    {entry : AuditInsert} (entries : List AuditInsert) (checked : request.Checked db)
    (may : request.MayWrite write) (primary : write.isAudit = false)
    (executed : write.exec db = (.ok rows, stored)) (found : write.foundNone rows = false)
    (due : (write.entries rows ++ entry :: entries).map AuditInsert.key =
      request.due db (entries.foldl Db.log (stored.log entry)) (wrap value)) :
    Effect wrap db request (.ok value, entries.foldl Db.log (stored.log entry)) :=
  show Effect wrap db request (.ok value, (entry :: entries).foldl Db.log stored) from
    .performed checked may primary executed found due

/-- A request that makes its write and logs one entry. -/
theorem Effect.logged {value : α} {write : Command} {rows : write.Rows} {stored : Db}
    {entry : AuditInsert} (checked : request.Checked db) (may : request.MayWrite write)
    (primary : write.isAudit = false) (executed : write.exec db = (.ok rows, stored))
    (found : write.foundNone rows = false)
    (due : (write.entries rows ++ [entry]).map AuditInsert.key =
      request.due db (stored.log entry) (wrap value)) :
    Effect wrap db request (.ok value, stored.log entry) :=
  .logged_cons [] checked may primary executed found due

/-- A request that makes its write and logs nothing of its own. -/
theorem Effect.wrote {value : α} {write : Command} {rows : write.Rows} {stored : Db}
    (checked : request.Checked db) (may : request.MayWrite write)
    (primary : write.isAudit = false) (executed : write.exec db = (.ok rows, stored))
    (found : write.foundNone rows = false)
    (due : (write.entries rows).map AuditInsert.key = request.due db stored (wrap value)) :
    Effect wrap db request (.ok value, stored) := by
  have performed : Effect wrap db request (.ok value, [].foldl Db.log stored) :=
    .performed checked may primary executed found (by rwa [List.append_nil])
  exact performed

end Rules

/-! ### Lookups -/

section Lookups

omit [Unicode]

variable {db : Db}

theorem UsersService.getOrThrow_run {id : Option ℕ} {row : UserRow}
    (returned : ((getOrThrow id).run exec db).1 = .ok row) :
    UsersRepository.findById id db = some row := by
  unfold getOrThrow at returned
  rw [run_select] at returned
  simp only [Query.eval] at returned
  cases found : UsersRepository.findById id db with
  | none =>
      rw [found] at returned
      cases returned
  | some user =>
      rw [found] at returned
      cases returned
      rfl

theorem UsersService.findById_run {id : Option ℕ} {response : UserResponse}
    (returned : ((findById id).run exec db).1 = .ok response) :
    (UsersRepository.findById id db).isSome := by
  unfold findById at returned
  obtain ⟨row, middle, reached, -⟩ := Program.run_bind_eq_ok exec (Prod.ext returned rfl)
  rw [UsersService.getOrThrow_run (congrArg Prod.fst reached)]
  rfl

theorem ProjectsService.getOrThrow_run {id : ℕ} {row : ProjectRow}
    (returned : ((getOrThrow id).run exec db).1 = .ok row) :
    ProjectsRepository.findById id db = some row := by
  unfold getOrThrow at returned
  rw [run_select] at returned
  simp only [Query.eval] at returned
  cases found : ProjectsRepository.findById id db with
  | none =>
      rw [found] at returned
      cases returned
  | some project =>
      rw [found] at returned
      cases returned
      rfl

theorem ProjectsService.assertExists_run {id : ℕ}
    (returned : ((assertExists id).run exec db).1 = .ok ()) :
    (ProjectsRepository.findById id db).isSome := by
  unfold assertExists at returned
  obtain ⟨row, middle, reached, -⟩ := Program.run_bind_eq_ok exec (Prod.ext returned rfl)
  rw [ProjectsService.getOrThrow_run (congrArg Prod.fst reached)]
  rfl

theorem TicketsService.getOrThrow_run {id : ℕ} {row : TicketRow}
    (returned : ((getOrThrow id).run exec db).1 = .ok row) :
    TicketsRepository.findById id db = some row := by
  unfold getOrThrow at returned
  rw [run_select] at returned
  simp only [Query.eval] at returned
  cases found : TicketsRepository.findById id db with
  | none =>
      rw [found] at returned
      cases returned
  | some ticket =>
      rw [found] at returned
      cases returned
      rfl

theorem TicketsService.assertNoUnresolvedBlockers_run {id : ℕ} {status : Field TicketStatus}
    (returned : ((assertNoUnresolvedBlockers id status).run exec db).1 = .ok ())
    (isDone : status = .value .done) : db.Unblocked id := by
  unfold assertNoUnresolvedBlockers at returned
  rw [if_pos isDone, run_select] at returned
  split_ifs at returned with unresolved
  · cases returned
  · exact DependenciesRepository.countUnresolvedBlockers_eq_zero.mp
      (Nat.eq_zero_of_not_pos unresolved)

theorem CommentsService.getOrThrow_run {id : ℕ} {row : CommentRow}
    (returned : ((getOrThrow id).run exec db).1 = .ok row) :
    db.comments.get? id = some row := by
  unfold getOrThrow at returned
  rw [run_select] at returned
  simp only [Query.eval, CommentsRepository.findById] at returned
  cases found : db.comments.get? id with
  | none =>
      rw [found] at returned
      cases returned
  | some comment =>
      rw [found] at returned
      cases returned
      rfl

end Lookups

/-! ### Users -/

section Users

variable (id performedBy : ℕ) (db : Db)

namespace UsersService

theorem create_effect [Bcrypt] (dto : CreateUserDto) (creator : Option ℕ) (salt : String) :
    Effect Response.user db (.createUser dto creator salt)
      ((create dto creator salt).run exec db) := by
  unfold create
  rw [run_select]
  split_ifs
  · exact .rejected (.refl db)
  have hashed : (hashPassword dto.password salt).Only IsRead := by
    unfold hashPassword
    cases dto.password <;> trivial
  apply Effect.reads hashed
  intro passwordHash _
  apply Effect.write
  intro row stored executed _
  rw [AuditService.run_log]
  exact .logged trivial (.inl ⟨_, rfl⟩) rfl executed rfl rfl

theorem update_effect (dto : UpdateUserDto) :
    Effect Response.user db (.updateUser id dto performedBy)
      ((update id dto performedBy).run exec db) := by
  unfold update
  split_ifs
  · exact .rejected (.refl db)
  apply Effect.reads (getOrThrow_reads _)
  intro before returned
  have found : db.users.get? id = some before := getOrThrow_run returned
  apply Effect.write
  intro rows stored executed missed
  cases rows with
  | none => exact .rejected (missed rfl)
  | some updated =>
      rw [AuditService.run_log]
      exact .logged (Option.isSome_of_mem found) (.inl rfl) rfl executed rfl rfl

theorem delete_effect :
    Effect (fun _ => .none) db (.deleteUser id performedBy)
      ((delete id performedBy).run exec db) := by
  unfold delete
  apply Effect.reads (getOrThrow_reads _)
  intro before returned
  have found : db.users.get? id = some before := getOrThrow_run returned
  apply Effect.write
  intro deleted stored executed missed
  cases deleted with
  | false => exact .rejected (missed rfl)
  | true => exact .logged (Option.isSome_of_mem found) (.inl rfl) rfl executed rfl rfl

end UsersService

/-! ### Projects -/

namespace ProjectsService

theorem create_effect (dto : CreateProjectDto) :
    Effect Response.project db (.createProject dto performedBy)
      ((create dto performedBy).run exec db) := by
  unfold create
  apply Effect.reads (UsersService.findById_reads _)
  intro owner returned
  have found : (db.users.get? dto.ownerId).isSome := UsersService.findById_run returned
  apply Effect.write
  intro row stored executed _
  rw [AuditService.run_log]
  exact .logged found (.inl rfl) rfl executed rfl rfl

theorem update_effect (dto : UpdateProjectDto) :
    Effect Response.project db (.updateProject id dto performedBy)
      ((update id dto performedBy).run exec db) := by
  unfold update
  split_ifs
  · exact .rejected (.refl db)
  apply Effect.reads (getOrThrow_reads _)
  intro before returned
  have found := getOrThrow_run returned
  apply Effect.write
  intro rows stored executed missed
  cases rows with
  | none => exact .rejected (missed rfl)
  | some updated =>
      rw [AuditService.run_log]
      exact .logged (Option.isSome_of_mem found) (.inl rfl) rfl executed rfl rfl

theorem softDelete_effect :
    Effect (fun _ => .none) db (.softDeleteProject id performedBy)
      ((softDelete id performedBy).run exec db) := by
  unfold softDelete
  apply Effect.reads (getOrThrow_reads _)
  intro before returned
  have found := getOrThrow_run returned
  apply Effect.write
  intro deleted stored executed missed
  cases deleted with
  | false => exact .rejected (missed rfl)
  | true => exact .logged (Option.isSome_of_mem found) (.inl rfl) rfl executed rfl rfl

theorem restore_effect :
    Effect (fun _ => .none) db (.restoreProject id performedBy)
      ((restore id performedBy).run exec db) := by
  unfold restore
  rw [run_select]
  simp only [Query.eval, ProjectsRepository.findByIdAnyState]
  cases found : db.projects.get? id with
  | none => exact .rejected (.refl db)
  | some existing =>
      simp only
      split_ifs with live
      · exact .rejected (.refl db)
      apply Effect.write
      intro restored stored executed _
      have deleted : existing.isLive = false := Bool.eq_false_of_not_eq_true live
      exact .logged ⟨existing, found, deleted⟩ (.inl rfl) rfl executed rfl rfl

end ProjectsService

/-! ### Tickets -/

namespace TicketsService

omit [Unicode] in
/-- The entry about an assignment the system made is the last thing a creation
does. -/
theorem logAutoAssign_run {α : Type} (ticketId : ℕ) (assignee : Option ℕ) (value : α) :
    ∃ entries : List AuditInsert,
      (do logAutoAssign ticketId assignee; return value : Service α).run exec db =
        (.ok value, entries.foldl Db.log db) ∧
      entries.map AuditInsert.key =
        if assignee.isSome then [⟨.autoAssign, .ticket, ticketId, none, .system⟩] else [] := by
  cases assignee with
  | none => exact ⟨[], rfl, rfl⟩
  | some assignee => exact ⟨[_], rfl, rfl⟩

omit [Unicode] in
/-- The system chooses an assignee exactly when none is supplied. -/
theorem autoAssign_run {dto : CreateTicketDto} {assignee : Option ℕ}
    (returned : ((autoAssign dto).run exec db).1 = .ok assignee) :
    assignee = if dto.assigneeId.isDefined then none
      else (TicketsRepository.workloadByProject dto.projectId db).head?.map (·.userId) := by
  unfold autoAssign at returned
  split_ifs at returned ⊢
  · exact (Except.ok.inj returned).symm
  · exact (Except.ok.inj returned).symm

omit [Postgres] [Unicode] in
/-- The system's choice is the assignee of the ticket. -/
theorem effectiveAssignee_undefined {dto : CreateTicketDto} (assignee : Option ℕ)
    (undefined : dto.assigneeId = .undefined) :
    (effectiveAssignee dto assignee).toOption = assignee := by
  cases assignee <;> simp [effectiveAssignee, undefined, Field.toOption]

theorem create_effect (dto : CreateTicketDto) :
    Effect Response.ticket db (.createTicket dto performedBy)
      ((create dto performedBy).run exec db) := by
  unfold create
  apply Effect.reads (ProjectsService.assertExists_reads _)
  intro _ returned
  have project := ProjectsService.assertExists_run returned
  apply Effect.reads (assertAssigneeExists_reads _)
  intro _ _
  apply Effect.reads (autoAssign_reads _)
  intro assignee chosen
  apply Effect.write
  intro row stored executed _
  rw [AuditService.run_log]
  obtain ⟨entries, run, keys⟩ := logAutoAssign_run (AuditRepository.insert _ stored).2 row.id
    assignee (toTicketResponse row)
  rw [run]
  -- The second entry is due exactly when the system has chosen somebody.
  have due : (!dto.assigneeId.isDefined && row.assigneeId.isSome) = assignee.isSome := by
    have choice := autoAssign_run db chosen
    obtain ⟨instant, -, created, -⟩ := TicketsRepository.create_ok executed
    cases supplied : dto.assigneeId with
    | undefined =>
        have assigned : row.assigneeId = assignee := by
          rw [created]
          exact effectiveAssignee_undefined assignee supplied
        rw [assigned]
        rfl
    | null =>
        rw [choice, supplied]
        rfl
    | value given =>
        rw [choice, supplied]
        rfl
  refine .logged_cons entries project (.inl ⟨_, rfl⟩) rfl executed rfl ?_
  show _ :: entries.map AuditInsert.key = _
  rw [keys, ← due]
  rfl

/-- The UPDATE of a PATCH and what follows it. -/
theorem finishUpdate_effect {id : ℕ} {dto : UpdateTicketDto} {before : TicketRow}
    (checked : (Request.updateTicket id dto performedBy).Checked db) :
    Effect Response.ticket db (.updateTicket id dto performedBy)
      ((execute (.updateWithVersionCheck id dto.version.toOption dto.toTicketUpdate
        dto.priority.isDefined) >>= finishUpdate id dto performedBy before).run exec db) := by
  apply Effect.write
  intro rows stored executed missed
  cases rows with
  | none => exact .rejected (missed rfl)
  | some updated => exact .logged checked (.inl rfl) rfl executed rfl rfl

theorem update_effect (dto : UpdateTicketDto) :
    Effect Response.ticket db (.updateTicket id dto performedBy)
      ((update id dto performedBy).run exec db) := by
  unfold update
  split_ifs
  · exact .rejected (.refl db)
  · exact .rejected (.refl db)
  apply Effect.reads (getOrThrow_reads _)
  intro before returned
  have found := getOrThrow_run returned
  split_ifs with resolved illegal
  · exact .rejected (.refl db)
  · exact .rejected (.refl db)
  apply Effect.reads (assertNoUnresolvedBlockers_reads _ _)
  intro _ counted
  have unblocked := assertNoUnresolvedBlockers_run counted
  apply Effect.reads (assertAssigneeExists_reads _)
  intro _ _
  have legal : isIllegalTransition before.status dto.status = false :=
    Bool.eq_false_of_not_eq_true illegal
  exact finishUpdate_effect performedBy db ⟨before, found, resolved, legal, unblocked⟩

theorem softDelete_effect :
    Effect (fun _ => .none) db (.softDeleteTicket id performedBy)
      ((softDelete id performedBy).run exec db) := by
  unfold softDelete
  apply Effect.reads (getOrThrow_reads _)
  intro before returned
  have found := getOrThrow_run returned
  apply Effect.write
  intro deleted stored executed missed
  cases deleted with
  | false => exact .rejected (missed rfl)
  | true => exact .logged (Option.isSome_of_mem found) (.inl rfl) rfl executed rfl rfl

theorem restore_effect :
    Effect (fun _ => .none) db (.restoreTicket id performedBy)
      ((restore id performedBy).run exec db) := by
  unfold restore
  rw [run_select]
  simp only [Query.eval, TicketsRepository.findByIdAnyState]
  cases found : db.tickets.get? id with
  | none => exact .rejected (.refl db)
  | some existing =>
      simp only
      split_ifs with live
      · exact .rejected (.refl db)
      apply Effect.write
      intro restored stored executed _
      have deleted : existing.isLive = false := Bool.eq_false_of_not_eq_true live
      exact .logged ⟨existing, found, deleted⟩ (.inl rfl) rfl executed rfl rfl

end TicketsService

end Users

/-! ### The import -/

namespace CsvImportService

variable (projectId : ℕ) (db : Db)

/-- The database after one record. -/
def importedRow (raw : CsvRecord) : Db :=
  match validateRow projectId raw with
  | .error _ => db
  | .ok input => (TicketsRepository.create input db).2

theorem imported_cons (raw : CsvRecord) (records : List CsvRecord) :
    imported projectId (raw :: records) db =
      imported projectId records (importedRow projectId db raw) := by
  unfold imported inputs importedRow
  rw [List.filterMap_cons]
  cases validateRow projectId raw with
  | error message => rfl
  | ok input => rfl

-- The records are never evaluated.
attribute [local irreducible] validateRow

/-- A record is counted, whether or not its ticket was inserted. -/
theorem countRow_run (summary : ImportSummary) (rowNumber : ℕ) (raw : CsvRecord) :
    ∃ summary', (countRow projectId summary rowNumber raw).run exec db =
      (.ok summary', importedRow projectId db raw) := by
  unfold countRow importRow importedRow
  generalize validateRow projectId raw = validated
  cases validated with
  | error message => exact ⟨_, rfl⟩
  | ok input =>
      have inserted :
          exec (.command (.createTicket input)) db = TicketsRepository.create input db := rfl
      simp only
      generalize TicketsRepository.create input db = answer at inserted ⊢
      obtain ⟨result, after⟩ := answer
      simp only [execute, query, Program.call_bind, Program.tryCatch_eq, Program.tryCatch,
        Program.run_call, inserted]
      cases result with
      | ok row => exact ⟨_, rfl⟩
      | error error => exact ⟨_, rfl⟩

theorem importRows_run (records : List CsvRecord) (summary : ImportSummary) (rowNumber : ℕ) :
    ∃ summary', (importRows projectId summary rowNumber records).run exec db =
      (.ok summary', imported projectId records db) := by
  induction records generalizing db summary rowNumber with
  | nil => exact ⟨summary, rfl⟩
  | cons raw records ih =>
      obtain ⟨counted, first⟩ := countRow_run projectId db summary rowNumber raw
      obtain ⟨summary', rest⟩ := ih (importedRow projectId db raw) counted (rowNumber + 1)
      refine ⟨summary', ?_⟩
      rw [importRows, Program.run_bind, first, imported_cons]
      exact rest

theorem importIntoProject_effect (parsed : Except String (List CsvRecord)) (performedBy : ℕ) :
    Effect Response.imported db (.importTickets projectId parsed performedBy)
      ((importIntoProject projectId parsed performedBy).run exec db) := by
  unfold importIntoProject
  apply Effect.reads (ProjectsService.assertExists_reads _)
  intro _ _
  cases parsed with
  | error message => exact .rejected (.refl db)
  | ok records =>
      obtain ⟨summary, run⟩ := importRows_run projectId db records ⟨0, 0, []⟩ 1
      simp only
      rw [Program.run_bind, run]
      simp only
      rw [AuditService.run_log]
      exact .imported rfl

end CsvImportService

/-! ### Dependencies -/

namespace DependenciesService

variable {ticketId blockerId : ℕ} (performedBy : ℕ) (db : Db)

omit [Postgres] [Unicode] in
/-- An INSERT says whether the dependency is new. -/
theorem blockedBy_of_add {added : Bool} {stored : Db}
    (executed : DependenciesRepository.add ticketId blockerId db = (.ok added, stored)) :
    db.blockedBy ticketId blockerId ↔ added = false := by
  rw [DependenciesRepository.add] at executed
  split_ifs at executed with same present
  · cases executed
  · obtain ⟨answer, -⟩ := Prod.mk.inj executed
    cases answer
    exact iff_of_true present rfl
  · obtain ⟨answer, -⟩ := Prod.mk.inj executed
    cases answer
    exact iff_of_false present (by simp)
  · cases executed

theorem insertEdge_effect
    (checked : (Request.addDependency ticketId blockerId performedBy).Checked db) :
    Effect (fun _ => .none) db (.addDependency ticketId blockerId performedBy)
      ((insertEdge ticketId blockerId performedBy).run exec db) := by
  unfold insertEdge
  apply Effect.write
  intro added stored executed missed
  have present := blockedBy_of_add db executed
  cases added with
  | false =>
      refine .answered (missed rfl) ?_
      exact if_pos (present.mpr rfl)
  | true =>
      refine .logged checked (.inl rfl) rfl executed rfl ?_
      exact (if_neg fun old => Bool.noConfusion (present.mp old)).symm

theorem add_effect (fuel : ℕ) :
    Effect (fun _ => .none) db (.addDependency ticketId blockerId performedBy)
      ((add fuel ticketId blockerId performedBy).run exec db) := by
  unfold add
  split_ifs with same
  · exact .rejected (.refl db)
  rw [run_select]
  simp only [Query.eval]
  cases foundTicket : TicketsRepository.findById ticketId db with
  | none => exact .rejected (.refl db)
  | some ticket =>
      simp only
      rw [run_select]
      simp only [Query.eval]
      cases foundBlocker : TicketsRepository.findById blockerId db with
      | none => exact .rejected (.refl db)
      | some blocker =>
          simp only
          split_ifs with projects
          · exact .rejected (.refl db)
          -- The walk only reads, whatever it finds.
          apply Effect.reads (walk_reads ..)
          intro creates _
          cases creates with
          | true => exact .rejected (.refl db)
          | false =>
              exact insertEdge_effect performedBy db
                ⟨same, ticket, blocker, foundTicket, foundBlocker, not_not.mp projects⟩

theorem remove_effect :
    Effect (fun _ => .none) db (.removeDependency ticketId blockerId performedBy)
      ((remove ticketId blockerId performedBy).run exec db) := by
  unfold remove
  apply Effect.write
  intro removed stored executed missed
  cases removed with
  | false => exact .rejected (missed rfl)
  | true => exact .logged trivial (.inl rfl) rfl executed rfl rfl

end DependenciesService

/-! ### Escalation -/

namespace EscalationService

omit [Unicode] in
/-- The write that is decided for a ticket that is still stored as it was scanned. -/
theorem applyEscalation_run {db : Db} {ticket : TicketRow}
    (found : TicketsRepository.findById ticket.id db = some ticket)
    (unresolved : ticket.status ≠ .done) (change : EscalationChange) :
    TicketsRepository.applyEscalation ticket.id change db =
      if versionOverflows ticket.version then (.error .numericValueOutOfRange, db)
      else (.ok (some { TicketsRepository.escalatedRow change ticket with updatedAt := db.now }),
        { db with tickets := db.tickets.set { TicketsRepository.escalatedRow change ticket with
          updatedAt := db.now } }) := by
  rw [TicketsRepository.applyEscalation_eq, found, Option.filter_some,
    if_pos (decide_eq_true unresolved)]

omit [Unicode] in
/-- A scanned ticket that is still stored as it was scanned is written as
decided, and counted once. -/
theorem escalate_run {db : Db} {ticket : TicketRow} (summary : EscalationSummary)
    (found : TicketsRepository.findById ticket.id db = some ticket)
    (unresolved : ticket.status ≠ .done) (onward : stopsAt ticket = false) :
    ∃ summary', (escalate summary ticket).run exec db = (.ok summary', escalated db ticket) ∧
      summary'.scanned = summary.scanned ∧ summary'.handled = summary.handled + 1 := by
  unfold escalate escalated
  cases decided : decision ticket with
  | none => exact ⟨_, rfl, rfl, rfl⟩
  | some change =>
      have executed := applyEscalation_run found unresolved change
      rw [stopsAt, decided, Option.isSome_some, Bool.true_and] at onward
      rw [onward] at executed
      simp only [Bool.false_eq_true, if_false] at executed ⊢
      rw [run_execute]
      simp only [Command.exec]
      rw [executed]
      refine ⟨_, rfl, ?_, ?_⟩
      · cases change <;> rfl
      · cases change <;> simp only [EscalationSummary.count, EscalationSummary.handled] <;> omega

omit [Unicode] in
/-- At a ticket with the last version the cycle ends with the error of the UPDATE. -/
theorem escalate_run_stopped {db : Db} {ticket : TicketRow} (summary : EscalationSummary)
    (found : TicketsRepository.findById ticket.id db = some ticket)
    (unresolved : ticket.status ≠ .done) (stopped : stopsAt ticket = true) :
    (escalate summary ticket).run exec db = (.error (.database .numericValueOutOfRange), db) := by
  obtain ⟨decides, overflows⟩ := Bool.and_eq_true_iff.mp stopped
  obtain ⟨change, decided⟩ := Option.isSome_iff_exists.mp decides
  have executed := applyEscalation_run found unresolved change
  rw [if_pos overflows] at executed
  rw [escalate, decided]
  simp only
  rw [run_execute]
  simp only [Command.exec]
  rw [executed]

omit [Postgres] [Unicode] in
/-- Writing one ticket leaves the others as they were scanned. -/
theorem findById_escalated {db : Db} {ticket other : TicketRow} (different : other.id ≠ ticket.id)
    (found : TicketsRepository.findById other.id db = some other) :
    TicketsRepository.findById other.id (escalated db ticket) = some other := by
  unfold escalated
  cases decision ticket with
  | none => exact found
  | some change =>
      have key : Keyed.key ({ TicketsRepository.escalatedRow change ticket with
          updatedAt := db.now } : TicketRow) = ticket.id := by
        cases change <;> rfl
      show ((db.tickets.set _).get? other.id).filter TicketRow.isLive = some other
      rw [Table.get?_set, key, if_neg different]
      exact found

omit [Unicode] in
/-- The loop writes the tickets before one it stops at; without such a ticket it
counts them all. -/
theorem escalateAll_run {overdue : List TicketRow} {db : Db} (summary : EscalationSummary)
    (distinct : (overdue.map (·.id)).Nodup)
    (scanned : ∀ ticket ∈ overdue, TicketsRepository.findById ticket.id db = some ticket ∧
      ticket.status ≠ .done) :
    ∃ result, (escalateAll summary overdue).run exec db =
        (result, (overdue.takeWhile fun ticket => !stopsAt ticket).foldl escalated db) ∧
      if overdue.any stopsAt then result = .error (.database .numericValueOutOfRange)
      else ∃ summary', result = .ok summary' ∧ summary'.scanned = summary.scanned ∧
        summary'.handled = summary.handled + overdue.length := by
  induction overdue generalizing db summary with
  | nil => exact ⟨.ok summary, rfl, summary, rfl, rfl, rfl⟩
  | cons ticket overdue ih =>
      obtain ⟨fresh, distinct⟩ := List.nodup_cons.mp distinct
      obtain ⟨found, unresolved⟩ := scanned ticket List.mem_cons_self
      rw [escalateAll, Program.run_bind, List.any_cons, List.takeWhile_cons]
      cases stopped : stopsAt ticket with
      | true =>
          rw [escalate_run_stopped summary found unresolved stopped]
          exact ⟨_, rfl, rfl⟩
      | false =>
          obtain ⟨counted, first, sameScanned, handledOne⟩ :=
            escalate_run summary found unresolved stopped
          -- The scan has found each ticket once, so the others are as they were scanned.
          have remaining : ∀ other ∈ overdue,
              TicketsRepository.findById other.id (escalated db ticket) = some other ∧
                other.status ≠ .done := by
            intro other member
            obtain ⟨foundOther, open_⟩ := scanned other (List.mem_cons_of_mem _ member)
            have different : other.id ≠ ticket.id := by
              intro same
              exact fresh (List.mem_map.mpr ⟨other, member, same⟩)
            exact ⟨findById_escalated different foundOther, open_⟩
          obtain ⟨result, rest, ended⟩ := ih counted distinct remaining
          refine ⟨result, ?_, ?_⟩
          · rw [first]
            exact rest
          · rw [Bool.false_or]
            split_ifs at ended ⊢
            · exact ended
            · obtain ⟨summary', ok, sameRest, handledRest⟩ := ended
              refine ⟨summary', ok, sameRest.trans sameScanned, ?_⟩
              rw [handledRest, handledOne, List.length_cons]
              omega

omit [Postgres] [Unicode] in
/-- What the scan finds. -/
theorem findById_of_scanned {db : Db} {ticket : TicketRow}
    (member : ticket ∈ TicketsRepository.findOverdueUnresolved db) :
    TicketsRepository.findById ticket.id db = some ticket ∧ ticket.status ≠ .done := by
  obtain ⟨stored, condition⟩ := List.mem_filter.mp member
  simp only [TicketsRepository.isOverdueUnresolved, Bool.and_eq_true, decide_eq_true_eq]
    at condition
  obtain ⟨⟨-, unresolved⟩, live⟩ := condition
  exact ⟨Option.filter_eq_some_iff.mpr ⟨Table.get?_key stored, live⟩, unresolved⟩

omit [Unicode] in
/-- **A cycle that is run alone** writes the scanned tickets as decided. It counts
each once, or it ends with an error at the first one that has the last version. -/
theorem runOnce_run (db : Db) :
    ∃ result, runOnce.run exec db = (result, cycled db) ∧
      if stops db then result = .error (.database .numericValueOutOfRange)
      else ∃ summary, result = .ok summary ∧ summary.scanned = summary.handled := by
  have distinct : ((TicketsRepository.findOverdueUnresolved db).map (·.id)).Nodup :=
    db.tickets.nodup_keys.sublist (List.filter_sublist.map _)
  obtain ⟨result, run, ended⟩ := escalateAll_run
    ⟨(TicketsRepository.findOverdueUnresolved db).length, 0, 0, 0⟩ distinct
    fun ticket member => findById_of_scanned member
  refine ⟨result, ?_, ?_⟩
  · unfold runOnce
    rw [run_select]
    exact run
  · unfold stops
    split_ifs at ended ⊢
    · exact ended
    · obtain ⟨summary, ok, scanned, handled⟩ := ended
      refine ⟨summary, ok, ?_⟩
      rw [scanned, handled]
      exact (Nat.zero_add _).symm

theorem runOnce_effect (db : Db) :
    Effect Response.escalated db .escalate (runOnce.run exec db) := by
  obtain ⟨result, run, ended⟩ := runOnce_run db
  rw [run]
  split_ifs at ended with stops
  · rw [ended]
    exact .stopped stops
  · obtain ⟨summary, rfl, -⟩ := ended
    exact .escalated (Bool.eq_false_of_not_eq_true stops)

end EscalationService

/-! ### Comments -/

namespace CommentsService

variable (ticketId commentId performedBy : ℕ) (db : Db)

theorem create_effect (dto : CreateCommentDto) :
    Effect Response.comment db (.createComment ticketId dto performedBy)
      ((create ticketId dto performedBy).run exec db) := by
  unfold create
  apply Effect.reads (TicketsService.getOrThrow_reads _)
  intro ticket returned
  have live := Option.isSome_of_mem (TicketsService.getOrThrow_run returned)
  apply Effect.reads (UsersService.findById_reads _)
  intro author returned
  have found : (db.users.get? dto.authorId).isSome := UsersService.findById_run returned
  apply Effect.reads (resolveMentions_reads _)
  intro mentionedUserIds _
  apply Effect.write
  intro comment stored executed _
  exact .wrote ⟨live, found⟩ ⟨_, _, rfl, rfl⟩ rfl executed rfl rfl

theorem update_effect (dto : UpdateCommentDto) :
    Effect Response.comment db (.updateComment ticketId commentId dto performedBy)
      ((update ticketId commentId dto performedBy).run exec db) := by
  unfold update
  split_ifs
  · exact .rejected (.refl db)
  apply Effect.reads (getOrThrow_reads _)
  intro existing returned
  have found := getOrThrow_run returned
  split_ifs with same
  · exact .rejected (.refl db)
  apply Effect.reads (resolveMentions_reads _)
  intro mentionedUserIds _
  apply Effect.write
  intro rows stored executed missed
  cases rows with
  | none => exact .rejected (missed rfl)
  | some updated =>
      exact .wrote ⟨existing, found, not_not.mp same⟩ ⟨_, _, rfl⟩ rfl executed rfl rfl

theorem delete_effect :
    Effect (fun _ => .none) db (.deleteComment ticketId commentId performedBy)
      ((delete ticketId commentId performedBy).run exec db) := by
  unfold delete
  apply Effect.reads (getOrThrow_reads _)
  intro existing returned
  have found := getOrThrow_run returned
  split_ifs with same
  · exact .rejected (.refl db)
  apply Effect.write
  intro deleted stored executed _
  exact .logged ⟨existing, found, not_not.mp same⟩ (.inl rfl) rfl executed rfl rfl

end CommentsService

/-! ### Attachments -/

namespace AttachmentsService

variable (ticketId attachmentId performedBy : ℕ) (db : Db)

omit [Unicode] in
/-- The row of a file is inserted, or the upload is rejected. -/
theorem insertRow_run (input : AttachmentInput) (disk : DiskAnswers) :
    (∃ row stored, (Command.createAttachment input).exec db = (.ok row, stored) ∧
        (insertRow input disk).run exec db = (.ok row, stored)) ∨
      ∃ exception after, SameRows db after ∧
        (insertRow input disk).run exec db = (.error exception, after) := by
  have missed := Command.exec_sameRows (.createAttachment input) db
  have sent : exec (.command (.createAttachment input)) db =
      (Command.createAttachment input).exec db := rfl
  unfold insertRow
  simp only [execute, query, Program.tryCatch_eq, Program.tryCatch, Program.run_call, sent]
  generalize (Command.createAttachment input).exec db = answer at missed
  obtain ⟨result, after⟩ := answer
  cases result with
  | ok row => exact .inl ⟨row, after, rfl, rfl⟩
  | error error =>
      -- The handler throws, with its own failure or the one it was given.
      have same := missed rfl
      cases removed : disk.rm with
      | ok _ => exact .inr ⟨.database error, after, same, rfl⟩
      | error message => exact .inr ⟨.error message, after, same, rfl⟩

theorem upload_effect (file : Option UploadedFile) (uploaderId : ℕ) (uuid : String)
    (disk : DiskAnswers) :
    Effect Response.attachment db (.uploadAttachment ticketId file uploaderId uuid disk)
      ((upload ticketId file uploaderId uuid disk).run exec db) := by
  cases file with
  | none => exact .rejected (.refl db)
  | some file =>
      unfold upload
      simp only
      split_ifs
      · exact .rejected (.refl db)
      · apply Effect.reads (TicketsService.getOrThrow_reads _)
        intro ticket returned
        have live := Option.isSome_of_mem (TicketsService.getOrThrow_run returned)
        apply Effect.reads (awaitDisk_reads _)
        intro _ _
        rw [Program.run_bind]
        rcases insertRow_run db _ disk with
          ⟨row, stored, executed, run⟩ | ⟨exception, after, same, run⟩
        · rw [run]
          exact .logged live (.inl ⟨_, rfl, rfl⟩) rfl executed rfl rfl
        · rw [run]
          exact .rejected same
      · exact .rejected (.refl db)

theorem delete_effect :
    Effect (fun _ => .none) db (.deleteAttachment ticketId attachmentId performedBy)
      ((delete ticketId attachmentId performedBy).run exec db) := by
  unfold delete
  rw [run_select]
  simp only [Query.eval, AttachmentsRepository.findById]
  cases found : db.attachments.get? attachmentId with
  | none => exact .rejected (.refl db)
  | some row =>
      simp only
      split_ifs with same
      · exact .rejected (.refl db)
      apply Effect.write
      intro deleted stored executed _
      exact .logged ⟨row, found, not_not.mp same⟩ (.inl rfl) rfl executed rfl rfl

end AttachmentsService

/-! ### All requests -/

section All

variable {α : Type} {wrap : α → Response} {db : Db} {request : Request}

/-- A request that only reads. -/
theorem Effect.of_reads {p : Service α} (only : p.Only IsRead)
    (nothing : ∀ value, request.due db db (wrap value) = []) :
    Effect wrap db request (p.run exec db) := by
  have kept := run_reads only db
  generalize p.run exec db = reached at kept ⊢
  obtain ⟨result, after⟩ := reached
  cases kept
  cases result with
  | ok value => exact .answered (.refl _) (nothing value)
  | error exception => exact .rejected (.refl _)

/-- The outcome of a request is the one of its program. -/
theorem Effect.map {p : Service α} (effect : Effect wrap db request (p.run exec db)) :
    Effect id db request ((wrap <$> p).run exec db) := by
  rw [Program.run_map]
  generalize p.run exec db = reached at effect
  cases effect with
  | rejected same => exact .rejected same
  | answered same nothing => exact .answered same nothing
  | performed checked may primary executed found due =>
      exact .performed checked may primary executed found due
  | imported due => exact .imported due
  | escalated onward => exact .escalated onward
  | stopped stops => exact .stopped stops

theorem AuthController.logout_effect (payload : JwtPayload) :
    Effect (fun _ => .none) db (.logout payload) ((AuthController.logout payload).run exec db) := by
  unfold AuthController.logout
  apply Effect.reads (JwtStrategy.authenticate_reads _)
  intro user _
  let revoke := Command.revoke user.jti user.id (user.exp * 1000)
  show Effect _ _ _ ((execute revoke).run exec db)
  have missed := revoke.exec_sameRows db
  have sent : exec (.command revoke) db = revoke.exec db := rfl
  simp only [execute, query, Program.run_call, sent]
  generalize executed : revoke.exec db = answer at missed ⊢
  obtain ⟨result, after⟩ := answer
  cases result with
  | ok rows => exact .wrote trivial ⟨_, _, _, rfl⟩ rfl executed rfl rfl
  | error error => exact .rejected (missed rfl)

variable [Bcrypt]

/-- **Every request that is served alone** has one of the listed outcomes. -/
theorem serve_effect (request : Request) (db : Db) : Effect id db request (serve request db) := by
  cases request with
  | createUser dto performedBy salt => exact (UsersService.create_effect ..).map
  | updateUser id dto performedBy => exact (UsersService.update_effect ..).map
  | deleteUser id performedBy => exact (UsersService.delete_effect ..).map
  | createProject dto performedBy => exact (ProjectsService.create_effect ..).map
  | updateProject id dto performedBy => exact (ProjectsService.update_effect ..).map
  | softDeleteProject id performedBy => exact (ProjectsService.softDelete_effect ..).map
  | restoreProject id performedBy => exact (ProjectsService.restore_effect ..).map
  | createTicket dto performedBy => exact (TicketsService.create_effect ..).map
  | updateTicket id dto performedBy => exact (TicketsService.update_effect ..).map
  | softDeleteTicket id performedBy => exact (TicketsService.softDelete_effect ..).map
  | restoreTicket id performedBy => exact (TicketsService.restore_effect ..).map
  | importTickets projectId parsed performedBy =>
      exact (CsvImportService.importIntoProject_effect ..).map
  | addDependency ticketId blockerId performedBy => exact (DependenciesService.add_effect ..).map
  | removeDependency ticketId blockerId performedBy =>
      exact (DependenciesService.remove_effect ..).map
  | escalate => exact (EscalationService.runOnce_effect db).map
  | createComment ticketId dto performedBy => exact (CommentsService.create_effect ..).map
  | updateComment ticketId commentId dto performedBy => exact (CommentsService.update_effect ..).map
  | deleteComment ticketId commentId performedBy => exact (CommentsService.delete_effect ..).map
  | uploadAttachment ticketId file uploaderId uuid disk =>
      exact (AttachmentsService.upload_effect ..).map
  | deleteAttachment ticketId attachmentId performedBy =>
      exact (AttachmentsService.delete_effect ..).map
  | login expiresInSeconds jti username password =>
      exact (Effect.of_reads (AuthService.login_reads ..) fun _ => rfl).map
  | logout payload => exact (AuthController.logout_effect payload).map
  | authenticate payload =>
      exact (Effect.of_reads (JwtStrategy.authenticate_reads payload) fun _ => rfl).map

end All

end Serving

end IssueFlow
