import IssueFlow.System.Requests

/-!
# What a request may write

Every request is limited to a few writes: the one it is about, and audit
entries about it. The programs are only inspected for the statements they
contain, whatever the answers are.

## Main definitions

* `IsRead`, `Writing` — reads, and reads together with writes of some kind
* `Logs` — the audit entries about an action on an entity
* `Request.MayWrite` — the writes a request is limited to

## Main results

* `Request.only` — a request sends reads and the writes it is limited to
-/

namespace IssueFlow

open Store Semantics JavaScript

/-- A statement that changes nothing. -/
def IsRead (statement : Statement) : Prop := ∃ read, statement = .select read

/-- Reads, and the allowed writes. -/
def Writing (allowed : Command → Prop) : Statement → Prop
  | .select _ => True
  | .command write => allowed write

/-- Inserting an entry about an action on an entity. -/
def Logs (action : AuditAction) (entityType : AuditEntity) (write : Command) : Prop :=
  ∃ input, write = .insertAudit input ∧ input.action = action ∧ input.entityType = entityType

/-- The writes of a request. -/
def Request.MayWrite : Request → Command → Prop
  | createUser .., write => (∃ input, write = .createUser input) ∨ Logs .create .user write
  | updateUser id dto _, write => write = .updateUser id dto ∨ Logs .update .user write
  | deleteUser id _, write => write = .deleteUser id ∨ Logs .delete .user write
  | createProject dto _, write => write = .createProject dto ∨ Logs .create .project write
  | updateProject id dto _, write => write = .updateProject id dto ∨ Logs .update .project write
  | softDeleteProject id _, write => write = .softDeleteProject id ∨ Logs .delete .project write
  | restoreProject id _, write => write = .restoreProject id ∨ Logs .restore .project write
  | createTicket .., write =>
      (∃ input, write = .createTicket input) ∨ Logs .create .ticket write ∨
        Logs .autoAssign .ticket write
  | updateTicket id dto _, write =>
      write = .updateWithVersionCheck id dto.version.toOption dto.toTicketUpdate
        dto.priority.isDefined ∨ Logs .update .ticket write
  | softDeleteTicket id _, write => write = .softDeleteTicket id ∨ Logs .delete .ticket write
  | restoreTicket id _, write => write = .restoreTicket id ∨ Logs .restore .ticket write
  | importTickets .., write => (∃ input, write = .createTicket input) ∨ Logs .create .project write
  | addDependency ticketId blockerId _, write =>
      write = .addDependency ticketId blockerId ∨ Logs .create .dependency write
  | removeDependency ticketId blockerId _, write =>
      write = .removeDependency ticketId blockerId ∨ Logs .delete .dependency write
  | escalate, write =>
      (∃ id change, write = .applyEscalation id change) ∨ Logs .priorityEscalated .ticket write
  | createComment ticketId _ _, write =>
      ∃ input onCommitting, write = .createWithMentions input onCommitting ∧
        input.ticketId = ticketId
  | updateComment _ id dto _, write =>
      ∃ mentionedUserIds onCommitting, write = .updateContentAndMentions id dto.version.toOption
        dto.content mentionedUserIds onCommitting
  | deleteComment _ id _, write => write = .deleteComment id ∨ Logs .delete .comment write
  | uploadAttachment ticketId .., write =>
      (∃ input, write = .createAttachment input ∧ input.ticketId = ticketId) ∨
        Logs .create .attachment write
  | deleteAttachment _ id _, write => write = .deleteAttachment id ∨ Logs .delete .attachment write
  | login .., _ | authenticate _, _ => False
  | logout _, write => ∃ jti userId expiresAt, write = .revoke jti userId expiresAt

namespace Request

variable {request : Request}

attribute [local simp] MayWrite Logs

/-- A versioned UPDATE is the write of a PATCH. -/
theorem mayWrite_updateWithVersionCheck {id : ℕ} {version : Option ℕ} {input : TicketUpdate}
    {resetOverdueFlag : Bool}
    (may : request.MayWrite (.updateWithVersionCheck id version input resetOverdueFlag)) :
    ∃ dto performedBy, request = .updateTicket id dto performedBy ∧
      version = dto.version.toOption ∧ input = dto.toTicketUpdate ∧
      resetOverdueFlag = dto.priority.isDefined := by
  cases request with
  | updateTicket target dto performedBy =>
      rcases may with same | ⟨_, logged, -⟩
      · cases same
        exact ⟨dto, performedBy, rfl, rfl, rfl, rfl⟩
      · cases logged
  | _ => simp at may

theorem mayWrite_applyEscalation {id : ℕ} {change : EscalationChange}
    (may : request.MayWrite (.applyEscalation id change)) : request = .escalate := by
  cases request with
  | escalate => rfl
  | _ => simp at may

theorem mayWrite_softDeleteTicket {id : ℕ} (may : request.MayWrite (.softDeleteTicket id)) :
    ∃ performedBy, request = .softDeleteTicket id performedBy := by
  cases request with
  | softDeleteTicket target performedBy =>
      obtain rfl : id = target := by simpa using may
      exact ⟨performedBy, rfl⟩
  | _ => simp at may

theorem mayWrite_restoreTicket {id : ℕ} (may : request.MayWrite (.restoreTicket id)) :
    ∃ performedBy, request = .restoreTicket id performedBy := by
  cases request with
  | restoreTicket target performedBy =>
      obtain rfl : id = target := by simpa using may
      exact ⟨performedBy, rfl⟩
  | _ => simp at may

theorem mayWrite_addDependency {ticketId blockerId : ℕ}
    (may : request.MayWrite (.addDependency ticketId blockerId)) :
    ∃ performedBy, request = .addDependency ticketId blockerId performedBy := by
  cases request with
  | addDependency tail head performedBy =>
      obtain ⟨rfl, rfl⟩ : ticketId = tail ∧ blockerId = head := by simpa using may
      exact ⟨performedBy, rfl⟩
  | _ => simp at may

theorem mayWrite_deleteUser {id : ℕ} (may : request.MayWrite (.deleteUser id)) :
    ∃ performedBy, request = .deleteUser id performedBy := by
  cases request with
  | deleteUser target performedBy =>
      obtain rfl : id = target := by simpa using may
      exact ⟨performedBy, rfl⟩
  | _ => simp at may

theorem mayWrite_createWithMentions {input : CommentInput}
    {onCommitting : CommentRow → AuditInsert}
    (may : request.MayWrite (.createWithMentions input onCommitting)) :
    ∃ dto performedBy, request = .createComment input.ticketId dto performedBy := by
  cases request with
  | createComment ticketId dto performedBy =>
      obtain ⟨_, _, same, rfl⟩ := may
      obtain ⟨rfl, -⟩ := Command.createWithMentions.inj same
      exact ⟨dto, performedBy, rfl⟩
  | _ => simp at may

theorem mayWrite_updateContentAndMentions {id : ℕ} {version : Option ℕ} {content : String}
    {mentionedUserIds : List ℕ} {onCommitting : CommentRow → AuditInsert}
    (may : request.MayWrite
      (.updateContentAndMentions id version content mentionedUserIds onCommitting)) :
    ∃ ticketId dto performedBy, request = .updateComment ticketId id dto performedBy ∧
      version = dto.version.toOption := by
  cases request with
  | updateComment ticketId target dto performedBy =>
      obtain ⟨_, _, same⟩ := may
      obtain ⟨rfl, rfl, -⟩ := Command.updateContentAndMentions.inj same
      exact ⟨ticketId, dto, performedBy, rfl, rfl⟩
  | _ => simp at may

theorem mayWrite_deleteComment {id : ℕ} (may : request.MayWrite (.deleteComment id)) :
    ∃ ticketId performedBy, request = .deleteComment ticketId id performedBy := by
  cases request with
  | deleteComment ticketId target performedBy =>
      obtain rfl : id = target := by simpa using may
      exact ⟨ticketId, performedBy, rfl⟩
  | _ => simp at may

theorem mayWrite_createAttachment {input : AttachmentInput}
    (may : request.MayWrite (.createAttachment input)) :
    ∃ file uploaderId uuid disk,
      request = .uploadAttachment input.ticketId file uploaderId uuid disk := by
  cases request with
  | uploadAttachment ticketId file uploaderId uuid disk =>
      rcases may with ⟨_, same, rfl⟩ | ⟨_, logged, -⟩
      · obtain rfl := Command.createAttachment.inj same
        exact ⟨file, uploaderId, uuid, disk, rfl⟩
      · cases logged
  | _ => simp at may

theorem mayWrite_deleteAttachment {id : ℕ} (may : request.MayWrite (.deleteAttachment id)) :
    ∃ ticketId performedBy, request = .deleteAttachment ticketId id performedBy := by
  cases request with
  | deleteAttachment ticketId target performedBy =>
      obtain rfl : id = target := by simpa using may
      exact ⟨ticketId, performedBy, rfl⟩
  | _ => simp at may

end Request

/-! ### Parts of programs -/

section Parts

variable {α : Type} {allowed : Command → Prop}

theorem read_only (read : Query) : (select read).Only IsRead := ⟨⟨read, rfl⟩, fun _ => trivial⟩

/-- A part that only reads may stand anywhere. -/
theorem writing_of_reads {p : Service α} (only : p.Only IsRead) : p.Only (Writing allowed) := by
  refine only.mono ?_
  rintro _ ⟨read, rfl⟩
  trivial

theorem writing_select (read : Query) : (select read).Only (Writing allowed) :=
  writing_of_reads (read_only read)

theorem writing_execute {write : Command} (holds : allowed write) :
    (execute write).Only (Writing allowed) :=
  ⟨holds, fun _ => trivial⟩

theorem writing_log {input : AuditInsert} (holds : allowed (.insertAudit input)) :
    (AuditService.log input).Only (Writing allowed) :=
  (writing_execute holds).tryCatch fun _ => trivial

theorem logs (input : AuditInsert) : Logs input.action input.entityType (.insertAudit input) :=
  ⟨input, rfl, rfl, rfl⟩

section Outline

variable [Postgres] {β : Type} {sends : List (Event Statement Db) → Statement → Prop}
  {events : List (Event Statement Db)}

/-- A part that only reads, and what follows it, when reads may always be sent. -/
theorem outline_of_reads (free : ∀ events read, sends events (.select read)) {p : Service β}
    {next : β → Service α} (only : p.Only IsRead)
    (rest : ∀ events value, (next value).Outline exec sends (fun _ _ => True) events) :
    (p >>= next).Outline exec sends (fun _ _ => True) events := by
  refine only.outline_bind (fun _ => True) ?_ trivial (fun events value _ => rest events value)
    fun _ _ _ => trivial
  rintro events op - ⟨read, rfl⟩
  exact ⟨free events read, fun _ => trivial⟩

/-- A limited part, when its statements may always be sent. -/
theorem outline_of_only (free : ∀ events read, sends events (.select read)) {p : Service α}
    (only : p.Only (Writing allowed))
    (sent : ∀ events write, allowed write → sends events (.command write)) :
    p.Outline exec sends (fun _ _ => True) events := by
  refine only.outline ?_ events
  intro events statement holds
  cases statement with
  | select read => exact free events read
  | command write => exact sent events write holds

end Outline

end Parts

/-! ### Parts that only read -/

theorem UsersService.getOrThrow_reads (id : Option ℕ) :
    (UsersService.getOrThrow id).Only IsRead := by
  refine (read_only _).bind fun found => ?_
  cases found <;> trivial

theorem UsersService.findById_reads (id : Option ℕ) : (UsersService.findById id).Only IsRead :=
  (UsersService.getOrThrow_reads id).bind fun _ => trivial

theorem ProjectsService.getOrThrow_reads (id : ℕ) :
    (ProjectsService.getOrThrow id).Only IsRead := by
  refine (read_only _).bind fun found => ?_
  cases found <;> trivial

theorem ProjectsService.assertExists_reads (id : ℕ) :
    (ProjectsService.assertExists id).Only IsRead :=
  (ProjectsService.getOrThrow_reads id).bind fun _ => trivial

theorem TicketsService.getOrThrow_reads (id : ℕ) : (TicketsService.getOrThrow id).Only IsRead := by
  refine (read_only _).bind fun found => ?_
  cases found <;> trivial

theorem TicketsService.assertAssigneeExists_reads (assigneeId : Field ℕ) :
    (TicketsService.assertAssigneeExists assigneeId).Only IsRead := by
  unfold TicketsService.assertAssigneeExists
  split_ifs
  · exact (UsersService.findById_reads _).bind fun _ => trivial
  · trivial

theorem TicketsService.autoAssign_reads (dto : CreateTicketDto) :
    (TicketsService.autoAssign dto).Only IsRead := by
  unfold TicketsService.autoAssign
  split_ifs
  · trivial
  · exact (read_only _).bind fun _ => trivial

theorem TicketsService.assertNoUnresolvedBlockers_reads (id : ℕ) (status : Field TicketStatus) :
    (TicketsService.assertNoUnresolvedBlockers id status).Only IsRead := by
  unfold TicketsService.assertNoUnresolvedBlockers
  split_ifs
  · refine (read_only _).bind fun unresolved => ?_
    split_ifs <;> trivial
  · trivial

theorem DependenciesService.walk_reads (ticketId fuel : ℕ) (visited stack : List ℕ) :
    (DependenciesService.walk ticketId fuel visited stack).Only IsRead := by
  induction fuel generalizing visited stack with
  | zero => cases stack <;> trivial
  | succ fuel ih =>
      cases stack with
      | nil => trivial
      | cons current stack =>
          rw [DependenciesService.walk]
          split_ifs
          · trivial
          · exact ih visited stack
          · exact (read_only _).bind fun _ => ih _ _

theorem CommentsService.getOrThrow_reads (id : ℕ) :
    (CommentsService.getOrThrow id).Only IsRead := by
  refine (read_only _).bind fun found => ?_
  cases found <;> trivial

theorem CommentsService.resolveMentions_reads (content : String) :
    (CommentsService.resolveMentions content).Only IsRead := by
  unfold CommentsService.resolveMentions
  simp only
  split_ifs
  · trivial
  · unfold UsersService.findRawByUsernamesLower
    exact (read_only _).bind fun _ => trivial

theorem CommentsService.toResponse_reads (row : CommentRow) :
    (CommentsService.toResponse row).Only IsRead :=
  (read_only _).bind fun _ => trivial

theorem JwtStrategy.validate_reads (payload : JwtPayload) :
    (JwtStrategy.validate payload).Only IsRead := by
  unfold JwtStrategy.validate
  split
  · split_ifs
    · trivial
    · refine (read_only _).bind fun revoked => ?_
      split_ifs <;> trivial
  · trivial

theorem JwtStrategy.authenticate_reads (payload : JwtPayload) :
    (JwtStrategy.authenticate payload).Only IsRead := by
  refine (read_only _).bind fun now => ?_
  split_ifs
  · exact JwtStrategy.validate_reads payload
  · trivial

theorem AuthService.login_reads [Bcrypt] (expiresInSeconds : ℕ) (jti username password : String) :
    (AuthService.login expiresInSeconds jti username password).Only IsRead := by
  have validated : (AuthService.validateCredentials username password).Only IsRead := by
    refine (read_only _).bind fun found => ?_
    cases found with
    | none => trivial
    | some user =>
        simp only
        split_ifs <;> trivial
  have signed (id : ℕ) (name : String) (role : UserRole) :
      (AuthService.signAsync expiresInSeconds id name role jti).Only IsRead :=
    (read_only .dateNow).bind fun _ => trivial
  exact validated.bind fun _ => (signed _ _ _).bind fun _ => trivial

/-! ### Users and projects -/

theorem UsersService.create_only [Bcrypt] (dto : CreateUserDto) (performedBy : Option ℕ)
    (salt : String) : (UsersService.create dto performedBy salt).Only
      (Writing (Request.createUser dto performedBy salt).MayWrite) := by
  refine (writing_select _).bind fun existing => ?_
  split_ifs
  · trivial
  · have hashed : (UsersService.hashPassword dto.password salt).Only
        (Writing (Request.createUser dto performedBy salt).MayWrite) := by
      unfold UsersService.hashPassword
      cases dto.password <;> trivial
    exact hashed.bind fun _ => (writing_execute (.inl ⟨_, rfl⟩)).bind fun _ =>
      (writing_log (.inr (logs _))).bind fun _ => trivial

theorem UsersService.update_only (id : ℕ) (dto : UpdateUserDto) (performedBy : ℕ) :
    (UsersService.update id dto performedBy).Only
      (Writing (Request.updateUser id dto performedBy).MayWrite) := by
  unfold UsersService.update
  split_ifs
  · trivial
  · refine (writing_of_reads (UsersService.getOrThrow_reads _)).bind fun before =>
      (writing_execute (.inl rfl)).bind fun found => ?_
    cases found with
    | none => trivial
    | some updated => exact (writing_log (.inr (logs _))).bind fun _ => trivial

theorem UsersService.delete_only (id performedBy : ℕ) :
    (UsersService.delete id performedBy).Only
      (Writing (Request.deleteUser id performedBy).MayWrite) := by
  refine (writing_of_reads (UsersService.getOrThrow_reads _)).bind fun before =>
    (writing_execute (.inl rfl)).bind fun deleted => ?_
  split_ifs
  · trivial
  · exact writing_log (.inr (logs _))

theorem ProjectsService.create_only (dto : CreateProjectDto) (performedBy : ℕ) :
    (ProjectsService.create dto performedBy).Only
      (Writing (Request.createProject dto performedBy).MayWrite) :=
  (writing_of_reads (UsersService.findById_reads _)).bind fun _ =>
    (writing_execute (.inl rfl)).bind fun _ =>
    (writing_log (.inr (logs _))).bind fun _ => trivial

theorem ProjectsService.update_only (id : ℕ) (dto : UpdateProjectDto) (performedBy : ℕ) :
    (ProjectsService.update id dto performedBy).Only
      (Writing (Request.updateProject id dto performedBy).MayWrite) := by
  unfold ProjectsService.update
  split_ifs
  · trivial
  · refine (writing_of_reads (ProjectsService.getOrThrow_reads _)).bind fun before =>
      (writing_execute (.inl rfl)).bind fun found => ?_
    cases found with
    | none => trivial
    | some updated => exact (writing_log (.inr (logs _))).bind fun _ => trivial

theorem ProjectsService.softDelete_only (id performedBy : ℕ) :
    (ProjectsService.softDelete id performedBy).Only
      (Writing (Request.softDeleteProject id performedBy).MayWrite) := by
  refine (writing_of_reads (ProjectsService.getOrThrow_reads _)).bind fun before =>
    (writing_execute (.inl rfl)).bind fun deleted => ?_
  split_ifs
  · trivial
  · exact writing_log (.inr (logs _))

theorem ProjectsService.restore_only (id performedBy : ℕ) :
    (ProjectsService.restore id performedBy).Only
      (Writing (Request.restoreProject id performedBy).MayWrite) := by
  refine (writing_select _).bind fun found => ?_
  cases found with
  | none => trivial
  | some existing =>
      simp only
      split_ifs
      · trivial
      · exact (writing_execute (.inl rfl)).bind fun _ => writing_log (.inr (logs _))

/-! ### Tickets -/

theorem TicketsService.create_only (dto : CreateTicketDto) (performedBy : ℕ) :
    (TicketsService.create dto performedBy).Only
      (Writing (Request.createTicket dto performedBy).MayWrite) := by
  have logged (id : ℕ) (assignee : Option ℕ) : (TicketsService.logAutoAssign id assignee).Only
      (Writing (Request.createTicket dto performedBy).MayWrite) := by
    cases assignee with
    | none => trivial
    | some _ => exact writing_log (.inr (.inr (logs _)))
  exact (writing_of_reads (ProjectsService.assertExists_reads _)).bind fun _ =>
    (writing_of_reads (TicketsService.assertAssigneeExists_reads _)).bind fun _ =>
    (writing_of_reads (TicketsService.autoAssign_reads _)).bind fun assignee =>
    (writing_execute (.inl ⟨_, rfl⟩)).bind fun row =>
    (writing_log (.inr (.inl (logs _)))).bind fun _ =>
    (logged row.id assignee).bind fun _ => trivial

theorem TicketsService.update_only (id : ℕ) (dto : UpdateTicketDto) (performedBy : ℕ) :
    (TicketsService.update id dto performedBy).Only
      (Writing (Request.updateTicket id dto performedBy).MayWrite) := by
  unfold TicketsService.update
  split_ifs
  · trivial
  · trivial
  refine (writing_of_reads (TicketsService.getOrThrow_reads _)).bind fun before => ?_
  split_ifs
  · trivial
  · trivial
  refine (writing_of_reads (TicketsService.assertNoUnresolvedBlockers_reads _ _)).bind fun _ =>
    (writing_of_reads (TicketsService.assertAssigneeExists_reads _)).bind fun _ =>
    (writing_execute (.inl rfl)).bind fun found => ?_
  cases found with
  | none => exact (writing_select _).bind fun _ => trivial
  | some updated => exact (writing_log (.inr (logs _))).bind fun _ => trivial

theorem TicketsService.softDelete_only (id performedBy : ℕ) :
    (TicketsService.softDelete id performedBy).Only
      (Writing (Request.softDeleteTicket id performedBy).MayWrite) := by
  refine (writing_of_reads (TicketsService.getOrThrow_reads _)).bind fun before =>
    (writing_execute (.inl rfl)).bind fun deleted => ?_
  split_ifs
  · trivial
  · exact writing_log (.inr (logs _))

theorem TicketsService.restore_only (id performedBy : ℕ) :
    (TicketsService.restore id performedBy).Only
      (Writing (Request.restoreTicket id performedBy).MayWrite) := by
  refine (writing_select _).bind fun found => ?_
  cases found with
  | none => trivial
  | some existing =>
      simp only
      split_ifs
      · trivial
      · exact (writing_execute (.inl rfl)).bind fun _ => writing_log (.inr (logs _))

section Import

-- The import is inspected statement by statement, never evaluated on a record.
attribute [local irreducible] CsvImportService.importRow CsvImportService.countRow
  CsvImportService.importRows

variable [Unicode] {allowed : Command → Prop} {projectId : ℕ}

theorem CsvImportService.importRow_only (raw : CsvRecord)
    (creates : ∀ input, CsvImportService.validateRow projectId raw = .ok input →
      allowed (.createTicket input)) :
    (CsvImportService.importRow projectId raw).Only (Writing allowed) := by
  unfold CsvImportService.importRow
  cases valid : CsvImportService.validateRow projectId raw with
  | error message => trivial
  | ok input => exact (writing_execute (creates input valid)).bind fun _ => trivial

variable [Postgres]

theorem CsvImportService.countRow_only (summary : ImportSummary) (rowNumber : ℕ) (raw : CsvRecord)
    (creates : ∀ input, CsvImportService.validateRow projectId raw = .ok input →
      allowed (.createTicket input)) :
    (CsvImportService.countRow projectId summary rowNumber raw).Only (Writing allowed) := by
  have imported := CsvImportService.importRow_only raw creates
  unfold CsvImportService.countRow
  refine Program.Only.tryCatch (imported.bind fun _ => ?_) fun exception => ?_
  · trivial
  · trivial

theorem CsvImportService.importRows_only
    (creates : ∀ raw input, CsvImportService.validateRow projectId raw = .ok input →
      allowed (.createTicket input))
    (records : List CsvRecord) (summary : ImportSummary) (rowNumber : ℕ) :
    (CsvImportService.importRows projectId summary rowNumber records).Only (Writing allowed) := by
  induction records generalizing summary rowNumber with
  | nil =>
      unfold CsvImportService.importRows
      trivial
  | cons raw records ih =>
      have first := CsvImportService.countRow_only summary rowNumber raw (creates raw)
      unfold CsvImportService.importRows
      exact first.bind fun summary => ih summary (rowNumber + 1)

/-- An import writes tickets from valid records, and its entry. -/
theorem CsvImportService.importIntoProject_only
    (creates : ∀ raw input, CsvImportService.validateRow projectId raw = .ok input →
      allowed (.createTicket input))
    (enters : ∀ entry, Logs .create .project (.insertAudit entry) → allowed (.insertAudit entry))
    (parsed : Except String (List CsvRecord)) (performedBy : ℕ) :
    (CsvImportService.importIntoProject projectId parsed performedBy).Only (Writing allowed) := by
  refine (writing_of_reads (ProjectsService.assertExists_reads _)).bind fun _ => ?_
  cases parsed with
  | error message => trivial
  | ok records =>
      have rows := CsvImportService.importRows_only creates records ⟨0, 0, []⟩ 1
      exact rows.bind fun _ => (writing_log (enters _ (logs _))).bind fun _ => trivial

end Import

/-! ### Dependencies and escalation -/

theorem DependenciesService.add_only (fuel ticketId blockerId performedBy : ℕ) :
    (DependenciesService.add fuel ticketId blockerId performedBy).Only
      (Writing (Request.addDependency ticketId blockerId performedBy).MayWrite) := by
  unfold DependenciesService.add
  split_ifs
  · trivial
  refine (writing_select _).bind fun ticket => ?_
  cases ticket with
  | none => trivial
  | some ticket =>
      refine (writing_select _).bind fun blocker => ?_
      cases blocker with
      | none => trivial
      | some blocker =>
          simp only
          split_ifs
          · trivial
          refine (writing_of_reads (DependenciesService.walk_reads ..)).bind fun creates => ?_
          cases creates with
          | true => trivial
          | false =>
              refine (writing_execute (.inl rfl)).bind fun added => ?_
              cases added with
              | true => exact writing_log (.inr (logs _))
              | false => trivial

theorem DependenciesService.remove_only (ticketId blockerId performedBy : ℕ) :
    (DependenciesService.remove ticketId blockerId performedBy).Only
      (Writing (Request.removeDependency ticketId blockerId performedBy).MayWrite) := by
  refine (writing_execute (.inl rfl)).bind fun removed => ?_
  split_ifs
  · trivial
  · exact writing_log (.inr (logs _))

theorem EscalationService.escalateAll_only (summary : EscalationSummary)
    (overdue : List TicketRow) : (EscalationService.escalateAll summary overdue).Only
      (Writing Request.escalate.MayWrite) := by
  induction overdue generalizing summary with
  | nil => trivial
  | cons ticket overdue ih =>
      rw [EscalationService.escalateAll, EscalationService.escalate]
      cases EscalationService.decision ticket with
      | none => exact ih _
      | some change =>
          refine Program.Only.bind ((writing_execute (.inl ⟨_, _, rfl⟩)).bind fun found => ?_)
            fun summary => ih summary
          cases found with
          | none => trivial
          | some row => exact (writing_log (.inr (logs _))).bind fun _ => trivial

/-! ### Comments and attachments -/

theorem CommentsService.create_only (ticketId : ℕ) (dto : CreateCommentDto) (performedBy : ℕ) :
    (CommentsService.create ticketId dto performedBy).Only
      (Writing (Request.createComment ticketId dto performedBy).MayWrite) :=
  (writing_of_reads (TicketsService.getOrThrow_reads _)).bind fun _ =>
    (writing_of_reads (UsersService.findById_reads _)).bind fun _ =>
    (writing_of_reads (CommentsService.resolveMentions_reads _)).bind fun _ =>
    (writing_execute ⟨_, _, rfl, rfl⟩).bind fun _ =>
    writing_of_reads (CommentsService.toResponse_reads _)

theorem CommentsService.update_only (ticketId commentId : ℕ) (dto : UpdateCommentDto)
    (performedBy : ℕ) : (CommentsService.update ticketId commentId dto performedBy).Only
      (Writing (Request.updateComment ticketId commentId dto performedBy).MayWrite) := by
  unfold CommentsService.update
  split_ifs
  · trivial
  refine (writing_of_reads (CommentsService.getOrThrow_reads _)).bind fun existing => ?_
  split_ifs
  · trivial
  refine (writing_of_reads (CommentsService.resolveMentions_reads _)).bind fun _ =>
    (writing_execute ⟨_, _, rfl⟩).bind fun found => ?_
  cases found with
  | none => exact (writing_select _).bind fun _ => trivial
  | some updated => exact writing_of_reads (CommentsService.toResponse_reads _)

theorem CommentsService.delete_only (ticketId commentId performedBy : ℕ) :
    (CommentsService.delete ticketId commentId performedBy).Only
      (Writing (Request.deleteComment ticketId commentId performedBy).MayWrite) := by
  refine (writing_of_reads (CommentsService.getOrThrow_reads _)).bind fun existing => ?_
  split_ifs
  · trivial
  · exact (writing_execute (.inl rfl)).bind fun _ => writing_log (.inr (logs _))

theorem AttachmentsService.awaitDisk_reads (answer : Except String Unit) :
    (AttachmentsService.awaitDisk answer).Only IsRead := by
  cases answer <;> trivial

theorem AttachmentsService.upload_only (ticketId : ℕ) (file : Option UploadedFile)
    (uploaderId : ℕ) (uuid : String) (disk : DiskAnswers) :
    (AttachmentsService.upload ticketId file uploaderId uuid disk).Only
      (Writing (Request.uploadAttachment ticketId file uploaderId uuid disk).MayWrite) := by
  cases file with
  | none => trivial
  | some file =>
      unfold AttachmentsService.upload
      simp only
      split_ifs
      · trivial
      · refine (writing_of_reads (TicketsService.getOrThrow_reads _)).bind fun _ =>
          (writing_of_reads (AttachmentsService.awaitDisk_reads _)).bind fun _ =>
          Program.Only.bind ?_ fun row => (writing_log (.inr (logs _))).bind fun _ => trivial
        refine (writing_execute (.inl ⟨_, rfl, rfl⟩)).tryCatch fun exception => ?_
        exact (writing_of_reads (AttachmentsService.awaitDisk_reads _)).bind fun _ => trivial
      · trivial

theorem AttachmentsService.delete_only (ticketId attachmentId performedBy : ℕ) :
    (AttachmentsService.delete ticketId attachmentId performedBy).Only
      (Writing (Request.deleteAttachment ticketId attachmentId performedBy).MayWrite) := by
  refine (writing_select _).bind fun found => ?_
  cases found with
  | none => trivial
  | some row =>
      simp only
      split_ifs
      · trivial
      · exact (writing_execute (.inl rfl)).bind fun _ => writing_log (.inr (logs _))

/-! ### All requests -/

/-- **A request sends reads and the writes it is limited to.** -/
theorem Request.only [Postgres] [Bcrypt] [Unicode] (request : Request) (fuel : ℕ) :
    (request.program fuel).Only (Writing request.MayWrite) := by
  cases request with
  | createUser dto performedBy salt => exact (UsersService.create_only ..).map _
  | updateUser id dto performedBy => exact (UsersService.update_only ..).map _
  | deleteUser id performedBy => exact (UsersService.delete_only ..).map _
  | createProject dto performedBy => exact (ProjectsService.create_only ..).map _
  | updateProject id dto performedBy => exact (ProjectsService.update_only ..).map _
  | softDeleteProject id performedBy => exact (ProjectsService.softDelete_only ..).map _
  | restoreProject id performedBy => exact (ProjectsService.restore_only ..).map _
  | createTicket dto performedBy => exact (TicketsService.create_only ..).map _
  | updateTicket id dto performedBy => exact (TicketsService.update_only ..).map _
  | softDeleteTicket id performedBy => exact (TicketsService.softDelete_only ..).map _
  | restoreTicket id performedBy => exact (TicketsService.restore_only ..).map _
  | importTickets projectId parsed performedBy =>
      exact (CsvImportService.importIntoProject_only (fun _ input _ => .inl ⟨input, rfl⟩)
        (fun _ => .inr) parsed performedBy).map _
  | addDependency ticketId blockerId performedBy =>
      exact (DependenciesService.add_only fuel ..).map _
  | removeDependency ticketId blockerId performedBy =>
      exact (DependenciesService.remove_only ..).map _
  | escalate =>
      exact Program.Only.map _ ((writing_select _).bind fun _ =>
        EscalationService.escalateAll_only _ _)
  | createComment ticketId dto performedBy => exact (CommentsService.create_only ..).map _
  | updateComment ticketId commentId dto performedBy => exact (CommentsService.update_only ..).map _
  | deleteComment ticketId commentId performedBy => exact (CommentsService.delete_only ..).map _
  | uploadAttachment ticketId file uploaderId uuid disk =>
      exact (AttachmentsService.upload_only ..).map _
  | deleteAttachment ticketId attachmentId performedBy =>
      exact (AttachmentsService.delete_only ..).map _
  | login expiresInSeconds jti username password =>
      exact (writing_of_reads (AuthService.login_reads ..)).map _
  | logout payload =>
      exact Program.Only.map _ ((writing_of_reads (JwtStrategy.authenticate_reads payload)).bind
        fun user => writing_execute ⟨_, _, _, rfl⟩)
  | authenticate payload => exact (writing_of_reads (JwtStrategy.authenticate_reads payload)).map _

end IssueFlow
