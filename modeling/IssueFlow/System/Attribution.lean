import IssueFlow.System.Writes

/-!
# Attribution

Every audit entry a request writes names the user who performs the request, or
it is an entry of the system about an automatic assignment or an escalation. The
registration of a user is performed by the new user.

## Main definitions

* `AuditInsert.IsBy`, `Command.IsBy` — entries that name a user
* `Statement.IsOpen` — the statements of a login and of a registration
* `Request.performer` — who performs a request

## Main results

* `Request.isBy` — a request writes entries that name its performer
* `UsersService.create_open`, `AuthService.login_open` — a registration and a login
-/

namespace IssueFlow

open Store Semantics JavaScript

/-- The entry names a user, or it is one of the system. -/
def AuditInsert.IsBy (performer : ℕ) (input : AuditInsert) : Prop :=
  match input.actor with
  | .user => input.performedBy = some performer
  | .system =>
      input.performedBy = none ∧ (input.action = .autoAssign ∨ input.action = .priorityEscalated)

/-- Every entry that the write makes names a user. -/
def Command.IsBy (performer : ℕ) : Command → Prop
  | insertAudit input => input.IsBy performer
  | createWithMentions _ onCommitting => ∀ row, (onCommitting row).IsBy performer
  | updateContentAndMentions _ _ _ _ onCommitting => ∀ row, (onCommitting row).IsBy performer
  | _ => True

/-- What a login and a registration send: the look-up of a name, the clock, a new
user, and the entry about it, which names the new user. -/
def Statement.IsOpen : Statement → Prop
  | .select (.findUserByUsername _) | .select .dateNow | .command (.createUser _) => True
  | .command (.insertAudit input) =>
      input.action = .create ∧ input.entityType = .user ∧ input.actor = .user ∧
        input.performedBy = some input.entityId
  | _ => False

/-- The user who performs a request; a registration, a login and the check of a
token have none, and the escalation cycle is run by the system. -/
def Request.performer : Request → Option ℕ
  | createUser _ performedBy _ => performedBy
  | updateUser _ _ performedBy | deleteUser _ performedBy | createProject _ performedBy
  | updateProject _ _ performedBy | softDeleteProject _ performedBy | restoreProject _ performedBy
  | createTicket _ performedBy | updateTicket _ _ performedBy | softDeleteTicket _ performedBy
  | restoreTicket _ performedBy | importTickets _ _ performedBy | addDependency _ _ performedBy
  | removeDependency _ _ performedBy | createComment _ _ performedBy
  | updateComment _ _ _ performedBy | deleteComment _ _ performedBy
  | uploadAttachment _ _ performedBy _ _ | deleteAttachment _ _ performedBy => some performedBy
  | logout payload => some payload.sub
  | escalate | login .. | authenticate _ => none

section Services

variable {performer : ℕ}

theorem isBy_execute {write : Command} (isBy : write.IsBy performer) :
    (execute write).Only (Writing (Command.IsBy performer)) :=
  writing_execute isBy

theorem isBy_log {input : AuditInsert} (isBy : input.IsBy performer) :
    (AuditService.log input).Only (Writing (Command.IsBy performer)) :=
  writing_log isBy

/-- The entry is logged last, and a value is returned. -/
theorem isBy_logAndReturn {α : Type} {input : AuditInsert} (value : α)
    (isBy : input.IsBy performer) :
    (AuditService.log input >>= fun _ => pure value).Only (Writing (Command.IsBy performer)) :=
  (isBy_log isBy).bind fun _ => trivial

/-! ### Users and projects -/

theorem UsersService.create_isBy [Bcrypt] (dto : CreateUserDto) (salt : String) :
    (UsersService.create dto (some performer) salt).Only (Writing (Command.IsBy performer)) := by
  refine (writing_select _).bind fun existing => ?_
  split_ifs
  · trivial
  · have hashed : (UsersService.hashPassword dto.password salt).Only
        (Writing (Command.IsBy performer)) := by
      unfold UsersService.hashPassword
      cases dto.password <;> trivial
    exact hashed.bind fun _ => (isBy_execute (by trivial)).bind fun _ =>
      isBy_logAndReturn _ (by rfl)

/-- **A registration** names the new user. -/
theorem UsersService.create_open [Bcrypt] (dto : CreateUserDto) (salt : String) :
    (UsersService.create dto none salt).Only Statement.IsOpen := by
  refine Program.Only.bind ⟨trivial, fun _ => trivial⟩ fun existing => ?_
  split_ifs
  · trivial
  · have hashed : (UsersService.hashPassword dto.password salt).Only Statement.IsOpen := by
      unfold UsersService.hashPassword
      cases dto.password <;> trivial
    refine hashed.bind fun _ => Program.Only.bind ⟨trivial, fun _ => trivial⟩ fun row =>
      Program.Only.bind ?_ fun _ => trivial
    exact Program.Only.tryCatch ⟨⟨rfl, rfl, rfl, rfl⟩, fun _ => trivial⟩ fun _ => trivial

theorem AuthService.login_open [Bcrypt] (expiresInSeconds : ℕ) (jti username password : String) :
    (AuthService.login expiresInSeconds jti username password).Only Statement.IsOpen := by
  have validated : (AuthService.validateCredentials username password).Only Statement.IsOpen := by
    refine Program.Only.bind ⟨trivial, fun _ => trivial⟩ fun found => ?_
    cases found with
    | none => trivial
    | some user =>
        simp only
        split_ifs <;> trivial
  have signed (id : ℕ) (name : String) (role : UserRole) :
      (AuthService.signAsync expiresInSeconds id name role jti).Only Statement.IsOpen :=
    Program.Only.bind (p := select .dateNow) ⟨trivial, fun _ => trivial⟩ fun _ => trivial
  exact validated.bind fun _ => (signed _ _ _).bind fun _ => trivial

theorem UsersService.update_isBy (id : ℕ) (dto : UpdateUserDto) :
    (UsersService.update id dto performer).Only (Writing (Command.IsBy performer)) := by
  unfold UsersService.update
  split_ifs
  · trivial
  · refine (writing_of_reads (UsersService.getOrThrow_reads _)).bind fun before =>
      (isBy_execute (by trivial)).bind fun found => ?_
    cases found with
    | none => trivial
    | some updated => exact isBy_logAndReturn _ (by rfl)

theorem UsersService.delete_isBy (id : ℕ) :
    (UsersService.delete id performer).Only (Writing (Command.IsBy performer)) := by
  refine (writing_of_reads (UsersService.getOrThrow_reads _)).bind fun before =>
    (isBy_execute (by trivial)).bind fun deleted => ?_
  split_ifs
  · trivial
  · exact isBy_log (by rfl)

theorem ProjectsService.create_isBy (dto : CreateProjectDto) :
    (ProjectsService.create dto performer).Only (Writing (Command.IsBy performer)) :=
  (writing_of_reads (UsersService.findById_reads _)).bind fun _ =>
    (isBy_execute (by trivial)).bind fun _ => isBy_logAndReturn _ (by rfl)

theorem ProjectsService.update_isBy (id : ℕ) (dto : UpdateProjectDto) :
    (ProjectsService.update id dto performer).Only (Writing (Command.IsBy performer)) := by
  unfold ProjectsService.update
  split_ifs
  · trivial
  · refine (writing_of_reads (ProjectsService.getOrThrow_reads _)).bind fun before =>
      (isBy_execute (by trivial)).bind fun found => ?_
    cases found with
    | none => trivial
    | some updated => exact isBy_logAndReturn _ (by rfl)

theorem ProjectsService.softDelete_isBy (id : ℕ) :
    (ProjectsService.softDelete id performer).Only (Writing (Command.IsBy performer)) := by
  refine (writing_of_reads (ProjectsService.getOrThrow_reads _)).bind fun before =>
    (isBy_execute (by trivial)).bind fun deleted => ?_
  split_ifs
  · trivial
  · exact isBy_log (by rfl)

theorem ProjectsService.restore_isBy (id : ℕ) :
    (ProjectsService.restore id performer).Only (Writing (Command.IsBy performer)) := by
  refine (writing_select _).bind fun found => ?_
  cases found with
  | none => trivial
  | some existing =>
      simp only
      split_ifs
      · trivial
      · exact (isBy_execute (by trivial)).bind fun _ => isBy_log (by rfl)

/-! ### Tickets -/

theorem TicketsService.create_isBy (dto : CreateTicketDto) :
    (TicketsService.create dto performer).Only (Writing (Command.IsBy performer)) := by
  have logged (id : ℕ) (assignee : Option ℕ) : (TicketsService.logAutoAssign id assignee).Only
      (Writing (Command.IsBy performer)) := by
    cases assignee with
    | none => trivial
    | some _ => exact isBy_log (by exact ⟨rfl, .inl rfl⟩)
  exact (writing_of_reads (ProjectsService.assertExists_reads _)).bind fun _ =>
    (writing_of_reads (TicketsService.assertAssigneeExists_reads _)).bind fun _ =>
    (writing_of_reads (TicketsService.autoAssign_reads _)).bind fun assignee =>
    (isBy_execute (by trivial)).bind fun row =>
    (isBy_log (by rfl)).bind fun _ =>
    (logged row.id assignee).bind fun _ => trivial

theorem TicketsService.update_isBy (id : ℕ) (dto : UpdateTicketDto) :
    (TicketsService.update id dto performer).Only (Writing (Command.IsBy performer)) := by
  unfold TicketsService.update
  split_ifs
  · trivial
  · trivial
  refine (writing_of_reads (TicketsService.getOrThrow_reads _)).bind fun before => ?_
  split_ifs
  · trivial
  · trivial
  refine (writing_of_reads (TicketsService.assertNoUnresolvedBlockers_reads _ _)).bind fun _ =>
    (writing_of_reads (TicketsService.assertAssigneeExists_reads _)).bind fun _ =>
    (isBy_execute (by trivial)).bind fun found => ?_
  cases found with
  | none => exact (writing_select _).bind fun _ => trivial
  | some updated => exact isBy_logAndReturn _ (by rfl)

theorem TicketsService.softDelete_isBy (id : ℕ) :
    (TicketsService.softDelete id performer).Only (Writing (Command.IsBy performer)) := by
  refine (writing_of_reads (TicketsService.getOrThrow_reads _)).bind fun before =>
    (isBy_execute (by trivial)).bind fun deleted => ?_
  split_ifs
  · trivial
  · exact isBy_log (by rfl)

theorem TicketsService.restore_isBy (id : ℕ) :
    (TicketsService.restore id performer).Only (Writing (Command.IsBy performer)) := by
  refine (writing_select _).bind fun found => ?_
  cases found with
  | none => trivial
  | some existing =>
      simp only
      split_ifs
      · trivial
      · exact (isBy_execute (by trivial)).bind fun _ => isBy_log (by rfl)

/-- The import is one entry, whatever its records are. -/
theorem CsvImportService.importIntoProject_isBy [Postgres] [Unicode] (projectId : ℕ)
    (parsed : Except String (List CsvRecord)) :
    (CsvImportService.importIntoProject projectId parsed performer).Only
      (Writing (Command.IsBy performer)) := by
  refine (writing_of_reads (ProjectsService.assertExists_reads _)).bind fun _ => ?_
  cases parsed with
  | error message => trivial
  | ok records =>
      have rows : (CsvImportService.importRows projectId ⟨0, 0, []⟩ 1 records).Only
          (Writing (Command.IsBy performer)) :=
        CsvImportService.importRows_only (fun _ _ _ => trivial) records _ _
      exact rows.bind fun _ => isBy_logAndReturn _ (by rfl)

/-! ### Dependencies and escalation -/

theorem DependenciesService.add_isBy (fuel ticketId blockerId : ℕ) :
    (DependenciesService.add fuel ticketId blockerId performer).Only
      (Writing (Command.IsBy performer)) := by
  unfold DependenciesService.add
  split_ifs
  · trivial
  refine (writing_select _).bind fun ticket => ?_
  cases ticket with
  | none => trivial
  | some ticket =>
      refine (writing_select _).bind fun blocker => ?_
      cases blocker with
      | none => trivial
      | some blocker =>
          simp only
          split_ifs
          · trivial
          refine (writing_of_reads (DependenciesService.walk_reads ..)).bind fun creates => ?_
          cases creates with
          | true => trivial
          | false =>
              refine (isBy_execute (by trivial)).bind fun added => ?_
              cases added with
              | true => exact isBy_log (by rfl)
              | false => trivial

theorem DependenciesService.remove_isBy (ticketId blockerId : ℕ) :
    (DependenciesService.remove ticketId blockerId performer).Only
      (Writing (Command.IsBy performer)) := by
  refine (isBy_execute (by trivial)).bind fun removed => ?_
  split_ifs
  · trivial
  · exact isBy_log (by rfl)

/-- The entries of the escalation cycle are of the system. -/
theorem EscalationService.escalateAll_isBy (summary : EscalationSummary)
    (overdue : List TicketRow) : (EscalationService.escalateAll summary overdue).Only
      (Writing (Command.IsBy performer)) := by
  induction overdue generalizing summary with
  | nil => trivial
  | cons ticket overdue ih =>
      rw [EscalationService.escalateAll, EscalationService.escalate]
      cases EscalationService.decision ticket with
      | none => exact ih _
      | some change =>
          refine Program.Only.bind ((isBy_execute (by trivial)).bind fun found => ?_)
            fun summary => ih summary
          cases found with
          | none => trivial
          | some row => exact isBy_logAndReturn _ (by exact ⟨rfl, .inr rfl⟩)

/-! ### Comments and attachments -/

theorem CommentsService.create_isBy (ticketId : ℕ) (dto : CreateCommentDto) :
    (CommentsService.create ticketId dto performer).Only (Writing (Command.IsBy performer)) :=
  (writing_of_reads (TicketsService.getOrThrow_reads _)).bind fun _ =>
    (writing_of_reads (UsersService.findById_reads _)).bind fun _ =>
    (writing_of_reads (CommentsService.resolveMentions_reads _)).bind fun _ =>
    (isBy_execute (by exact fun _ => rfl)).bind fun _ =>
    writing_of_reads (CommentsService.toResponse_reads _)

theorem CommentsService.update_isBy (ticketId commentId : ℕ) (dto : UpdateCommentDto) :
    (CommentsService.update ticketId commentId dto performer).Only
      (Writing (Command.IsBy performer)) := by
  unfold CommentsService.update
  split_ifs
  · trivial
  refine (writing_of_reads (CommentsService.getOrThrow_reads _)).bind fun existing => ?_
  split_ifs
  · trivial
  refine (writing_of_reads (CommentsService.resolveMentions_reads _)).bind fun _ =>
    (isBy_execute (by exact fun _ => rfl)).bind fun found => ?_
  cases found with
  | none => exact (writing_select _).bind fun _ => trivial
  | some updated => exact writing_of_reads (CommentsService.toResponse_reads _)

theorem CommentsService.delete_isBy (ticketId commentId : ℕ) :
    (CommentsService.delete ticketId commentId performer).Only
      (Writing (Command.IsBy performer)) := by
  refine (writing_of_reads (CommentsService.getOrThrow_reads _)).bind fun existing => ?_
  split_ifs
  · trivial
  · exact (isBy_execute (by trivial)).bind fun _ => isBy_log (by rfl)

theorem AttachmentsService.upload_isBy (ticketId : ℕ) (file : Option UploadedFile)
    (uuid : String) (disk : DiskAnswers) :
    (AttachmentsService.upload ticketId file performer uuid disk).Only
      (Writing (Command.IsBy performer)) := by
  cases file with
  | none => trivial
  | some file =>
      unfold AttachmentsService.upload
      simp only
      split_ifs
      · trivial
      · refine (writing_of_reads (TicketsService.getOrThrow_reads _)).bind fun _ =>
          (writing_of_reads (AttachmentsService.awaitDisk_reads _)).bind fun _ =>
          Program.Only.bind ?_ fun row => isBy_logAndReturn _ (by rfl)
        refine (isBy_execute (by trivial)).tryCatch fun exception => ?_
        exact (writing_of_reads (AttachmentsService.awaitDisk_reads _)).bind fun _ => trivial
      · trivial

theorem AttachmentsService.delete_isBy (ticketId attachmentId : ℕ) :
    (AttachmentsService.delete ticketId attachmentId performer).Only
      (Writing (Command.IsBy performer)) := by
  refine (writing_select _).bind fun found => ?_
  cases found with
  | none => trivial
  | some row =>
      simp only
      split_ifs
      · trivial
      · exact (isBy_execute (by trivial)).bind fun _ => isBy_log (by rfl)

end Services

/-! ### All requests -/

/-- **A request writes entries that name its performer**, or entries of the
system. -/
theorem Request.isBy [Postgres] [Bcrypt] [Unicode] {request : Request} {performer : ℕ}
    (isPerformer : ∀ user ∈ request.performer, user = performer)
    (noRegistration : ∀ dto salt, request ≠ .createUser dto none salt) (fuel : ℕ) :
    (request.program fuel).Only (Writing (Command.IsBy performer)) := by
  cases request with
  | createUser dto performedBy salt =>
      cases performedBy with
      | none => exact absurd rfl (noRegistration dto salt)
      | some user => exact isPerformer user rfl ▸ (UsersService.create_isBy ..).map _
  | updateUser => exact isPerformer _ rfl ▸ (UsersService.update_isBy ..).map _
  | deleteUser => exact isPerformer _ rfl ▸ (UsersService.delete_isBy ..).map _
  | createProject => exact isPerformer _ rfl ▸ (ProjectsService.create_isBy ..).map _
  | updateProject => exact isPerformer _ rfl ▸ (ProjectsService.update_isBy ..).map _
  | softDeleteProject => exact isPerformer _ rfl ▸ (ProjectsService.softDelete_isBy ..).map _
  | restoreProject => exact isPerformer _ rfl ▸ (ProjectsService.restore_isBy ..).map _
  | createTicket => exact isPerformer _ rfl ▸ (TicketsService.create_isBy ..).map _
  | updateTicket => exact isPerformer _ rfl ▸ (TicketsService.update_isBy ..).map _
  | softDeleteTicket => exact isPerformer _ rfl ▸ (TicketsService.softDelete_isBy ..).map _
  | restoreTicket => exact isPerformer _ rfl ▸ (TicketsService.restore_isBy ..).map _
  | importTickets =>
      exact isPerformer _ rfl ▸ (CsvImportService.importIntoProject_isBy ..).map _
  | addDependency => exact isPerformer _ rfl ▸ (DependenciesService.add_isBy fuel ..).map _
  | removeDependency => exact isPerformer _ rfl ▸ (DependenciesService.remove_isBy ..).map _
  | escalate =>
      exact Program.Only.map _ ((writing_select _).bind fun _ =>
        EscalationService.escalateAll_isBy _ _)
  | createComment => exact isPerformer _ rfl ▸ (CommentsService.create_isBy ..).map _
  | updateComment => exact isPerformer _ rfl ▸ (CommentsService.update_isBy ..).map _
  | deleteComment => exact isPerformer _ rfl ▸ (CommentsService.delete_isBy ..).map _
  | uploadAttachment => exact isPerformer _ rfl ▸ (AttachmentsService.upload_isBy ..).map _
  | deleteAttachment => exact isPerformer _ rfl ▸ (AttachmentsService.delete_isBy ..).map _
  | login => exact (writing_of_reads (AuthService.login_reads ..)).map _
  | logout payload =>
      exact Program.Only.map _ ((writing_of_reads (JwtStrategy.authenticate_reads payload)).bind
        fun user => isBy_execute (by trivial))
  | authenticate payload => exact (writing_of_reads (JwtStrategy.authenticate_reads payload)).map _

end IssueFlow
