import IssueFlow.System.Passwords
import IssueFlow.System.Reads

/-!
# Programs that do not look at hashes

The rows of users that a program reads carry the hashes of their passwords. Of
these rows only a login uses the hash: every other program proceeds alike, and
ends alike, whatever the hashes are.

## Main definitions

* `HashBlind` — a program that does not look at hashes
* `SameButPassword` — requests that agree but for passwords

## Main results

* `Request.alike` — every request but a login
* `ReadRequest.hashBlind` — every read
-/

namespace IssueFlow

open Store Semantics JavaScript

/-! ### Parts of programs -/

variable {α β : Type} {values : α → α → Prop}

/-- The program does not look at hashes. -/
abbrev HashBlind (p : Service α) : Prop := p.Alike SameButHash Eq p

/-- A read, and what follows it. -/
theorem alike_select (read : Query) {next next' : read.Rows → Service α}
    (rest : ∀ rows rows', read.hide rows = read.hide rows' →
      (next rows).Alike SameButHash values (next' rows')) :
    (select read >>= next).Alike SameButHash values (select read >>= next') := by
  refine .call (.select read) fun answer answer' same => ?_
  cases Outcomes.of_map_eq same with
  | ok related => exact rest _ _ related
  | error exception => exact .throw _

/-- A write, and what follows it. -/
theorem alike_execute (write : Command) {next next' : write.Rows → Service α}
    (rest : ∀ rows rows', write.hide rows = write.hide rows' →
      (next rows).Alike SameButHash values (next' rows')) :
    (execute write >>= next).Alike SameButHash values (execute write >>= next') := by
  refine .call (.command write) fun answer answer' same => ?_
  cases Outcomes.of_map_eq same with
  | ok related => exact rest _ _ related
  | error exception => exact .throw _

/-- A write whose answer is returned. -/
theorem hashBlind_last {write : Command} (plain : ∀ rows, write.hide rows = rows) :
    HashBlind (execute write) := by
  refine .call (.command write) fun answer answer' same => ?_
  cases Outcomes.of_map_eq same with
  | ok related =>
      rw [plain, plain] at related
      exact .pure related
  | error exception => exact .throw _

/-- A read whose answer is returned. -/
theorem hashBlind_answer {read : Query} (plain : ∀ rows, read.hide rows = rows) :
    HashBlind (select read) := by
  refine .call (.select read) fun answer answer' same => ?_
  cases Outcomes.of_map_eq same with
  | ok related =>
      rw [plain, plain] at related
      exact .pure related
  | error exception => exact .throw _

/-- A read that returns no hashes, and what follows it. -/
theorem hashBlind_select {read : Query} {next : read.Rows → Service α}
    (plain : ∀ rows, read.hide rows = rows) (rest : ∀ rows, HashBlind (next rows)) :
    HashBlind (select read >>= next) := by
  refine alike_select read fun rows rows' same => ?_
  rw [plain, plain] at same
  rw [same]
  exact rest rows'

/-- A write that returns no hashes, and what follows it. -/
theorem hashBlind_execute {write : Command} {next : write.Rows → Service α}
    (plain : ∀ rows, write.hide rows = rows) (rest : ∀ rows, HashBlind (next rows)) :
    HashBlind (execute write >>= next) := by
  refine alike_execute write fun rows rows' same => ?_
  rw [plain, plain] at same
  rw [same]
  exact rest rows'

theorem hashBlind_log (input : AuditInsert) : HashBlind (AuditService.log input) := by
  have inserted : HashBlind (execute (.insertAudit input)) := hashBlind_last fun _ => rfl
  exact inserted.tryCatch fun _ => .pure rfl

/-- An entry, and what follows it. -/
theorem alike_log (input : AuditInsert) {next next' : Unit → Service α}
    (rest : (next ()).Alike SameButHash Eq (next' ())) :
    (AuditService.log input >>= next).Alike SameButHash Eq (AuditService.log input >>= next') :=
  (hashBlind_log input).bind fun _ _ _ => rest

/-- A program, and what follows each of its values. -/
theorem HashBlind.bind {p : Service α} {next : α → Service β} (blind : HashBlind p)
    (rest : ∀ value, HashBlind (next value)) : HashBlind (p >>= next) := by
  refine Program.Alike.bind blind ?_
  rintro value _ rfl
  exact rest value

theorem hashBlind_map {f : α → β} {p : Service α} (blind : HashBlind p) : HashBlind (f <$> p) :=
  HashBlind.bind blind fun _ => .pure rfl

/-- A condition that does not depend on hashes. -/
theorem HashBlind.ite {p p' : Service α} (condition : Prop) [Decidable condition]
    (blind : HashBlind p) (blind' : HashBlind p') : HashBlind (if condition then p else p') := by
  split_ifs
  · exact blind
  · exact blind'

/-! ### Users and projects -/

theorem UsersService.getOrThrow_alike (id : Option ℕ) :
    (getOrThrow id).Alike SameButHash (fun row row' => row.redact = row'.redact)
      (getOrThrow id) := by
  refine alike_select _ fun found found' same => ?_
  cases found with
  | none =>
      cases found' with
      | none => exact .throw _
      | some row' => cases same
  | some row =>
      cases found' with
      | none => cases same
      | some row' => exact .pure (Option.some.inj same)

theorem UsersService.findById_hashBlind (id : Option ℕ) : HashBlind (findById id) := by
  refine (getOrThrow_alike id).bind fun row row' same => .pure ?_
  exact (congrArg toUserResponse same :)

/-- The requests of a new user agree but for the password, and both have one or neither. -/
theorem UsersService.create_alike [Bcrypt] {dto dto' : CreateUserDto} (performedBy : Option ℕ)
    (salt salt' : String)
    (same : { dto with password := .undefined } = { dto' with password := .undefined })
    (supplied : dto.password.map (fun _ => ()) = dto'.password.map fun _ => ()) :
    (create dto performedBy salt).Alike SameButHash Eq (create dto' performedBy salt') := by
  obtain ⟨username, email, fullName, role, password⟩ := dto
  obtain ⟨username', email', fullName', role', password'⟩ := dto'
  cases same
  refine alike_select _ fun found found' same => ?_
  replace same : found.map UserRow.redact = found'.map UserRow.redact := same
  have taken : found.isSome = found'.isSome := by
    simpa only [Option.isSome_map] using congrArg Option.isSome same
  simp only [taken]
  split_ifs
  · exact .throw _
  have hashed : (hashPassword password salt).Alike SameButHash (fun _ _ => True)
      (hashPassword password' salt') := by
    cases password <;> cases password' <;> cases supplied
    · exact .pure trivial
    · exact .throw _
    · exact .pure trivial
  refine hashed.bind fun passwordHash passwordHash' _ => ?_
  refine .call (.createUser rfl) fun answer answer' same => ?_
  cases Outcomes.of_map_eq same with
  | error exception => exact .throw _
  | ok related =>
      obtain ⟨hash, rfl⟩ := UserRow.exists_eq_of_redact related
      exact alike_log _ (.pure rfl)

theorem UsersService.update_hashBlind (id : ℕ) (dto : UpdateUserDto) (performedBy : ℕ) :
    HashBlind (update id dto performedBy) := by
  refine .ite _ (.throw _) ?_
  refine (getOrThrow_alike _).bind fun before before' same => ?_
  obtain ⟨hash, rfl⟩ := UserRow.exists_eq_of_redact same
  refine alike_execute _ fun updated updated' same => ?_
  cases updated with
  | none =>
      cases updated' with
      | none => exact .throw _
      | some row' => cases same
  | some row =>
      cases updated' with
      | none => cases same
      | some row' =>
          obtain ⟨hash', rfl⟩ := UserRow.exists_eq_of_redact (Option.some.inj same)
          exact alike_log _ (.pure rfl)

theorem UsersService.delete_hashBlind (id performedBy : ℕ) : HashBlind (delete id performedBy) := by
  refine (getOrThrow_alike _).bind fun before before' same => ?_
  obtain ⟨hash, rfl⟩ := UserRow.exists_eq_of_redact same
  exact hashBlind_execute (fun _ => rfl) fun deleted => .ite _ (.throw _) (hashBlind_log _)

theorem ProjectsService.getOrThrow_hashBlind (id : ℕ) : HashBlind (getOrThrow id) := by
  refine hashBlind_select (fun _ => rfl) fun found => ?_
  cases found with
  | none => exact .throw _
  | some row => exact .pure rfl

theorem ProjectsService.assertExists_hashBlind (id : ℕ) : HashBlind (assertExists id) :=
  (getOrThrow_hashBlind id).bind fun _ => .pure rfl

theorem ProjectsService.create_hashBlind (dto : CreateProjectDto) (performedBy : ℕ) :
    HashBlind (create dto performedBy) := by
  refine (UsersService.findById_hashBlind _).bind fun _ =>
    hashBlind_execute (fun _ => rfl) fun row => ?_
  exact alike_log _ (.pure rfl)

theorem ProjectsService.update_hashBlind (id : ℕ) (dto : UpdateProjectDto) (performedBy : ℕ) :
    HashBlind (update id dto performedBy) := by
  refine .ite _ (.throw _) ((getOrThrow_hashBlind id).bind fun before =>
    hashBlind_execute (fun _ => rfl) fun updated => ?_)
  cases updated with
  | none => exact .throw _
  | some updated => exact alike_log _ (.pure rfl)

theorem ProjectsService.softDelete_hashBlind (id performedBy : ℕ) :
    HashBlind (softDelete id performedBy) := by
  refine (getOrThrow_hashBlind id).bind fun before =>
    hashBlind_execute (fun _ => rfl) fun deleted => ?_
  exact .ite _ (.throw _) (hashBlind_log _)

theorem ProjectsService.restore_hashBlind (id performedBy : ℕ) :
    HashBlind (restore id performedBy) := by
  refine hashBlind_select (fun _ => rfl) fun found => ?_
  cases found with
  | none => exact .throw _
  | some existing =>
      refine .ite _ (.throw _) (hashBlind_execute (fun _ => rfl) fun restored => ?_)
      exact hashBlind_log _

/-! ### Tickets -/

theorem TicketsService.getOrThrow_hashBlind (id : ℕ) : HashBlind (getOrThrow id) := by
  refine hashBlind_select (fun _ => rfl) fun found => ?_
  cases found with
  | none => exact .throw _
  | some row => exact .pure rfl

theorem TicketsService.assertAssigneeExists_hashBlind (assigneeId : Field ℕ) :
    HashBlind (assertAssigneeExists assigneeId) :=
  .ite _ ((UsersService.findById_hashBlind _).bind fun _ => .pure rfl) (.pure rfl)

theorem TicketsService.create_hashBlind (dto : CreateTicketDto) (performedBy : ℕ) :
    HashBlind (create dto performedBy) := by
  refine (ProjectsService.assertExists_hashBlind _).bind fun _ =>
    (assertAssigneeExists_hashBlind _).bind fun _ => HashBlind.bind ?_ fun assignee => ?_
  · refine .ite _ (.pure rfl) (hashBlind_select (fun _ => rfl) fun workload => ?_)
    exact .pure rfl
  · refine hashBlind_execute (fun _ => rfl) fun row => ?_
    refine alike_log _ (HashBlind.bind ?_ fun _ => .pure rfl)
    cases assignee with
    | none => exact .pure rfl
    | some assignee => exact hashBlind_log _

theorem TicketsService.update_hashBlind (id : ℕ) (dto : UpdateTicketDto) (performedBy : ℕ) :
    HashBlind (update id dto performedBy) := by
  refine .ite _ (.throw _) (.ite _ (.throw _) ?_)
  refine (getOrThrow_hashBlind id).bind fun before => .ite _ (.throw _) (.ite _ (.throw _) ?_)
  have blockers : HashBlind (assertNoUnresolvedBlockers id dto.status) := by
    refine .ite _ (hashBlind_select (fun _ => rfl) fun unresolved => ?_) (.pure rfl)
    exact .ite _ (.throw _) (.pure rfl)
  refine blockers.bind fun _ => (assertAssigneeExists_hashBlind _).bind fun _ =>
    hashBlind_execute (fun _ => rfl) fun updated => ?_
  cases updated with
  | none =>
      refine hashBlind_select (fun _ => rfl) fun live => ?_
      exact .throw _
  | some updated => exact alike_log _ (.pure rfl)

theorem TicketsService.softDelete_hashBlind (id performedBy : ℕ) :
    HashBlind (softDelete id performedBy) := by
  refine (getOrThrow_hashBlind id).bind fun before =>
    hashBlind_execute (fun _ => rfl) fun deleted => ?_
  exact .ite _ (.throw _) (hashBlind_log _)

theorem TicketsService.restore_hashBlind (id performedBy : ℕ) :
    HashBlind (restore id performedBy) := by
  refine hashBlind_select (fun _ => rfl) fun found => ?_
  cases found with
  | none => exact .throw _
  | some existing =>
      refine .ite _ (.throw _) (hashBlind_execute (fun _ => rfl) fun restored => ?_)
      exact hashBlind_log _

section Import

-- The import is inspected statement by statement, never evaluated on a record.
attribute [local irreducible] CsvImportService.importRow CsvImportService.countRow
  CsvImportService.importRows

variable [Unicode]

theorem CsvImportService.importRow_hashBlind (projectId : ℕ) (raw : CsvRecord) :
    HashBlind (importRow projectId raw) := by
  unfold importRow
  cases validateRow projectId raw with
  | error message => exact .throw _
  | ok input => exact hashBlind_execute (fun _ => rfl) fun _ => .pure rfl

theorem CsvImportService.importRows_hashBlind [Postgres] (projectId : ℕ)
    (records : List CsvRecord) (summary : ImportSummary) (rowNumber : ℕ) :
    HashBlind (importRows projectId summary rowNumber records) := by
  induction records generalizing summary rowNumber with
  | nil =>
      unfold importRows
      exact .pure rfl
  | cons raw records ih =>
      have first : HashBlind (countRow projectId summary rowNumber raw) := by
        have imported := importRow_hashBlind projectId raw
        unfold countRow
        exact Program.Alike.tryCatch (imported.bind fun _ => .pure rfl) fun _ => .pure rfl
      unfold importRows
      exact first.bind fun summary => ih summary (rowNumber + 1)

theorem CsvImportService.importIntoProject_hashBlind [Postgres] (projectId : ℕ)
    (parsed : Except String (List CsvRecord)) (performedBy : ℕ) :
    HashBlind (importIntoProject projectId parsed performedBy) := by
  refine (ProjectsService.assertExists_hashBlind _).bind fun _ => ?_
  cases parsed with
  | error message => exact .throw _
  | ok records =>
      exact (importRows_hashBlind projectId records _ _).bind fun _ => alike_log _ (.pure rfl)

end Import

/-! ### Dependencies and escalation -/

theorem DependenciesService.walk_hashBlind (ticketId fuel : ℕ) (visited stack : List ℕ) :
    HashBlind (walk ticketId fuel visited stack) := by
  induction fuel generalizing visited stack with
  | zero =>
      cases stack with
      | nil => exact .pure rfl
      | cons current stack => exact .throw _
  | succ fuel ih =>
      cases stack with
      | nil => exact .pure rfl
      | cons current stack =>
          rw [walk]
          refine .ite _ (.pure rfl) (.ite _ (ih _ _) ?_)
          exact hashBlind_select (fun _ => rfl) fun next => ih _ _

theorem DependenciesService.add_hashBlind (fuel ticketId blockerId performedBy : ℕ) :
    HashBlind (add fuel ticketId blockerId performedBy) := by
  refine .ite _ (.throw _) (hashBlind_select (fun _ => rfl) fun ticket => ?_)
  cases ticket with
  | none => exact .throw _
  | some ticket =>
      refine hashBlind_select (fun _ => rfl) fun blocker => ?_
      cases blocker with
      | none => exact .throw _
      | some blocker =>
          refine .ite _ (.throw _) ((walk_hashBlind ..).bind fun creates => ?_)
          refine .ite _ (.throw _) (hashBlind_execute (fun _ => rfl) fun added => ?_)
          exact .ite _ (hashBlind_log _) (.pure rfl)

theorem DependenciesService.remove_hashBlind (ticketId blockerId performedBy : ℕ) :
    HashBlind (remove ticketId blockerId performedBy) :=
  hashBlind_execute (fun _ => rfl) fun _ => .ite _ (.throw _) (hashBlind_log _)

theorem EscalationService.escalateAll_hashBlind (summary : EscalationSummary)
    (overdue : List TicketRow) : HashBlind (escalateAll summary overdue) := by
  induction overdue generalizing summary with
  | nil => exact .pure rfl
  | cons ticket overdue ih =>
      have first : HashBlind (escalate summary ticket) := by
        rw [escalate]
        cases decision ticket with
        | none => exact .pure rfl
        | some change =>
            refine hashBlind_execute (fun _ => rfl) fun found => ?_
            cases found with
            | none => exact .pure rfl
            | some row => exact alike_log _ (.pure rfl)
      exact first.bind fun summary => ih summary

/-! ### Comments and attachments -/

theorem CommentsService.resolveMentions_hashBlind (content : String) :
    HashBlind (resolveMentions content) := by
  unfold resolveMentions
  generalize parseMentions content = usernames
  refine .ite _ (.pure rfl) (alike_select _ fun users users' same => .pure ?_)
  -- Only the ids of the users are used.
  have ids : (users.map UserRow.redact).map (·.id) = (users'.map UserRow.redact).map (·.id) :=
    (congrArg (List.map (·.id)) same :)
  rw [List.map_map, List.map_map] at ids
  exact (congrArg List.dedup ids :)

theorem CommentsService.getOrThrow_hashBlind (id : ℕ) : HashBlind (getOrThrow id) := by
  refine hashBlind_select (fun _ => rfl) fun found => ?_
  cases found with
  | none => exact .throw _
  | some row => exact .pure rfl

theorem CommentsService.toResponse_hashBlind (row : CommentRow) : HashBlind (toResponse row) :=
  hashBlind_select (fun _ => rfl) fun _ => .pure rfl

theorem CommentsService.create_hashBlind (ticketId : ℕ) (dto : CreateCommentDto)
    (performedBy : ℕ) : HashBlind (create ticketId dto performedBy) :=
  (TicketsService.getOrThrow_hashBlind _).bind fun _ =>
    (UsersService.findById_hashBlind _).bind fun _ =>
    (resolveMentions_hashBlind _).bind fun _ =>
    hashBlind_execute (fun _ => rfl) fun row => toResponse_hashBlind row

theorem CommentsService.update_hashBlind (ticketId commentId : ℕ) (dto : UpdateCommentDto)
    (performedBy : ℕ) : HashBlind (update ticketId commentId dto performedBy) := by
  refine .ite _ (.throw _) ((getOrThrow_hashBlind _).bind fun existing => .ite _ (.throw _) ?_)
  refine (resolveMentions_hashBlind _).bind fun _ =>
    hashBlind_execute (fun _ => rfl) fun updated => ?_
  cases updated with
  | none => exact hashBlind_select (fun _ => rfl) fun live => .throw _
  | some updated => exact toResponse_hashBlind updated

theorem CommentsService.delete_hashBlind (ticketId commentId performedBy : ℕ) :
    HashBlind (delete ticketId commentId performedBy) := by
  refine (getOrThrow_hashBlind _).bind fun existing => .ite _ (.throw _) ?_
  exact hashBlind_execute (fun _ => rfl) fun _ => hashBlind_log _

theorem AttachmentsService.awaitDisk_hashBlind (answer : Except String Unit) :
    HashBlind (awaitDisk answer) := by
  cases answer with
  | ok => exact .pure rfl
  | error message => exact .throw _

theorem AttachmentsService.upload_hashBlind (ticketId : ℕ) (file : Option UploadedFile)
    (uploaderId : ℕ) (uuid : String) (disk : DiskAnswers) :
    HashBlind (upload ticketId file uploaderId uuid disk) := by
  cases file with
  | none => exact .throw _
  | some file =>
      refine .ite _ (.throw _) (.ite _ (.throw _) ?_)
      refine (TicketsService.getOrThrow_hashBlind _).bind fun _ =>
        (awaitDisk_hashBlind _).bind fun _ => HashBlind.bind ?_ fun row => alike_log _ (.pure rfl)
      have inserted (input : AttachmentInput) : HashBlind (execute (.createAttachment input)) :=
        hashBlind_last fun _ => rfl
      exact (inserted _).tryCatch fun _ => (awaitDisk_hashBlind _).bind fun _ => .throw _

theorem AttachmentsService.delete_hashBlind (ticketId attachmentId performedBy : ℕ) :
    HashBlind (delete ticketId attachmentId performedBy) := by
  refine hashBlind_select (fun _ => rfl) fun found => ?_
  cases found with
  | none => exact .throw _
  | some row =>
      exact .ite _ (.throw _) (hashBlind_execute (fun _ => rfl) fun _ => hashBlind_log _)

/-! ### Tokens -/

theorem JwtStrategy.authenticate_hashBlind (payload : JwtPayload) :
    HashBlind (authenticate payload) := by
  have validated : HashBlind (validate payload) := by
    unfold validate
    split
    · refine .ite _ (.throw _) (hashBlind_select (fun _ => rfl) fun revoked => ?_)
      exact .ite _ (.throw _) (.pure rfl)
    · exact .throw _
  exact hashBlind_select (fun _ => rfl) fun now => .ite _ validated (.throw _)

theorem AuthController.logout_hashBlind (payload : JwtPayload) : HashBlind (logout payload) :=
  (JwtStrategy.authenticate_hashBlind payload).bind fun _ => hashBlind_last fun _ => rfl

/-! ### Requests -/

/-- Requests that agree but for the password of a new user, which both have or
neither. A login corresponds to a login. -/
inductive SameButPassword : Request → Request → Prop
  | createUser {dto dto' : CreateUserDto} (performedBy : Option ℕ) (salt salt' : String)
      (same : { dto with password := .undefined } = { dto' with password := .undefined })
      (supplied : dto.password.map (fun _ => ()) = dto'.password.map fun _ => ()) :
      SameButPassword (.createUser dto performedBy salt) (.createUser dto' performedBy salt')
  | login (expiresInSeconds expiresInSeconds' : ℕ) (jti jti' username username' password
      password' : String) :
      SameButPassword (.login expiresInSeconds jti username password)
        (.login expiresInSeconds' jti' username' password')
  | same (request : Request) : SameButPassword request request

def Request.isLogin : Request → Bool
  | .login .. => true
  | _ => false

variable [Postgres] [Bcrypt] [Unicode]

/-- **Every request but a login proceeds alike, whatever the hashes are.** -/
theorem Request.alike {request request' : Request} (same : SameButPassword request request')
    (other : request.isLogin = false) (fuel : ℕ) :
    (request.program fuel).Alike SameButHash Eq (request'.program fuel) := by
  cases same with
  | createUser performedBy salt salt' same supplied =>
      refine (UsersService.create_alike performedBy salt salt' same supplied).bind ?_
      rintro response _ rfl
      exact .pure rfl
  | login => cases other
  | same request =>
      cases request with
      | createUser dto performedBy salt =>
          exact hashBlind_map (UsersService.create_alike performedBy salt salt rfl rfl)
      | updateUser => exact hashBlind_map (UsersService.update_hashBlind ..)
      | deleteUser => exact hashBlind_map (UsersService.delete_hashBlind ..)
      | createProject => exact hashBlind_map (ProjectsService.create_hashBlind ..)
      | updateProject => exact hashBlind_map (ProjectsService.update_hashBlind ..)
      | softDeleteProject => exact hashBlind_map (ProjectsService.softDelete_hashBlind ..)
      | restoreProject => exact hashBlind_map (ProjectsService.restore_hashBlind ..)
      | createTicket => exact hashBlind_map (TicketsService.create_hashBlind ..)
      | updateTicket => exact hashBlind_map (TicketsService.update_hashBlind ..)
      | softDeleteTicket => exact hashBlind_map (TicketsService.softDelete_hashBlind ..)
      | restoreTicket => exact hashBlind_map (TicketsService.restore_hashBlind ..)
      | importTickets => exact hashBlind_map (CsvImportService.importIntoProject_hashBlind ..)
      | addDependency => exact hashBlind_map (DependenciesService.add_hashBlind ..)
      | removeDependency => exact hashBlind_map (DependenciesService.remove_hashBlind ..)
      | escalate =>
          exact hashBlind_map (hashBlind_select (fun _ => rfl) fun _ =>
            EscalationService.escalateAll_hashBlind ..)
      | createComment => exact hashBlind_map (CommentsService.create_hashBlind ..)
      | updateComment => exact hashBlind_map (CommentsService.update_hashBlind ..)
      | deleteComment => exact hashBlind_map (CommentsService.delete_hashBlind ..)
      | uploadAttachment => exact hashBlind_map (AttachmentsService.upload_hashBlind ..)
      | deleteAttachment => exact hashBlind_map (AttachmentsService.delete_hashBlind ..)
      | login => cases other
      | logout => exact hashBlind_map (AuthController.logout_hashBlind _)
      | authenticate => exact hashBlind_map (JwtStrategy.authenticate_hashBlind _)

omit [Postgres] [Bcrypt] [Unicode] in
/-- **No read depends on the hashes.** -/
theorem ReadRequest.hashBlind [CsvStringify] (read : ReadRequest) : HashBlind read.program := by
  have comments (rows : List CommentRow) : HashBlind (CommentsService.attachMentions rows) :=
    .ite _ (.pure rfl) (hashBlind_select (fun _ => rfl) fun _ => .pure rfl)
  cases read with
  | findAllUsers =>
      refine hashBlind_map (alike_select _ fun rows rows' same => .pure ?_)
      have same : (rows.map UserRow.redact).map toUserResponse =
          (rows'.map UserRow.redact).map toUserResponse := (congrArg (List.map _) same :)
      rw [List.map_map, List.map_map] at same
      exact same
  | findUser userId => exact hashBlind_map (UsersService.findById_hashBlind _)
  | findAllProjects => exact hashBlind_map (hashBlind_select (fun _ => rfl) fun _ => .pure rfl)
  | findProject projectId =>
      exact hashBlind_map ((ProjectsService.getOrThrow_hashBlind _).bind fun _ => .pure rfl)
  | getWorkload projectId =>
      exact hashBlind_map ((ProjectsService.assertExists_hashBlind _).bind fun _ =>
        hashBlind_answer fun _ => rfl)
  | findAllTickets projectId =>
      cases projectId with
      | none => exact hashBlind_map (hashBlind_select (fun _ => rfl) fun _ => .pure rfl)
      | some projectId =>
          exact hashBlind_map ((ProjectsService.assertExists_hashBlind _).bind fun _ =>
            hashBlind_select (fun _ => rfl) fun _ => .pure rfl)
  | findTicket ticketId =>
      exact hashBlind_map ((TicketsService.getOrThrow_hashBlind _).bind fun _ => .pure rfl)
  | exportCsv projectId =>
      exact hashBlind_map ((ProjectsService.assertExists_hashBlind _).bind fun _ =>
        hashBlind_select (fun _ => rfl) fun _ => .pure rfl)
  | listDependencies ticketId =>
      refine hashBlind_map (hashBlind_select (fun _ => rfl) fun ticket => ?_)
      cases ticket with
      | none => exact .throw _
      | some ticket => exact hashBlind_answer fun _ => rfl
  | findAllComments ticketId =>
      exact hashBlind_map ((TicketsService.getOrThrow_hashBlind _).bind fun _ =>
        hashBlind_select (fun _ => rfl) fun rows => comments rows)
  | listAttachments ticketId =>
      exact hashBlind_map ((TicketsService.getOrThrow_hashBlind _).bind fun _ =>
        hashBlind_select (fun _ => rfl) fun rows => .pure rfl)
  | findMentions userId pagination =>
      refine hashBlind_map ((UsersService.findById_hashBlind _).bind fun _ =>
        HashBlind.bind ?_ fun page => (comments page.rows).bind fun _ => .pure rfl)
      exact hashBlind_select (fun _ => rfl) fun _ =>
        hashBlind_select (fun _ => rfl) fun _ => .pure rfl

end IssueFlow
