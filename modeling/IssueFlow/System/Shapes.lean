import IssueFlow.Database.Faults
import IssueFlow.System.Writes

/-!
# The shape of a request

Most requests read, then make their write, and after a write that has taken
effect only log entries and return. A failure of a statement is therefore
reported before the write has taken effect, and a failure to log is not
reported at all.

## Main definitions

* `Closing`, `Shape` — the end of a request, and a whole one
* `Db.business` — the database apart from the audit log
* `Harmless`, `Independent` — what follows from a shape

## Main results

* `Shape.harmless` — an error means that no row has changed
* `Shape.independent` — the audit log does not matter to the rest
* `Request.shape` — the requests that have this shape
-/

namespace IssueFlow

open Store Semantics JavaScript

/-- A write outside transactions that is no audit entry. -/
def Command.isPlain (write : Command) : Bool := !write.isTransaction && !write.isAudit

/-- Entries are logged and a value is returned. -/
inductive Closing {α : Type} : Service α → Prop
  | done (value : α) : Closing (.done (.ok value))
  | log (input : AuditInsert) {next : Unit → Service α} (rest : Closing (next ())) :
      Closing (AuditService.log input >>= next)

/-- Reads, at most one write that is not answered with a value unless it has
taken effect, or writes whose failures are caught, and then the closing. -/
inductive Shape {α : Type} : Service α → Prop
  | reads {p : Service α} (only : p.Only IsRead) : Shape p
  | first {β : Type} {p : Service β} {next : β → Service α} (only : p.Only IsRead)
      (rest : ∀ value, Shape (next value)) : Shape (p >>= next)
  | write {write : Command} {next : Except PgError write.Rows → Service α}
      (plain : write.isPlain = true)
      (found : ∀ rows, write.foundNone rows = false → Closing (next (.ok rows)))
      (missed : ∀ answer, write.missed answer = true → (next answer).Only IsRead) :
      Shape (.call (.command write) next)
  | batch {β : Type} {p : Service β} {next : β → Service α}
      (only : p.Only (Writing fun write => write.isPlain = true)) (returns : p.Returns)
      (rest : ∀ value, Closing (next value)) : Shape (p >>= next)

/-- The database apart from the audit log. -/
def Db.business (db : Db) : Db := { db with auditLogs := .empty }

/-- The audit inserts. -/
def Sent.isAudit : Sent → Bool
  | statement (.command (.insertAudit _)) | client (.insertAudit _) => true
  | _ => false

/-- Only audit inserts fail. -/
def Plan.AuditOnly (plan : Plan) : Prop :=
  ∀ number sent, sent.isAudit = false → plan number sent = Option.none

section Shapes

variable [Postgres] {α β : Type} {plan : Plan}

/-- Whichever statements fail: an error means that no row has changed. -/
def Harmless (p : Service α) : Prop :=
  ∀ plan state exception after, p.run (execUnder plan) state = (.error exception, after) →
    SameRows state.1 after.1

/-- Whichever audit inserts fail: the result is the same, and so is everything
but the audit log. -/
def Independent (p : Service α) : Prop :=
  ∀ plan : Plan, plan.AuditOnly → ∀ state : Db × ℕ,
    (p.run (execUnder plan) state).1 = (p.run exec state.1).1 ∧
      (p.run (execUnder plan) state).2.1.business = (p.run exec state.1).2.business

/-! ### Reads and plain writes -/

theorem execUnder_select (plan : Plan) (read : Query) (state : Db × ℕ) :
    execUnder plan (.select read) state = faulty exec plan.statements (.select read) state := rfl

/-- A part that only reads leaves the database, whatever fails. -/
theorem run_reads_under (plan : Plan) {p : Service α} (only : p.Only IsRead) (state : Db × ℕ) :
    (p.run (execUnder plan) state).2.1 = state.1 := by
  refine only.run_rel (fun (before after : Db × ℕ) => after.1 = before.1) (fun _ => rfl)
    (fun first second => second.trans first) ?_ state
  rintro op state ⟨read, rfl⟩
  rw [execUnder_select, faulty]
  cases plan.statements state.2 (.select read) <;> rfl

/-- A plain write is executed as without faults, when only audit inserts fail. -/
theorem execUnder_plain (audits : plan.AuditOnly) {write : Command} (plain : write.isPlain = true)
    (state : Db × ℕ) : execUnder plan (.command write) state =
      ((write.exec state.1).1, (write.exec state.1).2, state.2 + 1) := by
  obtain ⟨single, other⟩ : write.isTransaction = false ∧ write.isAudit = false := by
    simpa [Command.isPlain] using plain
  have noAudit : (Sent.statement (.command write)).isAudit = false := by
    cases write with
    | insertAudit input => cases other
    | _ => rfl
  have spared : plan.statements state.2 (.command write) = none := by
    rw [Plan.statements, audits _ _ noAudit]
    rfl
  rw [execUnder_command single, faulty_none spared]
  rfl

/-- A part that makes plain writes is executed as without faults, when only
audit inserts fail. -/
theorem run_plain_under (audits : plan.AuditOnly) {p : Service α}
    (only : p.Only (Writing fun write => write.isPlain = true)) (state : Db × ℕ) :
    (p.run (execUnder plan) state).1 = (p.run exec state.1).1 ∧
      (p.run (execUnder plan) state).2.1 = (p.run exec state.1).2 := by
  refine only.run_simulates Prod.fst ?_ state
  intro op state allowed
  cases op with
  | select read =>
      have spared : plan.statements state.2 (.select read) = none := by
        rw [Plan.statements, audits _ _ rfl]
        rfl
      rw [execUnder_select, faulty_none spared]
      exact ⟨rfl, rfl⟩
  | command write =>
      rw [execUnder_plain audits allowed]
      exact ⟨rfl, rfl⟩

/-- A part that only reads, when only audit inserts fail. -/
theorem Independent.of_reads {p : Service α} (only : p.Only IsRead) : Independent p := by
  intro plan audits state
  obtain ⟨result, same⟩ := run_plain_under audits (writing_of_reads only) state
  exact ⟨result, congrArg Db.business same⟩

/-! ### The closing -/

/-- Logging an entry changes nothing else, whether it fails or not. -/
theorem run_log_under (plan : Plan) (input : AuditInsert) (next : Unit → Service α)
    (state : Db × ℕ) :
    ∃ after number, (AuditService.log input >>= next).run (execUnder plan) state =
        (next ()).run (execUnder plan) (after, number) ∧
      after.business = state.1.business := by
  have sent : execUnder plan (.command (.insertAudit input)) state =
      faulty exec plan.statements (.command (.insertAudit input)) state := rfl
  simp only [AuditService.log, execute, query, Program.tryCatch_eq, Program.tryCatch,
    Program.call_bind, Program.run_call, sent, faulty]
  cases plan.statements state.2 (.command (.insertAudit input)) with
  | none => exact ⟨_, _, rfl, rfl⟩
  | some answer => cases answer <;> exact ⟨_, _, rfl, rfl⟩

/-- **The closing** returns the same value whatever fails, and only changes the
audit log. -/
theorem Closing.run {p : Service α} (closing : Closing p) :
    ∃ value, (∀ db, (p.run exec db).1 = .ok value ∧ (p.run exec db).2.business = db.business) ∧
      ∀ (plan : Plan) state, (p.run (execUnder plan) state).1 = .ok value ∧
        (p.run (execUnder plan) state).2.1.business = state.1.business := by
  induction closing with
  | done value => exact ⟨value, fun _ => ⟨rfl, rfl⟩, fun _ _ => ⟨rfl, rfl⟩⟩
  | @log input next rest ih =>
      obtain ⟨value, alone, under⟩ := ih
      refine ⟨value, fun db => ?_, fun plan state => ?_⟩
      · rw [AuditService.run_log]
        exact alone (AuditRepository.insert input db).2
      · obtain ⟨after, number, run, same⟩ := run_log_under plan input next state
        rw [run, ← same]
        exact under plan (after, number)

/-- The closing after states that agree apart from the audit log. -/
theorem Closing.agree {p : Service α} (closing : Closing p) (plan : Plan) {db : Db}
    {state : Db × ℕ} (same : state.1.business = db.business) :
    (p.run (execUnder plan) state).1 = (p.run exec db).1 ∧
      (p.run (execUnder plan) state).2.1.business = (p.run exec db).2.business := by
  obtain ⟨value, alone, under⟩ := closing.run
  obtain ⟨result, kept⟩ := under plan state
  obtain ⟨result', kept'⟩ := alone db
  exact ⟨result.trans result'.symm, kept.trans (same.trans kept'.symm)⟩

/-! ### Errors store nothing -/

theorem Harmless.of_reads {p : Service α} (only : p.Only IsRead) : Harmless p := by
  intro plan state exception after ran
  have kept := run_reads_under plan only state
  rw [ran] at kept
  rw [kept]
  exact .refl _

/-- A part that only reads comes first. -/
theorem Harmless.first {p : Service β} {next : β → Service α} (only : p.Only IsRead)
    (rest : ∀ value, Harmless (next value)) : Harmless (p >>= next) := by
  intro plan state exception after ran
  have kept := run_reads_under plan only state
  rw [Program.run_bind] at ran
  generalize p.run (execUnder plan) state = reached at kept ran
  obtain ⟨result, middle⟩ := reached
  cases result with
  | ok value =>
      have same := rest value plan middle exception after ran
      rwa [kept] at same
  | error thrown =>
      obtain ⟨-, rfl⟩ := Prod.mk.inj ran
      rw [kept]
      exact .refl _

/-- A part that never throws. -/
theorem Harmless.of_returns {p : Service α} (returns : p.Returns) : Harmless p := by
  intro plan state exception after ran
  obtain ⟨value, after', ran'⟩ := returns.run (execUnder plan) state
  rw [ran'] at ran
  cases ran

omit [Postgres] in
theorem Closing.returns {p : Service α} (closing : Closing p) : p.Returns := by
  induction closing with
  | done value => rfl
  | log input rest ih =>
      have logged : (AuditService.log input).Returns := .tryCatch _ fun _ => rfl
      exact logged.bind fun _ => ih

/-- Under a plan, a write that fails or misses has changed no row. -/
theorem execUnder_sameRows (plan : Plan) (write : Command) (state : Db × ℕ)
    (missed : write.missed (execUnder plan (.command write) state).1 = true) :
    SameRows state.1 (execUnder plan (.command write) state).2.1 := by
  -- A statement of its own meets its fault or is executed as usual.
  have plain (single : write.isTransaction = false) :
      SameRows state.1 (execUnder plan (.command write) state).2.1 := by
    rw [execUnder_command single] at missed ⊢
    rw [faulty] at missed ⊢
    cases planned : plan.statements state.2 (.command write) with
    | some answer => exact .refl _
    | none =>
        rw [planned] at missed
        exact write.exec_sameRows _ missed
  cases write with
  | createWithMentions input onCommitting =>
      let body := CommentsRepository.createWithMentions input onCommitting
      have missed : (Command.createWithMentions input onCommitting).missed
        (transactionUnder plan body state).1 = true := missed
      show SameRows state.1 (transactionUnder plan body state).2.1
      cases answered : (transactionUnder plan body state).1 with
      | ok comment =>
          rw [answered] at missed
          cases missed
      | error error => exact transactionUnder_sameRows plan body state answered
  | updateContentAndMentions id expectedVersion content mentionedUserIds onCommitting =>
      let body := CommentsRepository.updateContentAndMentions id expectedVersion content
        mentionedUserIds onCommitting
      have strict : body.Strict ClientFails :=
        CommentsRepository.updateContentAndMentions_strict id expectedVersion content
          mentionedUserIds onCommitting
      let write := Command.updateContentAndMentions id expectedVersion content mentionedUserIds
        onCommitting
      have missed : write.missed (transactionUnder plan body state).1 = true := missed
      show SameRows state.1 (transactionUnder plan body state).2.1
      -- An answer means that nothing has failed, so the transaction missed by itself.
      cases answered : (transactionUnder plan body state).1 with
      | ok found =>
          have alone : write.exec state.1 = (.ok found, (transactionUnder plan body state).2.1) :=
            transactionUnder_ok plan strict state answered
          have same := write.exec_sameRows state.1
          rw [alone] at same
          exact same (answered ▸ missed)
      | error error => exact transactionUnder_sameRows plan body state answered
  | _ => exact plain rfl

/-- A write comes next. -/
theorem Harmless.write {write : Command} {next : Except PgError write.Rows → Service α}
    (found : ∀ rows, write.foundNone rows = false → (next (.ok rows)).Returns)
    (missed : ∀ answer, write.missed answer = true → (next answer).Only IsRead) :
    Harmless (.call (.command write) next) := by
  intro plan state exception after ran
  have same := execUnder_sameRows plan write state
  rw [Program.run_call] at ran
  generalize execUnder plan (.command write) state = answered at same ran
  obtain ⟨answer, middle⟩ := answered
  cases none : write.missed answer with
  | true =>
      have kept := run_reads_under plan (missed answer none) middle
      rw [ran] at kept
      have same := same none
      rwa [← kept] at same
  | false =>
      cases answer with
      | error error => cases none
      | ok rows =>
          obtain ⟨value, after', ran'⟩ := (found rows none).run (execUnder plan) middle
          rw [ran'] at ran
          cases ran

/-- **An error means that no row has changed**, for every request of this shape. -/
theorem Shape.harmless {p : Service α} (shape : Shape p) : Harmless p := by
  induction shape with
  | reads only => exact .of_reads only
  | first only rest ih => exact .first only ih
  | write plain found missed =>
      exact .write (fun rows here => (found rows here).returns) missed
  | batch only returns rest => exact .of_returns (returns.bind fun value => (rest value).returns)

/-! ### Failing audit inserts -/

/-- A first part that makes plain writes is not disturbed; the rest starts where
it has ended. -/
theorem Independent.bind {p : Service β} {next : β → Service α}
    (only : p.Only (Writing fun write => write.isPlain = true))
    (rest : ∀ value, Independent (next value)) : Independent (p >>= next) := by
  intro plan audits state
  obtain ⟨result, same⟩ := run_plain_under audits only state
  rw [Program.run_bind, Program.run_bind]
  generalize p.run (execUnder plan) state = under at result same ⊢
  generalize p.run exec state.1 = alone at result same ⊢
  obtain ⟨result', middle⟩ := under
  obtain ⟨result'', middle'⟩ := alone
  obtain ⟨rfl, rfl⟩ := And.intro result same
  cases result' with
  | ok value => exact rest value plan audits middle
  | error exception => exact ⟨rfl, rfl⟩

/-- **The audit log does not matter to the rest**, for every request of this
shape. -/
theorem Shape.independent {p : Service α} (shape : Shape p) : Independent p := by
  induction shape with
  | reads only => exact .of_reads only
  | first only rest ih => exact .bind (writing_of_reads only) ih
  | @write write next plain found missed =>
      intro plan audits state
      rw [Program.run_call, Program.run_call, execUnder_plain audits plain, exec_command]
      generalize write.exec state.1 = answered
      obtain ⟨answer, after⟩ := answered
      -- After a write that missed there are only reads; otherwise only the entries are left.
      cases none : write.missed answer with
      | true => exact Independent.of_reads (missed answer none) plan audits (after, state.2 + 1)
      | false =>
          cases answer with
          | error error => cases none
          | ok rows => exact (found rows none).agree plan rfl
  | batch only returns rest =>
      exact .bind only fun value plan _ state => (rest value).agree plan rfl

end Shapes

/-! ### The services -/

section Services

variable {α : Type}

/-- A write whose failure is thrown. -/
theorem Shape.execute {write : Command} {next : write.Rows → Service α}
    (plain : write.isPlain = true)
    (found : ∀ rows, write.foundNone rows = false → Closing (next rows))
    (missed : ∀ rows, write.foundNone rows = true → (next rows).Only IsRead) :
    Shape (IssueFlow.execute write >>= next) := by
  refine .write plain found ?_
  intro answer none
  cases answer with
  | ok rows => exact missed rows none
  | error error => trivial

/-- A write that always takes effect, and the closing. -/
theorem Shape.executed {write : Command} {next : write.Rows → Service α}
    (plain : write.isPlain = true) (finds : ∀ rows, write.foundNone rows = false)
    (rest : ∀ rows, Closing (next rows)) : Shape (IssueFlow.execute write >>= next) := by
  refine .execute plain (fun rows _ => rest rows) fun rows none => ?_
  rw [finds] at none
  cases none

/-- Logging an entry is a closing. -/
theorem Closing.logged (input : AuditInsert) : Closing (AuditService.log input) := by
  rw [← Program.bind_done (AuditService.log input)]
  exact .log input (.done ())

/-- Logging an entry and returning a value is a closing. -/
theorem Closing.loggedAndReturned (input : AuditInsert) (value : α) :
    Closing (do AuditService.log input; return value : Service α) :=
  .log input (.done value)

theorem UsersService.create_shape [Bcrypt] (dto : CreateUserDto) (performedBy : Option ℕ)
    (salt : String) : Shape (UsersService.create dto performedBy salt) := by
  unfold UsersService.create
  apply Shape.first (read_only _)
  intro existing
  split_ifs
  · exact .reads trivial
  have hashed : (UsersService.hashPassword dto.password salt).Only IsRead := by
    unfold UsersService.hashPassword
    cases dto.password <;> trivial
  apply Shape.first hashed
  intro passwordHash
  apply Shape.executed rfl (fun _ => rfl)
  intro row
  exact .loggedAndReturned _ _

theorem UsersService.update_shape (id : ℕ) (dto : UpdateUserDto) (performedBy : ℕ) :
    Shape (UsersService.update id dto performedBy) := by
  unfold UsersService.update
  split_ifs
  · exact .reads trivial
  apply Shape.first (UsersService.getOrThrow_reads _)
  intro before
  apply Shape.execute rfl
  · rintro (_ | updated) found
    · cases found
    · exact .loggedAndReturned _ _
  · rintro (_ | updated) missed
    · trivial
    · cases missed

theorem UsersService.delete_shape (id performedBy : ℕ) :
    Shape (UsersService.delete id performedBy) := by
  unfold UsersService.delete
  apply Shape.first (UsersService.getOrThrow_reads _)
  intro before
  apply Shape.execute rfl
  · rintro (_ | _) found
    · cases found
    · exact .logged _
  · rintro (_ | _) missed
    · trivial
    · cases missed

theorem ProjectsService.create_shape (dto : CreateProjectDto) (performedBy : ℕ) :
    Shape (ProjectsService.create dto performedBy) := by
  unfold ProjectsService.create
  apply Shape.first (UsersService.findById_reads _)
  intro owner
  apply Shape.executed rfl (fun _ => rfl)
  intro row
  exact .loggedAndReturned _ _

theorem ProjectsService.update_shape (id : ℕ) (dto : UpdateProjectDto) (performedBy : ℕ) :
    Shape (ProjectsService.update id dto performedBy) := by
  unfold ProjectsService.update
  split_ifs
  · exact .reads trivial
  apply Shape.first (ProjectsService.getOrThrow_reads _)
  intro before
  apply Shape.execute rfl
  · rintro (_ | updated) found
    · cases found
    · exact .loggedAndReturned _ _
  · rintro (_ | updated) missed
    · trivial
    · cases missed

theorem ProjectsService.softDelete_shape (id performedBy : ℕ) :
    Shape (ProjectsService.softDelete id performedBy) := by
  unfold ProjectsService.softDelete
  apply Shape.first (ProjectsService.getOrThrow_reads _)
  intro before
  apply Shape.execute rfl
  · rintro (_ | _) found
    · cases found
    · exact .logged _
  · rintro (_ | _) missed
    · trivial
    · cases missed

theorem ProjectsService.restore_shape (id performedBy : ℕ) :
    Shape (ProjectsService.restore id performedBy) := by
  unfold ProjectsService.restore
  apply Shape.first (read_only _)
  rintro (_ | existing)
  · exact .reads trivial
  · simp only
    split_ifs
    · exact .reads trivial
    apply Shape.executed rfl (fun _ => rfl)
    intro restored
    exact .logged _

theorem TicketsService.create_shape (dto : CreateTicketDto) (performedBy : ℕ) :
    Shape (TicketsService.create dto performedBy) := by
  unfold TicketsService.create
  apply Shape.first (ProjectsService.assertExists_reads _)
  intro _
  apply Shape.first (TicketsService.assertAssigneeExists_reads _)
  intro _
  apply Shape.first (TicketsService.autoAssign_reads _)
  intro assignee
  apply Shape.executed rfl (fun _ => rfl)
  intro row
  apply Closing.log
  cases assignee with
  | none => exact .done _
  | some assignee => exact .loggedAndReturned _ _

theorem TicketsService.update_shape (id : ℕ) (dto : UpdateTicketDto) (performedBy : ℕ) :
    Shape (TicketsService.update id dto performedBy) := by
  unfold TicketsService.update
  split_ifs
  · exact .reads trivial
  · exact .reads trivial
  apply Shape.first (TicketsService.getOrThrow_reads _)
  intro before
  split_ifs
  · exact .reads trivial
  · exact .reads trivial
  apply Shape.first (TicketsService.assertNoUnresolvedBlockers_reads _ _)
  intro _
  apply Shape.first (TicketsService.assertAssigneeExists_reads _)
  intro _
  apply Shape.execute rfl
  · rintro (_ | updated) found
    · cases found
    · exact .loggedAndReturned _ _
  · rintro (_ | updated) missed
    · exact (read_only _).bind fun _ => trivial
    · cases missed

theorem TicketsService.softDelete_shape (id performedBy : ℕ) :
    Shape (TicketsService.softDelete id performedBy) := by
  unfold TicketsService.softDelete
  apply Shape.first (TicketsService.getOrThrow_reads _)
  intro before
  apply Shape.execute rfl
  · rintro (_ | _) found
    · cases found
    · exact .logged _
  · rintro (_ | _) missed
    · trivial
    · cases missed

theorem TicketsService.restore_shape (id performedBy : ℕ) :
    Shape (TicketsService.restore id performedBy) := by
  unfold TicketsService.restore
  apply Shape.first (read_only _)
  rintro (_ | existing)
  · exact .reads trivial
  · simp only
    split_ifs
    · exact .reads trivial
    apply Shape.executed rfl (fun _ => rfl)
    intro restored
    exact .logged _

theorem DependenciesService.insertEdge_shape (ticketId blockerId performedBy : ℕ) :
    Shape (DependenciesService.insertEdge ticketId blockerId performedBy) := by
  unfold DependenciesService.insertEdge
  apply Shape.execute rfl
  · rintro (_ | _) found
    · cases found
    · exact .logged _
  · rintro (_ | _) missed
    · trivial
    · cases missed

theorem DependenciesService.add_shape (fuel ticketId blockerId performedBy : ℕ) :
    Shape (DependenciesService.add fuel ticketId blockerId performedBy) := by
  unfold DependenciesService.add
  split_ifs
  · exact .reads trivial
  apply Shape.first (read_only _)
  rintro (_ | ticket)
  · exact .reads trivial
  apply Shape.first (read_only _)
  rintro (_ | blocker)
  · exact .reads trivial
  simp only
  split_ifs
  · exact .reads trivial
  apply Shape.first (DependenciesService.walk_reads ..)
  rintro (_ | _)
  · exact DependenciesService.insertEdge_shape _ _ _
  · exact .reads trivial

theorem DependenciesService.remove_shape (ticketId blockerId performedBy : ℕ) :
    Shape (DependenciesService.remove ticketId blockerId performedBy) := by
  unfold DependenciesService.remove
  apply Shape.execute rfl
  · rintro (_ | _) found
    · cases found
    · exact .logged _
  · rintro (_ | _) missed
    · trivial
    · cases missed

theorem CommentsService.delete_shape (ticketId commentId performedBy : ℕ) :
    Shape (CommentsService.delete ticketId commentId performedBy) := by
  unfold CommentsService.delete
  apply Shape.first (CommentsService.getOrThrow_reads _)
  intro existing
  split_ifs
  · exact .reads trivial
  apply Shape.executed rfl (fun _ => rfl)
  intro deleted
  exact .logged _

theorem AttachmentsService.upload_shape (ticketId : ℕ) (file : Option UploadedFile)
    (uploaderId : ℕ) (uuid : String) (disk : DiskAnswers) :
    Shape (AttachmentsService.upload ticketId file uploaderId uuid disk) := by
  cases file with
  | none => exact .reads trivial
  | some file =>
      unfold AttachmentsService.upload
      simp only
      split_ifs
      · exact .reads trivial
      · apply Shape.first (TicketsService.getOrThrow_reads _)
        intro ticket
        apply Shape.first (AttachmentsService.awaitDisk_reads _)
        intro _
        -- The INSERT comes with a handler that throws again.
        apply Shape.write rfl
        · intro row _
          exact .loggedAndReturned _ _
        · rintro (error | row) missed
          · cases disk.rm <;> trivial
          · cases missed
      · exact .reads trivial

theorem AttachmentsService.delete_shape (ticketId attachmentId performedBy : ℕ) :
    Shape (AttachmentsService.delete ticketId attachmentId performedBy) := by
  unfold AttachmentsService.delete
  apply Shape.first (read_only _)
  rintro (_ | row)
  · exact .reads trivial
  simp only
  split_ifs
  · exact .reads trivial
  apply Shape.executed rfl (fun _ => rfl)
  intro deleted
  exact .logged _

theorem AuthController.logout_shape (payload : JwtPayload) :
    Shape (AuthController.logout payload) := by
  unfold AuthController.logout
  apply Shape.first (JwtStrategy.authenticate_reads _)
  intro user
  apply Shape.write rfl
  · intro rows _
    exact .done _
  · rintro (error | rows) missed
    · trivial
    · cases missed

section Import

variable [Postgres] [Unicode]

-- The import is inspected statement by statement, never evaluated on a record.
attribute [local irreducible] CsvImportService.importRow CsvImportService.countRow
  CsvImportService.importRows

theorem CsvImportService.countRow_returns (projectId : ℕ) (summary : ImportSummary)
    (rowNumber : ℕ) (raw : CsvRecord) :
    (CsvImportService.countRow projectId summary rowNumber raw).Returns := by
  unfold CsvImportService.countRow
  exact Program.Returns.tryCatch _ fun _ => rfl

/-- The import goes on whatever happens to a record. -/
theorem CsvImportService.importRows_returns (projectId : ℕ) (records : List CsvRecord)
    (summary : ImportSummary) (rowNumber : ℕ) :
    (CsvImportService.importRows projectId summary rowNumber records).Returns := by
  induction records generalizing summary rowNumber with
  | nil =>
      unfold CsvImportService.importRows
      rfl
  | cons raw records ih =>
      have first := CsvImportService.countRow_returns projectId summary rowNumber raw
      unfold CsvImportService.importRows
      exact first.bind fun summary => ih summary (rowNumber + 1)

theorem CsvImportService.importIntoProject_shape (projectId : ℕ)
    (parsed : Except String (List CsvRecord)) (performedBy : ℕ) :
    Shape (CsvImportService.importIntoProject projectId parsed performedBy) := by
  unfold CsvImportService.importIntoProject
  apply Shape.first (ProjectsService.assertExists_reads _)
  intro _
  cases parsed with
  | error message => exact .reads trivial
  | ok records =>
      apply Shape.batch (CsvImportService.importRows_only (fun _ _ _ => rfl) ..)
        (CsvImportService.importRows_returns ..)
      intro summary
      exact .loggedAndReturned _ _

end Import

end Services

/-! ### All requests -/

section Requests

variable [Postgres] [Bcrypt] [Unicode]

/-- The requests of this shape: all but the escalation cycle and the writes of
comments. -/
def Request.isShaped : Request → Bool
  | escalate | createComment .. | updateComment .. => false
  | _ => true

/-- Serve one request while some statements fail. -/
def serveUnder (plan : Plan) (request : Request) (db : Db) :
    Except Exception Response × Db × ℕ :=
  (request.program (walkFuel db)).run (execUnder plan) (db, 0)

omit [Bcrypt] [Unicode] in
theorem Harmless.map {α β : Type} {p : Service α} (harmless : Harmless p) (wrap : α → β) :
    Harmless (wrap <$> p) := by
  intro plan state exception after ran
  rw [Program.run_map] at ran
  have none := harmless plan state
  generalize p.run (execUnder plan) state = reached at none ran
  obtain ⟨result, middle⟩ := reached
  obtain ⟨failed, rfl⟩ := Prod.mk.inj ran
  cases result with
  | ok value => cases failed
  | error thrown => exact none thrown middle rfl

omit [Bcrypt] [Unicode] in
theorem Independent.map {α β : Type} {p : Service α} (independent : Independent p)
    (wrap : α → β) : Independent (wrap <$> p) := by
  intro plan audits state
  obtain ⟨result, same⟩ := independent plan audits state
  rw [Program.run_map, Program.run_map]
  exact ⟨congrArg (Except.map wrap) result, same⟩

/-- **The requests of this shape**, with what their programs return wrapped. -/
theorem Request.shape {request : Request} (shaped : request.isShaped = true) (fuel : ℕ) :
    ∃ (α : Type) (p : Service α) (wrap : α → Response),
      request.program fuel = wrap <$> p ∧ Shape p := by
  cases request with
  | createUser dto performedBy salt => exact ⟨_, _, _, rfl, UsersService.create_shape ..⟩
  | updateUser id dto performedBy => exact ⟨_, _, _, rfl, UsersService.update_shape ..⟩
  | deleteUser id performedBy => exact ⟨_, _, _, rfl, UsersService.delete_shape ..⟩
  | createProject dto performedBy => exact ⟨_, _, _, rfl, ProjectsService.create_shape ..⟩
  | updateProject id dto performedBy => exact ⟨_, _, _, rfl, ProjectsService.update_shape ..⟩
  | softDeleteProject id performedBy =>
      exact ⟨_, _, _, rfl, ProjectsService.softDelete_shape ..⟩
  | restoreProject id performedBy => exact ⟨_, _, _, rfl, ProjectsService.restore_shape ..⟩
  | createTicket dto performedBy => exact ⟨_, _, _, rfl, TicketsService.create_shape ..⟩
  | updateTicket id dto performedBy => exact ⟨_, _, _, rfl, TicketsService.update_shape ..⟩
  | softDeleteTicket id performedBy => exact ⟨_, _, _, rfl, TicketsService.softDelete_shape ..⟩
  | restoreTicket id performedBy => exact ⟨_, _, _, rfl, TicketsService.restore_shape ..⟩
  | importTickets projectId parsed performedBy =>
      exact ⟨_, _, _, rfl, CsvImportService.importIntoProject_shape ..⟩
  | addDependency ticketId blockerId performedBy =>
      exact ⟨_, _, _, rfl, DependenciesService.add_shape ..⟩
  | removeDependency ticketId blockerId performedBy =>
      exact ⟨_, _, _, rfl, DependenciesService.remove_shape ..⟩
  -- These three may throw after they have stored something.
  | escalate => cases shaped
  | createComment ticketId dto performedBy => cases shaped
  | updateComment ticketId commentId dto performedBy => cases shaped
  | deleteComment ticketId commentId performedBy =>
      exact ⟨_, _, _, rfl, CommentsService.delete_shape ..⟩
  | uploadAttachment ticketId file uploaderId uuid disk =>
      exact ⟨_, _, _, rfl, AttachmentsService.upload_shape ..⟩
  | deleteAttachment ticketId attachmentId performedBy =>
      exact ⟨_, _, _, rfl, AttachmentsService.delete_shape ..⟩
  | login expiresInSeconds jti username password =>
      exact ⟨_, _, _, rfl, .reads (AuthService.login_reads ..)⟩
  | logout payload => exact ⟨_, _, _, rfl, AuthController.logout_shape payload⟩
  | authenticate payload => exact ⟨_, _, _, rfl, .reads (JwtStrategy.authenticate_reads payload)⟩

end Requests

end IssueFlow
