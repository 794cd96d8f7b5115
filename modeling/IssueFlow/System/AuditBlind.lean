import IssueFlow.Semantics.Simulation
import IssueFlow.System.Shapes

/-!
# Statements that do not depend on the audit log

The statements of `Statement` write the audit log and do not read it; the one read
that does, the search of `GET /audit-logs`, is not among them. On two databases
that agree apart from the log, every statement is answered alike and leads to
databases that agree apart from it, and so does every program.

## Main definitions

* `SameBusiness` — databases that agree apart from the audit log
* `BlindToLog` — writes that do not look at the audit log

## Main results

* `exec_business` — a statement on such databases
* `run_business` — a program on such databases
-/

namespace IssueFlow

open Store Semantics

/-- The databases agree apart from the audit log. -/
def SameBusiness (db db' : Db) : Prop := db.business = db'.business

namespace SameBusiness

theorem equivalence : Equivalence SameBusiness where
  refl _ := rfl
  symm same := same.symm
  trans first second := first.trans second

theorem log (db : Db) (entry : AuditInsert) : SameBusiness (db.log entry) db := rfl

theorem advance {db db' : Db} (elapsed : ℕ) (same : SameBusiness db db') :
    SameBusiness (advance elapsed db) (IssueFlow.advance elapsed db') :=
  congrArg (IssueFlow.advance elapsed) same

/-- The second database is the first with another audit log. -/
theorem exists_eq {db db' : Db} (same : SameBusiness db db') :
    ∃ logs, db' = { db with auditLogs := logs } := by
  refine ⟨db'.auditLogs, ?_⟩
  have restored : db' = { db'.business with auditLogs := db'.auditLogs } := rfl
  rw [restored, ← same]
  rfl

end SameBusiness

variable [Postgres]

/-! ### Statements -/

/-- A write that does not look at the audit log. -/
def BlindToLog {α : Type} (write : Db → α × Db) : Prop :=
  ∀ db logs, (write { db with auditLogs := logs }).1 = (write db).1 ∧
    SameBusiness (write { db with auditLogs := logs }).2 (write db).2

omit [Postgres] in
theorem BlindToLog.same {α : Type} {write : Db → α × Db} (blind : BlindToLog write) {db db' : Db}
    (same : SameBusiness db db') :
    (write db).1 = (write db').1 ∧ SameBusiness (write db).2 (write db').2 := by
  obtain ⟨logs, rfl⟩ := same.exists_eq
  obtain ⟨answer, after⟩ := blind db logs
  exact ⟨answer.symm, after.symm⟩

omit [Postgres] in
/-- A write that answers with a plain value. -/
theorem BlindToLog.ok {α : Type} {write : Db → α × Db} (blind : BlindToLog write) :
    BlindToLog fun db => ((.ok (write db).1 : Except PgError α), (write db).2) :=
  fun db logs => ⟨congrArg Except.ok (blind db logs).1, (blind db logs).2⟩

omit [Postgres] in
/-- A statement of a transaction. -/
theorem ClientStatement.exec_business (statement : ClientStatement) :
    BlindToLog statement.exec := by
  intro db logs
  cases statement with
  | insertComment ticketId authorId content =>
      simp only [exec]
      split_ifs <;> exact ⟨rfl, rfl⟩
  | updateContent content id expectedVersion =>
      simp only [exec]
      cases (db.comments.get? id).filter fun row => expectedVersion = some row.version with
      | none => exact ⟨rfl, rfl⟩
      | some row =>
          simp only
          split_ifs <;> exact ⟨rfl, rfl⟩
  | deleteMentions commentId => exact ⟨rfl, rfl⟩
  | insertMentions commentId mentionedUserIds =>
      simp only [exec]
      split_ifs <;> exact ⟨rfl, rfl⟩
  | insertAudit input => exact ⟨rfl, rfl⟩

omit [Postgres] in
/-- A transaction, committed or rolled back. -/
theorem transaction_business {α : Type} (body : Transaction α) :
    BlindToLog (transaction body) := by
  intro db logs
  have alike := (Program.Only.all body).alike
  have unwinds : Simulates (Itself fun _ => True) ClientStatement.exec ClientStatement.exec
      SameBusiness :=
    simulates_itself fun statement _ _ _ => statement.exec_business.same
  obtain ⟨outcomes, after⟩ := alike.run unwinds (show SameBusiness db
    { db with auditLogs := logs } from rfl)
  rw [Outcomes.eq_iff] at outcomes
  unfold transaction
  generalize body.run ClientStatement.exec db = ran at outcomes after ⊢
  generalize body.run ClientStatement.exec { db with auditLogs := logs } = ran' at outcomes after ⊢
  obtain ⟨result, reached⟩ := ran
  obtain ⟨result', reached'⟩ := ran'
  obtain rfl : result = result' := outcomes
  cases result with
  | ok value => exact ⟨rfl, after.symm⟩
  | error exception =>
      -- The keys that were drawn stay drawn, on both sides.
      have business : reached.business = reached'.business := after
      have comments : reached.comments = reached'.comments := (congrArg Db.comments business :)
      refine ⟨rfl, ?_⟩
      simp only [SameBusiness, rollback, Db.business, comments]

theorem createUser_business (input : UserInput) : BlindToLog (UsersRepository.create input) := by
  intro db logs
  simp only [UsersRepository.create]
  split_ifs <;> exact ⟨rfl, rfl⟩

omit [Postgres] in
theorem updateUser_business (id : ℕ) (input : UserUpdate) :
    BlindToLog (UsersRepository.update id input) := by
  intro db logs
  simp only [UsersRepository.update]
  split_ifs <;> exact ⟨rfl, rfl⟩

omit [Postgres] in
theorem deleteUser_business (id : ℕ) : BlindToLog (UsersRepository.delete id) := by
  intro db logs
  simp only [UsersRepository.delete]
  cases db.users.get? id with
  | none => exact ⟨rfl, rfl⟩
  | some user =>
      have referenced : UsersRepository.isReferenced { db with auditLogs := logs } id =
          UsersRepository.isReferenced db id := rfl
      simp only [referenced]
      cases UsersRepository.isReferenced db id <;> exact ⟨rfl, rfl⟩

omit [Postgres] in
theorem createProject_business (input : ProjectInput) :
    BlindToLog (ProjectsRepository.create input) := by
  intro db logs
  simp only [ProjectsRepository.create]
  split_ifs <;> exact ⟨rfl, rfl⟩

omit [Postgres] in
theorem updateProject_business (id : ℕ) (input : ProjectUpdate) :
    BlindToLog (ProjectsRepository.update id input) := by
  intro db logs
  simp only [ProjectsRepository.update]
  split_ifs <;> exact ⟨rfl, rfl⟩

omit [Postgres] in
/-- The two statements that stamp a project. -/
theorem stampProject_business (id : ℕ) (condition : ProjectRow → Bool)
    (deletedAt : Timestamp → Option Timestamp) :
    BlindToLog fun db => ProjectsRepository.stamp id condition (deletedAt db.now) db := by
  intro db logs
  simp only [ProjectsRepository.stamp_eq]
  cases (db.projects.get? id).filter condition <;> exact ⟨rfl, rfl⟩

theorem createTicket_business (input : TicketInput) :
    BlindToLog (TicketsRepository.create input) := by
  intro db logs
  have checked (row : TicketRow) :
      TicketsRepository.referencesExist { db with auditLogs := logs } row =
        TicketsRepository.referencesExist db row := rfl
  simp only [TicketsRepository.create_eq, checked]
  cases TicketsRepository.dueInstant input.dueDate with
  | error exception => exact ⟨rfl, rfl⟩
  | ok due =>
      simp only
      split_ifs <;> exact ⟨rfl, rfl⟩

theorem updateWithVersionCheck_business (id : ℕ) (expectedVersion : Option ℕ)
    (input : TicketUpdate) (resetOverdueFlag : Bool) :
    BlindToLog (TicketsRepository.updateWithVersionCheck id expectedVersion input
      resetOverdueFlag) := by
  intro db logs
  have checked (old new : TicketRow) :
      TicketsRepository.assigneeExists { db with auditLogs := logs } old new =
        TicketsRepository.assigneeExists db old new := rfl
  simp only [TicketsRepository.updateWithVersionCheck_eq, TicketsRepository.findById, checked]
  cases TicketsRepository.dueInstant input.dueDate with
  | error exception => exact ⟨rfl, rfl⟩
  | ok due =>
      cases ((db.tickets.get? id).filter TicketRow.isLive).filter fun row =>
          expectedVersion = some row.version with
      | none => exact ⟨rfl, rfl⟩
      | some row =>
          simp only
          split_ifs <;> exact ⟨rfl, rfl⟩

theorem applyEscalation_business (id : ℕ) (change : EscalationChange) :
    BlindToLog (TicketsRepository.applyEscalation id change) := by
  intro db logs
  simp only [TicketsRepository.applyEscalation_eq, TicketsRepository.findById]
  cases ((db.tickets.get? id).filter TicketRow.isLive).filter fun row => row.status ≠ .done with
  | none => exact ⟨rfl, rfl⟩
  | some row =>
      simp only
      split_ifs <;> exact ⟨rfl, rfl⟩

omit [Postgres] in
/-- The two statements that stamp a ticket. -/
theorem stampTicket_business (id : ℕ) (condition : TicketRow → Bool)
    (deletedAt : Timestamp → Option Timestamp) :
    BlindToLog fun db => TicketsRepository.stamp id condition (deletedAt db.now) db := by
  intro db logs
  simp only [TicketsRepository.stamp_eq]
  cases (db.tickets.get? id).filter condition <;> exact ⟨rfl, rfl⟩

omit [Postgres] in
theorem addDependency_business (ticketId blockerId : ℕ) :
    BlindToLog (DependenciesRepository.add ticketId blockerId) := by
  intro db logs
  have edge : ({ db with auditLogs := logs } : Db).blockedBy ticketId blockerId ↔
      db.blockedBy ticketId blockerId := Iff.rfl
  simp only [DependenciesRepository.add, edge]
  split_ifs <;> exact ⟨rfl, rfl⟩

omit [Postgres] in
theorem createAttachment_business (input : AttachmentInput) :
    BlindToLog (AttachmentsRepository.create input) := by
  intro db logs
  simp only [AttachmentsRepository.create]
  split_ifs <;> exact ⟨rfl, rfl⟩

omit [Postgres] in
theorem revoke_business (jti : String) (userId : ℕ) (expiresAt : Timestamp) :
    BlindToLog (TokenDenylistRepository.revoke jti userId expiresAt) := by
  intro db logs
  simp only [TokenDenylistRepository.revoke]
  split_ifs <;> exact ⟨rfl, rfl⟩

/-- A write does not look at the audit log. -/
theorem Command.exec_business (write : Command) : BlindToLog write.exec := by
  cases write with
  | createUser input => exact createUser_business input
  | updateUser id input => exact updateUser_business id input
  | deleteUser id => exact deleteUser_business id
  | createProject input => exact createProject_business input
  | updateProject id input => exact updateProject_business id input
  | softDeleteProject id => exact (stampProject_business id _ some).ok
  | restoreProject id => exact (stampProject_business id _ fun _ => none).ok
  | createTicket input => exact createTicket_business input
  | updateWithVersionCheck id expectedVersion input resetOverdueFlag =>
      exact updateWithVersionCheck_business id expectedVersion input resetOverdueFlag
  | softDeleteTicket id => exact (stampTicket_business id _ some).ok
  | restoreTicket id => exact (stampTicket_business id _ fun _ => none).ok
  | applyEscalation id change => exact applyEscalation_business id change
  | addDependency ticketId blockerId => exact addDependency_business ticketId blockerId
  | createWithMentions input onCommitting => exact transaction_business _
  | updateContentAndMentions id expectedVersion content mentionedUserIds onCommitting =>
      exact transaction_business _
  | createAttachment input => exact createAttachment_business input
  | revoke jti userId expiresAt => exact revoke_business jti userId expiresAt
  | removeDependency | deleteComment | deleteAttachment | insertAudit =>
      exact fun _ _ => ⟨rfl, rfl⟩

/-- **A statement does not look at the audit log.** -/
theorem exec_business (statement : Statement) {db db' : Db} (same : SameBusiness db db') :
    (exec statement db).1 = (exec statement db').1 ∧
      SameBusiness (exec statement db).2 (exec statement db').2 := by
  cases statement with
  | select read =>
      refine ⟨?_, same⟩
      obtain ⟨logs, rfl⟩ := same.exists_eq
      cases read <;> rfl
  | command write => exact write.exec_business.same same

/-- Statements keep two databases the same apart from the audit log. -/
theorem simulates_business :
    Simulates (Itself fun _ => True) exec exec SameBusiness :=
  simulates_itself fun statement _ _ _ => exec_business statement

/-- **A program does not depend on the audit log.** -/
theorem run_business {α : Type} (p : Service α) {db db' : Db} (same : SameBusiness db db') :
    (p.run exec db).1 = (p.run exec db').1 ∧
      SameBusiness (p.run exec db).2 (p.run exec db').2 := by
  obtain ⟨outcomes, after⟩ := (Program.Only.all p).alike.run simulates_business same
  exact ⟨Outcomes.eq_iff.mp outcomes, after⟩

end IssueFlow
