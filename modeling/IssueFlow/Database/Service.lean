import IssueFlow.Repositories.Attachments
import IssueFlow.Repositories.Comments
import IssueFlow.Repositories.Dependencies
import IssueFlow.Repositories.Projects
import IssueFlow.Repositories.Users
import IssueFlow.Semantics.Interleaving

/-!
# Statements and service programs

Everything the services send to the database, as one type of statements with
one function that executes them. A statement is atomic, and so is a
transaction. Services are programs over these statements; an error of the
database becomes an exception of the program.

## Main definitions

* `Query`, `Command`, `Statement` — what is sent
* `exec` — executing a statement
* `Service` — programs of the application

## Main results

* `outline_select`, `outline_query` — the outline of sending a statement
-/

namespace IssueFlow

open Store Semantics

/-- The reads. -/
inductive Query
  | findAllUsers
  | findUserById (id : Option ℕ)
  | findUserByUsername (username : String)
  | findUsersByUsernamesLower (usernames : List String)
  | findAllProjects
  | findProjectById (id : ℕ)
  | findProjectByIdAnyState (id : ℕ)
  | findTicketsByProject (projectId : ℕ)
  | findAllTickets
  | findTicketById (id : ℕ)
  | findTicketByIdAnyState (id : ℕ)
  | workloadByProject (projectId : ℕ)
  | findOverdueUnresolved
  | listBlockers (ticketId : ℕ)
  | blockerIdsOf (ticketId : ℕ)
  | countUnresolvedBlockers (ticketId : ℕ)
  | findCommentById (id : ℕ)
  | findCommentsByTicket (ticketId : ℕ)
  | findMentionedUsers (commentId : ℕ)
  | findMentionedUsersForComments (commentIds : List ℕ)
  | findCommentsMentioning (userId pageSize offset : ℕ)
  | countMentions (userId : ℕ)
  | findAttachmentById (id : ℕ)
  | findAttachmentsByTicket (ticketId : ℕ)
  | isRevoked (jti : String)
  /-- `Date.now()`; the application and the database share one clock. -/
  | dateNow

/-- The writes. -/
inductive Command
  | createUser (input : UserInput)
  | updateUser (id : ℕ) (input : UserUpdate)
  | deleteUser (id : ℕ)
  | createProject (input : ProjectInput)
  | updateProject (id : ℕ) (input : ProjectUpdate)
  | softDeleteProject (id : ℕ)
  | restoreProject (id : ℕ)
  | createTicket (input : TicketInput)
  | updateWithVersionCheck (id : ℕ) (expectedVersion : Option ℕ) (input : TicketUpdate)
      (resetOverdueFlag : Bool)
  | softDeleteTicket (id : ℕ)
  | restoreTicket (id : ℕ)
  | applyEscalation (id : ℕ) (change : EscalationChange)
  | addDependency (ticketId blockerId : ℕ)
  | removeDependency (ticketId blockerId : ℕ)
  | createWithMentions (input : CommentInput) (onCommitting : CommentRow → AuditInsert)
  | updateContentAndMentions (id : ℕ) (expectedVersion : Option ℕ) (content : String)
      (mentionedUserIds : List ℕ) (onCommitting : CommentRow → AuditInsert)
  | deleteComment (id : ℕ)
  | createAttachment (input : AttachmentInput)
  | deleteAttachment (id : ℕ)
  | insertAudit (input : AuditInsert)
  | revoke (jti : String) (userId : ℕ) (expiresAt : Timestamp)

/-- What a read returns. -/
abbrev Query.Rows : Query → Type
  | findAllUsers => List UserRow
  | findUserById _ => Option UserRow
  | findUserByUsername _ => Option UserRow
  | findUsersByUsernamesLower _ => List UserRow
  | findAllProjects => List ProjectRow
  | findProjectById _ => Option ProjectRow
  | findProjectByIdAnyState _ => Option ProjectRow
  | findTicketsByProject _ => List TicketRow
  | findAllTickets => List TicketRow
  | findTicketById _ => Option TicketRow
  | findTicketByIdAnyState _ => Option TicketRow
  | workloadByProject _ => List WorkloadRow
  | findOverdueUnresolved => List TicketRow
  | listBlockers _ => List BlockerRow
  | blockerIdsOf _ => List ℕ
  | countUnresolvedBlockers _ => ℕ
  | findCommentById _ => Option CommentRow
  | findCommentsByTicket _ => List CommentRow
  | findMentionedUsers _ => List MentionedUserRow
  | findMentionedUsersForComments _ => List (ℕ × MentionedUserRow)
  | findCommentsMentioning .. => List CommentRow
  | countMentions _ => ℕ
  | findAttachmentById _ => Option AttachmentRow
  | findAttachmentsByTicket _ => List AttachmentRow
  | isRevoked _ => Bool
  | dateNow => Timestamp

/-- What a write returns. -/
abbrev Command.Rows : Command → Type
  | createUser _ => UserRow
  | updateUser .. => Option UserRow
  | deleteUser _ => Bool
  | createProject _ => ProjectRow
  | updateProject .. => Option ProjectRow
  | softDeleteProject _ => Bool
  | restoreProject _ => Bool
  | createTicket _ => TicketRow
  | updateWithVersionCheck .. => Option TicketRow
  | softDeleteTicket _ => Bool
  | restoreTicket _ => Bool
  | applyEscalation .. => Option TicketRow
  | addDependency .. => Bool
  | removeDependency .. => Bool
  | createWithMentions .. => CommentRow
  | updateContentAndMentions .. => Option CommentRow
  | deleteComment _ => Bool
  | createAttachment _ => AttachmentRow
  | deleteAttachment _ => Bool
  | insertAudit _ => Unit
  | revoke .. => Unit

inductive Statement
  | select (query : Query)
  | command (command : Command)

abbrev Statement.Rows : Statement → Type
  | select read => read.Rows
  | command write => write.Rows

abbrev Statement.Ans (statement : Statement) : Type := Except PgError statement.Rows

section Exec

variable [Postgres]

def Query.eval : (query : Query) → Db → query.Rows
  | findAllUsers => UsersRepository.findAll
  | findUserById id => UsersRepository.findById id
  | findUserByUsername username => UsersRepository.findByUsername username
  | findUsersByUsernamesLower usernames => UsersRepository.findByUsernamesLower usernames
  | findAllProjects => ProjectsRepository.findAll
  | findProjectById id => ProjectsRepository.findById id
  | findProjectByIdAnyState id => ProjectsRepository.findByIdAnyState id
  | findTicketsByProject projectId => TicketsRepository.findByProject projectId
  | findAllTickets => TicketsRepository.findAll
  | findTicketById id => TicketsRepository.findById id
  | findTicketByIdAnyState id => TicketsRepository.findByIdAnyState id
  | workloadByProject projectId => TicketsRepository.workloadByProject projectId
  | findOverdueUnresolved => TicketsRepository.findOverdueUnresolved
  | listBlockers ticketId => DependenciesRepository.listBlockers ticketId
  | blockerIdsOf ticketId => DependenciesRepository.blockerIdsOf ticketId
  | countUnresolvedBlockers ticketId => DependenciesRepository.countUnresolvedBlockers ticketId
  | findCommentById id => CommentsRepository.findById id
  | findCommentsByTicket ticketId => CommentsRepository.findByTicket ticketId
  | findMentionedUsers commentId => CommentsRepository.findMentionedUsers commentId
  | findMentionedUsersForComments commentIds =>
      CommentsRepository.findMentionedUsersForComments commentIds
  | findCommentsMentioning userId pageSize offset =>
      CommentsRepository.findCommentsMentioning userId pageSize offset
  | countMentions userId => CommentsRepository.countMentions userId
  | findAttachmentById id => AttachmentsRepository.findById id
  | findAttachmentsByTicket ticketId => AttachmentsRepository.findByTicket ticketId
  | isRevoked jti => TokenDenylistRepository.isRevoked jti
  | dateNow => Db.now

/-- A statement that cannot fail. -/
def ok {α : Type} (result : α × Db) : Except PgError α × Db := (.ok result.1, result.2)

def Command.exec : (command : Command) → Db → Except PgError command.Rows × Db
  | createUser input => UsersRepository.create input
  | updateUser id input => UsersRepository.update id input
  | deleteUser id => UsersRepository.delete id
  | createProject input => ProjectsRepository.create input
  | updateProject id input => ProjectsRepository.update id input
  | softDeleteProject id => fun db => ok (ProjectsRepository.softDelete id db)
  | restoreProject id => fun db => ok (ProjectsRepository.restore id db)
  | createTicket input => TicketsRepository.create input
  | updateWithVersionCheck id expectedVersion input resetOverdueFlag =>
      TicketsRepository.updateWithVersionCheck id expectedVersion input resetOverdueFlag
  | softDeleteTicket id => fun db => ok (TicketsRepository.softDelete id db)
  | restoreTicket id => fun db => ok (TicketsRepository.restore id db)
  | applyEscalation id change => TicketsRepository.applyEscalation id change
  | addDependency ticketId blockerId => DependenciesRepository.add ticketId blockerId
  | removeDependency ticketId blockerId =>
      fun db => ok (DependenciesRepository.remove ticketId blockerId db)
  | createWithMentions input onCommitting =>
      transaction (CommentsRepository.createWithMentions input onCommitting)
  | updateContentAndMentions id expectedVersion content mentionedUserIds onCommitting =>
      transaction (CommentsRepository.updateContentAndMentions id expectedVersion content
        mentionedUserIds onCommitting)
  | deleteComment id => fun db => ok (CommentsRepository.delete id db)
  | createAttachment input => AttachmentsRepository.create input
  | deleteAttachment id => fun db => ok (AttachmentsRepository.delete id db)
  | insertAudit input => AuditRepository.insert input
  | revoke jti userId expiresAt => TokenDenylistRepository.revoke jti userId expiresAt

/-- Execute a statement atomically. -/
def exec : (statement : Statement) → Db → statement.Ans × Db
  | .select read, db => (.ok (read.eval db), db)
  | .command write, db => write.exec db

@[simp] theorem exec_select (query : Query) (db : Db) :
    exec (.select query) db = (.ok (query.eval db), db) := rfl

theorem exec_command (command : Command) (db : Db) :
    exec (.command command) db = command.exec db := rfl

end Exec

/-! ### Service programs -/

/-- The HTTP exceptions the services throw. -/
inductive HttpStatus
  | badRequest
  | unauthorized
  | notFound
  | conflict
  deriving DecidableEq, Repr

/-- What a service call can reject with. -/
inductive Exception
  | http (status : HttpStatus) (message : String)
  | database (error : PgError)
  | error (message : String)
  /-- No exception of the source: a walk was given too few steps. -/
  | outOfFuel
  deriving DecidableEq, Repr

/-- `(err as Error).message` -/
def Exception.message [Postgres] : Exception → String
  | .http _ message => message
  | .database failure => Postgres.message failure
  | .error text => text
  | .outOfFuel => ""

/-- A program of the application. -/
abbrev Service (α : Type) := Program Statement Statement.Ans Exception α

/-- `DatabaseService.query`: an error of the database is thrown. -/
def query (statement : Statement) : Service statement.Rows :=
  .call statement fun answer => .done (answer.mapError .database)

/-- Send a read. -/
def select (read : Query) : Service read.Rows := query (.select read)

/-- Send a write. -/
def execute (write : Command) : Service write.Rows := query (.command write)

def badRequest {α : Type} (message : String) : Service α := throw (.http .badRequest message)
def unauthorized {α : Type} (message : String) : Service α := throw (.http .unauthorized message)
def notFound {α : Type} (message : String) : Service α := throw (.http .notFound message)
def conflict {α : Type} (message : String) : Service α := throw (.http .conflict message)

/-- A number in a template literal. -/
def showNumber : Option ℕ → String
  | none => "null"
  | some value => toString value

section Outline

variable [Postgres] {α β : Type} {sends : List (Event Statement Db) → Statement → Prop}
  {ends : List (Event Statement Db) → Except Exception β → Prop}
  {events : List (Event Statement Db)}

/-- The outline of a read and what follows it. -/
theorem outline_select (read : Query) (next : read.Rows → Service β) :
    (select read >>= next).Outline exec sends ends events ↔
      sends events (.select read) ∧ ∀ db : Db,
        (next (read.eval db)).Outline exec sends ends (⟨.select read, db⟩ :: events) :=
  Iff.rfl

/-- The outline of a write and what follows it. -/
theorem outline_execute (write : Command) (next : write.Rows → Service β) :
    (execute write >>= next).Outline exec sends ends events ↔
      sends events (.command write) ∧ ∀ db : Db,
        match (write.exec db).1 with
        | .ok rows => (next rows).Outline exec sends ends (⟨.command write, db⟩ :: events)
        | .error error => ends (⟨.command write, db⟩ :: events) (.error (.database error)) := by
  simp only [execute, query, Program.call_bind, Program.outline_call, exec_command]
  refine and_congr Iff.rfl (forall_congr' fun db => ?_)
  cases (write.exec db).1 <;> rfl

end Outline

section Run

variable [Postgres] {β : Type}

/-- A read and what follows it, executed alone. -/
theorem run_select (read : Query) (next : read.Rows → Service β) (db : Db) :
    (select read >>= next).run exec db = (next (read.eval db)).run exec db :=
  rfl

/-- A write and what follows it, executed alone. -/
theorem run_execute (write : Command) (next : write.Rows → Service β) (db : Db) :
    (execute write >>= next).run exec db =
      match write.exec db with
      | (.ok rows, after) => (next rows).run exec after
      | (.error error, after) => (.error (.database error), after) := by
  simp only [execute, query, Program.call_bind, Program.run_call, exec_command]
  generalize write.exec db = answered
  obtain ⟨answer, after⟩ := answered
  cases answer <;> rfl

end Run

end IssueFlow
