import IssueFlow.Services.Attachments
import IssueFlow.Services.Auth
import IssueFlow.Services.Comments
import IssueFlow.Services.CsvImport
import IssueFlow.Services.Dependencies
import IssueFlow.Services.Escalation

/-!
# Requests

One type of requests, the program that serves each, and the two ways requests
are served: interleaved statement by statement, and one at a time from an empty
database. The clock is advanced by the environment and never goes back.

## Main definitions

* `Request`, `Request.program` — requests and their programs
* `System`, `serveAll` — requests interleaved, and requests one at a time
-/

namespace IssueFlow

open Store Semantics JavaScript

/-- The mutating requests, with who performs them. -/
inductive Request
  | createUser (dto : CreateUserDto) (performedBy : Option ℕ) (salt : String)
  | updateUser (id : ℕ) (dto : UpdateUserDto) (performedBy : ℕ)
  | deleteUser (id performedBy : ℕ)
  | createProject (dto : CreateProjectDto) (performedBy : ℕ)
  | updateProject (id : ℕ) (dto : UpdateProjectDto) (performedBy : ℕ)
  | softDeleteProject (id performedBy : ℕ)
  | restoreProject (id performedBy : ℕ)
  | createTicket (dto : CreateTicketDto) (performedBy : ℕ)
  | updateTicket (id : ℕ) (dto : UpdateTicketDto) (performedBy : ℕ)
  | softDeleteTicket (id performedBy : ℕ)
  | restoreTicket (id performedBy : ℕ)
  | importTickets (projectId : ℕ) (parsed : Except String (List CsvRecord)) (performedBy : ℕ)
  | addDependency (ticketId blockerId performedBy : ℕ)
  | removeDependency (ticketId blockerId performedBy : ℕ)
  | escalate
  | createComment (ticketId : ℕ) (dto : CreateCommentDto) (performedBy : ℕ)
  | updateComment (ticketId commentId : ℕ) (dto : UpdateCommentDto) (performedBy : ℕ)
  | deleteComment (ticketId commentId performedBy : ℕ)
  | uploadAttachment (ticketId : ℕ) (file : Option UploadedFile) (uploaderId : ℕ) (uuid : String)
      (disk : DiskAnswers)
  | deleteAttachment (ticketId attachmentId performedBy : ℕ)
  | login (expiresInSeconds : ℕ) (jti username password : String)
  | logout (payload : JwtPayload)
  | authenticate (payload : JwtPayload)

/-- What a request is answered with. -/
inductive Response
  | none
  | user (response : UserResponse)
  | project (response : ProjectResponse)
  | ticket (response : TicketResponse)
  | comment (response : CommentResponse)
  | attachment (response : AttachmentResponse)
  | imported (summary : ImportSummary)
  | escalated (summary : EscalationSummary)
  | loggedIn (response : LoginResponse)
  | authenticated (user : AuthenticatedUser)
  deriving DecidableEq, Repr

section Serving

variable [Postgres] [Bcrypt] [Unicode]

/-- The program that serves a request; `fuel` bounds the walk of a cycle check. -/
def Request.program (fuel : ℕ) : Request → Service Response
  | createUser dto performedBy salt => .user <$> UsersService.create dto performedBy salt
  | updateUser id dto performedBy => .user <$> UsersService.update id dto performedBy
  | deleteUser id performedBy => (fun _ => .none) <$> UsersService.delete id performedBy
  | createProject dto performedBy => .project <$> ProjectsService.create dto performedBy
  | updateProject id dto performedBy => .project <$> ProjectsService.update id dto performedBy
  | softDeleteProject id performedBy =>
      (fun _ => .none) <$> ProjectsService.softDelete id performedBy
  | restoreProject id performedBy => (fun _ => .none) <$> ProjectsService.restore id performedBy
  | createTicket dto performedBy => .ticket <$> TicketsService.create dto performedBy
  | updateTicket id dto performedBy => .ticket <$> TicketsService.update id dto performedBy
  | softDeleteTicket id performedBy => (fun _ => .none) <$> TicketsService.softDelete id performedBy
  | restoreTicket id performedBy => (fun _ => .none) <$> TicketsService.restore id performedBy
  | importTickets projectId parsed performedBy =>
      .imported <$> CsvImportService.importIntoProject projectId parsed performedBy
  | addDependency ticketId blockerId performedBy =>
      (fun _ => .none) <$> DependenciesService.add fuel ticketId blockerId performedBy
  | removeDependency ticketId blockerId performedBy =>
      (fun _ => .none) <$> DependenciesService.remove ticketId blockerId performedBy
  | escalate => .escalated <$> EscalationService.runOnce
  | createComment ticketId dto performedBy =>
      .comment <$> CommentsService.create ticketId dto performedBy
  | updateComment ticketId commentId dto performedBy =>
      .comment <$> CommentsService.update ticketId commentId dto performedBy
  | deleteComment ticketId commentId performedBy =>
      (fun _ => .none) <$> CommentsService.delete ticketId commentId performedBy
  | uploadAttachment ticketId file uploaderId uuid disk =>
      .attachment <$> AttachmentsService.upload ticketId file uploaderId uuid disk
  | deleteAttachment ticketId attachmentId performedBy =>
      (fun _ => .none) <$> AttachmentsService.delete ticketId attachmentId performedBy
  | login expiresInSeconds jti username password =>
      .loggedIn <$> AuthService.login expiresInSeconds jti username password
  | logout payload => (fun _ => .none) <$> AuthController.logout payload
  | authenticate payload => .authenticated <$> JwtStrategy.authenticate payload

/-! ### Interleaved requests -/

/-- The state of any number of requests that are served together. -/
abbrev System (ι : Type) := Config Statement Statement.Ans Exception Response Db ι

/-- The clock moves forward by some milliseconds. -/
def advance (elapsed : ℕ) (db : Db) : Db := { db with now := db.now + elapsed }

/-- Requests that start together on a database. Each has its own bound for the
walk of a cycle check. -/
abbrev System.start {ι : Type} (db : Db) (requests : ι → Request) (fuel : ι → ℕ) : System ι :=
  Config.start db fun thread => (requests thread).program (fuel thread)

/-- The system after a schedule: a turn executes one statement of a request or
moves the clock. -/
abbrev System.run {ι : Type} [DecidableEq ι] (db : Db) (requests : ι → Request) (fuel : ι → ℕ)
    (turns : List (Turn ι ℕ)) : System ι :=
  Config.play exec advance turns (System.start db requests fuel)

/-- Every statement of the schedule meets the guard. -/
abbrev System.Meets {ι : Type} [DecidableEq ι] (db : Db) (requests : ι → Request) (fuel : ι → ℕ)
    (guard : System ι → ι → Statement → Prop) (turns : List (Turn ι ℕ)) : Prop :=
  Config.Meets exec advance guard turns (System.start db requests fuel)

/-! ### Requests one at a time -/

/-- Enough steps for a cycle check on this database. -/
def walkFuel (db : Db) : ℕ := db.ticketDependencies.length + 2

/-- Serve one request with nothing in between. -/
def serve (request : Request) (db : Db) : Except Exception Response × Db :=
  (request.program (walkFuel db)).run exec db

/-- What happens to a system that serves one request at a time. -/
inductive Input
  | request (request : Request)
  | advance (elapsed : ℕ)

def Input.apply : Input → Db → Db
  | .request sent, db => (serve sent db).2
  | .advance elapsed, db => IssueFlow.advance elapsed db

/-- The database after a sequence of requests. -/
def serveAll (inputs : List Input) (db : Db) : Db :=
  inputs.foldl (fun db input => input.apply db) db

end Serving

/-! ### A concrete environment -/

namespace Sample

/-- The server, on the texts the sample inputs use. -/
scoped instance : Postgres where
  lower := String.toLower
  timestamptz text := if text = "1970-01-01T00:00:01Z" then some 1000 else none
  message _ := "database error"

/-- Characters beyond ASCII are left alone. -/
scoped instance : Unicode := ⟨fun c => [c]⟩

/-- A password is its own hash. -/
scoped instance : Bcrypt where
  hash password _ _ := password
  compare password hash := password = hash

/-- A user called `root` and one project. -/
def setup : List Input :=
  [.request (.createUser ⟨"root", "root@example.com", "Root", .admin, .undefined⟩ none ""),
    .request (.createProject ⟨"Project", .undefined, 1⟩ 1)]

/-- A ticket of the project without an assignee. -/
def ticket (status : TicketStatus) : Input :=
  .request (.createTicket
    ⟨"Ticket", .undefined, .value status, .undefined, .bug, 1, .undefined, .undefined⟩ 1)

/-- A ticket that is due a second after the epoch. -/
def dueTicket : Input :=
  .request (.createTicket ⟨"Ticket", .undefined, .undefined, .undefined, .bug, 1, .undefined,
    .value "1970-01-01T00:00:01Z"⟩ 1)

/-- One ticket that is to do. -/
def oneTicket : Db := serveAll (setup ++ [ticket .todo]) Db.empty

/-- Two open tickets without dependencies. -/
def twoTickets : Db := serveAll (setup ++ [ticket .todo, ticket .todo]) Db.empty

/-- Two open tickets of which 2 blocks 1. -/
def blockedTickets : List Input :=
  setup ++ [ticket .todo, ticket .todo, .request (.addDependency 1 2 1)]

/-- A PATCH that moves a ticket to a status. -/
def move (id version : ℕ) (status : TicketStatus) : Request :=
  .updateTicket id
    { title := .undefined
      description := .undefined
      status := .value status
      priority := .undefined
      assigneeId := .undefined
      dueDate := .undefined
      version := .value version } 1

/-- Two requests of three statements, one after the other. -/
def inTurn : List (Turn Bool ℕ) :=
  [.call true, .call true, .call true, .call false, .call false, .call false]

/-- One statement of each request in turn. -/
def inStep : List (Turn Bool ℕ) :=
  [.call true, .call false, .call true, .call false, .call true, .call false]

end Sample

end IssueFlow
