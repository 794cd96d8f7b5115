import IssueFlow.Services.CsvExport
import IssueFlow.System.Requests

/-!
# Read requests

The requests that only read, and the program that answers each. The lists of
deleted records, which are for administrators, and the audit log are not among
them.

## Main definitions

* `ReadRequest`, `ReadRequest.program` — the reads and their programs
* `respond` — the response to a read
-/

namespace IssueFlow

open Store Semantics

/-- The reads, by the controller that answers them. -/
inductive ReadRequest
  | findAllUsers
  | findUser (userId : ℕ)
  | findAllProjects
  | findProject (projectId : ℕ)
  | getWorkload (projectId : ℕ)
  /-- The tickets of a project, or all of them. -/
  | findAllTickets (projectId : Option ℕ)
  | findTicket (ticketId : ℕ)
  | exportCsv (projectId : ℕ)
  | listDependencies (ticketId : ℕ)
  | findAllComments (ticketId : ℕ)
  | listAttachments (ticketId : ℕ)
  | findMentions (userId : ℕ) (pagination : PaginationQuery)
  deriving DecidableEq, Repr

/-- What a read is answered with. -/
inductive ReadResponse
  | users (response : List UserResponse)
  | user (response : UserResponse)
  | projects (response : List ProjectResponse)
  | project (response : ProjectResponse)
  | workload (response : List WorkloadRow)
  | tickets (response : List TicketResponse)
  | ticket (response : TicketResponse)
  | csv (response : String)
  | dependencies (response : List BlockerRow)
  | comments (response : List CommentResponse)
  | attachments (response : List AttachmentResponse)
  | mentions (response : PaginatedMentions)
  deriving DecidableEq, Repr

section Responding

variable [Postgres] [CsvStringify]

def ReadRequest.program : ReadRequest → Service ReadResponse
  | findAllUsers => .users <$> UsersService.findAll
  | findUser userId => .user <$> UsersService.findById (some userId)
  | findAllProjects => .projects <$> ProjectsService.findAll
  | findProject projectId => .project <$> ProjectsService.findById projectId
  | getWorkload projectId => .workload <$> TicketsService.getWorkload projectId
  | findAllTickets none => .tickets <$> TicketsService.findAll
  | findAllTickets (some projectId) => .tickets <$> TicketsService.findByProject projectId
  | findTicket ticketId => .ticket <$> TicketsService.findById ticketId
  | exportCsv projectId => .csv <$> CsvExportService.exportProject projectId
  | listDependencies ticketId => .dependencies <$> DependenciesService.list ticketId
  | findAllComments ticketId => .comments <$> CommentsService.findByTicket ticketId
  | listAttachments ticketId => .attachments <$> AttachmentsService.listForTicket ticketId
  | findMentions userId pagination =>
      .mentions <$> CommentsService.findMentionsForUser userId pagination.page pagination.pageSize

/-- The response to a read. -/
def respond (read : ReadRequest) (db : Db) : Except Exception ReadResponse :=
  (read.program.run exec db).1

end Responding

namespace Sample

/-- The file for cells that need no quotes. -/
scoped instance : CsvStringify where
  stringify columns records :=
    let cell : CsvCell → String
      | .text value => value
      | .number value => toString value
    let line (cells : List String) : String := ",".intercalate cells ++ "\n"
    String.join (line columns :: records.map fun record =>
      line [toString record.id, record.title, record.description, record.status.text,
        record.priority.text, record.type.text, cell record.assigneeId])

end Sample

end IssueFlow
