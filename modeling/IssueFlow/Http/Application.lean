import IssueFlow.Http.Pipes

/-!
# The application

The program that handles a request over HTTP: its route, the guard of tokens,
the guard of roles, the pipes, and then the method of the controller. `ControllerAction`
is what a method does once its arguments are there.

## Main definitions

* `JwtAuthGuard.canActivate`, `RolesGuard.canActivate` — the guards
* `ControllerAction`, `PublicEndpoint.action`, `Endpoint.action` — what the methods do
* `HttpRequest.program` — the program of a request
* `Application.run` — any number of requests over HTTP that are handled together
-/

namespace IssueFlow

open Store Semantics JavaScript

/-! ### Guards -/

/-- A token that is missing or badly signed is refused, like one that has
expired; the strategy validates the others. -/
def JwtAuthGuard.canActivate [Postgres] : Option JwtPayload → App AuthenticatedUser
  | none => throw (.exception (.http .unauthorized "Unauthorized"))
  | some payload => App.service (JwtStrategy.authenticate payload)

/-- Without `@Roles`, or with none in it, everybody is let through. -/
def RolesGuard.canActivate (roles : Option (List UserRole)) (user : AuthenticatedUser) :
    Except HttpError Unit :=
  match roles with
  | none => .ok ()
  | some required =>
      if required.isEmpty || required.contains user.role then .ok ()
      else .error (.forbidden ("Requires role(s): " ++ ", ".intercalate
        (required.map UserRole.text)))

/-! ### Controllers -/

/-- What a method of a controller does. -/
inductive ControllerAction
  | write (request : Request)
  | read (request : ReadRequest)
  | logout (user : AuthenticatedUser)
  | findAuditLogs (filters : AuditFilterQuery)
  | findDeletedProjects
  | findDeletedTickets (projectId : ℕ)
  | getHello
  | health
  | me (user : AuthenticatedUser)

structure MeResponse where
  id : ℕ
  username : String
  role : UserRole
  deriving DecidableEq, Repr

/-- The body of an answer with status 200. -/
inductive Answer
  | written (response : Response)
  | read (response : ReadResponse)
  | auditLogs (response : List AuditLogResponse)
  | hello (response : String)
  | health (response : HealthResponse)
  | me (response : MeResponse)

/-- `find` of the audit controller. -/
def AuditController.find (filters : AuditFilterQuery) : App (List AuditLogResponse) := do
  let rows ← App.query (.findAuditLogs filters.toAuditFilters)
  return rows.map toAuditLogResponse

section Program

variable [Postgres] [Bcrypt] [Unicode] [CsvStringify]

/-- The program of a method. -/
def ControllerAction.program (fuel : ℕ) : ControllerAction → App Answer
  | write request => .written <$> App.service (request.program fuel)
  | read request => .read <$> App.service request.program
  | logout user =>
      (fun _ => .written .none) <$> App.service (AuthService.logout user.id user.jti user.exp)
  | findAuditLogs filters => .auditLogs <$> AuditController.find filters
  | findDeletedProjects => (fun found => .read (.projects found)) <$> ProjectsService.findDeleted
  | findDeletedTickets projectId =>
      (fun found => .read (.tickets found)) <$> TicketsService.findDeletedByProject projectId
  | getHello => return .hello AppService.greeting
  | health => .health <$> AppService.health
  | me user => return .me ⟨user.id, user.username, user.role⟩

/-- The state of any number of programs of the controllers that run together. -/
abbrev Application (ι : Type) := Config AppStatement AppStatement.Ans HttpError Answer Db ι

end Program

section Methods

variable {β : Type} [ClassValidator] [ValidationPipe β] [ParseIntPipe]

/-- The public methods; `expiresInSeconds` is a setting of the server. -/
def PublicEndpoint.action (expiresInSeconds : ℕ) (request : HttpRequest β) :
    PublicEndpoint → Except HttpError ControllerAction
  | getHello => .ok .getHello
  | health => .ok .health
  | createUser => do
      let dto ← validated (ValidationPipe.createUser request.input)
      return .write (.createUser dto.1 none request.draws.salt)
  | login => do
      let dto ← validated (ValidationPipe.login request.input)
      return .write (.login expiresInSeconds request.draws.jti dto.1.username dto.1.password)

/-- The other methods: `params` are the parameters of the path, and `user` is
the current user. -/
def Endpoint.action (request : HttpRequest β) (params : List RawText) (user : AuthenticatedUser) :
    Endpoint → Except HttpError ControllerAction
  | findAuditLogs => do
      return .findAuditLogs (← validated (ValidationPipe.auditFilter request.input))
  | findAllUsers => .ok (.read .findAllUsers)
  | findUser => do return .read (.findUser (← ParseIntPipe.transform params[0]?))
  | updateUser => do
      let userId ← ParseIntPipe.transform params[0]?
      let dto ← validated (ValidationPipe.updateUser request.input)
      return .write (.updateUser userId dto.1 user.id)
  | removeUser => do return .write (.deleteUser (← ParseIntPipe.transform params[0]?) user.id)
  | logout => .ok (.logout user)
  | me => .ok (.me user)
  | findAllProjects => .ok (.read .findAllProjects)
  | findDeletedProjects => .ok .findDeletedProjects
  | findProject => do return .read (.findProject (← ParseIntPipe.transform params[0]?))
  | createProject => do
      let dto ← validated (ValidationPipe.createProject request.input)
      return .write (.createProject dto.1 user.id)
  | updateProject => do
      let projectId ← ParseIntPipe.transform params[0]?
      let dto ← validated (ValidationPipe.updateProject request.input)
      return .write (.updateProject projectId dto.1 user.id)
  | removeProject => do
      return .write (.softDeleteProject (← ParseIntPipe.transform params[0]?) user.id)
  | restoreProject => do
      return .write (.restoreProject (← ParseIntPipe.transform params[0]?) user.id)
  | exportCsv => do
      let projectId ← requireProjectId request.projectId
        "projectId query parameter is required and must be a positive integer"
      return .read (.exportCsv projectId)
  | importCsv => do
      match ← request.file with
      | none => throw (.badRequest "No CSV file uploaded (multipart field name: file)")
      | some file =>
          let projectId ← requireProjectId request.projectId
            "projectId form field is required and must be a positive integer"
          return .write (.importTickets projectId file.records user.id)
  | findDeletedTickets => do
      let projectId ← requireProjectId request.projectId
        "projectId query parameter is required and must be a positive integer"
      return .findDeletedTickets projectId
  | findAllTickets => do return .read (.findAllTickets (← optionalProjectId request.projectId))
  | findTicket => do return .read (.findTicket (← ParseIntPipe.transform params[0]?))
  | createTicket => do
      let dto ← validated (ValidationPipe.createTicket request.input)
      return .write (.createTicket dto.1 user.id)
  | updateTicket => do
      let ticketId ← ParseIntPipe.transform params[0]?
      let dto ← validated (ValidationPipe.updateTicket request.input)
      return .write (.updateTicket ticketId dto.1 user.id)
  | removeTicket => do
      return .write (.softDeleteTicket (← ParseIntPipe.transform params[0]?) user.id)
  | restoreTicket => do
      return .write (.restoreTicket (← ParseIntPipe.transform params[0]?) user.id)
  | addDependency => do
      let ticketId ← ParseIntPipe.transform params[0]?
      let dto ← validated (ValidationPipe.addDependency request.input)
      return .write (.addDependency ticketId dto.1.blockedBy user.id)
  | listDependencies => do
      return .read (.listDependencies (← ParseIntPipe.transform params[0]?))
  | removeDependency => do
      let ticketId ← ParseIntPipe.transform params[0]?
      let blockerId ← ParseIntPipe.transform params[1]?
      return .write (.removeDependency ticketId blockerId user.id)
  | getWorkload => do return .read (.getWorkload (← ParseIntPipe.transform params[0]?))
  | findAllComments => do return .read (.findAllComments (← ParseIntPipe.transform params[0]?))
  | createComment => do
      let ticketId ← ParseIntPipe.transform params[0]?
      let dto ← validated (ValidationPipe.createComment request.input)
      return .write (.createComment ticketId dto.1 user.id)
  | updateComment => do
      let ticketId ← ParseIntPipe.transform params[0]?
      let commentId ← ParseIntPipe.transform params[1]?
      let dto ← validated (ValidationPipe.updateComment request.input)
      return .write (.updateComment ticketId commentId dto.1 user.id)
  | removeComment => do
      let ticketId ← ParseIntPipe.transform params[0]?
      let commentId ← ParseIntPipe.transform params[1]?
      return .write (.deleteComment ticketId commentId user.id)
  | findMentions => do
      let userId ← ParseIntPipe.transform params[0]?
      return .read (.findMentions userId (← validated (ValidationPipe.pagination request.input)))
  | runEscalation => .ok (.write .escalate)
  | uploadAttachment => do
      let file ← request.file
      let ticketId ← ParseIntPipe.transform params[0]?
      return .write (.uploadAttachment ticketId (file.map (·.toUploadedFile)) user.id
        request.draws.uuid request.draws.disk)
  | listAttachments => do
      return .read (.listAttachments (← ParseIntPipe.transform params[0]?))
  | removeAttachment => do
      let ticketId ← ParseIntPipe.transform params[0]?
      let attachmentId ← ParseIntPipe.transform params[1]?
      return .write (.deleteAttachment ticketId attachmentId user.id)

end Methods

/-! ### Requests -/

section Application

variable {β : Type} [ClassValidator] [ValidationPipe β] [ParseIntPipe] [Postgres] [Bcrypt] [Unicode]
  [CsvStringify]

/-- A method with its arguments, or what a pipe has rejected. -/
def runAction (fuel : ℕ) : Except HttpError ControllerAction → App Answer
  | .ok action => action.program fuel
  | .error rejected => throw rejected

/-- The program of a request. -/
def HttpRequest.program (expiresInSeconds fuel : ℕ) (request : HttpRequest β) : App Answer :=
  match route? controllers request.verb request.path with
  | none => throw (.notRouted ("Cannot " ++ request.line))
  | some (route, params) =>
      match route.handler with
      | .unguarded endpoint => runAction fuel (endpoint.action expiresInSeconds request)
      | .guarded endpoint => do
          let user ← JwtAuthGuard.canActivate request.bearer
          match RolesGuard.canActivate endpoint.roles user with
          | .error rejected => throw rejected
          | .ok _ => runAction fuel (endpoint.action request params user)

/-- Requests that start together on a database. -/
abbrev Application.start {ι : Type} (db : Db) (expiresInSeconds : ℕ)
    (requests : ι → HttpRequest β) (fuel : ι → ℕ) : Application ι :=
  Config.start db fun thread => (requests thread).program expiresInSeconds (fuel thread)

/-- The application after a schedule. -/
abbrev Application.run {ι : Type} [DecidableEq ι] (db : Db) (expiresInSeconds : ℕ)
    (requests : ι → HttpRequest β) (fuel : ι → ℕ) (turns : List (Turn ι ℕ)) : Application ι :=
  Config.play AppStatement.exec advance turns
    (Application.start db expiresInSeconds requests fuel)

end Application

end IssueFlow
