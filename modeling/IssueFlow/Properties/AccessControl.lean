import IssueFlow.Http.Access
import IssueFlow.System.Attribution

/-!
# Access control

What requests over HTTP may do, in any interleaving. Every statement that is
executed for a request is one of the guard of tokens, one of the few that need
no token, or sent after the guard has read that the token of the request is
neither expired nor revoked. Then the audit entries name the user of the token,
and the restorations, the escalation cycle and the lists of deleted records are
for tokens with the role of an administrator.

The role is the one in the token, and the guard decides once: neither a change
of the role nor a later logout stops a request that has been let through.

## Main definitions

* `AppStatement.isAdministrative` — the statements for administrators
* `Permitted` — what a request may send after the statements it has sent so far

## Main results

* `HttpRequest.outline` — what the program of a request sends
* `access_control` — every statement of every run is permitted
-/

namespace IssueFlow

open Store Semantics JavaScript

/-- What only an administrator may send. -/
def AppStatement.isAdministrative : AppStatement → Bool
  | service (.command (.restoreProject _)) | service (.command (.restoreTicket _))
  | service (.command (.applyEscalation ..)) | read .findDeletedProjects
  | read (.findDeletedTicketsByProject _) => true
  | _ => false

/-- What needs no token. -/
def AppStatement.IsOpen : AppStatement → Prop
  | service statement => statement.IsOpen
  | read query => query = .probe

variable {β : Type}

/-- Is the method of the request a public one? -/
def HttpRequest.isPublic (request : HttpRequest β) : Bool :=
  match route? controllers request.verb request.path with
  | some (⟨_, _, .unguarded _⟩, _) => true
  | _ => false

/-- What a request may send after the statements it has sent so far. -/
inductive Permitted (request : HttpRequest β) (events : AppHistory) (statement : AppStatement) :
    Prop
  | guard {read : Query} (isGuardRead : read.isGuardRead = true)
      (same : statement = .service (.select read))
  | anybody (isPublic : request.isPublic = true) (isOpen : statement.IsOpen)
  | authorized {payload : JwtPayload} {user : AuthenticatedUser}
      (bearer : request.bearer = some payload) (letIn : LetIn payload user events)
      (admin : statement.isAdministrative = true → payload.role = .admin)
      (isBy : ∀ write, statement = .service (.command write) → write.IsBy payload.sub)

/-- Every event of a history is permitted after the earlier ones. -/
def AllPermitted (request : HttpRequest β) : AppHistory → Prop
  | [] => True
  | event :: earlier => Permitted request earlier event.op ∧ AllPermitted request earlier

/-! ### Methods -/

/-- The requests for administrators. -/
def Request.isAdministrative : Request → Bool
  | restoreProject .. | restoreTicket .. | escalate => true
  | _ => false

theorem Request.isAdministrative_of_mayWrite {sent : Request} {write : Command}
    (may : sent.MayWrite write)
    (admin : (AppStatement.service (.command write)).isAdministrative = true) :
    sent.isAdministrative = true := by
  cases write with
  | restoreProject id =>
      cases sent <;> simp_all [Request.MayWrite, Logs, Request.isAdministrative]
  | restoreTicket id =>
      obtain ⟨performedBy, rfl⟩ := mayWrite_restoreTicket may
      rfl
  | applyEscalation id change =>
      obtain rfl := mayWrite_applyEscalation may
      rfl
  | _ => cases admin

theorem RolesGuard.role_of_admin {user : AuthenticatedUser}
    (roles : RolesGuard.canActivate (some [.admin]) user = .ok ()) : user.role = .admin := by
  cases role : user.role with
  | admin => rfl
  | developer =>
      simp only [RolesGuard.canActivate, role] at roles
      cases roles

/-- What a method may send for the current user. -/
def AppStatement.AllowedTo (user : AuthenticatedUser) (statement : AppStatement) : Prop :=
  (statement.isAdministrative = true → user.role = .admin) ∧
    ∀ write, statement = .service (.command write) → write.IsBy user.id

theorem allowedTo_of_read {user : AuthenticatedUser} {statement : Statement}
    (reads : IsRead statement) : (AppStatement.service statement).AllowedTo user := by
  obtain ⟨read, rfl⟩ := reads
  exact ⟨fun isAdmin => (Bool.false_ne_true isAdmin).elim, fun write same => by cases same⟩

theorem allowedTo_query {user : AuthenticatedUser} {query : AppQuery}
    (admin : (AppStatement.read query).isAdministrative = true → user.role = .admin) :
    (AppStatement.read query).AllowedTo user :=
  ⟨admin, fun write same => by cases same⟩

section Methods

variable [ClassValidator] [ValidationPipe β] [ParseIntPipe]

/-- **The request of a guarded method** is performed by the current user, and the
methods for administrators have the role. -/
theorem Endpoint.write_cases {request : HttpRequest β} {params : List RawText}
    {user : AuthenticatedUser} {endpoint : Endpoint} {sent : Request}
    (action : endpoint.action request params user = .ok (.write sent)) :
    (∀ performer ∈ sent.performer, performer = user.id) ∧
      (∀ dto salt, sent ≠ .createUser dto none salt) ∧
      (sent.isAdministrative = true → endpoint.roles = some [.admin]) := by
  -- The methods are grouped by the number of arguments the pipes hand them.
  cases endpoint with
  | runEscalation =>
      obtain rfl := ControllerAction.write.inj (Except.ok.inj action)
      simp [Request.performer, Endpoint.roles]
  | removeUser | createProject | removeProject | restoreProject | createTicket | removeTicket
  | restoreTicket =>
      obtain ⟨_, -, action⟩ := bind_eq_ok.mp action
      obtain rfl := ControllerAction.write.inj (Except.ok.inj action)
      simp [Request.performer, Request.isAdministrative, Endpoint.roles]
  | updateUser | updateProject | updateTicket | addDependency | removeDependency | createComment
  | removeComment | uploadAttachment | removeAttachment =>
      obtain ⟨_, -, action⟩ := bind_eq_ok.mp action
      obtain ⟨_, -, action⟩ := bind_eq_ok.mp action
      obtain rfl := ControllerAction.write.inj (Except.ok.inj action)
      simp [Request.performer, Request.isAdministrative]
  | updateComment =>
      obtain ⟨_, -, action⟩ := bind_eq_ok.mp action
      obtain ⟨_, -, action⟩ := bind_eq_ok.mp action
      obtain ⟨_, -, action⟩ := bind_eq_ok.mp action
      obtain rfl := ControllerAction.write.inj (Except.ok.inj action)
      simp [Request.performer, Request.isAdministrative]
  | importCsv =>
      obtain ⟨projectId, records, same⟩ := Endpoint.importCsv_eq_ok action
      obtain rfl := ControllerAction.write.inj same
      simp [Request.performer, Request.isAdministrative]
  | _ => simp [Endpoint.action, bind_eq_ok, pure, Except.pure] at action

/-- The lists of deleted records are for administrators. -/
theorem Endpoint.roles_of_deleted {request : HttpRequest β} {params : List RawText}
    {user : AuthenticatedUser} {endpoint : Endpoint} {action : ControllerAction}
    (isAction : endpoint.action request params user = .ok action)
    (isDeleted : action = .findDeletedProjects ∨
      ∃ projectId, action = .findDeletedTickets projectId) :
    endpoint.roles = some [.admin] := by
  cases endpoint with
  | findDeletedProjects | findDeletedTickets => rfl
  | importCsv =>
      obtain ⟨projectId, records, rfl⟩ := Endpoint.importCsv_eq_ok isAction
      simp at isDeleted
  | _ =>
      obtain rfl | ⟨projectId, rfl⟩ := isDeleted
      all_goals simp [Endpoint.action, bind_eq_ok, pure, Except.pure] at isAction

variable [Postgres] [Bcrypt] [Unicode] [CsvStringify] {fuel : ℕ}

/-- **A guarded method**, once the guard of roles has let the user through. -/
theorem Endpoint.only {request : HttpRequest β} {params : List RawText} {user : AuthenticatedUser}
    {endpoint : Endpoint} (roles : RolesGuard.canActivate endpoint.roles user = .ok ()) :
    (runAction fuel (endpoint.action request params user)).Only (AppStatement.AllowedTo user) := by
  have reading {α : Type} {p : Service α} (only : p.Only IsRead) :
      (App.service p).Only (AppStatement.AllowedTo user) :=
    only.embed fun _ => allowedTo_of_read
  cases isAction : endpoint.action request params user with
  | error rejected => trivial
  | ok action =>
      cases action with
      | write sent =>
          obtain ⟨isPerformer, noRegistration, admin⟩ := Endpoint.write_cases isAction
          have only := (Request.only sent fuel).and (Request.isBy isPerformer noRegistration fuel)
          refine Program.Only.map _ (only.embed fun statement ⟨may, isBy⟩ => ?_)
          cases statement with
          | select read => exact allowedTo_of_read ⟨read, rfl⟩
          | command write =>
              refine ⟨fun isAdmin => ?_, fun _ same => ?_⟩
              · rw [admin (Request.isAdministrative_of_mayWrite may isAdmin)] at roles
                exact RolesGuard.role_of_admin roles
              · cases same
                exact isBy
      | logout other =>
          refine Program.Only.map _ ⟨⟨fun isAdmin => (Bool.false_ne_true isAdmin).elim, ?_⟩,
            fun _ => trivial⟩
          intro write same
          cases same
          trivial
      | read sent => exact (reading sent.reads).map _
      | findAuditLogs filters =>
          refine Program.Only.map _ (App.query_only (allowedTo_query fun isAdmin => ?_) _)
          cases isAdmin
      | findDeletedProjects =>
          rw [Endpoint.roles_of_deleted isAction (.inl rfl)] at roles
          exact (App.query_only (allowedTo_query fun _ => RolesGuard.role_of_admin roles) _).map _
      | findDeletedTickets projectId =>
          rw [Endpoint.roles_of_deleted isAction (.inr ⟨projectId, rfl⟩)] at roles
          exact ((reading (ProjectsService.assertExists_reads _)).bind fun _ =>
            App.query_only (allowedTo_query fun _ => RolesGuard.role_of_admin roles) _).map _
      | getHello => trivial
      | health =>
          refine Program.Only.map _ (Program.Only.bind ?_ fun database => ?_)
          · refine Program.Only.tryCatch (App.query_only (allowedTo_query fun isAdmin => ?_) _)
              fun _ => trivial
            cases isAdmin
          · refine (reading (read_only _)).bind fun timestamp => ?_
            trivial
      | me other => trivial

omit [ParseIntPipe] in
/-- **A public method** sends what needs no token. -/
theorem PublicEndpoint.only {expiresInSeconds : ℕ} {request : HttpRequest β}
    {endpoint : PublicEndpoint} :
    (runAction fuel (endpoint.action expiresInSeconds request)).Only AppStatement.IsOpen := by
  have sending {sent : Request} (only : (sent.program fuel).Only Statement.IsOpen) :
      (runAction fuel (.ok (.write sent))).Only AppStatement.IsOpen :=
    Program.Only.map _ (only.embed fun _ isOpen => isOpen)
  cases endpoint with
  | getHello => trivial
  | health =>
      refine Program.Only.map _ (Program.Only.bind ?_ fun database => ?_)
      · have isOpen : (AppStatement.read .probe).IsOpen := rfl
        exact Program.Only.tryCatch (App.query_only isOpen _) fun _ => trivial
      · have clock : (select .dateNow).Only Statement.IsOpen := ⟨trivial, fun _ => trivial⟩
        exact Program.Only.bind (clock.embed fun _ isOpen => isOpen) fun _ => trivial
  | createUser =>
      simp only [PublicEndpoint.action]
      cases validated (ValidationPipe.createUser request.input) with
      | error rejected => trivial
      | ok dto => exact sending ((UsersService.create_open ..).map _)
  | login =>
      simp only [PublicEndpoint.action]
      cases validated (ValidationPipe.login request.input) with
      | error rejected => trivial
      | ok dto => exact sending ((AuthService.login_open ..).map _)

end Methods

/-! ### Requests -/

theorem JwtPayload.of_user? {payload : JwtPayload} {user : AuthenticatedUser}
    (isUser : payload.user? = some user) : user.id = payload.sub ∧ user.role = payload.role := by
  rw [user?] at isUser
  split at isUser
  · split_ifs at isUser
    obtain rfl := Option.some.inj isUser
    exact ⟨rfl, rfl⟩
  · cases isUser

/-- Every event of a history is permitted after the earlier ones. -/
theorem AllPermitted.of_split {request : HttpRequest β} {events : AppHistory}
    (permitted : ∀ later event earlier, events = later ++ event :: earlier →
      Permitted request earlier event.op) : AllPermitted request events := by
  induction events with
  | nil => trivial
  | cons event earlier ih =>
      refine ⟨permitted [] event earlier rfl, ih fun later other before split => ?_⟩
      exact permitted (event :: later) other before (congrArg (event :: ·) split)

/-- What follows the guard of tokens, after it has let the token through. -/
theorem outline_of_letIn [Postgres] {request : HttpRequest β} {payload : JwtPayload}
    {user : AuthenticatedUser} (bearer : request.bearer = some payload) {p : App Answer}
    (only : p.Only (AppStatement.AllowedTo user)) {events : AppHistory}
    (letIn : LetIn payload user events) :
    p.Outline AppStatement.exec (Permitted request) (fun _ _ => True) events := by
  induction p generalizing events with
  | done result => trivial
  | call statement next ih =>
      obtain ⟨isId, isRole⟩ := JwtPayload.of_user? letIn.isUser
      obtain ⟨⟨admin, isBy⟩, rest⟩ := only
      refine ⟨.authorized bearer letIn (isRole ▸ admin) (isId ▸ isBy), fun db => ?_⟩
      exact ih _ (rest _) letIn.cons

section Requests

variable [ClassValidator] [ValidationPipe β] [ParseIntPipe] [Postgres] [Bcrypt] [Unicode]
  [CsvStringify] {expiresInSeconds fuel : ℕ}

/-- **What the program of a request sends**, whatever happens in between. -/
theorem HttpRequest.outline (request : HttpRequest β) :
    (request.program expiresInSeconds fuel).Outline AppStatement.exec (Permitted request)
      (fun _ _ => True) [] := by
  cases routed : route? controllers request.verb request.path with
  | none =>
      simp only [program, routed]
      trivial
  | some found =>
      obtain ⟨route, params⟩ := found
      cases handler : route.handler with
      | unguarded endpoint =>
          have isPublic : request.isPublic = true := by
            obtain ⟨verb, pattern, _⟩ := route
            obtain rfl := handler
            simp only [HttpRequest.isPublic, routed]
          simp only [program, routed, handler]
          exact PublicEndpoint.only.outline (fun _ _ isOpen => .anybody isPublic isOpen) []
      | guarded endpoint =>
          rw [program_of_guarded routed handler, Program.outline_bind]
          have guard := guard_outline request.bearer [] fun events read isGuardRead =>
            (Permitted.guard isGuardRead rfl : Permitted request events _)
          refine guard.mono (fun _ _ permitted => permitted) fun events result ended => ?_
          cases result with
          | error rejected => trivial
          | ok user =>
              obtain ⟨payload, bearer, letIn⟩ := ended
              simp only [afterGuard]
              cases roles : RolesGuard.canActivate endpoint.roles user with
              | error rejected => trivial
              | ok _ => exact outline_of_letIn bearer (Endpoint.only roles) letIn

/-- **Access control.** In any interleaving, every statement that is executed for
a request is permitted: it is one of the guard of tokens, one of a public method
that needs no token, or sent for the user of a token that the guard had read to
be neither expired nor revoked; then the audit entries name this user, and what
is for administrators is sent with their role only. -/
theorem access_control {ι : Type} [DecidableEq ι] (db : Db) (expiresInSeconds : ℕ)
    (requests : ι → HttpRequest β) (fuel : ι → ℕ) (turns : List (Turn ι ℕ)) (thread : ι) :
    AllPermitted (requests thread)
      ((Application.run db expiresInSeconds requests fuel turns).history thread) := by
  have outlined : (Application.start db expiresInSeconds requests fuel).Outlined
      AppStatement.exec (fun thread => Permitted (requests thread)) fun _ _ _ => True :=
    fun thread => (requests thread).outline
  refine .of_split fun later event earlier split => ?_
  exact ((Config.meets_true turns).history_split outlined rfl (fun _ _ => True)
    (fun _ _ _ _ => trivial) thread later event earlier split).1

end Requests

end IssueFlow
