import IssueFlow.Http.Access
import IssueFlow.System.AuditBlind
import IssueFlow.System.HashBlind

/-!
# Requests that do not look

Of the requests over HTTP only the search of the audit log, `GET /audit-logs`,
looks at the audit log, and only a login at the hashes of passwords. Both leave
the database as it is.

## Main definitions

* `HttpRequest.isAuditSearch`, `HttpRequest.isLogin` — the two exceptions
* `HttpRequest.SameButPassword` — requests that agree but for passwords

## Main results

* `HttpRequest.unsearching`, `HttpRequest.alike` — every other request
* `HttpRequest.quiet_of_isAuditSearch`, `HttpRequest.quiet_of_isLogin` — the exceptions
-/

namespace IssueFlow

open Store Semantics JavaScript

variable {β : Type}

/-- `GET /audit-logs` -/
def HttpRequest.isAuditSearch (request : HttpRequest β) : Bool :=
  match route? controllers request.verb request.path with
  | some (⟨_, _, .guarded .findAuditLogs⟩, _) => true
  | _ => false

/-- `POST /auth/login` -/
def HttpRequest.isLogin (request : HttpRequest β) : Bool :=
  match route? controllers request.verb request.path with
  | some (⟨_, _, .unguarded .login⟩, _) => true
  | _ => false

/-! ### The audit log -/

/-- A statement that does not read the audit log. -/
def AppStatement.Unsearching : AppStatement → Prop
  | read (.findAuditLogs _) => False
  | _ => True

section AuditLog

variable [Postgres]

/-- The other statements keep two databases the same apart from the audit log. -/
theorem simulates_app_business :
    Simulates (Itself AppStatement.Unsearching) AppStatement.exec AppStatement.exec
      SameBusiness := by
  refine simulates_itself fun statement unsearching db db' same => ?_
  cases statement with
  | service statement => exact exec_business statement same
  | read query =>
      refine ⟨?_, same⟩
      obtain ⟨logs, rfl⟩ := same.exists_eq
      cases query with
      | findAuditLogs filters => exact unsearching.elim
      | _ => rfl

theorem App.service_unsearching {α : Type} (p : Service α) :
    (App.service p).Only AppStatement.Unsearching :=
  (Program.Only.all p).embed fun _ _ => trivial

variable [Bcrypt] [Unicode] [CsvStringify]

/-- Every method but the search. -/
theorem ControllerAction.unsearching {action : ControllerAction}
    (other : ∀ filters, action ≠ .findAuditLogs filters) (fuel : ℕ) :
    (action.program fuel).Only AppStatement.Unsearching := by
  cases action with
  | write request => exact (App.service_unsearching _).map _
  | read request => exact (App.service_unsearching _).map _
  | logout user => exact (App.service_unsearching _).map _
  | findAuditLogs filters => exact absurd rfl (other filters)
  | findDeletedProjects => exact (App.query_only trivial _).map _
  | findDeletedTickets projectId =>
      exact ((App.service_unsearching _).bind fun _ => App.query_only trivial _).map _
  | getHello => trivial
  | health =>
      refine Program.Only.map _ (Program.Only.bind ?_ fun database => ?_)
      · exact (App.query_only trivial _).tryCatch fun _ => trivial
      · exact (App.service_unsearching _).bind fun timestamp => trivial
  | me user => trivial

/-- What a pipe has rejected sends nothing. -/
theorem runAction_only {allowed : AppStatement → Prop} {fuel : ℕ}
    {action : Except HttpError ControllerAction}
    (only : ∀ given, action = .ok given → (given.program fuel).Only allowed) :
    (runAction fuel action).Only allowed := by
  cases action with
  | error rejected => trivial
  | ok given => exact only given rfl

end AuditLog

section Methods

variable [ClassValidator] [ValidationPipe β] [ParseIntPipe]

/-- Only the method for it searches the audit log. -/
theorem Endpoint.eq_findAuditLogs {request : HttpRequest β} {params : List RawText}
    {user : AuthenticatedUser} {endpoint : Endpoint} {filters : AuditFilterQuery}
    (action : endpoint.action request params user = .ok (.findAuditLogs filters)) :
    endpoint = .findAuditLogs := by
  cases endpoint with
  | findAuditLogs => rfl
  | importCsv =>
      obtain ⟨projectId, records, same⟩ := Endpoint.importCsv_eq_ok action
      cases same
  | _ => simp [Endpoint.action, bind_eq_ok, pure, Except.pure] at action

omit [ParseIntPipe] in
theorem PublicEndpoint.action_ne_findAuditLogs {expiresInSeconds : ℕ} {request : HttpRequest β}
    {endpoint : PublicEndpoint} {filters : AuditFilterQuery} :
    endpoint.action expiresInSeconds request ≠ .ok (.findAuditLogs filters) := by
  cases endpoint <;> simp [PublicEndpoint.action, bind_eq_ok, pure, Except.pure]

variable [Postgres] [Bcrypt] [Unicode] [CsvStringify] {expiresInSeconds fuel : ℕ}

/-- A guarded request sends what the token guard sends, and what its method does:
the guard of roles sends nothing. -/
theorem HttpRequest.only_of_guarded {allowed : AppStatement → Prop} {request : HttpRequest β}
    {route : AppRoute} {params : List RawText} {endpoint : Endpoint}
    (routed : route? controllers request.verb request.path = some (route, params))
    (handled : route.handler = .guarded endpoint)
    (guard : ∀ payload, (App.service (JwtStrategy.authenticate payload)).Only allowed)
    (method : ∀ user, (runAction fuel (endpoint.action request params user)).Only allowed) :
    (request.program expiresInSeconds fuel).Only allowed := by
  rw [program_of_guarded routed handled]
  refine Program.Only.bind ?_ fun user => ?_
  · cases request.bearer with
    | none => trivial
    | some payload => exact guard payload
  · rw [afterGuard]
    cases RolesGuard.canActivate endpoint.roles user with
    | error rejected => trivial
    | ok _ => exact method user

/-- **Every request but the search of the audit log** does not look at it. -/
theorem HttpRequest.unsearching {request : HttpRequest β} (other : request.isAuditSearch = false) :
    (request.program expiresInSeconds fuel).Only AppStatement.Unsearching := by
  cases routed : route? controllers request.verb request.path with
  | none =>
      -- A path without a route is a 404.
      simp only [program, routed]
      trivial
  | some found =>
      obtain ⟨⟨verb, pattern, handler⟩, params⟩ := found
      cases handler with
      | unguarded endpoint =>
          simp only [program, routed]
          exact runAction_only fun action isAction =>
            ControllerAction.unsearching (fun filters same =>
              PublicEndpoint.action_ne_findAuditLogs (same ▸ isAction)) fuel
      | guarded endpoint =>
          refine only_of_guarded routed rfl (fun _ => App.service_unsearching _)
            fun user => runAction_only fun action isAction => ?_
          refine ControllerAction.unsearching (fun filters same => ?_) fuel
          -- Only the method for it searches, and this request has another route.
          obtain rfl := Endpoint.eq_findAuditLogs (same ▸ isAction)
          simp only [isAuditSearch, routed] at other
          cases other

/-- The search of the audit log only reads. -/
theorem HttpRequest.quiet_of_isAuditSearch {request : HttpRequest β}
    (search : request.isAuditSearch = true) :
    (request.program expiresInSeconds fuel).Only (Quiet AppStatement.exec) := by
  rw [isAuditSearch] at search
  split at search
  · rename_i routed
    -- The guard reads a user and the denylist, the method the log.
    refine only_of_guarded routed rfl
      (fun payload => App.service_quiet (JwtStrategy.authenticate_reads payload)) fun user => ?_
    simp only [Endpoint.action]
    cases validated (ValidationPipe.auditFilter request.input) with
    | error rejected => trivial
    | ok filters => exact (App.query_only (quiet_read _) _).map _
  · cases search

end Methods

/-! ### The hashes -/

/-- Statements that agree but for the hash of a new user. -/
inductive AppStatement.SameButHash : Pairing AppStatement.Ans AppStatement.Ans
  | service {statement statement' : Statement} {answers : statement.Ans → statement'.Ans → Prop}
      (pair : IssueFlow.SameButHash statement statement' answers) :
      SameButHash (.service statement) (.service statement') answers
  | read (query : AppQuery) : SameButHash (.read query) (.read query) Eq

/-- What methods do that agree but for the password of a new user. -/
inductive ControllerAction.SameButPassword : ControllerAction → ControllerAction → Prop
  | write {request request' : Request} (same : IssueFlow.SameButPassword request request') :
      SameButPassword (.write request) (.write request')
  | same (action : ControllerAction) : SameButPassword action action

def ControllerAction.isLogin : ControllerAction → Bool
  | write request => request.isLogin
  | _ => false

section Hashes

variable [Postgres]

variable {α : Type}

theorem App.service_alike {p p' : Service α} (alike : p.Alike SameButHash Eq p') :
    (App.service p).Alike AppStatement.SameButHash Eq (App.service p') := by
  refine alike.embed (fun _ _ _ pair => .service pair) fun result result' outcomes => ?_
  rw [Outcomes.eq_iff.mp outcomes]
  exact Outcomes.eq_iff.mpr rfl

omit [Postgres] in
theorem App.query_alike (query : AppQuery) :
    (App.query query).Alike AppStatement.SameButHash Eq (App.query query) := by
  refine .call (.read query) ?_
  rintro answer _ rfl
  exact .done (Outcomes.eq_iff.mpr rfl)

omit [Postgres] in
/-- One of the other reads, and a value that is computed from its rows. -/
theorem App.query_and_return_alike (query : AppQuery) (f : query.Rows → α) :
    (App.query query >>= fun rows => pure (f rows)).Alike AppStatement.SameButHash Eq
      (App.query query >>= fun rows => pure (f rows)) :=
  (App.query_alike query).map fun _ _ same => congrArg f same

variable [Bcrypt] [Unicode] [CsvStringify]

/-- **Every method but the login** proceeds alike, whatever the hashes are. -/
theorem ControllerAction.alike {action action' : ControllerAction}
    (same : SameButPassword action action') (other : action.isLogin = false) (fuel : ℕ) :
    (action.program fuel).Alike AppStatement.SameButHash Eq (action'.program fuel) := by
  have answering {α : Type} {p p' : App α} (f : α → Answer)
      (alike : p.Alike AppStatement.SameButHash Eq p') :
      (f <$> p).Alike AppStatement.SameButHash Eq (f <$> p') :=
    alike.map fun _ _ same => congrArg f same
  cases same with
  | write same => exact answering _ (App.service_alike (Request.alike same other fuel))
  | same action =>
      cases action with
      | write request => exact answering _ (App.service_alike (Request.alike (.same _) other fuel))
      | read request => exact answering _ (App.service_alike request.hashBlind)
      | logout user =>
          have revoked : HashBlind (AuthService.logout user.id user.jti user.exp) := by
            unfold AuthService.logout
            exact hashBlind_last fun _ => rfl
          exact answering _ (App.service_alike revoked)
      | findAuditLogs filters => exact answering _ (App.query_and_return_alike _ _)
      | findDeletedProjects => exact answering _ (App.query_and_return_alike _ _)
      | findDeletedTickets projectId =>
          refine answering _ (Program.Alike.bind
            (App.service_alike (ProjectsService.assertExists_hashBlind projectId)) ?_)
          exact fun _ _ _ => App.query_and_return_alike _ _
      | getHello => exact .pure rfl
      | health =>
          -- The probe may fail, which is caught.
          have probed := (App.query_and_return_alike .probe fun _ => "up").tryCatch
            fun _ => .pure (rfl : "down" = "down")
          refine answering _ (probed.bind fun database _ same => ?_)
          cases same
          refine (App.service_alike (hashBlind_answer fun _ => rfl)).bind ?_
          rintro timestamp _ rfl
          exact .pure rfl
      | me user => exact .pure rfl

end Hashes

section Passwords

variable [ClassValidator] [ValidationPipe β] [ParseIntPipe]

/-- Requests that agree but for the password of a login or of a new user: the
guarded methods are given the same arguments, and the creation of a user the
same but for the password, or it is rejected alike. -/
structure HttpRequest.SameButPassword (expiresInSeconds : ℕ) (request request' : HttpRequest β) :
    Prop where
  line : request.line = request'.line
  verb : request.verb = request'.verb
  path : request.path = request'.path
  bearer : request.bearer = request'.bearer
  guarded : ∀ (endpoint : Endpoint) params user,
    endpoint.action request params user = endpoint.action request' params user
  createUser : Outcomes ControllerAction.SameButPassword
    (PublicEndpoint.createUser.action expiresInSeconds request)
    (PublicEndpoint.createUser.action expiresInSeconds request')

theorem HttpRequest.SameButPassword.refl (expiresInSeconds : ℕ) (request : HttpRequest β) :
    request.SameButPassword expiresInSeconds request where
  line := rfl
  verb := rfl
  path := rfl
  bearer := rfl
  guarded _ _ _ := rfl
  createUser := (Outcomes.eq_iff.mpr rfl).mono fun _ _ same => same ▸ .same _

theorem HttpRequest.SameButPassword.isLogin {expiresInSeconds : ℕ}
    {request request' : HttpRequest β} (same : request.SameButPassword expiresInSeconds request') :
    request.isLogin = request'.isLogin := by
  rw [HttpRequest.isLogin, HttpRequest.isLogin, same.verb, same.path]

/-- No guarded method is a login. -/
theorem Endpoint.not_isLogin {request : HttpRequest β} {params : List RawText}
    {user : AuthenticatedUser} {endpoint : Endpoint} {action : ControllerAction}
    (isAction : endpoint.action request params user = .ok action) : action.isLogin = false := by
  cases action with
  | write sent =>
      cases sent with
      | login expiresInSeconds jti username password =>
          cases endpoint with
          | importCsv =>
              obtain ⟨projectId, records, same⟩ := Endpoint.importCsv_eq_ok isAction
              cases same
          | _ => simp [Endpoint.action, bind_eq_ok, pure, Except.pure] at isAction
      | _ => rfl
  | _ => rfl

variable [Postgres] [Bcrypt] [Unicode] [CsvStringify] {expiresInSeconds fuel : ℕ}

omit [ClassValidator] [ParseIntPipe] in
/-- Methods that are reached or rejected alike. -/
theorem runAction_alike {action action' : Except HttpError ControllerAction}
    (same : Outcomes ControllerAction.SameButPassword action action')
    (other : ∀ given, action = .ok given → given.isLogin = false) :
    (runAction fuel action).Alike AppStatement.SameButHash Eq (runAction fuel action') := by
  cases same with
  | ok same => exact ControllerAction.alike same (other _ rfl) fuel
  | error rejected => exact .throw rejected

/-- **Every request but a login** proceeds alike, whatever the hashes are. -/
theorem HttpRequest.alike {request request' : HttpRequest β}
    (same : request.SameButPassword expiresInSeconds request') (other : request.isLogin = false) :
    (request.program expiresInSeconds fuel).Alike AppStatement.SameButHash Eq
      (request'.program expiresInSeconds fuel) := by
  have itself (action : Except HttpError ControllerAction) :
      Outcomes ControllerAction.SameButPassword action action :=
    (Outcomes.eq_iff.mpr rfl).mono fun _ _ same => same ▸ .same _
  cases routed : route? controllers request.verb request.path with
  | none =>
      have routed' := routed
      rw [same.verb, same.path] at routed'
      simp only [program, routed, routed', same.line]
      exact .throw _
  | some found =>
      obtain ⟨⟨verb, pattern, handler⟩, params⟩ := found
      -- Both requests have the same route.
      have routed' := routed
      rw [same.verb, same.path] at routed'
      cases handler with
      | unguarded endpoint =>
          simp only [program, routed, routed']
          cases endpoint with
          | getHello => exact runAction_alike (itself _) fun _ isAction => by cases isAction; rfl
          | health => exact runAction_alike (itself _) fun _ isAction => by cases isAction; rfl
          | createUser =>
              -- Here alone the requests may differ.
              refine runAction_alike same.createUser fun action isAction => ?_
              obtain ⟨dto, -, isAction⟩ := bind_eq_ok.mp isAction
              cases isAction
              rfl
          | login =>
              simp only [isLogin, routed] at other
              cases other
      | guarded endpoint =>
          rw [program_of_guarded routed rfl, program_of_guarded routed' rfl, ← same.bearer]
          have guard : (JwtAuthGuard.canActivate request.bearer).Alike AppStatement.SameButHash Eq
              (JwtAuthGuard.canActivate request.bearer) := by
            cases request.bearer with
            | none => exact .throw _
            | some payload => exact App.service_alike (JwtStrategy.authenticate_hashBlind payload)
          refine guard.bind ?_
          rintro user _ rfl
          simp only [afterGuard]
          cases RolesGuard.canActivate endpoint.roles user with
          | error rejected => exact .throw rejected
          | ok _ =>
              rw [← same.guarded endpoint params user]
              exact runAction_alike (itself _) fun _ => Endpoint.not_isLogin

end Passwords

end IssueFlow
