import IssueFlow.Http.Application
import IssueFlow.System.Sessions
import IssueFlow.System.Writes

/-!
# What the guards let through

The guard of tokens reads the clock and the deny list, nothing else; what it
lets through it has checked. So a request is refused with a 401, or it does what
its method does, for the user of its token: a request of the services, unless it
only reads.

## Main definitions

* `JwtPayload.user?` — the user of a token, if the token is well formed
* `LetIn` — what the guard has read about a token it lets through
* `HttpRequest.action?`, `HttpRequest.request?` — what a request does once it is let through

## Main results

* `guard_outline` — the guard of tokens under any interference
* `HttpRequest.behind` — a request of the services behind the guards
* `HttpRequest.isQuiet` — all other requests only read
-/

namespace IssueFlow

open Store Semantics JavaScript

/-- What the strategy makes of a token. -/
def JwtPayload.user? (payload : JwtPayload) : Option AuthenticatedUser :=
  match payload.jti, payload.exp with
  | some jti, some exp =>
      if JwtStrategy.isMalformed payload then none
      else some ⟨payload.sub, payload.username, payload.role, jti, exp⟩
  | _, _ => none

/-- The statements of the guard of tokens. -/
def Query.isGuardRead : Query → Bool
  | dateNow | isRevoked _ => true
  | _ => false

/-- Any events of the application, the most recent one first. -/
abbrev AppHistory := List (Event AppStatement Db)

/-- What the guard has read: the token had not expired at one moment, and had
not been revoked at another one. -/
structure LetIn (payload : JwtPayload) (user : AuthenticatedUser) (events : AppHistory) :
    Prop where
  isUser : payload.user? = some user
  unexpired : ∃ db, ⟨.service (.select .dateNow), db⟩ ∈ events ∧ db.now < user.exp * 1000
  unrevoked : ∃ db, ⟨.service (.select (.isRevoked user.jti)), db⟩ ∈ events ∧
    TokenDenylistRepository.isRevoked user.jti db = false

theorem LetIn.cons {payload : JwtPayload} {user : AuthenticatedUser} {events : AppHistory}
    {event : Event AppStatement Db} (letIn : LetIn payload user events) :
    LetIn payload user (event :: events) where
  isUser := letIn.isUser
  unexpired := letIn.unexpired.imp fun _ => And.imp_left (List.mem_cons_of_mem _)
  unrevoked := letIn.unrevoked.imp fun _ => And.imp_left (List.mem_cons_of_mem _)

section Guard

variable [Postgres] {sends : AppHistory → AppStatement → Prop}

/-- How the guard of tokens ends. -/
def GuardEnds (bearer : Option JwtPayload) (events : AppHistory) :
    Except HttpError AuthenticatedUser → Prop
  | .ok user => ∃ payload, bearer = some payload ∧ LetIn payload user events
  | .error rejected => ∃ message, rejected = .exception (.http .unauthorized message)

/-- **The guard of tokens**, whatever happens while it reads. -/
theorem guard_outline (bearer : Option JwtPayload) (events : AppHistory)
    (reads : ∀ events read, read.isGuardRead = true → sends events (.service (.select read))) :
    (JwtAuthGuard.canActivate bearer).Outline AppStatement.exec sends (GuardEnds bearer)
      events := by
  cases bearer with
  | none => exact ⟨_, rfl⟩
  | some payload =>
      refine ⟨reads _ _ rfl, fun db => ?_⟩
      show (App.service (if JwtStrategy.notExpired db.now payload then JwtStrategy.validate payload
        else unauthorized "Unauthorized")).Outline _ _ _ _
      by_cases current : JwtStrategy.notExpired db.now payload
      · rw [if_pos current, JwtStrategy.validate]
        split
        · rename_i jti exp token expiry
          by_cases malformed : JwtStrategy.isMalformed payload
          · rw [if_pos malformed]
            exact ⟨_, rfl⟩
          · rw [if_neg malformed]
            refine ⟨reads _ _ rfl, fun db' => ?_⟩
            show (App.service (if TokenDenylistRepository.isRevoked jti db' then
              unauthorized "Token has been revoked" else
                return AuthenticatedUser.mk payload.sub payload.username payload.role jti
                  exp)).Outline _ _ _ _
            by_cases revoked : TokenDenylistRepository.isRevoked jti db'
            · rw [if_pos revoked]
              exact ⟨_, rfl⟩
            · rw [if_neg revoked]
              show GuardEnds (some payload) _ (.ok _)
              refine ⟨payload, rfl, { isUser := ?_, unexpired := ?_, unrevoked := ?_ }⟩
              · rw [JwtPayload.user?, token, expiry]
                exact if_neg malformed
              · exact ⟨db, List.mem_cons_of_mem _ List.mem_cons_self,
                  (notExpired_iff expiry).mp current⟩
              · exact ⟨db', List.mem_cons_self, by simpa using revoked⟩
        · exact ⟨_, rfl⟩
      · rw [if_neg current]
        exact ⟨_, rfl⟩

end Guard

/-! ### Requests that are let through -/

section Requests

variable {β : Type} [ClassValidator] [ValidationPipe β] [ParseIntPipe]

/-- What a request does once it is let through: nothing, if no route matches it,
if its token is malformed or for another role, or if a pipe rejects it. -/
def HttpRequest.action? (expiresInSeconds : ℕ) (request : HttpRequest β) :
    Option ControllerAction :=
  match route? controllers request.verb request.path with
  | none => none
  | some (route, params) =>
      match route.handler with
      | .unguarded endpoint => (endpoint.action expiresInSeconds request).toOption
      | .guarded endpoint => do
          let user ← request.bearer.bind JwtPayload.user?
          let _ ← (RolesGuard.canActivate endpoint.roles user).toOption
          (endpoint.action request params user).toOption

/-- The request of the services that it is, unless it only reads. -/
def HttpRequest.request? (expiresInSeconds : ℕ) (request : HttpRequest β) : Option Request :=
  match request.action? expiresInSeconds with
  | some (.write sent) => some sent
  | some (.logout _) => request.bearer.map .logout
  | _ => none

end Requests

/-! ### Methods that only read -/

section Reads

variable {α : Type}

/-- One of the other reads, and a value that is computed from its rows. -/
theorem App.query_only {allowed : AppStatement → Prop} {query : AppQuery}
    (holds : allowed (.read query)) (f : query.Rows → α) :
    (App.query query >>= fun rows => pure (f rows)).Only allowed :=
  Program.Only.bind ⟨holds, fun _ => trivial⟩ fun _ => trivial

/-- A read, and a value that is computed from its rows. -/
theorem read_and_return (read : Query) (f : read.Rows → α) :
    (select read >>= fun rows => pure (f rows)).Only IsRead :=
  (read_only read).bind fun _ => trivial

theorem CommentsService.attachMentions_reads (rows : List CommentRow) :
    (CommentsService.attachMentions rows).Only IsRead := by
  unfold CommentsService.attachMentions
  split_ifs
  · trivial
  · exact read_and_return _ _

/-- **A read request only reads.** -/
theorem ReadRequest.reads [Postgres] [CsvStringify] (read : ReadRequest) :
    read.program.Only IsRead := by
  cases read with
  | findAllUsers => exact (read_and_return _ _).map _
  | findUser userId => exact (UsersService.findById_reads _).map _
  | findAllProjects => exact (read_and_return _ _).map _
  | findProject projectId =>
      refine Program.Only.map _ ((ProjectsService.getOrThrow_reads _).bind fun row => ?_)
      trivial
  | getWorkload projectId =>
      exact ((ProjectsService.assertExists_reads _).bind fun _ => read_only _).map _
  | findAllTickets projectId =>
      cases projectId with
      | none => exact (read_and_return _ _).map _
      | some projectId =>
          exact ((ProjectsService.assertExists_reads _).bind fun _ => read_and_return _ _).map _
  | findTicket ticketId =>
      refine Program.Only.map _ ((TicketsService.getOrThrow_reads _).bind fun row => ?_)
      trivial
  | exportCsv projectId =>
      exact ((ProjectsService.assertExists_reads _).bind fun _ => read_and_return _ _).map _
  | listDependencies ticketId =>
      refine Program.Only.map _ ((read_only _).bind fun ticket => ?_)
      cases ticket with
      | none => trivial
      | some ticket => exact read_only _
  | findAllComments ticketId =>
      exact ((TicketsService.getOrThrow_reads _).bind fun _ => (read_only _).bind
        CommentsService.attachMentions_reads).map _
  | listAttachments ticketId =>
      exact ((TicketsService.getOrThrow_reads _).bind fun _ => read_and_return _ _).map _
  | findMentions userId pagination =>
      refine Program.Only.map _ ((UsersService.findById_reads _).bind fun _ =>
        Program.Only.bind ?_ fun page => ?_)
      · exact (read_only _).bind fun _ => read_and_return _ _
      · exact (CommentsService.attachMentions_reads _).bind fun _ => trivial

variable [Postgres]

theorem quiet_service {statement : Statement} (reads : IsRead statement) :
    Quiet AppStatement.exec (.service statement) := by
  obtain ⟨read, rfl⟩ := reads
  exact fun _ => rfl

theorem quiet_read (query : AppQuery) : Quiet AppStatement.exec (.read query) := fun _ => rfl

theorem App.service_quiet {p : Service α} (only : p.Only IsRead) :
    (App.service p).Only (Quiet AppStatement.exec) :=
  only.embed fun _ => quiet_service

/-- **A method that is neither a write nor the logout** changes nothing. -/
theorem ControllerAction.quiet [Bcrypt] [Unicode] [CsvStringify] (fuel : ℕ)
    {action : ControllerAction}
    (noWrite : ∀ sent, action ≠ .write sent) (noLogout : ∀ user, action ≠ .logout user) :
    (action.program fuel).Only (Quiet AppStatement.exec) := by
  cases action with
  | write sent => exact absurd rfl (noWrite sent)
  | logout user => exact absurd rfl (noLogout user)
  | read request => exact (App.service_quiet request.reads).map _
  | findAuditLogs filters => exact (App.query_only (quiet_read _) _).map _
  | findDeletedProjects => exact (App.query_only (quiet_read _) _).map _
  | findDeletedTickets projectId =>
      exact ((App.service_quiet (ProjectsService.assertExists_reads _)).bind fun _ =>
        App.query_only (quiet_read _) _).map _
  | getHello => trivial
  | health =>
      refine Program.Only.map _ (Program.Only.bind ?_ fun database => ?_)
      · exact (App.query_only (quiet_read _) _).tryCatch fun _ => trivial
      · refine (App.service_quiet (read_only _)).bind fun timestamp => ?_
        trivial
  | me user => trivial

end Reads

/-! ### Behind the guards -/

/-- The answer to a request of the services. -/
def answered (result : Except Exception Response) : Except HttpError Answer :=
  (result.mapError .exception).map .written

/-- A 401. -/
def IsRefusal (result : Except HttpError Answer) : Prop :=
  ∃ message, result = .error (.exception (.http .unauthorized message))

section Behind

variable [Postgres]

/-- What follows the guard of tokens, for the user of the token. -/
theorem behind_guard {payload : JwtPayload} {user : AuthenticatedUser}
    (token : payload.user? = some user) {p : Service Response}
    {body : AuthenticatedUser → App Answer}
    (behind : Behind serviceStatements answered IsRefusal p (body user)) :
    Behind serviceStatements answered IsRefusal p
      (JwtAuthGuard.canActivate (some payload) >>= body) := by
  have guard : (JwtAuthGuard.canActivate (some payload)).Outline AppStatement.exec
      (fun _ op => Quiet AppStatement.exec op) (GuardEnds (some payload)) [] :=
    guard_outline _ _ fun _ read _ => quiet_service ⟨read, rfl⟩
  refine .of_outline (guard.mono (fun _ _ quiet => quiet) fun events result ended => ?_)
  cases result with
  | ok value =>
      obtain ⟨_, same, letIn⟩ := ended
      obtain rfl := Option.some.inj same
      obtain rfl := Option.some.inj (token.symm.trans letIn.isUser)
      exact behind
  | error rejected =>
      obtain ⟨message, rfl⟩ := ended
      exact ⟨message, rfl⟩

variable [Bcrypt] [Unicode] [CsvStringify] {expiresInSeconds fuel : ℕ}

/-- A method that sends a request of the services. -/
theorem behind_write (sent : Request) :
    Behind serviceStatements answered IsRefusal (sent.program fuel)
      (runAction fuel (.ok (.write sent))) := by
  rw [runAction, ControllerAction.program, App.service, Program.map_embed]
  exact .entered

/-- The method that logs out, behind the guard of tokens, is the logout of the
services. -/
theorem behind_logout (payload : JwtPayload) :
    Behind serviceStatements answered IsRefusal ((Request.logout payload).program fuel)
      (JwtAuthGuard.canActivate (some payload) >>= fun user =>
        runAction fuel (.ok (.logout user))) := by
  have wrapped (exception : Exception) :
      answered (.error exception) = .error (.exception exception) := rfl
  have mapped (exception : Exception) :
      Except.mapError HttpError.exception (.error exception : Except Exception Unit) =
        .error (.exception exception) := rfl
  suffices same : ((Request.logout payload).program fuel).embed serviceStatements answered =
      JwtAuthGuard.canActivate (some payload) >>= fun user =>
        runAction fuel (.ok (.logout user)) by
    rw [← same]
    exact .entered
  rw [Request.program, Program.map_eq_bind, Program.embed_bind wrapped, AuthController.logout,
    Program.embed_bind mapped, Program.bind_assoc]
  rfl

/-- A method that is neither a write nor the logout, under any interference. -/
theorem runAction_quiet {action : Except HttpError ControllerAction}
    (noWrite : ∀ sent, action ≠ .ok (.write sent)) (noLogout : ∀ user, action ≠ .ok (.logout user))
    (events : AppHistory) :
    (runAction fuel action).Outline AppStatement.exec (fun _ op => Quiet AppStatement.exec op)
      (fun _ _ => True) events := by
  cases action with
  | error rejected => trivial
  | ok given =>
      have quiet := ControllerAction.quiet fuel
        (fun sent same => noWrite sent (congrArg Except.ok same))
        fun user same => noLogout user (congrArg Except.ok same)
      exact quiet.outline (fun _ _ quiet => quiet) events

end Behind

/-! ### The methods -/

section Methods

theorem bind_eq_ok {ε α γ : Type} {x : Except ε α} {f : α → Except ε γ} {value : γ} :
    (x >>= f) = .ok value ↔ ∃ first, x = .ok first ∧ f first = .ok value := by
  cases x with
  | error exception => simp [bind, Except.bind]
  | ok first => simp [bind, Except.bind]

variable {β : Type} [ClassValidator] [ValidationPipe β] [ParseIntPipe]

omit [ParseIntPipe] in
/-- A public method does not log out. -/
theorem PublicEndpoint.action_ne_logout {expiresInSeconds : ℕ} {request : HttpRequest β}
    {endpoint : PublicEndpoint} {user : AuthenticatedUser} :
    endpoint.action expiresInSeconds request ≠ .ok (.logout user) := by
  cases endpoint <;> simp [PublicEndpoint.action, bind_eq_ok, pure, Except.pure]

/-- What the pipes let through to the import of tickets. -/
theorem Endpoint.importCsv_eq_ok {request : HttpRequest β} {params : List RawText}
    {user : AuthenticatedUser} {action : ControllerAction}
    (isAction : importCsv.action request params user = .ok action) :
    ∃ projectId records, action = .write (.importTickets projectId records user.id) := by
  obtain ⟨file, -, isAction⟩ := bind_eq_ok.mp isAction
  cases file with
  | none => cases isAction
  | some file =>
      obtain ⟨projectId, -, isAction⟩ := bind_eq_ok.mp isAction
      exact ⟨projectId, file.records, (Except.ok.inj isAction).symm⟩

/-- Only the method for it logs out, and for the current user. -/
theorem Endpoint.eq_logout {request : HttpRequest β} {params : List RawText}
    {user other : AuthenticatedUser} {endpoint : Endpoint}
    (action : endpoint.action request params user = .ok (.logout other)) :
    endpoint = .logout ∧ other = user := by
  cases endpoint with
  | logout =>
      simp only [Endpoint.action, Except.ok.injEq, ControllerAction.logout.injEq] at action
      exact ⟨rfl, action.symm⟩
  | importCsv =>
      obtain ⟨projectId, records, same⟩ := Endpoint.importCsv_eq_ok action
      cases same
  | _ => simp [Endpoint.action, bind_eq_ok, pure, Except.pure] at action

/-- A request that is let through has the route of a public method, or that of
another method and a token with one of its roles. -/
theorem HttpRequest.action?_cases {expiresInSeconds : ℕ} {request : HttpRequest β}
    {action : ControllerAction}
    (isAction : request.action? expiresInSeconds = some action) :
    ∃ route params, route? controllers request.verb request.path = some (route, params) ∧
      ((∃ endpoint, route.handler = .unguarded endpoint ∧
          endpoint.action expiresInSeconds request = .ok action) ∨
        ∃ endpoint payload user, route.handler = .guarded endpoint ∧
          request.bearer = some payload ∧ payload.user? = some user ∧
          RolesGuard.canActivate endpoint.roles user = .ok () ∧
          endpoint.action request params user = .ok action) := by
  have ok_of_toOption {α : Type} {result : Except HttpError α} {value : α}
      (some : result.toOption = some value) : result = .ok value := by
    cases result with
    | error rejected => cases some
    | ok given => exact congrArg Except.ok (Option.some.inj some)
  rw [action?] at isAction
  split at isAction
  · cases isAction
  · rename_i route params routed
    refine ⟨route, params, routed, ?_⟩
    split at isAction
    · rename_i endpoint handler
      exact .inl ⟨endpoint, handler, ok_of_toOption isAction⟩
    · rename_i endpoint handler
      obtain ⟨user, token, isAction⟩ := Option.bind_eq_some_iff.mp isAction
      obtain ⟨payload, bearer, token⟩ := Option.bind_eq_some_iff.mp token
      obtain ⟨_, roles, isAction⟩ := Option.bind_eq_some_iff.mp isAction
      exact .inr ⟨endpoint, payload, user, handler, bearer, token, ok_of_toOption roles,
        ok_of_toOption isAction⟩

variable [Postgres] [Bcrypt] [Unicode] [CsvStringify] {expiresInSeconds fuel : ℕ}

/-- The program of a request for a guarded method, after the guard of tokens. -/
def afterGuard (fuel : ℕ) (request : HttpRequest β) (params : List RawText) (endpoint : Endpoint)
    (user : AuthenticatedUser) : App Answer :=
  match RolesGuard.canActivate endpoint.roles user with
  | .error rejected => throw rejected
  | .ok _ => runAction fuel (endpoint.action request params user)

theorem HttpRequest.program_of_guarded {request : HttpRequest β} {route : AppRoute}
    {params : List RawText} {endpoint : Endpoint}
    (routed : route? controllers request.verb request.path = some (route, params))
    (handler : route.handler = .guarded endpoint) :
    request.program expiresInSeconds fuel =
      JwtAuthGuard.canActivate request.bearer >>= afterGuard fuel request params endpoint := by
  simp only [program, routed, handler]
  rfl

/-- **A request of the services, behind the guards.** It is refused with a 401,
or it does what the services do. -/
theorem HttpRequest.behind {request : HttpRequest β} {sent : Request}
    (isRequest : request.request? expiresInSeconds = some sent) :
    Behind serviceStatements answered IsRefusal (sent.program fuel)
      (request.program expiresInSeconds fuel) := by
  rw [request?] at isRequest
  split at isRequest
  · rename_i sent action
    obtain rfl := Option.some.inj isRequest
    obtain ⟨route, params, routed, ⟨endpoint, handler, action⟩ |
      ⟨endpoint, payload, user, handler, bearer, token, roles, action⟩⟩ := action?_cases action
    · simp only [program, routed, handler, action]
      exact behind_write sent
    · rw [program_of_guarded routed handler, bearer]
      refine behind_guard token ?_
      rw [afterGuard, roles, action]
      exact behind_write sent
  · rename_i user action
    obtain ⟨payload, bearer, rfl⟩ := Option.map_eq_some_iff.mp isRequest
    obtain ⟨route, params, routed, ⟨endpoint, handler, action⟩ |
      ⟨endpoint, _, user, handler, -, token, roles, action⟩⟩ := action?_cases action
    · exact absurd action PublicEndpoint.action_ne_logout
    · obtain ⟨rfl, rfl⟩ := Endpoint.eq_logout action
      rw [program_of_guarded routed handler, bearer]
      exact behind_logout payload
  · cases isRequest

/-- **All other requests** only read. -/
theorem HttpRequest.isQuiet {request : HttpRequest β}
    (noRequest : request.request? expiresInSeconds = none) :
    (request.program expiresInSeconds fuel).IsQuiet AppStatement.exec := by
  rw [Program.IsQuiet]
  cases routed : route? controllers request.verb request.path with
  | none => exact ⟨[], by simp only [program, routed]; trivial⟩
  | some found =>
      obtain ⟨route, params⟩ := found
      cases handler : route.handler with
      | unguarded endpoint =>
          have program : request.program expiresInSeconds fuel =
              runAction fuel (endpoint.action expiresInSeconds request) := by
            simp only [program, routed, handler]
          rw [program]
          refine ⟨[], runAction_quiet (fun sent action => ?_)
            (fun user => PublicEndpoint.action_ne_logout) []⟩
          simp only [request?, action?, routed, handler, action, Except.toOption] at noRequest
          cases noRequest
      | guarded endpoint =>
          have guard : (JwtAuthGuard.canActivate request.bearer).Outline AppStatement.exec
              (fun _ op => Quiet AppStatement.exec op) (GuardEnds request.bearer) [] :=
            guard_outline _ _ fun _ read _ => quiet_service ⟨read, rfl⟩
          rw [program_of_guarded routed handler]
          refine ⟨[], (Program.outline_bind ..).mpr
            (guard.mono (fun _ _ quiet => quiet) fun events result ended => ?_)⟩
          cases result with
          | error rejected => trivial
          | ok user =>
              obtain ⟨payload, bearer, letIn⟩ := ended
              simp only [afterGuard]
              cases roles : RolesGuard.canActivate endpoint.roles user with
              | error rejected => trivial
              | ok _ =>
                  have action? : request.action? expiresInSeconds =
                      (endpoint.action request params user).toOption := by
                    simp [action?, routed, handler, bearer, letIn.isUser, roles, Except.toOption]
                  refine runAction_quiet (fun sent action => ?_) (fun other action => ?_) events
                  · simp [request?, action?, action, Except.toOption] at noRequest
                  · simp [request?, action?, action, Except.toOption, bearer] at noRequest

end Methods

end IssueFlow
