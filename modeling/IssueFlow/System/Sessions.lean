import IssueFlow.Database.Denylist
import IssueFlow.Semantics.Sequence
import IssueFlow.System.Sequential

/-!
# Sessions

What login, logout and the check of a token do when they are served alone, and
runs of requests together with the tokens that were signed. A signature cannot
be forged, so a token that is presented is one of these; every login draws a
`jti` that no token has yet.

## Main definitions

* `Sessions`, `Sessions.step` — the database and the signed tokens
* `Sessions.Admits` — presented tokens are signed and drawn `jti`s are fresh
* `Sessions.accepts` — a token passes the guard of a request

## Main results

* `serve_login`, `serve_authenticate`, `logout_ok` — the three requests in closed form
-/

namespace IssueFlow

open Store Semantics JavaScript

section Served

variable [Postgres] [Bcrypt] [Unicode] {db : Db}

/-! ### Login -/

/-- The answer to a login. -/
def loginResponse (expiresInSeconds : ℕ) (jti : String) (now : Timestamp) (user : UserRow) :
    LoginResponse where
  accessToken := ⟨user.id, user.username, user.role, some jti, some (now / 1000),
    some (now / 1000 + expiresInSeconds)⟩
  tokenType := "Bearer"
  expiresIn := expiresInSeconds

/-- The user a name and a password belong to, as the service decides it. -/
def validUser (username password : String) (db : Db) : Option UserRow :=
  (UsersRepository.findByUsername username db).filter fun user =>
    Bcrypt.compare password (AuthService.hashToCheck (some user))

/-- **A login in closed form.** -/
theorem serve_login (expiresInSeconds : ℕ) (jti username password : String) (db : Db) :
    serve (.login expiresInSeconds jti username password) db =
      (match validUser username password db with
        | some user => .ok (.loggedIn (loginResponse expiresInSeconds jti db.now user))
        | none => .error (.http .unauthorized "Invalid username or password"), db) := by
  rw [serve, Request.program, Program.map_eq_bind, Program.run_bind, AuthService.login,
    Program.run_bind, AuthService.validateCredentials, UsersService.findRawByUsername, run_select,
    Query.eval, validUser]
  cases UsersRepository.findByUsername username db with
  | none => rfl
  | some user =>
      cases valid : Bcrypt.compare password (AuthService.hashToCheck (some user)) with
      | true =>
          simp only [valid, if_true, Option.filter_some]
          rfl
      | false =>
          simp only [valid, Bool.false_eq_true, if_false, Option.filter_some]
          rfl

/-! ### The check of a token -/

/-- What the guard of a request has established about a token it accepts. -/
structure Accepted (db : Db) (payload : JwtPayload) (user : AuthenticatedUser) : Prop where
  id : user.id = payload.sub
  token : payload.jti = some user.jti
  expiry : payload.exp = some user.exp
  unexpired : db.now < user.exp * 1000
  unrevoked : TokenDenylistRepository.isRevoked user.jti db = false

omit [Postgres] [Bcrypt] [Unicode] in
/-- The expiry check counts whole seconds and the deny list milliseconds; they
draw the line at the same instant. -/
theorem notExpired_iff {now : Timestamp} {exp : ℤ} {payload : JwtPayload}
    (expiry : payload.exp = some exp) : JwtStrategy.notExpired now payload ↔ now < exp * 1000 := by
  have boundary (now exp : ℤ) : now / 1000 < exp ↔ now < exp * 1000 := by omega
  rw [JwtStrategy.notExpired, expiry, Option.all_some, decide_eq_true_eq]
  exact boundary now exp

omit [Bcrypt] [Unicode] in
/-- The guard changes nothing, and what it accepts it has checked. -/
theorem run_authenticate (payload : JwtPayload) (db : Db) :
    ∃ result, (JwtStrategy.authenticate payload).run exec db = (result, db) ∧
      ∀ user, result = .ok user → Accepted db payload user := by
  have refused (exception : Exception) (user : AuthenticatedUser)
      (same : (.error exception : Except Exception AuthenticatedUser) = .ok user) :
      Accepted db payload user := by cases same
  rw [JwtStrategy.authenticate, run_select, Query.eval]
  -- The expiry is checked before `validate` is called.
  by_cases current : JwtStrategy.notExpired db.now payload
  · rw [if_pos current, JwtStrategy.validate]
    split
    · rename_i jti exp token expiry
      have unexpired : db.now < exp * 1000 := (notExpired_iff expiry).mp current
      by_cases malformed : JwtStrategy.isMalformed payload
      · rw [if_pos malformed]
        exact ⟨_, rfl, refused _⟩
      · rw [if_neg malformed, run_select, Query.eval]
        by_cases revoked : TokenDenylistRepository.isRevoked jti db
        · rw [if_pos revoked]
          exact ⟨_, rfl, refused _⟩
        · rw [if_neg revoked]
          refine ⟨_, rfl, fun user same => ?_⟩
          obtain rfl := Except.ok.inj same
          exact ⟨rfl, token, expiry, unexpired, by simpa using revoked⟩
    · exact ⟨_, rfl, refused _⟩
  · rw [if_neg current]
    exact ⟨_, rfl, refused _⟩

/-- A guarded request that is let in. -/
theorem accepted_of_authenticate {payload : JwtPayload}
    (accepted : (serve (.authenticate payload) db).1.isOk) : ∃ user, Accepted db payload user := by
  obtain ⟨result, run, checked⟩ := run_authenticate payload db
  rw [serve, Request.program, Program.map_eq_bind, Program.run_bind, run] at accepted
  cases result with
  | error exception => cases accepted
  | ok user => exact ⟨user, checked user rfl⟩

/-- **A logout that succeeds** was let in, and it has revoked its token. -/
theorem revoked_of_logout {payload : JwtPayload} (loggedOut : (serve (.logout payload) db).1.isOk) :
    ∃ user, Accepted db payload user ∧
      TokenDenylistRepository.revoke user.jti user.id (user.exp * 1000) db =
        (.ok (), (serve (.logout payload) db).2) := by
  obtain ⟨result, run, checked⟩ := run_authenticate payload db
  have served : serve (.logout payload) db =
      ((JwtStrategy.authenticate payload >>= fun user =>
        AuthService.logout user.id user.jti user.exp) >>=
        fun _ => .done (.ok .none)).run exec db := rfl
  rw [Program.run_bind, Program.run_bind, run] at served
  cases result with
  | error exception =>
      rw [served] at loggedOut
      cases loggedOut
  | ok user =>
      refine ⟨user, checked user rfl, ?_⟩
      -- The guard has changed nothing, so the INSERT is all that was executed.
      have revoked : serve (.logout payload) db =
          (execute (.revoke user.jti user.id (user.exp * 1000)) >>= fun _ =>
            .done (.ok Response.none)).run exec db := by
        rw [served, Program.run_bind]
        rfl
      rw [run_execute, Command.exec] at revoked
      rw [revoked] at loggedOut ⊢
      generalize TokenDenylistRepository.revoke user.jti user.id (user.exp * 1000) db = answered
        at loggedOut
      obtain ⟨answer, after⟩ := answered
      cases answer with
      | error exception => cases loggedOut
      | ok rows => rfl

/-! ### The deny list -/

theorem now_serve (request : Request) (db : Db) : (serve request db).2.now = db.now := by
  refine serve_invariant (fun state => state.now = db.now) rfl ?_
  intro events statement state readsAt same sends
  rw [now_exec, same]

/-- A row of the deny list was there before, or the request is a logout of the
token it is about. -/
theorem denylist_of_serve {request : Request} {row : DenylistRow}
    (member : row ∈ (serve request db).2.tokenDenylist) :
    row ∈ db.tokenDenylist ∨ ∃ payload exp, request = .logout payload ∧
      payload.jti = some row.jti ∧ payload.exp = some exp ∧ row.expiresAt = exp * 1000 := by
  refine serve_invariant (fun state => row ∈ state.tokenDenylist → row ∈ db.tokenDenylist ∨
    ∃ payload exp, request = .logout payload ∧ payload.jti = some row.jti ∧
      payload.exp = some exp ∧ row.expiresAt = exp * 1000) .inl ?_ member
  intro events statement state readsAt holds sends member
  rcases denylist_of_exec member with old | rfl
  · exact holds old
  · exact .inr sends.revoked

/-- A request keeps the rows of the deny list, if it deletes no user of such a
row who could be deleted. -/
theorem denylist_serve {request : Request} {row : DenylistRow} (member : row ∈ db.tokenDenylist)
    (keeps : ∀ performedBy, request = .deleteUser row.userId performedBy →
      UsersRepository.isReferenced db row.userId) : row ∈ (serve request db).2.tokenDenylist := by
  refine serve_invariant (fun state => row ∈ state.tokenDenylist) member ?_
  intro events statement state readsAt holds sends
  rcases denylist_exec statement holds with kept | ⟨rfl, unreferenced⟩
  · exact kept
  · obtain ⟨performedBy, rfl, reads⟩ := sends.deleted
    obtain ⟨rfl, -⟩ := readsAt reads
    rw [keeps performedBy rfl] at unreferenced
    cases unreferenced

end Served

/-! ### Sessions -/

/-- The database, and the tokens that were signed so far. -/
structure Sessions where
  db : Db
  issued : List JwtPayload

namespace Sessions

def start : Sessions := ⟨Db.empty, []⟩

/-- The token an answer carries. -/
def signed : Except Exception Response → List JwtPayload
  | .ok (.loggedIn response) => [response.accessToken]
  | _ => []

/-- Tokens that are presented were signed, and a login draws a fresh `jti`. -/
def Admits (s : Sessions) : Input → Prop
  | .request (.login _ jti _ _) => ∀ token ∈ s.issued, token.jti ≠ some jti
  | .request (.logout payload) => payload ∈ s.issued
  | .request (.authenticate payload) => payload ∈ s.issued
  | _ => True

instance (s : Sessions) (input : Input) : Decidable (s.Admits input) := by
  unfold Admits
  split <;> infer_instance

variable [Postgres] [Bcrypt] [Unicode]

def step (s : Sessions) : Input → Sessions
  | .request request =>
      ⟨(serve request s.db).2, s.issued ++ signed (serve request s.db).1⟩
  | .advance elapsed => ⟨advance elapsed s.db, s.issued⟩

/-- The sessions after a sequence of requests. -/
def play (inputs : List Input) : Sessions := inputs.foldl step start

/-- Is the token let in by the guard of a request? -/
def accepts (s : Sessions) (token : JwtPayload) : Bool :=
  (serve (.authenticate token) s.db).1.isOk

end Sessions

end IssueFlow
