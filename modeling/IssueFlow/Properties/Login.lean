import IssueFlow.Database.UserTransitions
import IssueFlow.System.Sessions

/-!
# Passwords

A login looks up the user by name and compares the password with the stored
hash, or with a dummy hash when there is none. What the comparison with the
dummy hash says is discarded only when no user was found: a user without a hash
is let in with a password that matches the dummy hash. Apart from that, a token
is issued exactly for the password of the user with that name.

## Main definitions

* `Authenticates` — a user and their own name and password
* `OwnPassword` — a login that is answered with a token only for these

## Main results

* `own_password_iff` — when a login is
* `dummy_password_logs_in` — a user without a password who is let in
-/

namespace IssueFlow

open Store Semantics JavaScript

section Reachable

variable [Postgres] [Bcrypt] [Unicode] {username password : String} {user : UserRow} {db : Db}

/-- The user has that name case-insensitively, and a hash the password
matches. -/
def Authenticates (username password : String) (user : UserRow) : Prop :=
  Postgres.lower user.username = Postgres.lower username ∧
    ∃ hash, user.passwordHash = some hash ∧ Bcrypt.compare password hash

/-- The token carries the user's id, name and role. -/
structure Carries (token : JwtPayload) (user : UserRow) : Prop where
  sub : token.sub = user.id
  username : token.username = user.username
  role : token.role = user.role

/-- A token is issued if and only if some stored user has this name and this
password, and it carries that user. -/
structure OwnPassword (username password : String) (db : Db)
    (result : Except Exception Response) : Prop where
  only : ∀ response, result = .ok (.loggedIn response) →
    ∃ user ∈ db.users.rows, Authenticates username password user ∧ Carries response.accessToken user
  issued : ∀ user ∈ db.users.rows, Authenticates username password user →
    ∃ response, result = .ok (.loggedIn response) ∧ Carries response.accessToken user

/-- A stored user with this name has no hash, and the password matches the dummy
hash. -/
def MatchesDummy (username password : String) (db : Db) : Prop :=
  ∃ user ∈ db.users.rows, Postgres.lower user.username = Postgres.lower username ∧
    user.passwordHash = none ∧ Bcrypt.compare password AuthService.dummyHash

/-- Names are unique in every state that requests reach one at a time. -/
theorem serveAll_usernamesUnique (inputs : List Input) :
    UsernamesUnique (serveAll inputs Db.empty) := by
  refine serveAll_kept UsernamesUnique ?_ ?_ ?_ inputs
  · intro user member
    cases member
  · exact fun statement db unique => usernamesUnique_exec statement unique
  · exact fun elapsed db unique => unique

omit [Unicode] in
/-- The service decides by the stored hash or the dummy hash. -/
theorem validUser_eq_some_iff (unique : UsernamesUnique db) :
    validUser username password db = some user ↔
      user ∈ db.users.rows ∧ Postgres.lower user.username = Postgres.lower username ∧
        Bcrypt.compare password (user.passwordHash.getD AuthService.dummyHash) := by
  rw [validUser, Option.filter_eq_some_iff, findByUsername_eq_some_iff unique, and_assoc]
  rfl

theorem login_eq_loggedIn_iff {expiresInSeconds : ℕ} {jti : String} {response : LoginResponse} :
    (serve (.login expiresInSeconds jti username password) db).1 = .ok (.loggedIn response) ↔
      ∃ user, validUser username password db = some user ∧
        loginResponse expiresInSeconds jti db.now user = response := by
  rw [serve_login]
  cases validUser username password db <;> simp

/-- **Only a user's own password logs in**, in every state that requests reach
one at a time, exactly when no user without a password is let in by the dummy
hash. -/
theorem own_password_iff (inputs : List Input) (expiresInSeconds : ℕ)
    (jti username password : String) :
    OwnPassword username password (serveAll inputs Db.empty)
        (serve (.login expiresInSeconds jti username password) (serveAll inputs Db.empty)).1 ↔
      ¬ MatchesDummy username password (serveAll inputs Db.empty) := by
  have unique := serveAll_usernamesUnique inputs
  generalize serveAll inputs Db.empty = db at unique
  constructor
  · rintro own ⟨user, member, name, noHash, matchesDummy⟩
    have valid : validUser username password db = some user :=
      (validUser_eq_some_iff unique).mpr ⟨member, name, by rw [noHash]; exact matchesDummy⟩
    obtain ⟨other, otherMember, ⟨otherName, hash, hasHash, -⟩, -⟩ :=
      own.only _ (login_eq_loggedIn_iff.mpr ⟨user, valid, rfl⟩)
    -- The name finds one user, who cannot both have a hash and have none.
    have found := (findByUsername_eq_some_iff unique).mpr ⟨member, name⟩
    have otherFound := (findByUsername_eq_some_iff unique).mpr ⟨otherMember, otherName⟩
    obtain rfl := Option.some.inj (found.symm.trans otherFound)
    rw [noHash] at hasHash
    cases hasHash
  · intro noDummy
    constructor
    · intro response loggedIn
      obtain ⟨user, valid, rfl⟩ := login_eq_loggedIn_iff.mp loggedIn
      obtain ⟨member, name, compared⟩ := (validUser_eq_some_iff unique).mp valid
      refine ⟨user, member, ⟨name, ?_⟩, ⟨rfl, rfl, rfl⟩⟩
      cases hasHash : user.passwordHash with
      | none =>
          rw [hasHash] at compared
          exact absurd ⟨user, member, name, hasHash, compared⟩ noDummy
      | some hash =>
          rw [hasHash] at compared
          exact ⟨hash, rfl, compared⟩
    · rintro user member ⟨name, hash, hasHash, compared⟩
      have valid : validUser username password db = some user :=
        (validUser_eq_some_iff unique).mpr ⟨member, name, by rw [hasHash]; exact compared⟩
      exact ⟨_, login_eq_loggedIn_iff.mpr ⟨user, valid, rfl⟩, ⟨rfl, rfl, rfl⟩⟩

end Reachable

/-! ### A user without a password -/

section Example

open Sample

/-- `root`, who registered without a password. -/
def rootRow : UserRow :=
  UsersRepository.createdRow ⟨"root", "root@example.com", "Root", .admin, none⟩ 0 1

/-- `root` has no password and logs in with one that matches the dummy hash. -/
theorem dummy_password_logs_in : ¬ ∀ inputs expiresInSeconds jti username password,
    OwnPassword username password (serveAll inputs Db.empty)
      (serve (.login expiresInSeconds jti username password) (serveAll inputs Db.empty)).1 := by
  intro own
  have loggedIn : (serve (.login 3600 "a" "root" AuthService.dummyHash)
      (serveAll setup Db.empty)).1 = .ok (.loggedIn (loginResponse 3600 "a" 0 rootRow)) := by
    decide +kernel
  have noHash : ∀ user ∈ (serveAll setup Db.empty).users.rows, user.passwordHash = none := by
    decide +kernel
  obtain ⟨user, member, ⟨-, hash, hasHash, -⟩, -⟩ := (own setup 3600 "a" "root" _).only _ loggedIn
  rw [noHash user member] at hasHash
  cases hasHash

end Example

end IssueFlow
