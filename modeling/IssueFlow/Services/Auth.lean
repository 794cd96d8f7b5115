import IssueFlow.Services.Users

/-!
# Authentication

`auth.service.ts` and `jwt.strategy.ts`. A signed token is its payload: a
signature cannot be forged, so which tokens pass the signature check is a matter
of which payloads were signed. passport-jwt rejects a token exactly when its
`exp` is not in the future; what it accepts is given to `validate`.
-/

namespace IssueFlow

open Semantics

/-- What a token carries. A claim that a foreign token might lack is optional. -/
structure JwtPayload where
  sub : ℕ
  username : String
  role : UserRole
  jti : Option String
  iat : Option ℤ
  exp : Option ℤ
  deriving DecidableEq, Repr

structure AuthenticatedUser where
  id : ℕ
  username : String
  role : UserRole
  jti : String
  exp : ℤ
  deriving DecidableEq, Repr

structure LoginResponse where
  accessToken : JwtPayload
  tokenType : String
  expiresIn : ℕ
  deriving DecidableEq, Repr

namespace AuthService

/-- The hash that is compared when there is none to compare. -/
def dummyHash : String := "$2a$10$CwTycUXWue0Thq9StjUM0uJ8H6r3wTzjK/Lr9TPsTjErP9SJ73o3."

/-- `user?.password_hash ?? dummyHash` -/
def hashToCheck (user : Option UserRow) : String :=
  match user with
  | some row => row.passwordHash.getD dummyHash
  | none => dummyHash

variable [Bcrypt]

def validateCredentials (username password : String) : Service (ℕ × String × UserRole) := do
  let found ← UsersService.findRawByUsername username
  let ok := Bcrypt.compare password (hashToCheck found)
  match found with
  | some user =>
      if ok then return (user.id, user.username, user.role)
      else unauthorized "Invalid username or password"
  | none => unauthorized "Invalid username or password"

/-- `jwt.signAsync`: the payload with the time of signing and of expiry, in
whole seconds. -/
def signAsync (expiresInSeconds id : ℕ) (username : String) (role : UserRole) (jti : String) :
    Service JwtPayload := do
  let now ← select .dateNow
  let iat := now / 1000
  return ⟨id, username, role, some jti, some iat, some (iat + expiresInSeconds)⟩

/-- Log in; `jti` is the fresh UUID the service draws. -/
def login (expiresInSeconds : ℕ) (jti username password : String) : Service LoginResponse := do
  let (id, username, role) ← validateCredentials username password
  let accessToken ← signAsync expiresInSeconds id username role jti
  return ⟨accessToken, "Bearer", expiresInSeconds⟩

omit [Bcrypt] in
def logout (userId : ℕ) (jti : String) (exp : ℤ) : Service Unit :=
  execute (.revoke jti userId (exp * 1000))

end AuthService

namespace JwtStrategy

/-- `ignoreExpiration: false`: a token without `exp` does not expire, any other
has to have it in the future. -/
def notExpired (now : Timestamp) (payload : JwtPayload) : Bool :=
  payload.exp.all fun exp => exp > now / 1000

/-- `!payload.jti || !payload.exp` -/
def isMalformed (payload : JwtPayload) : Bool :=
  payload.jti.all (· = "") || payload.exp.all (· = 0)

def validate (payload : JwtPayload) : Service AuthenticatedUser :=
  match payload.jti, payload.exp with
  | some jti, some exp =>
      if isMalformed payload then unauthorized "Malformed token"
      else do
        if ← select (.isRevoked jti) then unauthorized "Token has been revoked"
        else return ⟨payload.sub, payload.username, payload.role, jti, exp⟩
  | _, _ => unauthorized "Malformed token"

/-- A guarded request: the expiry check of passport-jwt, then `validate`. -/
def authenticate (payload : JwtPayload) : Service AuthenticatedUser := do
  let now ← select .dateNow
  if notExpired now payload then validate payload else unauthorized "Unauthorized"

end JwtStrategy

namespace AuthController

/-- `POST /auth/logout` is guarded; what it revokes comes from the strategy. -/
def logout (payload : JwtPayload) : Service Unit := do
  let user ← JwtStrategy.authenticate payload
  AuthService.logout user.id user.jti user.exp

end AuthController

end IssueFlow
