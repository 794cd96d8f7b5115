import IssueFlow.Services.Audit

/-!
# The users service

`users.service.ts`. Hashing is third-party code and a parameter, `Bcrypt`; its
random salt is an argument of the request.
-/

namespace IssueFlow

open Semantics

/-- bcryptjs. -/
class Bcrypt where
  /-- The hash of a password for a number of rounds and a salt. -/
  hash : String → ℕ → String → String
  /-- Does the password match the hash? -/
  compare : String → String → Bool

structure UserResponse where
  id : ℕ
  username : String
  email : String
  fullName : String
  role : UserRole
  deriving DecidableEq, Repr

def toUserResponse (row : UserRow) : UserResponse where
  id := row.id
  username := row.username
  email := row.email
  fullName := row.fullName
  role := row.role

structure CreateUserDto where
  username : String
  email : String
  fullName : String
  role : UserRole
  password : Field String
  deriving DecidableEq, Repr

/-- The body of a user update has the fields the repository writes. -/
abbrev UpdateUserDto := UserUpdate

namespace UsersService

def BCRYPT_ROUNDS : ℕ := 10

def getOrThrow (id : Option ℕ) : Service UserRow := do
  match ← select (.findUserById id) with
  | some row => return row
  | none => notFound s!"User {showNumber id} not found"

def findAll : Service (List UserResponse) := do
  let rows ← select .findAllUsers
  return rows.map toUserResponse

def findById (id : Option ℕ) : Service UserResponse := do
  return toUserResponse (← getOrThrow id)

/-- The hash of a supplied password. `null` is not `undefined`, and hashing it
is an error. -/
def hashPassword [Bcrypt] (password : Field String) (salt : String) : Service (Option String) :=
  match password with
  | .undefined => return none
  | .null => throw (.error "Illegal arguments: object, number")
  | .value given => return some (Bcrypt.hash given BCRYPT_ROUNDS salt)

def create [Bcrypt] (dto : CreateUserDto) (performedBy : Option ℕ) (salt : String) :
    Service UserResponse := do
  let existingByUsername ← select (.findUserByUsername dto.username)
  if existingByUsername.isSome then
    conflict s!"Username \"{dto.username}\" is already taken"
  else
    let passwordHash ← hashPassword dto.password salt
    let row ← execute (.createUser
      { username := dto.username
        email := dto.email
        fullName := dto.fullName
        role := dto.role
        passwordHash := passwordHash })
    AuditService.log
      { action := .create
        entityType := .user
        entityId := row.id
        performedBy := performedBy.getD row.id
        actor := .user
        metadata := [("username", .value (.text row.username)),
          ("email", .value (.text row.email)), ("role", .value (.text row.role.text))] }
    return toUserResponse row

/-- The fields an update is compared on. -/
def diffFields : List (String × (UserRow → Value)) :=
  [("full_name", fun row => .text row.fullName), ("role", fun row => .text row.role.text)]

def update (id : ℕ) (dto : UpdateUserDto) (performedBy : ℕ) : Service UserResponse := do
  if !dto.fullName.isDefined && !dto.role.isDefined then
    badRequest "At least one of \"fullName\" or \"role\" must be provided"
  else
    let before ← getOrThrow (some id)
    match ← execute (.updateUser id dto) with
    | none => notFound s!"User {id} not found"
    | some updated =>
        AuditService.log
          { action := .update
            entityType := .user
            entityId := id
            performedBy := some performedBy
            actor := .user
            metadata := diffMetadata before updated diffFields }
        return toUserResponse updated

def delete (id performedBy : ℕ) : Service Unit := do
  let before ← getOrThrow (some id)
  let deleted ← execute (.deleteUser id)
  if !deleted then notFound s!"User {id} not found"
  else
    AuditService.log
      { action := .delete
        entityType := .user
        entityId := id
        performedBy := some performedBy
        actor := .user
        metadata := [("username", .value (.text before.username)),
          ("role", .value (.text before.role.text))] }

def findRawByUsername (username : String) : Service (Option UserRow) :=
  select (.findUserByUsername username)

def findRawByUsernamesLower (usernames : List String) : Service (List UserRow) :=
  select (.findUsersByUsernamesLower usernames)

end UsersService

end IssueFlow
