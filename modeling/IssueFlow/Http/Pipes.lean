import IssueFlow.Http.Routes
import IssueFlow.Http.Statements
import IssueFlow.Services.Validation

/-!
# Requests and pipes

A request over HTTP, and what makes its parameters and its body into the
arguments of a method. The guards come first; then multer reads a file, and the
pipes check the parameters. What class-transformer makes of a raw body or query
is a parameter; what it is turned into has passed the decorators of its class.
So is the number that `ParseIntPipe` finds in a path. It is natural here: a path
with a number below zero is left out.

## Main definitions

* `HttpRequest` — a request, with what the server draws while it handles it
* `ValidationPipe`, `ParseIntPipe` — the pipes
-/

namespace IssueFlow

open JavaScript Validation

/-! ### The other bodies -/

structure LoginDto where
  username : String
  password : String
  deriving DecidableEq, Repr

structure AddDependencyDto where
  blockedBy : ℕ
  deriving DecidableEq, Repr

section Bodies

variable [ClassValidator]

def LoginDto.isValid (dto : LoginDto) : Bool := minLength 1 dto.username && minLength 1 dto.password

def CreateProjectDto.isValid (dto : CreateProjectDto) : Bool :=
  length 1 255 dto.name && isInt 1 dto.ownerId

omit [ClassValidator] in
def AddDependencyDto.isValid (dto : AddDependencyDto) : Bool := isInt 1 dto.blockedBy

def CreateCommentDto.isValid (dto : CreateCommentDto) : Bool :=
  isInt 1 dto.authorId && length 1 10000 dto.content

def UpdateCommentDto.isValid (dto : UpdateCommentDto) : Bool :=
  length 1 10000 dto.content && isOptional (isInt 1) dto.version

end Bodies

/-- The global pipe: the messages of the checks that fail, or the body or query
as an instance of its class. -/
class ValidationPipe (β : Type) [ClassValidator] where
  createUser : β → Except (List String) {dto : CreateUserDto // dto.isValid}
  updateUser : β → Except (List String) {dto : UpdateUserDto // dto.isValid}
  login : β → Except (List String) {dto : LoginDto // dto.isValid}
  createProject : β → Except (List String) {dto : CreateProjectDto // dto.isValid}
  updateProject : β → Except (List String) {dto : UpdateProjectDto // dto.isValid}
  createTicket : β → Except (List String) {dto : CreateTicketDto // dto.isValid}
  updateTicket : β → Except (List String) {dto : UpdateTicketDto // dto.isValid}
  addDependency : β → Except (List String) {dto : AddDependencyDto // dto.isValid}
  createComment : β → Except (List String) {dto : CreateCommentDto // dto.isValid}
  updateComment : β → Except (List String) {dto : UpdateCommentDto // dto.isValid}
  pagination : β → Except (List String) PaginationQuery
  auditFilter : β → Except (List String) AuditFilterQuery

/-! ### Requests -/

/-- A file as multer hands it on, with the records that csv-parse finds in it. -/
structure ReceivedFile extends UploadedFile where
  records : Except String (List CsvRecord)

/-- What the server draws, and how its disk answers. -/
structure Draws where
  salt : String
  jti : String
  uuid : String
  disk : DiskAnswers

/-- A request over HTTP. -/
structure HttpRequest (β : Type) where
  /-- The method and the URL as they were sent. -/
  line : String
  verb : Verb
  path : List RawText
  /-- The payload of the bearer token, if there is one with a good signature. -/
  bearer : Option JwtPayload
  /-- `projectId` of the query, or of the form of an import. -/
  projectId : Option RawText
  /-- The query or the body. -/
  input : β
  /-- What multer makes of the form. -/
  file : Except HttpError (Option ReceivedFile)
  draws : Draws

/-! ### Pipes and the checks of the controllers -/

def HttpError.badRequest (message : String) : HttpError := .exception (.http .badRequest message)

/-- `@Param(…, ParseIntPipe)` for a parameter of the path, behind the global pipe
that has made a number of it if it could: a number, or what is rejected. -/
class ParseIntPipe where
  transform : Option RawText → Except HttpError ℕ

/-- `!Number.isInteger(projectId) || projectId < 1` -/
def positiveInteger? : RawText → Option ℕ
  | .natural n => if n < 1 then none else some n
  | .other _ => none

/-- A project id that has to be there. -/
def requireProjectId (raw : Option RawText) (message : String) : Except HttpError ℕ :=
  match raw.bind positiveInteger? with
  | some projectId => .ok projectId
  | none => .error (.badRequest message)

/-- A project id that may be left out. -/
def optionalProjectId : Option RawText → Except HttpError (Option ℕ)
  | none => .ok none
  | some raw =>
      match positiveInteger? raw with
      | some projectId => .ok (some projectId)
      | none => .error (.badRequest "projectId must be a positive integer")

/-- What the pipe rejects is answered with a 400. -/
def validated {α : Type} (transformed : Except (List String) α) : Except HttpError α :=
  transformed.mapError .validation

end IssueFlow
