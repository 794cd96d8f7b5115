import IssueFlow.Database.Service

/-!
# Exception filters

`all-exceptions.filter.ts` and `pg-exception.filter.ts`: what an exception of a
request is answered with. The filter of database errors is asked first; an error
of the connection is no database error.

## Main definitions

* `PgExceptionFilter.handle`, `AllExceptionsFilter.handle` — the two filters
* `Exception.answer`, `Exception.statusCode` — the answer to an exception, and its status

## Main results

* `Exception.statusCode_answer` — the status of an answer
-/

namespace IssueFlow

open Store

/-- The body of an answer to an exception, without its time and path. -/
structure ErrorResponse where
  statusCode : ℕ
  error : String
  message : String
  deriving DecidableEq, Repr

/-- The parts of a database error that the server may leave out. -/
structure ErrorDetails where
  detail : Option String
  constraint : Option String
  deriving DecidableEq, Repr

def HttpStatus.code : HttpStatus → ℕ
  | .badRequest => 400
  | .unauthorized => 401
  | .notFound => 404
  | .conflict => 409

def HttpStatus.label : HttpStatus → String
  | .badRequest => "Bad Request"
  | .unauthorized => "Unauthorized"
  | .notFound => "Not Found"
  | .conflict => "Conflict"

namespace PgExceptionFilter

/-- `detail ? … : …`; a blank detail counts as none. -/
def describe (lead otherwise : String) : Option String → String
  | none => otherwise
  | some detail => if detail.isEmpty then otherwise else lead ++ detail

def handle (failure : PgError) (details : ErrorDetails) : ErrorResponse :=
  match failure with
  | .uniqueViolation =>
      { statusCode := 409
        error := "Conflict"
        message := describe "Unique constraint violated: "
          "A record with these values already exists" details.detail }
  | .foreignKeyViolation =>
      { statusCode := 400
        error := "Bad Request"
        message := describe "Foreign key violation: " "Referenced record does not exist"
          details.detail }
  | .checkViolation =>
      { statusCode := 400
        error := "Bad Request"
        message := "Constraint violation: " ++ details.constraint.getD "unknown" }
  | .invalidTextRepresentation =>
      { statusCode := 400
        error := "Bad Request"
        message := "Invalid value supplied for one of the request fields" }
  | _ => ⟨500, "Internal Server Error", "Database error"⟩

end PgExceptionFilter

def AllExceptionsFilter.handle : Exception → ErrorResponse
  | .http status message => ⟨status.code, status.label, message⟩
  | _ => ⟨500, "Internal Server Error", "Internal server error"⟩

namespace Exception

/-- The answer to an exception. -/
def answer (details : ErrorDetails) : Exception → ErrorResponse
  | .database .connectionFailure => AllExceptionsFilter.handle (.database .connectionFailure)
  | .database failure => PgExceptionFilter.handle failure details
  | exception => AllExceptionsFilter.handle exception

/-- The status of the answer. -/
def statusCode : Exception → ℕ
  | .http status _ => status.code
  | .database .uniqueViolation => 409
  | .database .foreignKeyViolation | .database .checkViolation
  | .database .invalidTextRepresentation => 400
  | _ => 500

/-- The details of a database error do not matter for the status. -/
theorem statusCode_answer (details : ErrorDetails) (exception : Exception) :
    (exception.answer details).statusCode = exception.statusCode := by
  cases exception with
  | database failure => cases failure <;> rfl
  | _ => rfl

/-- Is the answer a 4xx? -/
def isClientError (exception : Exception) : Bool :=
  400 ≤ exception.statusCode && exception.statusCode < 500

@[simp] theorem isClientError_http (status : HttpStatus) (message : String) :
    isClientError (.http status message) = true := by
  cases status <;> rfl

end Exception

end IssueFlow
