import IssueFlow.Store.SetClause
import IssueFlow.Store.Table

/-!
# The database schema

The tables of `001_init.sql` with the row types of the `entities` directories,
and the database state made of them. Every `BIGSERIAL` table is a `Table`; the
tables keyed by a pair or a text are lists. A `BIGINT` is unbounded, a version is
an `INTEGER` that cannot be raised beyond its range, and a `TIMESTAMPTZ` is a
number of milliseconds.

What PostgreSQL does by collation or by its input functions is a parameter,
`Postgres`; it is arbitrary in every result.
-/

namespace IssueFlow

open Store

/-- Milliseconds since the epoch. -/
abbrev Timestamp := ℤ

/-- The largest `INTEGER`. -/
def MAX_INTEGER : ℕ := 2147483647

/-- Is `version + 1` out of the range of `INTEGER`? -/
def versionOverflows (version : ℕ) : Bool := MAX_INTEGER ≤ version

/-! ### Enumerations -/

inductive UserRole
  | admin
  | developer
  deriving DecidableEq, Repr

inductive TicketStatus
  | todo
  | inProgress
  | inReview
  | done
  deriving DecidableEq, Repr

inductive TicketPriority
  | low
  | medium
  | high
  | critical
  deriving DecidableEq, Repr

inductive TicketType
  | bug
  | feature
  | technical
  deriving DecidableEq, Repr

inductive AuditAction
  | create
  | update
  | delete
  | restore
  | autoAssign
  | priorityEscalated
  | login
  | logout
  deriving DecidableEq, Repr

inductive AuditActor
  | user
  | system
  deriving DecidableEq, Repr

inductive AuditEntity
  | user
  | project
  | ticket
  | comment
  | attachment
  | dependency
  deriving DecidableEq, Repr

/-- The label of the `user_role` enumeration. -/
def UserRole.text : UserRole → String
  | .admin => "ADMIN"
  | .developer => "DEVELOPER"

/-- The label of the `ticket_status` enumeration. -/
def TicketStatus.text : TicketStatus → String
  | .todo => "TODO"
  | .inProgress => "IN_PROGRESS"
  | .inReview => "IN_REVIEW"
  | .done => "DONE"

/-- The label of the `ticket_priority` enumeration. -/
def TicketPriority.text : TicketPriority → String
  | .low => "LOW"
  | .medium => "MEDIUM"
  | .high => "HIGH"
  | .critical => "CRITICAL"

/-- The label of the `ticket_type` enumeration. -/
def TicketType.text : TicketType → String
  | .bug => "BUG"
  | .feature => "FEATURE"
  | .technical => "TECHNICAL"

/-- `Object.values` of an enumeration, in declaration order. -/
def UserRole.values : List UserRole := [.admin, .developer]

@[inherit_doc UserRole.values]
def TicketStatus.values : List TicketStatus := [.todo, .inProgress, .inReview, .done]

@[inherit_doc UserRole.values]
def TicketPriority.values : List TicketPriority := [.low, .medium, .high, .critical]

@[inherit_doc UserRole.values]
def TicketType.values : List TicketType := [.bug, .feature, .technical]

/-- Read an enumeration label, as the enumeration's input function does. -/
def UserRole.ofText? (label : String) : Option UserRole := values.find? (·.text = label)

@[inherit_doc UserRole.ofText?]
def TicketStatus.ofText? (label : String) : Option TicketStatus := values.find? (·.text = label)

@[inherit_doc UserRole.ofText?]
def TicketPriority.ofText? (label : String) : Option TicketPriority :=
  values.find? (·.text = label)

@[inherit_doc UserRole.ofText?]
def TicketType.ofText? (label : String) : Option TicketType := values.find? (·.text = label)

@[simp] theorem UserRole.ofText?_text (role : UserRole) : ofText? role.text = some role := by
  cases role <;> decide

@[simp] theorem TicketStatus.ofText?_text (status : TicketStatus) :
    ofText? status.text = some status := by
  cases status <;> decide

@[simp] theorem TicketPriority.ofText?_text (priority : TicketPriority) :
    ofText? priority.text = some priority := by
  cases priority <;> decide

@[simp] theorem TicketType.ofText?_text (type : TicketType) : ofText? type.text = some type := by
  cases type <;> decide

/-! ### Rows -/

structure UserRow where
  id : ℕ
  username : String
  email : String
  fullName : String
  role : UserRole
  /-- A bcrypt hash, or null for a user created without a password. -/
  passwordHash : Option String
  createdAt : Timestamp
  updatedAt : Timestamp
  deriving DecidableEq, Repr

structure ProjectRow where
  id : ℕ
  name : String
  description : Option String
  ownerId : ℕ
  deletedAt : Option Timestamp
  createdAt : Timestamp
  updatedAt : Timestamp
  deriving DecidableEq, Repr

structure TicketRow where
  id : ℕ
  title : String
  description : Option String
  status : TicketStatus
  priority : TicketPriority
  type : TicketType
  projectId : ℕ
  assigneeId : Option ℕ
  dueDate : Option Timestamp
  isOverdue : Bool
  version : ℕ
  deletedAt : Option Timestamp
  createdAt : Timestamp
  updatedAt : Timestamp
  deriving DecidableEq, Repr

/-- `ticketId` is blocked by `blockerId`. -/
structure DependencyRow where
  ticketId : ℕ
  blockerId : ℕ
  createdAt : Timestamp
  deriving DecidableEq, Repr

structure CommentRow where
  id : ℕ
  ticketId : ℕ
  authorId : ℕ
  content : String
  version : ℕ
  createdAt : Timestamp
  updatedAt : Timestamp
  deriving DecidableEq, Repr

structure MentionRow where
  commentId : ℕ
  mentionedUserId : ℕ
  createdAt : Timestamp
  deriving DecidableEq, Repr

structure AttachmentRow where
  id : ℕ
  ticketId : ℕ
  uploaderId : ℕ
  filename : String
  contentType : String
  byteSize : ℕ
  storageKey : String
  createdAt : Timestamp
  deriving DecidableEq, Repr

structure DenylistRow where
  jti : String
  userId : ℕ
  expiresAt : Timestamp
  revokedAt : Timestamp
  deriving DecidableEq, Repr

/-! ### Audit entries -/

/-- A value inside the `metadata` column. -/
inductive Value
  | null
  | bool (value : Bool)
  | number (value : ℕ)
  | text (value : String)
  | date (value : Timestamp)
  | ids (value : List ℕ)
  deriving DecidableEq, Repr

/-- A metadata field: a value, or a change written as its two ends. -/
inductive MetadataField
  | value (value : Value)
  | change (before after : Value)
  deriving DecidableEq, Repr

abbrev Metadata := List (String × MetadataField)

/-- The columns an audit insert supplies. -/
structure AuditInsert where
  action : AuditAction
  entityType : AuditEntity
  entityId : ℕ
  performedBy : Option ℕ
  actor : AuditActor
  metadata : Metadata
  deriving DecidableEq, Repr

structure AuditLogRow extends AuditInsert where
  id : ℕ
  timestamp : Timestamp
  deriving DecidableEq, Repr

/-- The value of a nullable column. -/
def Value.ofOption {α : Type} (wrap : α → Value) : Option α → Value
  | none => .null
  | some value => wrap value

instance : Keyed UserRow := ⟨UserRow.id⟩
instance : Keyed ProjectRow := ⟨ProjectRow.id⟩
instance : Keyed TicketRow := ⟨TicketRow.id⟩
instance : Keyed CommentRow := ⟨CommentRow.id⟩
instance : Keyed AttachmentRow := ⟨AttachmentRow.id⟩
instance : Keyed AuditLogRow := ⟨AuditLogRow.id⟩

/-! ### The database -/

/-- The committed state of the database, and its clock. -/
structure Db where
  users : Table UserRow
  projects : Table ProjectRow
  tickets : Table TicketRow
  ticketDependencies : List DependencyRow
  comments : Table CommentRow
  commentMentions : List MentionRow
  attachments : Table AttachmentRow
  auditLogs : Table AuditLogRow
  tokenDenylist : List DenylistRow
  now : Timestamp

/-- The database right after the migration. -/
def Db.empty : Db where
  users := .empty
  projects := .empty
  tickets := .empty
  ticketDependencies := []
  comments := .empty
  commentMentions := []
  attachments := .empty
  auditLogs := .empty
  tokenDenylist := []
  now := 0

/-- What the server does by its collation and its input functions. -/
class Postgres where
  /-- `LOWER`. -/
  lower : String → String
  /-- The instant a text denotes when it is read as a `TIMESTAMPTZ`. -/
  timestamptz : String → Option Timestamp
  /-- The text of an error. -/
  message : PgError → String

/-! ### Optional request fields -/

/-- A field of a request body that may be left out. -/
inductive Field (α : Type)
  | undefined
  | null
  | value (value : α)
  deriving DecidableEq, Repr

namespace Field

variable {α β : Type}

/-- The test `field !== undefined`. -/
def isDefined : Field α → Bool
  | .undefined => false
  | _ => true

def isNull : Field α → Bool
  | .null => true
  | _ => false

/-- `field ?? null`. -/
def toOption : Field α → Option α
  | .value given => some given
  | _ => none

def map (f : α → β) : Field α → Field β
  | .undefined => .undefined
  | .null => .null
  | .value given => .value (f given)

/-- A nullable column after a write that leaves it out, clears it or sets it. -/
def orKeep (field : Field α) (old : Option α) : Option α :=
  match field with
  | .undefined => old
  | .null => none
  | .value given => some given

/-- A column that is never null, after a write that leaves it out or sets it. -/
def getD (field : Field α) (old : α) : α :=
  match field with
  | .value given => given
  | _ => old

end Field

end IssueFlow
