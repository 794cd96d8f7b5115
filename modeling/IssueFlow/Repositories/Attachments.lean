import IssueFlow.Database.Schema

/-!
# The attachments repository

The statements of `attachments.repository.ts`. The table holds what is known
about a file; the bytes are elsewhere, under the storage key.
-/

namespace IssueFlow

open Store

structure AttachmentInput where
  ticketId : ℕ
  uploaderId : ℕ
  filename : String
  contentType : String
  byteSize : ℕ
  storageKey : String
  deriving DecidableEq, Repr

namespace AttachmentsRepository

/-- The row of a new attachment. -/
def createdRow (input : AttachmentInput) (now : Timestamp) (id : ℕ) : AttachmentRow where
  id := id
  ticketId := input.ticketId
  uploaderId := input.uploaderId
  filename := input.filename
  contentType := input.contentType
  byteSize := input.byteSize
  storageKey := input.storageKey
  createdAt := now

/-- The widths of the text columns. -/
def tooLong (input : AttachmentInput) : Bool :=
  input.filename.length > 255 || input.contentType.length > 127 || input.storageKey.length > 255

/-- `INSERT INTO attachments`: the widths come first, then the unique storage
key, then the references. The key of the row is drawn in any case. -/
def create (input : AttachmentInput) (db : Db) : Except PgError AttachmentRow × Db :=
  let refused (error : PgError) : Except PgError AttachmentRow × Db :=
    (.error error, { db with attachments := db.attachments.skip })
  if tooLong input then refused .stringDataRightTruncation
  else if db.attachments.rows.any (·.storageKey = input.storageKey) then refused .uniqueViolation
  else if (db.tickets.get? input.ticketId).isSome && (db.users.get? input.uploaderId).isSome then
    (.ok (createdRow input db.now db.attachments.next),
      { db with attachments := db.attachments.insert (createdRow input db.now) fun _ => rfl })
  else refused .foreignKeyViolation

def findById (id : ℕ) (db : Db) : Option AttachmentRow := db.attachments.get? id

def findByTicket (ticketId : ℕ) (db : Db) : List AttachmentRow :=
  db.attachments.rows.filter fun row => row.ticketId = ticketId

def delete (id : ℕ) (db : Db) : Bool × Db :=
  ((db.attachments.get? id).isSome,
    { db with attachments := db.attachments.remove fun row => row.id = id })

/-- An INSERT is refused and only draws a key, or it adds the row. -/
theorem create_cases (input : AttachmentInput) (db : Db) :
    (∃ error, create input db = (.error error, { db with attachments := db.attachments.skip })) ∨
      create input db = (.ok (createdRow input db.now db.attachments.next), { db with
        attachments := db.attachments.insert (createdRow input db.now) fun _ => rfl }) := by
  simp only [create]
  split_ifs
  · exact .inl ⟨_, rfl⟩
  · exact .inl ⟨_, rfl⟩
  · exact .inr rfl
  · exact .inl ⟨_, rfl⟩

end AttachmentsRepository

end IssueFlow
