import IssueFlow.Services.Tickets
import IssueFlow.Text.JavaScript

/-!
# The attachments service

`attachments.service.ts`. The upload directory is not part of the database: a
request carries what the file system answers, and only that decides how the
request goes on.

## Main definitions

* `AttachmentsService.upload`, `AttachmentsService.delete` — files of a ticket
* `AttachmentsService.listForTicket` — what is known about them
-/

namespace IssueFlow

open Semantics JavaScript

structure AttachmentResponse where
  id : ℕ
  ticketId : ℕ
  filename : String
  contentType : String
  byteSize : ℕ
  deriving DecidableEq, Repr

def toAttachmentResponse (row : AttachmentRow) : AttachmentResponse where
  id := row.id
  ticketId := row.ticketId
  filename := row.filename
  contentType := row.contentType
  byteSize := row.byteSize

/-- The file a client has sent, without its bytes. -/
structure UploadedFile where
  originalname : String
  mimetype : String
  size : ℕ
  deriving DecidableEq, Repr

/-- How the file operations of an upload end: with nothing or with a message. -/
structure DiskAnswers where
  /-- `fs.mkdir` and `fs.writeFile`. -/
  write : Except String Unit
  /-- `fs.rm`, after the INSERT has failed. -/
  rm : Except String Unit

namespace AttachmentsService

/-- 10 MB. -/
def MAX_BYTES : ℕ := 10 * 1024 * 1024

def ALLOWED_MIME : List String := ["image/png", "image/jpeg", "application/pdf", "text/plain"]

/-- A file operation that has failed is thrown. -/
def awaitDisk : Except String Unit → Service Unit
  | .ok _ => pure ()
  | .error message => throw (.error message)

/-- The name of a stored file: a fresh UUID, and the extension cut to 16 units. -/
def storageKey (uuid originalname : String) : String := uuid ++ slice 16 (extname originalname)

/-- Insert the row of a file that was written; if that fails, the file is
removed and the failure thrown again. -/
def insertRow (input : AttachmentInput) (disk : DiskAnswers) : Service AttachmentRow :=
  tryCatch (execute (.createAttachment input)) fun exception => do
    awaitDisk disk.rm
    throw exception

def upload (ticketId : ℕ) (file : Option UploadedFile) (uploaderId : ℕ) (uuid : String)
    (disk : DiskAnswers) : Service AttachmentResponse :=
  match file with
  | none => badRequest "No file was uploaded (field name: file)"
  | some file =>
      if file.size > MAX_BYTES then
        badRequest s!"File exceeds the 10 MB limit (got {file.size} bytes)"
      else if file.mimetype ∉ ALLOWED_MIME then
        badRequest (s!"Unsupported file type \"{file.mimetype}\". Allowed: " ++
          ", ".intercalate ALLOWED_MIME)
      else do
        let _ ← TicketsService.assertExistsAndGet ticketId
        awaitDisk disk.write
        let row ← insertRow
          { ticketId := ticketId
            uploaderId := uploaderId
            filename := file.originalname
            contentType := file.mimetype
            byteSize := file.size
            storageKey := storageKey uuid file.originalname } disk
        AuditService.log
          { action := .create
            entityType := .attachment
            entityId := row.id
            performedBy := some uploaderId
            actor := .user
            metadata := [("ticketId", .value (.number ticketId)),
              ("filename", .value (.text row.filename)),
              ("contentType", .value (.text row.contentType)),
              ("byteSize", .value (.number row.byteSize))] }
        return toAttachmentResponse row

def listForTicket (ticketId : ℕ) : Service (List AttachmentResponse) := do
  let _ ← TicketsService.assertExistsAndGet ticketId
  let rows ← select (.findAttachmentsByTicket ticketId)
  return rows.map toAttachmentResponse

/-- Delete the row of an attachment of the ticket. Removing the file cannot make
the request fail. -/
def delete (ticketId attachmentId performedBy : ℕ) : Service Unit := do
  match ← select (.findAttachmentById attachmentId) with
  | none => notFound s!"Attachment {attachmentId} not found"
  | some row =>
      if row.ticketId ≠ ticketId then
        notFound s!"Attachment {attachmentId} not found on ticket {ticketId}"
      else
        let _ ← execute (.deleteAttachment attachmentId)
        AuditService.log
          { action := .delete
            entityType := .attachment
            entityId := attachmentId
            performedBy := some performedBy
            actor := .user
            metadata := [("ticketId", .value (.number ticketId)),
              ("filename", .value (.text row.filename))] }

end AttachmentsService

end IssueFlow
