import IssueFlow.Services.Attachments
import IssueFlow.Text.Path

/-!
# Attachments and their files

`attachments.service.ts` with the upload directory: programs over the statements
of the database and the operations on files, executed in a world that has both.
A plan says which operations break down. A statement that breaks down has no
effect; a file that breaks down while it is written is left with any contents.

With the answers of the file system given, these programs are those of
`IssueFlow.Services.Attachments`.

## Main definitions

* `FileOp`, `Disk`, `World` — operations on files, and what they act on
* `Action`, `World.exec` — what the service does, and how it is executed
* `AttachmentFiles.upload`, `AttachmentFiles.delete` — the service

## Main results

* `World.exec_elsewhere`, `World.exec_writeFile_ok` — what an operation does to a file
* `AttachmentFiles.upload_answering`, `AttachmentFiles.delete_answering` — the service,
  seen from the database
-/

namespace IssueFlow

open Store Semantics JavaScript

/-! ### Files -/

abbrev Bytes := List UInt8

/-- An operation of `fs`. Directories are made with those above them, and a file
is removed without complaint when it is missing. -/
inductive FileOp
  | mkdir (path : Path)
  | writeFile (path : Path) (data : Bytes)
  | rm (path : Path)
  deriving DecidableEq, Repr

structure Disk where
  directories : List Path
  files : Path → Option Bytes

/-- The contents of one file. -/
def Disk.set (disk : Disk) (path : Path) (contents : Option Bytes) : Disk :=
  { disk with files := Function.update disk.files path contents }

namespace FileOp

def perform : FileOp → Disk → Except String Unit × Disk
  | mkdir path, disk =>
      if path.ancestors.any fun above => (disk.files above).isSome then
        (.error "ENOTDIR: not a directory, mkdir", disk)
      else (.ok (), { disk with directories := path.ancestors ++ disk.directories })
  | writeFile path data, disk =>
      if path ∈ disk.directories then
        (.error "EISDIR: illegal operation on a directory, open", disk)
      else if path.parent ∈ disk.directories then (.ok (), disk.set path data)
      else (.error "ENOENT: no such file or directory, open", disk)
  | rm path, disk =>
      if path ∈ disk.directories then (.error "Path is a directory: rm returned EISDIR", disk)
      else (.ok (), disk.set path none)

/-- What is left when an operation breaks down. -/
def breakDown (left : Option Bytes) : FileOp → Disk → Disk
  | writeFile path _, disk => disk.set path left
  | _, disk => disk

/-- The file an operation may change. -/
def target : FileOp → Option Path
  | mkdir _ => none
  | writeFile path _ => some path
  | rm path => some path

end FileOp

/-! ### Statements and files -/

/-- What the attachments service does. -/
inductive Action
  | statement (statement : Statement)
  | file (op : FileOp)

/-- The file an action may change. -/
def Action.target : Action → Option Path
  | statement _ => none
  | file op => op.target

abbrev Action.Ans : Action → Type
  | statement sent => sent.Ans
  | file _ => Except String Unit

/-- The database, the disk, and the number of actions so far. -/
structure World where
  db : Db
  disk : Disk
  sent : ℕ

/-- How an action breaks down: the error of a statement, the message of an
operation on files, and what is left of a file that was being written. -/
structure Breakdown where
  error : PgError
  message : String
  left : Option Bytes

/-- Execute an action, unless it is planned to break down. -/
def World.exec [Postgres] (plan : ℕ → Option Breakdown) :
    (action : Action) → World → action.Ans × World
  | .statement statement, world =>
      match plan world.sent with
      | some breakdown => (.error breakdown.error, { world with sent := world.sent + 1 })
      | none =>
          let (answer, db) := IssueFlow.exec statement world.db
          (answer, { world with db := db, sent := world.sent + 1 })
  | .file op, world =>
      match plan world.sent with
      | some breakdown => (.error breakdown.message,
          { world with disk := op.breakDown breakdown.left world.disk, sent := world.sent + 1 })
      | none =>
          let (answer, disk) := op.perform world.disk
          (answer, { world with disk := disk, sent := world.sent + 1 })

namespace World

variable [Postgres] {plan : ℕ → Option Breakdown}

/-- A statement breaks down without effect, or it is executed. -/
theorem exec_statement_cases (plan : ℕ → Option Breakdown) (statement : Statement)
    (world : World) :
    (∃ error, exec plan (.statement statement) world =
        (.error error, { world with sent := world.sent + 1 })) ∨
      exec plan (.statement statement) world = ((IssueFlow.exec statement world.db).1,
        { world with db := (IssueFlow.exec statement world.db).2, sent := world.sent + 1 }) := by
  rw [exec]
  cases plan world.sent with
  | none => exact .inr rfl
  | some breakdown => exact .inl ⟨breakdown.error, rfl⟩

/-- A statement that has succeeded was executed. -/
theorem exec_statement_ok {statement : Statement} {world : World} {rows : statement.Rows}
    (succeeded : (exec plan (.statement statement) world).1 = .ok rows) :
    (IssueFlow.exec statement world.db).1 = .ok rows := by
  rcases exec_statement_cases plan statement world with ⟨error, broken⟩ | executed
  · rw [broken] at succeeded
    cases succeeded
  · rw [executed] at succeeded
    exact succeeded

/-- What an operation on files does to the disk. -/
theorem exec_file_db (op : FileOp) (world : World) :
    (exec plan (.file op) world).2.db = world.db := by
  rw [exec]
  cases plan world.sent <;> rfl

/-- Statements leave the disk alone. -/
theorem exec_statement_disk (statement : Statement) (world : World) :
    (exec plan (.statement statement) world).2.disk = world.disk := by
  rw [exec]
  cases plan world.sent <;> rfl

/-- A file is changed only by the operations whose target it is. -/
theorem exec_file_elsewhere {op : FileOp} {path : Path} (elsewhere : op.target ≠ some path)
    (world : World) :
    (exec plan (.file op) world).2.disk.files path = world.disk.files path := by
  have apart {other : Path} (different : some other ≠ some path) (contents : Option Bytes) :
      (world.disk.set other contents).files path = world.disk.files path :=
    Function.update_of_ne (fun same => different (congrArg some same.symm)) _ _
  rw [exec]
  -- A write that breaks down may have changed its own file, and no other.
  cases plan world.sent with
  | some breakdown =>
      cases op with
      | mkdir other => rfl
      | writeFile other data => exact apart elsewhere _
      | rm other => rfl
  | none =>
      cases op with
      | mkdir other =>
          simp only [FileOp.perform]
          split_ifs <;> rfl
      | writeFile other data =>
          simp only [FileOp.perform]
          split_ifs
          · rfl
          · exact apart elsewhere _
          · rfl
      | rm other =>
          simp only [FileOp.perform]
          split_ifs
          · rfl
          · exact apart elsewhere _

@[inherit_doc exec_file_elsewhere]
theorem exec_elsewhere {action : Action} {path : Path} (elsewhere : action.target ≠ some path)
    (world : World) :
    (exec plan action world).2.disk.files path = world.disk.files path := by
  cases action with
  | statement statement => rw [exec_statement_disk]
  | file op => exact exec_file_elsewhere elsewhere world

/-- A file that was written has its contents. -/
theorem exec_writeFile_ok {path : Path} {data : Bytes} {world : World}
    (succeeded : (exec plan (.file (.writeFile path data)) world).1 = .ok ()) :
    (exec plan (.file (.writeFile path data)) world).2.disk.files path = some data := by
  rw [exec] at succeeded ⊢
  cases broken : plan world.sent with
  | some breakdown =>
      rw [broken] at succeeded
      cases succeeded
  | none =>
      simp only [broken, FileOp.perform] at succeeded ⊢
      split_ifs at succeeded ⊢
      · exact Function.update_self _ _ _

end World

/-- Programs of the application that also work on files. -/
abbrev FileService (α : Type) := Program Action Action.Ans Exception α

/-- A program that sends statements only. -/
def lift {α : Type} (program : Service α) : FileService α :=
  program.simulate fun statement => .call (.statement statement) fun answer => .done (.ok answer)

/-- An operation on files; its failure is thrown. -/
def onDisk (op : FileOp) : FileService Unit :=
  .call (.file op) fun answer => .done (answer.mapError .error)

/-! ### The service -/

/-- The file a client has sent, with its bytes. -/
structure MulterFile extends UploadedFile where
  buffer : Bytes
  deriving DecidableEq, Repr

/-- A UUID as a text: 36 hexadecimal digits and hyphens. -/
structure Uuid where
  text : String
  length : text.length = 36
  digits : ∀ c ∈ text.toList, c.isDigit ∨ ('a' ≤ c ∧ c ≤ 'f') ∨ c = '-'

namespace AttachmentFiles

/-- `UPLOAD_DIR`, or the default. -/
def uploadDir (configured : Option String) : String :=
  let trimmed := (configured.map trim).getD ""
  if trimmed = "" then "./uploads" else trimmed

theorem uploadDir_ne (configured : Option String) : uploadDir configured ≠ "" := by
  unfold uploadDir
  simp only
  split_ifs with missing
  · decide
  · exact missing

/-- Insert the row of a file that was written; if that fails, remove the file. -/
def insertRow (input : AttachmentInput) (fullPath : Path) : FileService AttachmentRow :=
  tryCatch (lift (execute (.createAttachment input))) fun exception => do
    onDisk (.rm fullPath)
    throw exception

def upload (uploadDir : String) (ticketId : ℕ) (file : Option MulterFile) (uploaderId : ℕ)
    (uuid : Uuid) : FileService AttachmentResponse :=
  match file with
  | none => throw (.http .badRequest "No file was uploaded (field name: file)")
  | some file =>
      if file.size > AttachmentsService.MAX_BYTES then
        throw (.http .badRequest s!"File exceeds the 10 MB limit (got {file.size} bytes)")
      else if file.mimetype ∉ AttachmentsService.ALLOWED_MIME then
        throw (.http .badRequest (s!"Unsupported file type \"{file.mimetype}\". Allowed: " ++
          ", ".intercalate AttachmentsService.ALLOWED_MIME))
      else do
        let _ ← lift (TicketsService.assertExistsAndGet ticketId)
        let storageKey := AttachmentsService.storageKey uuid.text file.originalname
        let fullPath := Path.join uploadDir storageKey
        onDisk (.mkdir (Path.normalize uploadDir))
        onDisk (.writeFile fullPath file.buffer)
        let row ← insertRow
          { ticketId := ticketId
            uploaderId := uploaderId
            filename := file.originalname
            contentType := file.mimetype
            byteSize := file.size
            storageKey := storageKey } fullPath
        lift (AuditService.log
          { action := .create
            entityType := .attachment
            entityId := row.id
            performedBy := some uploaderId
            actor := .user
            metadata := [("ticketId", .value (.number ticketId)),
              ("filename", .value (.text row.filename)),
              ("contentType", .value (.text row.contentType)),
              ("byteSize", .value (.number row.byteSize))] })
        return toAttachmentResponse row

def delete (uploadDir : String) (ticketId attachmentId performedBy : ℕ) : FileService Unit := do
  match ← lift (select (.findAttachmentById attachmentId)) with
  | none => throw (.http .notFound s!"Attachment {attachmentId} not found")
  | some row =>
      if row.ticketId ≠ ticketId then
        throw (.http .notFound s!"Attachment {attachmentId} not found on ticket {ticketId}")
      else
        let _ ← lift (execute (.deleteAttachment attachmentId))
        -- Whether the file can be removed does not matter any more.
        tryCatch (onDisk (.rm (Path.join uploadDir row.storageKey))) fun _ => pure ()
        lift (AuditService.log
          { action := .delete
            entityType := .attachment
            entityId := attachmentId
            performedBy := some performedBy
            actor := .user
            metadata := [("ticketId", .value (.number ticketId)),
              ("filename", .value (.text row.filename))] })

/-! ### Seen from the database -/

/-- The file system answers as it is told to. -/
def answering (answers : FileOp → Except String Unit) : (action : Action) → Service action.Ans
  | .statement statement => .call statement fun answer => .done (.ok answer)
  | .file op => .done (.ok (answers op))

variable {α β : Type} {answers : FileOp → Except String Unit}

@[simp] theorem lift_answering (program : Service α) :
    (lift program).simulate (answering answers) = program := by
  induction program with
  | done result => rfl
  | call statement next ih =>
      show Program.call statement _ = _
      congr 1
      funext answer
      exact ih answer

@[simp] theorem onDisk_answering (op : FileOp) :
    (onDisk op).simulate (answering answers) = AttachmentsService.awaitDisk (answers op) := by
  show Program.done ((answers op).mapError Exception.error) = _
  cases answers op <;> rfl

theorem awaitDisk_bind (first second : Except String Unit) :
    AttachmentsService.awaitDisk (first >>= fun _ => second) =
      AttachmentsService.awaitDisk first >>= fun _ => AttachmentsService.awaitDisk second := by
  cases first <;> rfl

theorem insertRow_answering (input : AttachmentInput) (fullPath : Path)
    (write : Except String Unit) :
    (insertRow input fullPath).simulate (answering answers) =
      AttachmentsService.insertRow input ⟨write, answers (.rm fullPath)⟩ := by
  show Program.call _ _ = Program.call _ _
  congr 1
  funext answer
  cases answer with
  | ok row => rfl
  | error error =>
      show Program.simulate _ (onDisk (.rm fullPath) >>= fun _ => throw (.database error)) =
        AttachmentsService.awaitDisk (answers (.rm fullPath)) >>= fun _ => throw (.database error)
      rw [Program.simulate_bind, onDisk_answering]
      rfl

/-- The file operations of an upload, as the database sees them. -/
def uploadAnswers (answers : FileOp → Except String Unit) (uploadDir : String) (file : MulterFile)
    (uuid : Uuid) : DiskAnswers :=
  let fullPath :=
    Path.join uploadDir (AttachmentsService.storageKey uuid.text file.originalname)
  { write := do
      answers (.mkdir (Path.normalize uploadDir))
      answers (.writeFile fullPath file.buffer)
    rm := answers (.rm fullPath) }

/-- **An upload, seen from the database.** -/
theorem upload_answering (uploadDir : String) (ticketId : ℕ) (file : MulterFile) (uploaderId : ℕ)
    (uuid : Uuid) :
    (upload uploadDir ticketId (some file) uploaderId uuid).simulate (answering answers) =
      AttachmentsService.upload ticketId (some file.toUploadedFile) uploaderId uuid.text
        (uploadAnswers answers uploadDir file uuid) := by
  unfold upload AttachmentsService.upload
  simp only
  split_ifs with large supported
  · rfl
  · simp only [Program.simulate_bind, lift_answering, onDisk_answering, uploadAnswers,
      awaitDisk_bind, Program.bind_assoc, insertRow_answering _ _
        (answers (.mkdir (Path.normalize uploadDir)) >>= fun _ => answers (.writeFile
          (Path.join uploadDir (AttachmentsService.storageKey uuid.text file.originalname))
          file.buffer))]
    rfl
  · rfl

/-- **A deletion, seen from the database.** -/
theorem delete_answering (uploadDir : String) (ticketId attachmentId performedBy : ℕ) :
    (delete uploadDir ticketId attachmentId performedBy).simulate (answering answers) =
      AttachmentsService.delete ticketId attachmentId performedBy := by
  unfold delete AttachmentsService.delete
  rw [Program.simulate_bind, lift_answering]
  congr 1
  funext found
  cases found with
  | none => rfl
  | some row =>
      simp only
      split_ifs with foreign
      · rfl
      · simp only [Program.simulate_bind, lift_answering]
        congr 1
        funext deleted
        show Program.simulate _ (Program.tryCatch (onDisk _) _) >>= _ = _
        -- Whatever the file system answers, nothing is thrown.
        have nothing : (Program.tryCatch (onDisk (.rm (Path.join uploadDir row.storageKey)))
            fun _ => pure ()).simulate (answering answers) = pure () := by
          show Program.simulate _ (Program.tryCatch
            (Program.done ((answers (.rm (Path.join uploadDir row.storageKey))).mapError _)) _) = _
          cases answers (.rm (Path.join uploadDir row.storageKey)) <;> rfl
        rw [nothing]
        rfl

end AttachmentFiles

end IssueFlow
