import IssueFlow.Services.AttachmentFiles
import IssueFlow.System.Writes

/-!
# Attachments never dangle

Uploads and deletions of attachments run interleaved, and any of their actions
may break down. A file is written before its row is inserted and removed after
its row is gone, under a name that starts with a UUID of its own. So a row that
is stored has its file, whatever happens in between, and no request touches the
file of another attachment.

## Main definitions

* `AttachmentRequest` — uploads and deletions
* `Follows` — what a request has done before each of its actions
* `Intact` — the invariant of the rows, the files and the trace

## Main results

* `AttachmentRequest.outline` — the order of the actions of a request
* `Intact.send` — every action keeps the invariant
* `attachments_never_dangle` — rows and files in every interleaving
-/

namespace IssueFlow

open Store Semantics JavaScript

/-! ### Requests -/

/-- An upload that has a file. -/
structure Upload where
  ticketId : ℕ
  file : MulterFile
  uploaderId : ℕ
  uuid : Uuid

namespace Upload

def storageKey (upload : Upload) : String :=
  AttachmentsService.storageKey upload.uuid.text upload.file.originalname

/-- The file that is written. -/
def path (uploadDir : String) (upload : Upload) : Path := Path.join uploadDir upload.storageKey

/-- The row that is inserted. -/
def input (upload : Upload) : AttachmentInput where
  ticketId := upload.ticketId
  uploaderId := upload.uploaderId
  filename := upload.file.originalname
  contentType := upload.file.mimetype
  byteSize := upload.file.size
  storageKey := upload.storageKey

/-- The two actions that store an upload. -/
def writeFile (uploadDir : String) (upload : Upload) : Action :=
  .file (.writeFile (upload.path uploadDir) upload.file.buffer)

@[inherit_doc writeFile]
def insert (upload : Upload) : Action := .statement (.command (.createAttachment upload.input))

/-! The storage key names a file of the upload directory, and tells uploads apart. -/

theorem toList_storageKey (upload : Upload) : upload.storageKey.toList =
    upload.uuid.text.toList ++ (slice 16 (extname upload.file.originalname)).toList := by
  simp [storageKey, AttachmentsService.storageKey]

theorem length_uuid (upload : Upload) : upload.uuid.text.toList.length = 36 := by
  rw [String.length_toList]
  exact upload.uuid.length

theorem isFileName (upload : Upload) : Path.IsFileName upload.storageKey := by
  have long : 36 ≤ upload.storageKey.toList.length := by
    rw [toList_storageKey, List.length_append, length_uuid]
    omega
  -- A key is longer than the texts that are no file names.
  have differs {short : String} (length : short.toList.length < 36) :
      upload.storageKey ≠ short := by
    intro same
    rw [same] at long
    omega
  refine ⟨?_, differs (by decide), differs (by decide), differs (by decide)⟩
  rw [toList_storageKey, List.mem_append, not_or]
  refine ⟨fun member => ?_, slash_notMem_slice (slash_notMem_extname _)⟩
  rcases upload.uuid.digits '/' member with digit | ⟨letter, -⟩ | hyphen
  · exact absurd digit (by decide)
  · exact absurd letter (by decide)
  · exact absurd hyphen (by decide)

theorem uuid_of_storageKey {first second : Upload} (same : first.storageKey = second.storageKey) :
    first.uuid = second.uuid := by
  have lists := congrArg String.toList same
  rw [toList_storageKey, toList_storageKey] at lists
  have texts := (List.append_inj lists (first.length_uuid.trans second.length_uuid.symm)).1
  have equal := String.toList_inj.mp texts
  generalize first.uuid = u at equal ⊢
  generalize second.uuid = v at equal ⊢
  cases u
  cases v
  cases equal
  rfl

theorem path_eq {uploadDir : String} (nonempty : uploadDir ≠ "") (upload : Upload) :
    upload.path uploadDir = (Path.normalize uploadDir).child upload.storageKey :=
  Path.join_fileName nonempty upload.isFileName

theorem storageKey_of_path {uploadDir : String} (nonempty : uploadDir ≠ "") {first second : Upload}
    (same : first.path uploadDir = second.path uploadDir) :
    first.storageKey = second.storageKey := by
  rw [path_eq nonempty, path_eq nonempty, Path.child_inj] at same
  exact same

end Upload

/-- Uploads, with or without a file, and deletions. -/
inductive AttachmentRequest
  | upload (ticketId : ℕ) (file : Option MulterFile) (uploaderId : ℕ) (uuid : Uuid)
  | delete (ticketId attachmentId performedBy : ℕ)

namespace AttachmentRequest

def program (uploadDir : String) :
    AttachmentRequest → FileService (Option AttachmentResponse)
  | upload ticketId file uploaderId uuid =>
      some <$> AttachmentFiles.upload uploadDir ticketId file uploaderId uuid
  | delete ticketId attachmentId performedBy =>
      (fun _ => none) <$> AttachmentFiles.delete uploadDir ticketId attachmentId performedBy

/-- The UUID a request has drawn. -/
def uuid : AttachmentRequest → Option Uuid
  | upload _ _ _ uuid => some uuid
  | delete .. => none

/-- A request is this upload. -/
def Is (request : AttachmentRequest) (sent : Upload) : Prop :=
  request = upload sent.ticketId (some sent.file) sent.uploaderId sent.uuid

/-- A request deletes this attachment. -/
def Deletes (request : AttachmentRequest) (attachmentId : ℕ) : Prop :=
  ∃ ticketId performedBy, request = delete ticketId attachmentId performedBy

theorem Is.eq {request : AttachmentRequest} {first second : Upload} (isFirst : request.Is first)
    (isSecond : request.Is second) : first = second := by
  unfold Is at isFirst isSecond
  rw [isFirst] at isSecond
  obtain ⟨_, _, _, _⟩ := first
  obtain ⟨_, _, _, _⟩ := second
  simp only [upload.injEq, Option.some.injEq] at isSecond
  obtain ⟨rfl, rfl, rfl, rfl⟩ := isSecond
  rfl

end AttachmentRequest

/-! ### The order of the actions -/

section Order

/-- Reads, and making the upload directory. -/
def Action.isPreparing : Action → Bool
  | .statement (.select _) => true
  | .file (.mkdir _) => true
  | _ => false

/-- A request has done nothing yet that lasts. -/
def Prepares (events : List (Event Action World)) : Prop :=
  ∀ event ∈ events, event.op.isPreparing = true

variable [Postgres] (plan : ℕ → Option Breakdown) (uploadDir : String)

/-- A deletion has read the row of its attachment. -/
def HasFound (attachmentId : ℕ) (row : AttachmentRow) (events : List (Event Action World)) : Prop :=
  ∃ world, ⟨.statement (.select (.findAttachmentById attachmentId)), world⟩ ∈ events ∧
    world.db.attachments.get? attachmentId = some row

/-- A deletion has deleted its row, or found that it was gone. -/
def HasDeleted (attachmentId : ℕ) (events : List (Event Action World)) : Prop :=
  ∃ world rows, ⟨.statement (.command (.deleteAttachment attachmentId)), world⟩ ∈ events ∧
    (World.exec plan (.statement (.command (.deleteAttachment attachmentId))) world).1 = .ok rows

/-- What a request has done before an action. -/
inductive Follows (request : AttachmentRequest) (events : List (Event Action World)) :
    Action → Prop
  | select (read : Query) : Follows request events (.statement (.select read))
  | audit (entry : AuditInsert) :
      Follows request events (.statement (.command (.insertAudit entry)))
  | mkdir (path : Path) : Follows request events (.file (.mkdir path))
  | write {upload : Upload} (own : request.Is upload) (prepares : Prepares events) :
      Follows request events (upload.writeFile uploadDir)
  | insert {upload : Upload} {older : List (Event Action World)} {world : World}
      (own : request.Is upload) (last : events = ⟨upload.writeFile uploadDir, world⟩ :: older)
      (written : (World.exec plan (upload.writeFile uploadDir) world).1 = .ok ()) :
      Follows request events upload.insert
  | clean {upload : Upload} {older : List (Event Action World)} {world : World} {error : PgError}
      (own : request.Is upload) (last : events = ⟨upload.insert, world⟩ :: older)
      (failed : (World.exec plan upload.insert world).1 = .error error) :
      Follows request events (.file (.rm (upload.path uploadDir)))
  | delete {id : ℕ} {row : AttachmentRow} (own : request.Deletes id)
      (read : HasFound id row events) :
      Follows request events (.statement (.command (.deleteAttachment id)))
  | remove {id : ℕ} {row : AttachmentRow} (own : request.Deletes id) (read : HasFound id row events)
      (deleted : HasDeleted plan id events) :
      Follows request events (.file (.rm (Path.join uploadDir row.storageKey)))

variable {plan uploadDir} {β : Type} {sends : List (Event Action World) → Action → Prop}
  {ends : List (Event Action World) → Except Exception β → Prop}
  {events : List (Event Action World)}

/-- The outline of an operation on files and what follows it. -/
theorem outline_onDisk (op : FileOp) (next : Unit → FileService β) :
    (onDisk op >>= next).Outline (World.exec plan) sends ends events ↔
      sends events (.file op) ∧ ∀ world : World,
        match (World.exec plan (.file op) world).1 with
        | .ok _ => (next ()).Outline (World.exec plan) sends ends (⟨.file op, world⟩ :: events)
        | .error message => ends (⟨.file op, world⟩ :: events) (.error (.error message)) := by
  simp only [onDisk, Program.call_bind, Program.outline_call]
  refine and_congr Iff.rfl (forall_congr' fun world => ?_)
  cases (World.exec plan (.file op) world).1 <;> rfl

/-- The outline of a statement and what follows it. -/
theorem outline_lift_query (statement : Statement) (next : statement.Rows → FileService β) :
    (lift (query statement) >>= next).Outline (World.exec plan) sends ends events ↔
      sends events (.statement statement) ∧ ∀ world : World,
        match (World.exec plan (.statement statement) world).1 with
        | .ok rows => (next rows).Outline (World.exec plan) sends ends
            (⟨.statement statement, world⟩ :: events)
        | .error error =>
            ends (⟨.statement statement, world⟩ :: events) (.error (.database error)) := by
  show (Program.call (Action.statement statement) _).Outline _ _ _ _ ↔ _
  rw [Program.outline_call]
  refine and_congr Iff.rfl (forall_congr' fun world => ?_)
  generalize (World.exec plan (.statement statement) world).1 = answer
  cases answer <;> rfl

/-- The INSERT of a row: the file is removed when it fails. -/
theorem outline_insertRow (input : AttachmentInput) (path : Path)
    (next : AttachmentRow → FileService β) :
    (AttachmentFiles.insertRow input path >>= next).Outline (World.exec plan) sends ends events ↔
      sends events (.statement (.command (.createAttachment input))) ∧ ∀ world : World,
        match (World.exec plan (.statement (.command (.createAttachment input))) world).1 with
        | .ok row => (next row).Outline (World.exec plan) sends ends
            (⟨.statement (.command (.createAttachment input)), world⟩ :: events)
        | .error error =>
            (onDisk (.rm path) >>= fun _ => throw (.database error)).Outline (World.exec plan)
              sends ends
              (⟨.statement (.command (.createAttachment input)), world⟩ :: events) := by
  show (Program.call (Action.statement (.command (.createAttachment input))) _).Outline _ _ _ _ ↔ _
  rw [Program.outline_call]
  refine and_congr Iff.rfl (forall_congr' fun world => ?_)
  generalize (World.exec plan (.statement (.command (.createAttachment input))) world).1 = answer
  cases answer with
  | ok row => rfl
  | error error =>
      show ((onDisk (.rm path) >>= fun _ => throw (.database error)) >>= next).Outline _ _ _ _ ↔ _
      rw [Program.bind_assoc]
      rfl

/-- The statement of an audit entry. -/
def Action.IsAudit (action : Action) : Prop :=
  ∃ entry, action = .statement (.command (.insertAudit entry))

omit [Postgres] in
theorem log_only (entry : AuditInsert) : (lift (AuditService.log entry)).Only Action.IsAudit := by
  refine ⟨⟨entry, rfl⟩, fun answer => ?_⟩
  cases answer <;> trivial

/-- Audit entries are always allowed. -/
theorem outline_of_audits (request : AttachmentRequest) {p : FileService β}
    (only : p.Only Action.IsAudit) (events : List (Event Action World)) :
    p.Outline (World.exec plan) (Follows plan uploadDir request) (fun _ _ => True) events := by
  refine only.outline ?_ events
  rintro _ _ ⟨entry, rfl⟩
  exact .audit entry

/-- **The order of the actions** of an upload. -/
theorem upload_outline (upload : Upload) :
    (AttachmentFiles.upload uploadDir upload.ticketId (some upload.file) upload.uploaderId
        upload.uuid).Outline (World.exec plan)
      (Follows plan uploadDir (.upload upload.ticketId (some upload.file) upload.uploaderId
        upload.uuid)) (fun _ _ => True) [] := by
  unfold AttachmentFiles.upload
  simp only
  split_ifs with large supported
  · trivial
  · have reads : (lift (TicketsService.assertExistsAndGet upload.ticketId)).Only
        fun action => ∃ read, action = .statement (.select read) := by
      refine (TicketsService.getOrThrow_reads upload.ticketId).simulate ?_
      rintro _ ⟨read, rfl⟩
      exact ⟨⟨read, rfl⟩, fun _ => trivial⟩
    refine reads.outline_bind Prepares ?_ (fun event member => by cases member) ?_
      fun _ _ _ => trivial
    · rintro events _ prepares ⟨read, rfl⟩
      exact ⟨.select read, fun world => List.forall_mem_cons.mpr ⟨rfl, prepares⟩⟩
    · intro events ticket prepares
      rw [outline_onDisk]
      refine ⟨.mkdir _, fun first => ?_⟩
      -- A file operation that fails ends the upload before anything is inserted.
      cases (World.exec plan (.file (.mkdir _)) first).1 with
      | error message => trivial
      | ok _ =>
          have made : Prepares (⟨.file (.mkdir (Path.normalize uploadDir)), first⟩ :: events) :=
            List.forall_mem_cons.mpr ⟨rfl, prepares⟩
          simp only
          rw [outline_onDisk]
          have own : (AttachmentRequest.upload upload.ticketId (some upload.file) upload.uploaderId
              upload.uuid).Is upload := rfl
          refine ⟨.write own made, fun second => ?_⟩
          cases written : (World.exec plan (.file (.writeFile _ _)) second).1 with
          | error message => trivial
          | ok _ =>
              simp only
              rw [outline_insertRow]
              refine ⟨.insert own rfl written, fun third => ?_⟩
              cases inserted :
                (World.exec plan (.statement (.command (.createAttachment _))) third).1 with
              | ok row =>
                  refine outline_of_audits _ ((log_only _).bind ?_) _
                  exact fun _ => trivial
              | error error =>
                  -- The file is removed again when its row could not be inserted.
                  simp only
                  rw [outline_onDisk]
                  refine ⟨.clean own rfl inserted, fun _ => ?_⟩
                  split <;> trivial
  · trivial

/-- **The order of the actions** of a deletion. -/
theorem delete_outline (ticketId attachmentId performedBy : ℕ) :
    (AttachmentFiles.delete uploadDir ticketId attachmentId performedBy).Outline (World.exec plan)
      (Follows plan uploadDir (.delete ticketId attachmentId performedBy)) (fun _ _ => True)
      [] := by
  have deletes : (AttachmentRequest.delete ticketId attachmentId performedBy).Deletes
      attachmentId := ⟨ticketId, performedBy, rfl⟩
  unfold AttachmentFiles.delete
  refine (outline_lift_query (.select (.findAttachmentById attachmentId)) _).mpr
    ⟨.select _, fun first => ?_⟩
  cases read : (World.exec plan (.statement (.select (.findAttachmentById attachmentId))) first).1
    with
  | error error => trivial
  | ok found =>
      have stored : first.db.attachments.get? attachmentId = found :=
        Except.ok.inj (World.exec_statement_ok read)
      cases found with
      | none => trivial
      | some row =>
          simp only
          split_ifs with foreign
          · trivial
          · refine (outline_lift_query (.command (.deleteAttachment attachmentId)) _).mpr
              ⟨.delete deletes ⟨first, List.mem_singleton_self _, stored⟩, fun second => ?_⟩
            cases deleted : (World.exec plan
              (.statement (.command (.deleteAttachment attachmentId))) second).1 with
            | error error => trivial
            | ok rows =>
                -- The file is removed, and no failure of that is thrown.
                refine ⟨.remove deletes ?_ ?_, fun third => ?_⟩
                · exact ⟨first, by simp, stored⟩
                · exact ⟨second, rows, by simp, deleted⟩
                · generalize (World.exec plan (.file (.rm _)) third).1 = removed
                  cases removed <;> exact outline_of_audits _ (log_only _) _

/-- What each request does. -/
theorem AttachmentRequest.outline (request : AttachmentRequest) :
    (request.program uploadDir).Outline (World.exec plan) (Follows plan uploadDir request)
      (fun _ _ => True) [] := by
  cases request with
  | upload ticketId file uploaderId uuid =>
      rw [AttachmentRequest.program, Program.outline_map]
      cases file with
      | none => trivial
      | some file => exact upload_outline ⟨ticketId, file, uploaderId, uuid⟩
  | delete ticketId attachmentId performedBy =>
      rw [AttachmentRequest.program, Program.outline_map]
      exact delete_outline ticketId attachmentId performedBy

end Order

/-! ### The invariant -/

section Invariant

variable [Postgres] (plan : ℕ → Option Breakdown) (uploadDir : String) {ι : Type} [DecidableEq ι]

/-- Requests that run interleaved. -/
abbrev Running (ι : Type) : Type _ :=
  Config Action Action.Ans Exception (Option AttachmentResponse) World ι

variable (requests : ι → AttachmentRequest)

/-- A thread has inserted a row for its upload. -/
def InsertedBy (trace : List (ι × Event Action World)) (row : AttachmentRow) (thread : ι)
    (upload : Upload) (world : World) : Prop :=
  (requests thread).Is upload ∧ (thread, ⟨upload.insert, world⟩) ∈ trace ∧
    (World.exec plan upload.insert world).1 = .ok row

/-- A row that an upload has inserted. -/
def Inserted (trace : List (ι × Event Action World)) (row : AttachmentRow) : Prop :=
  ∃ thread upload world, InsertedBy plan requests trace row thread upload world

/-- **The invariant.** -/
structure Intact (c : Running ι) : Prop where
  /-- Every row comes from an upload. -/
  stored : ∀ row ∈ c.state.db.attachments.rows, Inserted plan requests c.trace row
  /-- So did every earlier row. -/
  past : ∀ entry ∈ c.trace, ∀ row ∈ entry.2.state.db.attachments.rows,
    Inserted plan requests c.trace row
  /-- Keys are drawn in order. -/
  next : ∀ entry ∈ c.trace,
    entry.2.state.db.attachments.next ≤ c.state.db.attachments.next
  /-- An upload is inserted once. -/
  once : ∀ thread upload first second, (thread, ⟨Upload.insert upload, first⟩) ∈ c.trace →
    (thread, ⟨upload.insert, second⟩) ∈ c.trace → first = second
  /-- The file of a row has the bytes that were uploaded. -/
  contents : ∀ row ∈ c.state.db.attachments.rows, ∀ thread upload world,
    InsertedBy plan requests c.trace row thread upload world →
      c.state.disk.files (upload.path uploadDir) = some upload.file.buffer
  /-- A file that was written and not inserted yet is there. -/
  written : ∀ thread upload world older, (requests thread).Is upload →
    c.history thread = ⟨upload.writeFile uploadDir, world⟩ :: older →
    (World.exec plan (upload.writeFile uploadDir) world).1 = .ok () →
      c.state.disk.files (upload.path uploadDir) = some upload.file.buffer ∧ Prepares older
  /-- A row that was deleted is gone for good. -/
  gone : ∀ thread id world deleted,
    (thread, ⟨.statement (.command (.deleteAttachment id)), world⟩) ∈ c.trace →
    (World.exec plan (.statement (.command (.deleteAttachment id))) world).1 = .ok deleted →
      id < c.state.db.attachments.next ∧ ∀ row ∈ c.state.db.attachments.rows, row.id ≠ id
  /-- Files are touched by those who own them. -/
  touched : ∀ thread event path, (thread, event) ∈ c.trace → event.op.target = some path →
    (∃ upload : Upload, (requests thread).Is upload ∧ path = upload.path uploadDir) ∨
      ∃ id row, (requests thread).Deletes id ∧ row.id = id ∧
        path = Path.join uploadDir row.storageKey ∧ Inserted plan requests c.trace row

variable {plan uploadDir requests}

/-! ### Rows -/

/-- The row of an upload that was inserted. -/
theorem Upload.row_of_inserted {upload : Upload} {world : World} {row : AttachmentRow}
    (inserted : (World.exec plan upload.insert world).1 = .ok row) :
    row.storageKey = upload.storageKey ∧ row.filename = upload.file.originalname := by
  have executed : (AttachmentsRepository.create upload.input world.db).1 = .ok row :=
    World.exec_statement_ok inserted
  rcases AttachmentsRepository.create_cases upload.input world.db with ⟨error, refused⟩ | created
  · rw [refused] at executed
    cases executed
  · rw [created] at executed
    obtain rfl := Except.ok.inj executed
    exact ⟨rfl, rfl⟩

/-- The table after the INSERT of an upload. -/
theorem Upload.insert_table (plan : ℕ → Option Breakdown) (upload : Upload) (world : World) :
    let after := (World.exec plan upload.insert world).2.db.attachments
    world.db.attachments.next ≤ after.next ∧
      ∀ row ∈ after.rows, row ∈ world.db.attachments.rows ∨
        row.id = world.db.attachments.next ∧ row.id < after.next ∧
          (World.exec plan upload.insert world).1 = .ok row := by
  intro after
  obtain ⟨error, broken⟩ | executed : _ ∨ _ := World.exec_statement_cases plan
    (.command (.createAttachment upload.input)) world
  · have table : after = world.db.attachments :=
      congrArg (fun outcome => outcome.2.db.attachments) broken
    rw [table]
    exact ⟨Nat.le_refl _, fun row member => .inl member⟩
  have created : World.exec plan upload.insert world =
      ((AttachmentsRepository.create upload.input world.db).1, { world with
        db := (AttachmentsRepository.create upload.input world.db).2
        sent := world.sent + 1 }) := executed
  obtain ⟨error, refused⟩ | added := AttachmentsRepository.create_cases upload.input world.db
  · -- An INSERT that is refused has drawn its key.
    rw [refused] at created
    have table : after = world.db.attachments.skip :=
      congrArg (fun outcome => outcome.2.db.attachments) created
    rw [table]
    exact ⟨Nat.le_succ _, fun row member => .inl member⟩
  · rw [added] at created
    have table : after = world.db.attachments.insert
        (AttachmentsRepository.createdRow upload.input world.db.now) fun _ => rfl :=
      congrArg (fun outcome => outcome.2.db.attachments) created
    rw [table]
    refine ⟨Nat.le_succ _, fun row member => ?_⟩
    rcases List.mem_append.mp member with old | new
    · exact .inl old
    · obtain rfl := List.mem_singleton.mp new
      exact .inr ⟨rfl, Nat.lt_succ_self _, congrArg Prod.fst created⟩

/-- The table after an action: keys are drawn, rows are removed, or the row of
the upload is added. -/
theorem Follows.table {request : AttachmentRequest} {events : List (Event Action World)}
    {op : Action} (follows : Follows plan uploadDir request events op) (world : World) :
    let after := (World.exec plan op world).2.db.attachments
    world.db.attachments.next ≤ after.next ∧
      ∀ row ∈ after.rows, row ∈ world.db.attachments.rows ∨
        row.id = world.db.attachments.next ∧ row.id < after.next ∧
          ∃ upload, request.Is upload ∧ op = upload.insert ∧
            (World.exec plan upload.insert world).1 = .ok row := by
  intro after
  -- Everything but the INSERT and the DELETE leaves the table.
  have same (unchanged : after = world.db.attachments) :
      world.db.attachments.next ≤ after.next ∧
        ∀ row ∈ after.rows, row ∈ world.db.attachments.rows ∨
          row.id = world.db.attachments.next ∧ row.id < after.next ∧
            ∃ upload, request.Is upload ∧ op = upload.insert ∧
              (World.exec plan upload.insert world).1 = .ok row := by
    rw [unchanged]
    exact ⟨Nat.le_refl _, fun row member => .inl member⟩
  cases follows with
  | select read =>
      refine same ?_
      rcases World.exec_statement_cases plan (.select read) world with
        ⟨error, broken⟩ | executed
      · exact congrArg (fun outcome => outcome.2.db.attachments) broken
      · exact congrArg (fun outcome => outcome.2.db.attachments) executed
  | audit entry =>
      refine same ?_
      rcases World.exec_statement_cases plan (.command (.insertAudit entry)) world with
        ⟨error, broken⟩ | executed
      · exact congrArg (fun outcome => outcome.2.db.attachments) broken
      · exact congrArg (fun outcome => outcome.2.db.attachments) executed
  | mkdir path => exact same (congrArg Db.attachments (World.exec_file_db _ world))
  | write own prepares => exact same (congrArg Db.attachments (World.exec_file_db _ world))
  | clean own last failed => exact same (congrArg Db.attachments (World.exec_file_db _ world))
  | remove own read deleted => exact same (congrArg Db.attachments (World.exec_file_db _ world))
  | insert own last succeeded =>
      obtain ⟨drawn, rows⟩ := Upload.insert_table plan _ world
      refine ⟨drawn, fun row member => (rows row member).imp_right ?_⟩
      rintro ⟨key, below, answered⟩
      exact ⟨key, below, _, own, rfl, answered⟩
  | @delete id row own read =>
      obtain ⟨error, broken⟩ | executed : _ ∨ _ := World.exec_statement_cases plan
        (.command (.deleteAttachment id)) world
      · exact same (congrArg (fun outcome => outcome.2.db.attachments) broken)
      · have table : after = world.db.attachments.remove fun row => row.id = id :=
          congrArg (fun outcome => outcome.2.db.attachments) executed
        rw [table]
        exact ⟨Nat.le_refl _, fun row member => .inl (List.mem_filter.mp member).1⟩

/-- After a deletion that has succeeded there is no row with its key. -/
theorem rows_of_deleted {id : ℕ} {world : World} {deleted : Bool}
    (succeeded :
      (World.exec plan (.statement (.command (.deleteAttachment id))) world).1 = .ok deleted) :
    ∀ row ∈ (World.exec plan (.statement (.command (.deleteAttachment id))) world
      ).2.db.attachments.rows, row.id ≠ id := by
  obtain ⟨error, broken⟩ | executed : _ ∨ _ := World.exec_statement_cases plan
    (.command (.deleteAttachment id)) world
  · rw [broken] at succeeded
    cases succeeded
  · rw [executed]
    intro row member
    simpa using (List.mem_filter.mp member).2

/-! ### Threads that have inserted -/

omit [DecidableEq ι] in
theorem Inserted.mono {trace later : List (ι × Event Action World)} {row : AttachmentRow}
    (inserted : Inserted plan requests trace row) (longer : trace ⊆ later) :
    Inserted plan requests later row := by
  obtain ⟨thread, upload, world, own, member, succeeded⟩ := inserted
  exact ⟨thread, upload, world, own, longer member, succeeded⟩

/-- No two requests have drawn the same UUID. -/
def FreshUuids (requests : ι → AttachmentRequest) : Prop :=
  ∀ first second uuid, (requests first).uuid = some uuid → (requests second).uuid = some uuid →
    first = second

omit [Postgres] [DecidableEq ι] in
/-- Uploads with the same storage key are the same. -/
theorem FreshUuids.same (fresh : FreshUuids requests) {first second : ι} {upload other : Upload}
    (own : (requests first).Is upload) (own' : (requests second).Is other)
    (key : upload.storageKey = other.storageKey) : first = second ∧ upload = other := by
  have same : first = second := by
    refine fresh first second upload.uuid ?_ ?_
    · rw [own]
      rfl
    · rw [own', Upload.uuid_of_storageKey key]
      rfl
  subst same
  exact ⟨rfl, own.eq own'⟩

/-- **A storage key belongs to one row.** -/
theorem Intact.unique {c : Running ι} (intact : Intact plan uploadDir requests c)
    (fresh : FreshUuids requests) {first second : AttachmentRow} {thread thread' : ι}
    {upload upload' : Upload} {world world' : World}
    (inserted : InsertedBy plan requests c.trace first thread upload world)
    (inserted' : InsertedBy plan requests c.trace second thread' upload' world')
    (key : upload.storageKey = upload'.storageKey) :
    thread = thread' ∧ upload = upload' ∧ world = world' ∧ first = second := by
  obtain ⟨own, member, succeeded⟩ := inserted
  obtain ⟨own', member', succeeded'⟩ := inserted'
  obtain ⟨rfl, rfl⟩ := fresh.same own own' key
  obtain rfl := intact.once thread upload world world' member member'
  rw [succeeded] at succeeded'
  exact ⟨rfl, rfl, rfl, Except.ok.inj succeeded'⟩

/-! ### One action -/

omit [Postgres] in
/-- A file that was written is not inserted yet, when nothing was done before. -/
theorem Prepares.insert_notMem {older : List (Event Action World)} (prepares : Prepares older)
    (upload other : Upload) (world written : World) :
    ⟨upload.insert, world⟩ ∉ (⟨other.writeFile uploadDir, written⟩ :: older : List _) := by
  intro member
  rcases List.mem_cons.mp member with same | earlier
  · cases same
  · cases prepares _ earlier

section Step

variable {c : Running ι} {thread other : ι} {op : Action}

/-- A row that was found is one that an upload has inserted. -/
theorem Intact.inserted_of_found (intact : Intact plan uploadDir requests c) {id : ℕ}
    {row : AttachmentRow} (found : HasFound id row (c.history thread)) :
    Inserted plan requests c.trace row ∧ row.id = id ∧ id < c.state.db.attachments.next := by
  obtain ⟨world, member, stored⟩ := found
  have entry := Config.mem_history.mp member
  obtain ⟨rowMember, key⟩ := Table.get?_eq_some_iff.mp stored
  exact ⟨intact.past _ entry row rowMember, key,
    (Table.lt_next_of_get? stored).trans_le (intact.next _ entry)⟩

/-- **The file of a stored row** is touched by no action. -/
theorem Intact.spares_stored (intact : Intact plan uploadDir requests c)
    (fresh : FreshUuids requests) (nonempty : uploadDir ≠ "")
    (follows : Follows plan uploadDir (requests thread) (c.history thread) op)
    {row : AttachmentRow} {upload : Upload} {world : World}
    (member : row ∈ c.state.db.attachments.rows)
    (inserted : InsertedBy plan requests c.trace row other upload world) :
    op.target ≠ some (upload.path uploadDir) := by
  intro touches
  cases follows with
  | select | audit | mkdir | insert | delete => cases touches
  | @write written own prepares =>
      -- An upload writes its file before its row is inserted.
      have key := Upload.storageKey_of_path nonempty (Option.some.inj touches)
      obtain ⟨rfl, rfl⟩ := fresh.same own inserted.1 key
      cases prepares _ (Config.mem_history.mpr inserted.2.1)
  | @clean cleaned older failing error own last failed =>
      -- An upload removes its file only when its row could not be inserted.
      have key := Upload.storageKey_of_path nonempty (Option.some.inj touches)
      obtain ⟨rfl, rfl⟩ := fresh.same own inserted.1 key
      have sent : (thread, ⟨cleaned.insert, failing⟩) ∈ c.trace := by
        rw [← Config.mem_history, last]
        exact List.mem_cons_self
      obtain rfl := intact.once thread cleaned failing world sent inserted.2.1
      rw [inserted.2.2] at failed
      cases failed
  | @remove id removed own found deleted =>
      -- A deletion removes the file of a row that is gone.
      obtain ⟨⟨thread', upload', world', inserted'⟩, rfl, -⟩ := intact.inserted_of_found found
      have path : upload'.path uploadDir = upload.path uploadDir := by
        rw [← Option.some.inj touches, Upload.path, (Upload.row_of_inserted inserted'.2.2).1]
      obtain ⟨-, -, -, rfl⟩ := intact.unique fresh inserted' inserted
        (Upload.storageKey_of_path nonempty path)
      obtain ⟨before, rows, sent, succeeded⟩ := deleted
      exact (intact.gone thread _ before rows (Config.mem_history.mp sent) succeeded).2 _ member rfl

/-- **A file that was written and not inserted yet** is touched by no other thread. -/
theorem Intact.spares_written (intact : Intact plan uploadDir requests c)
    (fresh : FreshUuids requests) (nonempty : uploadDir ≠ "")
    (follows : Follows plan uploadDir (requests thread) (c.history thread) op)
    (different : other ≠ thread) {upload : Upload} {world : World}
    {older : List (Event Action World)} (own : (requests other).Is upload)
    (last : c.history other = ⟨upload.writeFile uploadDir, world⟩ :: older)
    (prepares : Prepares older) : op.target ≠ some (upload.path uploadDir) := by
  intro touches
  cases follows with
  | select | audit | mkdir | insert | delete => cases touches
  | @write written own' =>
      have key := Upload.storageKey_of_path nonempty (Option.some.inj touches)
      exact different (fresh.same own' own key).1.symm
  | @clean cleaned older failing error own' =>
      have key := Upload.storageKey_of_path nonempty (Option.some.inj touches)
      exact different (fresh.same own' own key).1.symm
  | @remove id removed own' found deleted =>
      -- The row that was found was inserted by the upload itself.
      obtain ⟨⟨thread', upload', world', inserted⟩, -⟩ := intact.inserted_of_found found
      have path : upload'.path uploadDir = upload.path uploadDir := by
        rw [← Option.some.inj touches, Upload.path, (Upload.row_of_inserted inserted.2.2).1]
      obtain ⟨rfl, rfl⟩ := fresh.same inserted.1 own (Upload.storageKey_of_path nonempty path)
      have sent := Config.mem_history.mpr inserted.2.1
      rw [last] at sent
      exact prepares.insert_notMem _ _ _ _ sent

/-- An upload is inserted right after its file was written, so only once. -/
theorem Intact.insert_notMem (intact : Intact plan uploadDir requests c)
    (follows : Follows plan uploadDir (requests thread) (c.history thread) op) {upload : Upload}
    (same : op = upload.insert) (world : World) :
    (thread, ⟨upload.insert, world⟩) ∉ c.trace := by
  rw [← Config.mem_history]
  cases follows with
  | select | audit | mkdir | write | clean | delete | remove => cases same
  | insert own last written =>
      rw [last]
      exact (intact.written thread _ _ _ own last written).2.insert_notMem _ _ _ _

/-- When a row is inserted its file is there. -/
theorem Intact.file_of_insert (intact : Intact plan uploadDir requests c)
    (follows : Follows plan uploadDir (requests thread) (c.history thread) op) {upload : Upload}
    (own : (requests thread).Is upload) (same : op = upload.insert) :
    c.state.disk.files (upload.path uploadDir) = some upload.file.buffer := by
  cases follows with
  | select | audit | mkdir | write | clean | delete | remove => cases same
  | insert own' last written =>
      obtain rfl := own'.eq own
      exact (intact.written thread _ _ _ own last written).1

/-- A file is written before anything else is done. -/
theorem Follows.prepares {request : AttachmentRequest} {events : List (Event Action World)}
    (follows : Follows plan uploadDir request events op) {upload : Upload}
    (same : op = upload.writeFile uploadDir) : Prepares events := by
  cases follows with
  | select | audit | mkdir | insert | clean | delete | remove => cases same
  | write own prepares => exact prepares

/-- A row is deleted after it was found. -/
theorem Follows.found {request : AttachmentRequest} {events : List (Event Action World)}
    (follows : Follows plan uploadDir request events op) {id : ℕ}
    (same : op = .statement (.command (.deleteAttachment id))) :
    ∃ row, HasFound id row events := by
  cases follows with
  | select | audit | mkdir | write | insert | clean | remove => cases same
  | delete own found =>
      cases same
      exact ⟨_, found⟩

/-- Whose file an action touches. -/
theorem Intact.owner (intact : Intact plan uploadDir requests c)
    (follows : Follows plan uploadDir (requests thread) (c.history thread) op) {path : Path}
    (touches : op.target = some path) :
    (∃ upload : Upload, (requests thread).Is upload ∧ path = upload.path uploadDir) ∨
      ∃ id row, (requests thread).Deletes id ∧ row.id = id ∧
        path = Path.join uploadDir row.storageKey ∧ Inserted plan requests c.trace row := by
  cases follows with
  | select | audit | mkdir | insert | delete => cases touches
  | write own prepares => exact .inl ⟨_, own, (Option.some.inj touches).symm⟩
  | clean own last failed => exact .inl ⟨_, own, (Option.some.inj touches).symm⟩
  | remove own found deleted =>
      obtain ⟨inserted, key, -⟩ := intact.inserted_of_found found
      exact .inr ⟨_, _, own, key, (Option.some.inj touches).symm, inserted⟩

/-! ### The parts of the invariant after one action -/

/-- A row that is stored after an action comes from an upload, too. -/
theorem Intact.stored_send (intact : Intact plan uploadDir requests c)
    (follows : Follows plan uploadDir (requests thread) (c.history thread) op) :
    ∀ row ∈ (World.exec plan op c.state).2.db.attachments.rows,
      Inserted plan requests ((thread, ⟨op, c.state⟩) :: c.trace) row := by
  intro row member
  rcases (follows.table c.state).2 row member with old | ⟨-, -, upload, own, isInsert, succeeded⟩
  · exact (intact.stored row old).mono (List.subset_cons_self _ _)
  · exact ⟨thread, upload, c.state, own, isInsert ▸ List.mem_cons_self, succeeded⟩

theorem Intact.once_send (intact : Intact plan uploadDir requests c)
    (follows : Follows plan uploadDir (requests thread) (c.history thread) op) {upload : Upload}
    {first second : World}
    (member : (other, ⟨upload.insert, first⟩) ∈ (thread, ⟨op, c.state⟩) :: c.trace)
    (member' : (other, ⟨upload.insert, second⟩) ∈ (thread, ⟨op, c.state⟩) :: c.trace) :
    first = second := by
  rcases List.mem_cons.mp member with new | old <;>
    rcases List.mem_cons.mp member' with new' | old'
  · cases new
    cases new'
    rfl
  · obtain ⟨rfl, event⟩ := Prod.mk.inj new
    obtain ⟨same, -⟩ := Event.mk.inj event
    exact absurd old' (intact.insert_notMem follows same.symm second)
  · obtain ⟨rfl, event⟩ := Prod.mk.inj new'
    obtain ⟨same, -⟩ := Event.mk.inj event
    exact absurd old (intact.insert_notMem follows same.symm first)
  · exact intact.once other upload first second old old'

theorem Intact.contents_send (intact : Intact plan uploadDir requests c)
    (fresh : FreshUuids requests) (nonempty : uploadDir ≠ "")
    (follows : Follows plan uploadDir (requests thread) (c.history thread) op)
    {row : AttachmentRow} {upload : Upload} {world : World}
    (member : row ∈ (World.exec plan op c.state).2.db.attachments.rows)
    (inserted : InsertedBy plan requests ((thread, ⟨op, c.state⟩) :: c.trace) row other upload
      world) :
    (World.exec plan op c.state).2.disk.files (upload.path uploadDir) =
      some upload.file.buffer := by
  have stored := (Upload.row_of_inserted inserted.2.2).1
  rcases (follows.table c.state).2 row member with old | ⟨-, -, upload', own, isInsert, succeeded⟩
  · -- The file of an old row is not touched.
    obtain ⟨thread₀, upload₀, world₀, before⟩ := intact.stored row old
    have key : upload₀.storageKey = upload.storageKey :=
      (Upload.row_of_inserted before.2.2).1.symm.trans stored
    obtain ⟨rfl, rfl⟩ := fresh.same before.1 inserted.1 key
    have elsewhere := intact.spares_stored fresh nonempty follows old before
    exact (World.exec_elsewhere elsewhere c.state).trans (intact.contents row old _ _ _ before)
  · -- The file of the new row was written before.
    have key : upload'.storageKey = upload.storageKey :=
      (Upload.row_of_inserted succeeded).1.symm.trans stored
    obtain ⟨rfl, rfl⟩ := fresh.same own inserted.1 key
    have elsewhere : op.target ≠ some (upload'.path uploadDir) := by
      rw [isInsert]
      intro touches
      cases touches
    exact (World.exec_elsewhere elsewhere c.state).trans
      (intact.file_of_insert follows own isInsert)

theorem Intact.written_send (intact : Intact plan uploadDir requests c)
    (fresh : FreshUuids requests) (nonempty : uploadDir ≠ "")
    (follows : Follows plan uploadDir (requests thread) (c.history thread) op)
    {next : op.Ans → FileService (Option AttachmentResponse)} {upload : Upload} {world : World}
    {older : List (Event Action World)} (own : (requests other).Is upload)
    (last : (c.send (World.exec plan) thread op next).history other =
      ⟨upload.writeFile uploadDir, world⟩ :: older)
    (succeeded : (World.exec plan (upload.writeFile uploadDir) world).1 = .ok ()) :
    (World.exec plan op c.state).2.disk.files (upload.path uploadDir) =
      some upload.file.buffer ∧ Prepares older := by
  by_cases same : other = thread
  · -- The action is the one that has written the file.
    subst same
    rw [Config.send_history_self] at last
    obtain ⟨event, rfl⟩ := List.cons.inj last
    obtain ⟨isWrite, rfl⟩ := Event.mk.inj event
    have prepares := follows.prepares isWrite
    subst isWrite
    exact ⟨World.exec_writeFile_ok succeeded, prepares⟩
  · rw [Config.send_history_of_ne same] at last
    obtain ⟨there, prepares⟩ := intact.written other upload world older own last succeeded
    have elsewhere := intact.spares_written fresh nonempty follows same own last prepares
    exact ⟨(World.exec_elsewhere elsewhere c.state).trans there, prepares⟩

theorem Intact.gone_send (intact : Intact plan uploadDir requests c)
    (follows : Follows plan uploadDir (requests thread) (c.history thread) op) {id : ℕ}
    {world : World} {deleted : Bool}
    (member : (other, ⟨.statement (.command (.deleteAttachment id)), world⟩) ∈
      (thread, ⟨op, c.state⟩) :: c.trace)
    (succeeded :
      (World.exec plan (.statement (.command (.deleteAttachment id))) world).1 = .ok deleted) :
    id < (World.exec plan op c.state).2.db.attachments.next ∧
      ∀ row ∈ (World.exec plan op c.state).2.db.attachments.rows, row.id ≠ id := by
  obtain ⟨drawn, rows⟩ := follows.table c.state
  rcases List.mem_cons.mp member with new | old
  · obtain ⟨rfl, event⟩ := Prod.mk.inj new
    obtain ⟨isDelete, rfl⟩ := Event.mk.inj event
    obtain ⟨row, found⟩ := follows.found isDelete.symm
    obtain ⟨-, -, below⟩ := intact.inserted_of_found found
    subst isDelete
    exact ⟨below.trans_le drawn, rows_of_deleted succeeded⟩
  · -- A key that was drawn is not drawn again.
    obtain ⟨below, absent⟩ := intact.gone other id world deleted old succeeded
    refine ⟨below.trans_le drawn, fun row rowMember => ?_⟩
    rcases rows row rowMember with stays | ⟨key, -⟩
    · exact absent row stays
    · rw [key]
      exact Nat.ne_of_gt below

theorem Intact.touched_send (intact : Intact plan uploadDir requests c)
    (follows : Follows plan uploadDir (requests thread) (c.history thread) op)
    {event : Event Action World} {path : Path}
    (member : (other, event) ∈ (thread, ⟨op, c.state⟩) :: c.trace)
    (touches : event.op.target = some path) :
    (∃ upload : Upload, (requests other).Is upload ∧ path = upload.path uploadDir) ∨
      ∃ id row, (requests other).Deletes id ∧ row.id = id ∧
        path = Path.join uploadDir row.storageKey ∧
        Inserted plan requests ((thread, ⟨op, c.state⟩) :: c.trace) row := by
  have owned : (∃ upload : Upload, (requests other).Is upload ∧ path = upload.path uploadDir) ∨
      ∃ id row, (requests other).Deletes id ∧ row.id = id ∧
        path = Path.join uploadDir row.storageKey ∧ Inserted plan requests c.trace row := by
    rcases List.mem_cons.mp member with new | old
    · obtain ⟨rfl, rfl⟩ := Prod.mk.inj new
      exact intact.owner follows touches
    · exact intact.touched other event path old touches
  refine owned.imp_right ?_
  rintro ⟨id, row, own, key, same, inserted⟩
  exact ⟨id, row, own, key, same, inserted.mono (List.subset_cons_self _ _)⟩

/-- **Every action keeps the invariant.** -/
theorem Intact.send (intact : Intact plan uploadDir requests c) (fresh : FreshUuids requests)
    (nonempty : uploadDir ≠ "")
    (follows : Follows plan uploadDir (requests thread) (c.history thread) op)
    (next : op.Ans → FileService (Option AttachmentResponse)) :
    Intact plan uploadDir requests (c.send (World.exec plan) thread op next) where
  stored := intact.stored_send follows
  past entry member row rowMember := by
    rcases List.mem_cons.mp member with rfl | older
    · exact (intact.stored row rowMember).mono (List.subset_cons_self _ _)
    · exact (intact.past entry older row rowMember).mono (List.subset_cons_self _ _)
  next entry member := by
    have drawn := (follows.table c.state).1
    rcases List.mem_cons.mp member with rfl | older
    · exact drawn
    · exact (intact.next entry older).trans drawn
  once _ _ _ _ member member' := intact.once_send follows member member'
  contents _ member _ _ _ inserted :=
    intact.contents_send fresh nonempty follows member inserted
  written _ _ _ _ own last succeeded :=
    intact.written_send fresh nonempty follows own last succeeded
  gone _ _ _ _ member succeeded := intact.gone_send follows member succeeded
  touched _ _ _ member touches := intact.touched_send follows member touches

end Step

end Invariant

/-! ### Interleaved requests -/

section Interleaved

variable [Postgres] {ι : Type} [DecidableEq ι]

/-- What else goes on in the database: anything that leaves attachments alone. -/
structure Elsewhere where
  change : Db → Db
  keeps : ∀ db, (change db).attachments = db.attachments

def Elsewhere.apply (elsewhere : Elsewhere) (world : World) : World :=
  { world with db := elsewhere.change world.db }

/-- Requests of a system, before and after a schedule. -/
def Attaching.start (uploadDir : String) (world : World) (requests : ι → AttachmentRequest) :
    Running ι :=
  Config.start world fun thread => (requests thread).program uploadDir

@[inherit_doc Attaching.start]
def Attaching.run (plan : ℕ → Option Breakdown) (uploadDir : String) (world : World)
    (requests : ι → AttachmentRequest) (turns : List (Turn ι Elsewhere)) : Running ι :=
  (Attaching.start uploadDir world requests).play (World.exec plan) Elsewhere.apply turns

variable {plan : ℕ → Option Breakdown} {uploadDir : String} {requests : ι → AttachmentRequest}

/-- Nothing is stored and nothing was done. -/
theorem Intact.start {world : World} (none : world.db.attachments.rows = []) :
    Intact plan uploadDir requests (Attaching.start uploadDir world requests) where
  stored row member := by
    have nothing : row ∈ world.db.attachments.rows := member
    rw [none] at nothing
    cases nothing
  past entry member := by cases member
  next entry member := by cases member
  once thread upload first second member := by cases member
  contents row member := by
    have nothing : row ∈ world.db.attachments.rows := member
    rw [none] at nothing
    cases nothing
  written thread upload world older own last := by cases last
  gone thread id world deleted member := by cases member
  touched thread event path member := by cases member

/-- What goes on elsewhere keeps the invariant. -/
theorem Intact.change {c : Running ι} (intact : Intact plan uploadDir requests c)
    (elsewhere : Elsewhere) :
    Intact plan uploadDir requests { c with state := elsewhere.apply c.state } := by
  have same : (elsewhere.apply c.state).db.attachments = c.state.db.attachments :=
    elsewhere.keeps c.state.db
  obtain ⟨stored, past, next, once, contents, written, gone, touched⟩ := intact
  rw [← same] at stored next contents gone
  exact ⟨stored, past, next, once, contents, written, gone, touched⟩

theorem intact_run (fresh : FreshUuids requests) (nonempty : uploadDir ≠ "") {world : World}
    (none : world.db.attachments.rows = []) (turns : List (Turn ι Elsewhere)) :
    Intact plan uploadDir requests (Attaching.run plan uploadDir world requests turns) := by
  have outlined : (Attaching.start uploadDir world requests).Outlined (World.exec plan)
      (fun thread => Follows plan uploadDir (requests thread)) fun _ _ _ => True :=
    fun thread => (requests thread).outline
  refine outlined.play_invariant (Intact plan uploadDir requests) (.start none) ?_ ?_ turns
  · intro c thread op next intact _ follows
    exact intact.send fresh nonempty follows next
  · intro c elsewhere intact
    exact intact.change elsewhere

/-- A request is about an attachment: it has uploaded it, or deletes it. -/
def AttachmentRequest.Owns (request : AttachmentRequest) (row : AttachmentRow) : Prop :=
  (∃ upload : Upload, request.Is upload ∧ row.storageKey = upload.storageKey) ∨
    request.Deletes row.id

/-- A row that is stored, or was when something was done. -/
def EverStored (c : Running ι) (row : AttachmentRow) : Prop :=
  row ∈ c.state.db.attachments.rows ∨
    ∃ entry ∈ c.trace, row ∈ entry.2.state.db.attachments.rows

/-- **Attachments never dangle.** In every interleaving of uploads and deletions,
whatever breaks down, every stored row has its file in the upload directory with
the bytes that were uploaded; every file that is written or removed is a direct
child of this directory; and if it belongs to an attachment, it belongs to the
one the request is about. -/
theorem attachments_never_dangle (configured : Option String) (world : World)
    (none : world.db.attachments.rows = []) (requests : ι → AttachmentRequest)
    (fresh : FreshUuids requests) (plan : ℕ → Option Breakdown)
    (turns : List (Turn ι Elsewhere)) :
    let uploadDir := AttachmentFiles.uploadDir configured
    let c := Attaching.run plan uploadDir world requests turns
    (∀ row ∈ c.state.db.attachments.rows, ∃ thread upload, (requests thread).Is upload ∧
        row.storageKey = upload.storageKey ∧ row.filename = upload.file.originalname ∧
        c.state.disk.files (Path.join uploadDir row.storageKey) = some upload.file.buffer) ∧
      ∀ thread event path, (thread, event) ∈ c.trace → event.op.target = some path →
        (∃ name, Path.IsFileName name ∧ path = (Path.normalize uploadDir).child name) ∧
          ∀ row, EverStored c row → Path.join uploadDir row.storageKey = path →
            (requests thread).Owns row := by
  intro uploadDir c
  have nonempty : uploadDir ≠ "" := AttachmentFiles.uploadDir_ne configured
  have intact : Intact plan uploadDir requests c := intact_run fresh nonempty none turns
  -- The file of a row is the file of its upload.
  have file {row : AttachmentRow} {thread : ι} {upload : Upload} {before : World}
      (inserted : InsertedBy plan requests c.trace row thread upload before) :
      Path.join uploadDir row.storageKey = upload.path uploadDir := by
    rw [(Upload.row_of_inserted inserted.2.2).1, Upload.path]
  constructor
  · intro row member
    obtain ⟨thread, upload, before, inserted⟩ := intact.stored row member
    obtain ⟨key, filename⟩ := Upload.row_of_inserted inserted.2.2
    refine ⟨thread, upload, inserted.1, key, filename, ?_⟩
    rw [file inserted]
    exact intact.contents row member thread upload before inserted
  · intro thread event path member touches
    have owner := intact.touched thread event path member touches
    constructor
    · rcases owner with ⟨upload, -, rfl⟩ | ⟨id, row, -, -, rfl, thread', upload, before, inserted⟩
      · exact ⟨upload.storageKey, upload.isFileName, upload.path_eq nonempty⟩
      · refine ⟨upload.storageKey, upload.isFileName, ?_⟩
        rw [file inserted, upload.path_eq nonempty]
    · intro row ever same
      have source : Inserted plan requests c.trace row := by
        rcases ever with now | ⟨entry, entryMember, then'⟩
        · exact intact.stored row now
        · exact intact.past entry entryMember row then'
      obtain ⟨thread', upload', before', inserted'⟩ := source
      rw [file inserted'] at same
      obtain ⟨upload, own, rfl⟩ | ⟨id, row', own, rfl, rfl, thread'', upload, before, inserted⟩ :=
        owner
      · have key := Upload.storageKey_of_path nonempty same
        exact .inl ⟨upload, own, (Upload.row_of_inserted inserted'.2.2).1.trans key⟩
      · rw [file inserted] at same
        obtain ⟨-, -, -, rfl⟩ := intact.unique fresh inserted' inserted
          (Upload.storageKey_of_path nonempty same)
        exact .inr own

end Interleaved

/-! ### An upload and a deletion -/

namespace Sample

def report : MulterFile := ⟨⟨"../../etc/report.pdf", "application/pdf", 3⟩, [1, 2, 3]⟩

def uuid : Uuid where
  text := "00000000-0000-4000-8000-000000000000"
  length := by
    rw [← String.length_toList]
    simp
  digits := by simp

/-- An upload, and a deletion of the attachment it stores. -/
def uploadAndDelete : Bool → AttachmentRequest
  | true => .upload 1 (some report) 1 uuid
  | false => .delete 1 1 1

theorem freshUuids_uploadAndDelete : FreshUuids uploadAndDelete := by
  intro first second uuid drawn drawn'
  cases first with
  | false => cases drawn
  | true =>
      cases second with
      | false => cases drawn'
      | true => rfl

/-- The upload stores its row, and the deletion finds it. -/
def untilFound : List (Turn Bool Elsewhere) :=
  [.call true, .call true, .call true, .call true, .call false, .call true]

/-- A database with tickets, and an empty disk. -/
def emptyDisk : World := ⟨twoTickets, ⟨[], fun _ => none⟩, 0⟩

end Sample

open Sample in
theorem uploadAndDelete_intact :
    let uploadDir := AttachmentFiles.uploadDir (some " ")
    let c := Attaching.run (fun _ => none) uploadDir emptyDisk uploadAndDelete untilFound
    c.state.db.attachments.rows.map (·.storageKey) =
        ["00000000-0000-4000-8000-000000000000.pdf"] ∧
      (∀ row ∈ c.state.db.attachments.rows, ∃ thread upload, (uploadAndDelete thread).Is upload ∧
        row.storageKey = upload.storageKey ∧ row.filename = upload.file.originalname ∧
        c.state.disk.files (Path.join uploadDir row.storageKey) = some upload.file.buffer) ∧
      ∀ thread event path, (thread, event) ∈ c.trace → event.op.target = some path →
        (∃ name, Path.IsFileName name ∧ path = (Path.normalize uploadDir).child name) ∧
          ∀ row, EverStored c row → Path.join uploadDir row.storageKey = path →
            (uploadAndDelete thread).Owns row :=
  ⟨by decide +kernel, attachments_never_dangle (some " ") emptyDisk (by decide +kernel)
    uploadAndDelete freshUuids_uploadAndDelete (fun _ => none) untilFound⟩

end IssueFlow
