import IssueFlow.Properties.AttachmentFiles
import IssueFlow.Semantics.Faults

/-!
# What a failed upload leaves behind

An upload writes its file before it inserts the row, and removes the file again
when the INSERT fails. A write that breaks down is not cleaned up after: what it
has created of its file stays. In every other case a failed upload leaves the
files and the attachments as they were.

## Main definitions

* `Disk.names` — the files of a directory
* `UploadStep`, `failingAt` — the step of an upload that fails
* `ReachesWrite`, `WriteFails` — an upload whose file is written, and whose write breaks down

## Main results

* `Upload.run_cases` — how an upload ends when it is processed alone
* `failed_upload_leaves_nothing_iff` — when a failed upload leaves nothing behind
-/

namespace IssueFlow

open Store Semantics JavaScript

/-- The names of the files in a directory. -/
def Disk.names (disk : Disk) (directory : Path) : Set String :=
  {name | (disk.files (directory.child name)).isSome}

/-! ### The failing step -/

/-- The steps of an upload behind its validation that can fail. -/
inductive UploadStep
  | lookup
  | mkdir
  | writeFile
  | insert
  deriving DecidableEq, Repr

/-- Each step is one action. -/
def UploadStep.position : UploadStep → ℕ
  | lookup => 0
  | mkdir => 1
  | writeFile => 2
  | insert => 3

/-- One step breaks down, or none does. -/
def failingAt (failure : Option (UploadStep × Breakdown)) (position : ℕ) : Option Breakdown :=
  failure.bind fun failing => if position = failing.1.position then some failing.2 else none

/-- The removal of the file, the fifth action, does not break down. -/
theorem failingAt_four (failure : Option (UploadStep × Breakdown)) :
    failingAt failure 4 = none := by
  cases failure with
  | none => rfl
  | some failing =>
      obtain ⟨step, breakdown⟩ := failing
      cases step <;> rfl

theorem failingAt_two {failure : Option (UploadStep × Breakdown)} {breakdown : Breakdown} :
    failingAt failure 2 = some breakdown ↔ failure = some (.writeFile, breakdown) := by
  cases failure with
  | none => simp [failingAt]
  | some failing =>
      obtain ⟨step, failed⟩ := failing
      cases step <;> simp [failingAt, UploadStep.position]

/-- An upload gets as far as its write: the file is valid, the ticket is there,
and no file is in the way of the upload directory. -/
structure ReachesWrite (uploadDir : String) (upload : Upload) (db : Db) (disk : Disk) : Prop where
  size : upload.file.size ≤ AttachmentsService.MAX_BYTES
  mimetype : upload.file.mimetype ∈ AttachmentsService.ALLOWED_MIME
  ticket : (TicketsRepository.findById upload.ticketId db).isSome
  directory : ∀ above ∈ (Path.normalize uploadDir).ancestors, disk.files above = none

/-- The write of the file is reached and breaks down. -/
def WriteFails (uploadDir : String) (upload : Upload) (db : Db) (disk : Disk)
    (failure : Option (UploadStep × Breakdown)) (breakdown : Breakdown) : Prop :=
  ReachesWrite uploadDir upload db disk ∧ failure = some (.writeFile, breakdown)

theorem not_writeFails_of_spared {uploadDir : String} {upload : Upload} {db : Db} {disk : Disk}
    {failure : Option (UploadStep × Breakdown)} (spared : failingAt failure 2 = none)
    (breakdown : Breakdown) : ¬ WriteFails uploadDir upload db disk failure breakdown := by
  intro fails
  rw [failingAt_two.mpr fails.2] at spared
  cases spared

/-! ### The steps, processed alone -/

section Run

variable [Postgres] (plan : ℕ → Option Breakdown) {β : Type} (db : Db) (disk : Disk) (sent : ℕ)

/-- A statement and what follows it. -/
theorem run_lift_query (statement : Statement) (next : statement.Rows → FileService β) :
    (lift (query statement) >>= next).run (World.exec plan) ⟨db, disk, sent⟩ =
      match plan sent with
      | some breakdown => (.error (.database breakdown.error), ⟨db, disk, sent + 1⟩)
      | none =>
          match exec statement db with
          | (.ok rows, after) => (next rows).run (World.exec plan) ⟨after, disk, sent + 1⟩
          | (.error error, after) => (.error (.database error), ⟨after, disk, sent + 1⟩) := by
  show (Program.call (Action.statement statement) _).run _ _ = _
  rw [Program.run_call, World.exec]
  cases plan sent with
  | some breakdown => rfl
  | none =>
      simp only
      generalize exec statement db = executed
      obtain ⟨answer, after⟩ := executed
      cases answer <;> rfl

/-- An operation on files and what follows it. -/
theorem run_onDisk (op : FileOp) (next : Unit → FileService β) :
    (onDisk op >>= next).run (World.exec plan) ⟨db, disk, sent⟩ =
      match plan sent with
      | some breakdown =>
          (.error (.error breakdown.message), ⟨db, op.breakDown breakdown.left disk, sent + 1⟩)
      | none =>
          match op.perform disk with
          | (.ok _, after) => (next ()).run (World.exec plan) ⟨db, after, sent + 1⟩
          | (.error message, after) => (.error (.error message), ⟨db, after, sent + 1⟩) := by
  rw [onDisk, Program.call_bind, Program.run_call, World.exec]
  cases plan sent with
  | some breakdown => rfl
  | none =>
      simp only
      generalize op.perform disk = performed
      obtain ⟨answer, after⟩ := performed
      cases answer <;> rfl

/-- The ticket is read: the upload goes on, or it ends and has changed nothing. -/
theorem run_lookup_cases (ticketId : ℕ) (next : TicketRow → FileService β) :
    (∃ exception, (lift (TicketsService.assertExistsAndGet ticketId) >>= next).run
        (World.exec plan) ⟨db, disk, sent⟩ = (.error exception, ⟨db, disk, sent + 1⟩) ∧
        (plan sent = none → TicketsRepository.findById ticketId db = none)) ∨
      ∃ row, plan sent = none ∧ TicketsRepository.findById ticketId db = some row ∧
        (lift (TicketsService.assertExistsAndGet ticketId) >>= next).run
          (World.exec plan) ⟨db, disk, sent⟩ =
            (next row).run (World.exec plan) ⟨db, disk, sent + 1⟩ := by
  rw [TicketsService.assertExistsAndGet, TicketsService.getOrThrow, lift, Program.simulate_bind,
    Program.bind_assoc]
  change (∃ exception, (lift (query (.select (.findTicketById ticketId))) >>= _).run _ _ = _ ∧ _) ∨
    ∃ row, _ ∧ _ ∧ (lift (query (.select (.findTicketById ticketId))) >>= _).run _ _ = _
  rw [run_lift_query, exec_select, Query.eval]
  cases plan sent with
  | some breakdown => exact .inl ⟨_, rfl, fun planned => by cases planned⟩
  | none =>
      cases found : TicketsRepository.findById ticketId db with
      | none => exact .inl ⟨_, rfl, fun _ => rfl⟩
      | some row => exact .inr ⟨row, rfl, rfl, rfl⟩

/-- The upload directory is made. -/
theorem run_mkdir_cases (path : Path) (next : Unit → FileService β) :
    (∃ exception, (onDisk (.mkdir path) >>= next).run (World.exec plan) ⟨db, disk, sent⟩ =
        (.error exception, ⟨db, disk, sent + 1⟩) ∧
        (plan sent = none → ∃ above ∈ path.ancestors, disk.files above ≠ none)) ∨
      ∃ directories, plan sent = none ∧ (∀ above ∈ path.ancestors, disk.files above = none) ∧
        (onDisk (.mkdir path) >>= next).run (World.exec plan) ⟨db, disk, sent⟩ =
          (next ()).run (World.exec plan) ⟨db, ⟨directories, disk.files⟩, sent + 1⟩ := by
  rw [run_onDisk, FileOp.perform]
  cases plan sent with
  | some breakdown => exact .inl ⟨_, rfl, fun planned => by cases planned⟩
  | none =>
      split_ifs with blocked
      · left
        refine ⟨_, rfl, fun _ => ?_⟩
        obtain ⟨above, member, file⟩ := List.any_eq_true.mp blocked
        exact ⟨above, member, Option.ne_none_iff_isSome.mpr file⟩
      · right
        refine ⟨_, rfl, fun above member => ?_, rfl⟩
        by_contra file
        exact blocked (List.any_eq_true.mpr ⟨above, member, Option.ne_none_iff_isSome.mp file⟩)

/-- The file is written: a write that breaks down is the one that ends the upload
and leaves something. -/
theorem run_writeFile_cases (path : Path) (data : Bytes) (next : Unit → FileService β) :
    (∃ exception breakdown, plan sent = some breakdown ∧
        (onDisk (.writeFile path data) >>= next).run (World.exec plan) ⟨db, disk, sent⟩ =
          (.error exception, ⟨db, disk.set path breakdown.left, sent + 1⟩)) ∨
      (∃ exception, plan sent = none ∧
        (onDisk (.writeFile path data) >>= next).run (World.exec plan) ⟨db, disk, sent⟩ =
          (.error exception, ⟨db, disk, sent + 1⟩)) ∨
      plan sent = none ∧ path ∉ disk.directories ∧
        (onDisk (.writeFile path data) >>= next).run (World.exec plan) ⟨db, disk, sent⟩ =
          (next ()).run (World.exec plan) ⟨db, disk.set path (some data), sent + 1⟩ := by
  rw [run_onDisk, FileOp.perform]
  cases plan sent with
  | some breakdown => exact .inl ⟨_, breakdown, rfl, rfl⟩
  | none =>
      right
      split_ifs with taken inside
      · exact .inl ⟨_, rfl, rfl⟩
      · exact .inr ⟨rfl, taken, rfl⟩
      · exact .inl ⟨_, rfl, rfl⟩

/-- The row is inserted, or the file is removed again and the rows are as before. -/
theorem run_insertRow_cases (input : AttachmentInput) {path : Path}
    (apart : path ∉ disk.directories) (spared : plan (sent + 1) = none)
    (next : AttachmentRow → FileService β) :
    (∃ exception after, (AttachmentFiles.insertRow input path >>= next).run (World.exec plan)
        ⟨db, disk, sent⟩ = (.error exception, ⟨after, disk.set path none, sent + 2⟩) ∧
        after.attachments.rows = db.attachments.rows) ∨
      ∃ row world, (AttachmentFiles.insertRow input path >>= next).run (World.exec plan)
        ⟨db, disk, sent⟩ = (next row).run (World.exec plan) world := by
  -- Either way the INSERT fails, the handler removes the file and throws again.
  have removed (error : PgError) (after : Db) :
      ((onDisk (.rm path) >>= fun _ => throw (.database error)) >>= next).run (World.exec plan)
        ⟨after, disk, sent + 1⟩ =
          (.error (.database error), ⟨after, disk.set path none, sent + 2⟩) := by
    rw [Program.bind_assoc, run_onDisk, spared, FileOp.perform, if_neg apart]
    rfl
  show (∃ exception after, (Program.call (Action.statement (.command (.createAttachment input)))
    _).run _ _ = _ ∧ _) ∨ ∃ row world, (Program.call _ _).run _ _ = _
  rw [Program.run_call, World.exec]
  cases plan sent with
  | some breakdown => exact .inl ⟨_, db, removed breakdown.error db, rfl⟩
  | none =>
      simp only
      have executed : exec (.command (.createAttachment input)) db =
        AttachmentsRepository.create input db := rfl
      rw [executed]
      rcases AttachmentsRepository.create_cases input db with ⟨error, refused⟩ | created
      · rw [refused]
        exact .inl ⟨_, _, removed error _, rfl⟩
      · rw [created]
        exact .inr ⟨_, _, rfl⟩

/-- The files and the attachments are as before. -/
def World.SameFiles (before after : World) : Prop :=
  after.disk.files = before.disk.files ∧
    after.db.attachments.rows = before.db.attachments.rows

/-- **How an upload ends** when it is processed alone: it is refused and has
changed nothing, its write breaks down, or it is stored. -/
theorem Upload.run_cases {uploadDir : String} {upload : Upload}
    (absent : disk.files (upload.path uploadDir) = none)
    (failure : Option (UploadStep × Breakdown)) :
    let ran := (AttachmentFiles.upload uploadDir upload.ticketId (some upload.file)
      upload.uploaderId upload.uuid).run (World.exec (failingAt failure)) ⟨db, disk, 0⟩
    (∃ exception after, ran = (.error exception, after) ∧ World.SameFiles ⟨db, disk, 0⟩ after ∧
        ∀ breakdown, ¬ WriteFails uploadDir upload db disk failure breakdown) ∨
      (∃ exception breakdown after, ran = (.error exception, after) ∧
        WriteFails uploadDir upload db disk failure breakdown ∧ after.db = db ∧
        after.disk.files = Function.update disk.files (upload.path uploadDir) breakdown.left) ∨
      ∃ response after, ran = (.ok response, after) ∧
        ∀ breakdown, ¬ WriteFails uploadDir upload db disk failure breakdown := by
  intro ran
  have started : ran = (AttachmentFiles.upload uploadDir upload.ticketId (some upload.file)
      upload.uploaderId upload.uuid).run (World.exec (failingAt failure)) ⟨db, disk, 0⟩ := rfl
  clear_value ran
  rw [AttachmentFiles.upload] at started
  simp only at started
  split_ifs at started with large supported
  · exact .inl ⟨_, _, started, ⟨rfl, rfl⟩, fun _ fails => absurd large fails.1.size.not_gt⟩
  · rcases run_lookup_cases (failingAt failure) db disk 0 upload.ticketId _ with
      ⟨exception, missed, unfound⟩ | ⟨row, -, found, read⟩
    · -- The ticket is not there, or it was the lookup that has failed.
      refine .inl ⟨exception, _, started.trans missed, ⟨rfl, rfl⟩, fun breakdown fails => ?_⟩
      have there := fails.1.ticket
      rw [unfound (by rw [fails.2]; rfl)] at there
      cases there
    rcases run_mkdir_cases (failingAt failure) db disk 1 (Path.normalize uploadDir) _ with
      ⟨exception, missed, blocked⟩ | ⟨directories, -, free, made⟩
    · refine .inl ⟨exception, _, started.trans (read.trans missed), ⟨rfl, rfl⟩,
        fun breakdown fails => ?_⟩
      obtain ⟨above, member, file⟩ := blocked (by rw [fails.2]; rfl)
      exact file (fails.1.directory above member)
    have reaches : ReachesWrite uploadDir upload db disk := by
      refine ⟨not_lt.mp large, supported, ?_, free⟩
      rw [found]
      rfl
    have reached := started.trans (read.trans made)
    rcases run_writeFile_cases (failingAt failure) db ⟨directories, disk.files⟩ 2
        (upload.path uploadDir) upload.file.buffer _ with
      ⟨exception, breakdown, planned, broken⟩ | ⟨exception, spared, missed⟩ |
        ⟨spared, apart, written⟩
    · exact .inr (.inl ⟨exception, breakdown, _, reached.trans broken,
        ⟨reaches, failingAt_two.mp planned⟩, rfl, rfl⟩)
    · exact .inl ⟨exception, _, reached.trans missed, ⟨rfl, rfl⟩,
        not_writeFails_of_spared spared⟩
    rcases run_insertRow_cases (failingAt failure) db ((Disk.mk directories disk.files).set
        (upload.path uploadDir) (some upload.file.buffer)) 3 upload.input apart
        (failingAt_four failure) _ with
      ⟨exception, after, missed, rows⟩ | ⟨row, world, inserted⟩
    · refine .inl ⟨exception, _, reached.trans (written.trans missed), ⟨?_, rows⟩,
        not_writeFails_of_spared spared⟩
      -- The file is removed again, so that it is missing as before.
      show Function.update (Function.update disk.files _ _) _ none = disk.files
      rw [Function.update_idem, ← absent, Function.update_eq_self]
    · -- A failing audit entry is swallowed.
      have returns (entry : AuditInsert) (response : AttachmentResponse) :
          (lift (AuditService.log entry) >>= fun _ => pure response).Returns :=
        fun answer => by cases answer <;> rfl
      obtain ⟨response, after, answered⟩ :=
        (returns _ (toAttachmentResponse row)).run (World.exec (failingAt failure)) world
      exact .inr (.inr ⟨response, after,
        reached.trans (written.trans (inserted.trans answered)),
        not_writeFails_of_spared spared⟩)
  · exact .inl ⟨_, _, started, ⟨rfl, rfl⟩, fun _ fails => supported fails.1.mimetype⟩

omit [Postgres] in
/-- A UUID that begins no file name of the directory is the name of no file. -/
theorem Upload.absent {uploadDir : String} (nonempty : uploadDir ≠ "") {upload : Upload}
    (fresh : ∀ name ∈ disk.names (Path.normalize uploadDir),
      ¬ upload.uuid.text.toList <+: name.toList) :
    disk.files (upload.path uploadDir) = none := by
  by_contra stored
  refine fresh upload.storageKey ?_ ?_
  · rw [path_eq nonempty] at stored
    exact Option.ne_none_iff_isSome.mp stored
  · rw [toList_storageKey]
    exact List.prefix_append ..

/-- **What a failed upload leaves behind.** An upload is processed alone, and a
step of it fails. The files of the upload directory and the attachments are as
before, exactly unless it is the write of the file that has failed and left a
part of it. -/
theorem failed_upload_leaves_nothing_iff (configured : Option String) (db : Db) (disk : Disk)
    (ticketId : ℕ) (file : Option MulterFile) (uploaderId : ℕ) (uuid : Uuid)
    (fresh : ∀ name ∈ disk.names (Path.normalize (AttachmentFiles.uploadDir configured)),
      ¬ uuid.text.toList <+: name.toList)
    (failure : Option (UploadStep × Breakdown)) :
    let uploadDir := AttachmentFiles.uploadDir configured
    let directory := Path.normalize uploadDir
    let ran := (AttachmentFiles.upload uploadDir ticketId file uploaderId uuid).run
      (World.exec (failingAt failure)) ⟨db, disk, 0⟩
    (∀ exception, ran.1 = .error exception →
        ran.2.disk.names directory = disk.names directory ∧
          ran.2.db.attachments.rows = db.attachments.rows) ↔
      ¬ ∃ sent breakdown, file = some sent ∧ breakdown.left.isSome ∧
        WriteFails uploadDir ⟨ticketId, sent, uploaderId, uuid⟩ db disk failure breakdown := by
  intro uploadDir directory ran
  have nonempty : uploadDir ≠ "" := AttachmentFiles.uploadDir_ne configured
  cases file with
  | none =>
      refine iff_of_true (fun exception _ => ⟨rfl, rfl⟩) ?_
      rintro ⟨sent, breakdown, missing, -⟩
      cases missing
  | some sent =>
      let upload : Upload := ⟨ticketId, sent, uploaderId, uuid⟩
      have absent : disk.files (upload.path uploadDir) = none := Upload.absent disk nonempty fresh
      have ends : (∃ exception after, ran = (.error exception, after) ∧ _) ∨
          (∃ exception breakdown after, ran = (.error exception, after) ∧ _) ∨
            ∃ response after, ran = (.ok response, after) ∧ _ :=
        Upload.run_cases db disk absent failure
      rcases ends with ⟨exception, after, ended, same, spared⟩ |
        ⟨exception, breakdown, after, ended, fails, stored, files⟩ |
          ⟨response, after, ended, spared⟩
      · rw [ended]
        refine iff_of_true (fun _ _ => ⟨?_, same.2⟩) ?_
        · simp only [Disk.names, same.1]
        · rintro ⟨_, breakdown, equal, -, fails⟩
          obtain rfl := Option.some.inj equal
          exact spared breakdown fails
      · rw [ended]
        cases part : breakdown.left with
        | none =>
            -- Nothing was created of the file.
            rw [part, ← absent, Function.update_eq_self] at files
            refine iff_of_true (fun _ _ => ⟨?_, by rw [stored]⟩) ?_
            · simp only [Disk.names, files]
            · rintro ⟨_, other, equal, left, fails'⟩
              obtain rfl := Option.some.inj equal
              obtain ⟨-, rfl⟩ := Prod.mk.inj (Option.some.inj (fails.2.symm.trans fails'.2))
              rw [part] at left
              cases left
        | some bytes =>
            refine iff_of_false (fun unchanged => ?_) ?_
            · have created : upload.storageKey ∈ after.disk.names directory := by
                show (after.disk.files (directory.child upload.storageKey)).isSome
                rw [files, upload.path_eq nonempty, Function.update_self, part]
                rfl
              rw [(unchanged exception rfl).1] at created
              have stored : (disk.files (directory.child upload.storageKey)).isSome := created
              rw [← upload.path_eq nonempty, absent] at stored
              cases stored
            · exact not_not.mpr ⟨sent, breakdown, rfl, by rw [part]; rfl, fails⟩
      · rw [ended]
        refine iff_of_true (fun _ rejected => by cases rejected) ?_
        rintro ⟨_, breakdown, equal, -, fails⟩
        obtain rfl := Option.some.inj equal
        exact spared breakdown fails

end Run

/-! ### A full disk, and a failed INSERT -/

namespace Sample

/-- The disk is full when one byte is written. -/
def fullDisk : Breakdown :=
  ⟨.connectionFailure, "ENOSPC: no space left on device, write", some [1]⟩

/-- The connection is lost. -/
def lost : Breakdown := ⟨.connectionFailure, "", none⟩

theorem fresh_emptyDisk (directory : Path) :
    ∀ name ∈ emptyDisk.disk.names directory, ¬ uuid.text.toList <+: name.toList := by
  intro name member
  cases member

end Sample

open Sample in
/-- The INSERT fails, and the file that was written is removed again. -/
theorem failedInsert_cleaned :
    let uploadDir := AttachmentFiles.uploadDir none
    let ran := (AttachmentFiles.upload uploadDir 1 (some report) 1 uuid).run
      (World.exec (failingAt (some (.insert, lost)))) emptyDisk
    ran.1 = .error (.database .connectionFailure) ∧
      ran.2.disk.names (Path.normalize uploadDir) =
        emptyDisk.disk.names (Path.normalize uploadDir) ∧
      ran.2.db.attachments.rows = emptyDisk.db.attachments.rows := by
  have kept := (failed_upload_leaves_nothing_iff none emptyDisk.db emptyDisk.disk 1 (some report) 1
    uuid (fresh_emptyDisk _) (some (.insert, lost))).mpr (by
      rintro ⟨sent, breakdown, -, -, -, other⟩
      cases other)
  exact ⟨rfl, kept _ rfl⟩

open Sample in
/-- A part of the file stays when the write breaks down. -/
theorem fullDisk_leaves_part :
    let uploadDir := AttachmentFiles.uploadDir none
    let ran := (AttachmentFiles.upload uploadDir 1 (some report) 1 uuid).run
      (World.exec (failingAt (some (.writeFile, fullDisk)))) emptyDisk
    ran.1 = .error (.error "ENOSPC: no space left on device, write") ∧
      "00000000-0000-4000-8000-000000000000.pdf" ∈ ran.2.disk.names (Path.normalize uploadDir) ∧
      "00000000-0000-4000-8000-000000000000.pdf" ∉
        emptyDisk.disk.names (Path.normalize uploadDir) := by
  refine ⟨rfl, ?_, fun stored => by cases stored⟩
  show Option.isSome _ = true
  decide +kernel

end IssueFlow
