import IssueFlow.Database.Assignees
import IssueFlow.Properties.AutoAssignment
import IssueFlow.Properties.HiddenTicket
import IssueFlow.System.CsvRows
import IssueFlow.System.Sequential

/-!
# Export, then import

The file that a project is exported to is imported without a failure, and makes
a copy of every live ticket, in the same order. Reading the file is third-party
code and a parameter, `CsvParse`; that it reads the cells csv-stringify wrote,
up to white space around them, is the hypothesis `RoundTrips`.

## Main definitions

* `RoundTrips` — the file of some records is read back
* `CopyOf` — what an imported ticket shares with the exported one

## Main results

* `export_import_reproduces` — a project is reproduced
-/

namespace IssueFlow

open Store Semantics JavaScript

/-- csv-parse, with the options of the import. -/
class CsvParse where
  /-- The records of a file by its header, or the message of the parser. -/
  parse : String → Except String (List CsvRecord)

/-- The import of a file. -/
def CsvImportService.importFile [Postgres] [Unicode] [CsvParse] (projectId : ℕ) (csv : String)
    (performedBy : ℕ) : Service ImportSummary :=
  importIntoProject projectId (CsvParse.parse csv) performedBy

/-! ### Files that are read back -/

/-- A value as csv-stringify writes it, quotes aside. -/
def CsvCell.toText : CsvCell → String
  | .text value => value
  | .number value => toString value

/-- A cell is what was written, up to white space around it. -/
def ReadsAs (cell : Option String) (written : String) : Prop :=
  cell.map trim = some (trim written)

/-- A parsed record has the cells of the exported one. -/
structure CsvRecord.Reads (parsed : CsvRecord) (written : CsvExportRecord) : Prop where
  title : ReadsAs parsed.title written.title
  description : ReadsAs parsed.description written.description
  status : ReadsAs parsed.status written.status.text
  priority : ReadsAs parsed.priority written.priority.text
  type : ReadsAs parsed.type written.type.text
  assigneeId : ReadsAs parsed.assigneeId written.assigneeId.toText

/-- Parsing the file of some records gives these records, in their order. -/
def RoundTrips [CsvStringify] [CsvParse] (records : List CsvExportRecord) : Prop :=
  ∃ parsed, CsvParse.parse (CsvStringify.stringify CsvExportService.COLUMNS records) = .ok parsed ∧
    List.Forall₂ CsvRecord.Reads parsed records

/-! ### The copies -/

/-- The copy of a ticket in a project: its texts are trimmed, and a blank
description is none. -/
structure CopyOf (target : ℕ) (original copy : TicketRow) : Prop where
  title : copy.title = trim original.title
  description : copy.description =
    let text := trim (original.description.getD "")
    if text = "" then none else some text
  status : copy.status = original.status
  priority : copy.priority = original.priority
  type : copy.type = original.type
  assigneeId : copy.assigneeId = original.assigneeId
  projectId : copy.projectId = target

/-- What the record of an exported ticket asks for. -/
def copyInput (target : ℕ) (ticket : TicketRow) : TicketInput where
  title := trim ticket.title
  description := CsvImportService.describe (trim (ticket.description.getD ""))
  status := .value ticket.status
  priority := .value ticket.priority
  type := ticket.type
  projectId := target
  assigneeId := ticket.assigneeId.elim .undefined .value
  dueDate := .undefined

theorem ReadsAs.cell_eq {cell : Option String} {written : String} (reads : ReadsAs cell written) :
    CsvImportService.cell cell = trim written := by
  obtain ⟨text, rfl, same⟩ := Option.map_eq_some_iff.mp reads
  exact same

theorem copyOf_createdRow {target id : ℕ} {now : Timestamp} (ticket : TicketRow) :
    CopyOf target ticket
      (TicketsRepository.createdRow (copyInput target ticket) .undefined now id) where
  title := rfl
  description := by
    simp only [TicketsRepository.createdRow, TicketsRepository.defaultRow, copyInput,
      CsvImportService.describe, String.isEmpty_iff]
    split_ifs <;> rfl
  status := rfl
  priority := rfl
  type := rfl
  assigneeId := by
    simp only [TicketsRepository.createdRow, copyInput]
    cases ticket.assigneeId <;> rfl
  projectId := rfl

section RoundTrip

variable [Unicode] {target : ℕ} {ticket : TicketRow} {parsed : CsvRecord}

/-- **Encoder and decoder agree** on every column of a ticket. -/
theorem validateRow_of_reads (reads : parsed.Reads (CsvExportService.toRecord ticket))
    (filled : 1 ≤ utf16Length (trim ticket.title)) (short : utf16Length (trim ticket.title) ≤ 255)
    (assignee : ∀ assignee, ticket.assigneeId = some assignee →
      0 < assignee ∧ assignee ≤ MAX_SAFE_INTEGER) :
    CsvImportService.validateRow target parsed = .ok (copyInput target ticket) := by
  -- A cell is read as its text without the blanks around it.
  have title : CsvImportService.cell parsed.title = trim ticket.title := reads.title.cell_eq
  have description :
      CsvImportService.cell parsed.description = trim (ticket.description.getD "") :=
    reads.description.cell_eq
  have typed := CsvImportService.validateType_of_text
    (reads.type.cell_eq.trans ticket.type.trim_text)
  have inStatus := CsvImportService.optionalEnum_status
    (reads.status.cell_eq.trans ticket.status.trim_text)
  have rated := CsvImportService.optionalEnum_priority
    (reads.priority.cell_eq.trans ticket.priority.trim_text)
  have assigned : CsvImportService.validateAssignee parsed.assigneeId =
      .ok (ticket.assigneeId.elim .undefined .value) := by
    have cell := reads.assigneeId.cell_eq
    simp only [CsvExportService.toRecord] at cell
    cases held : ticket.assigneeId with
    | none =>
        rw [held] at cell
        exact CsvImportService.validateAssignee_of_blank cell
    | some id =>
        rw [held] at cell
        obtain ⟨positive, small⟩ := assignee id held
        exact CsvImportService.validateAssignee_of_numeral (cell.trans (trim_toString id)) positive
          (isNumber_of_le small)
  have nonempty : (trim ticket.title).isEmpty = false := by
    rw [Bool.eq_false_iff, ne_eq, String.isEmpty_iff]
    intro blank
    rw [blank] at filled
    cases filled
  rw [CsvImportService.validateRow_of_cells typed inStatus rated assigned, title, description,
    if_neg (by simp [nonempty]), if_neg (by omega)]
  rfl

end RoundTrip

/-- The export of a live project. -/
theorem CsvExportService.run_exportProject [Postgres] [CsvStringify] {projectId : ℕ} {db : Db}
    (live : (ProjectsRepository.findById projectId db).isSome) :
    (exportProject projectId).run exec db = (.ok (CsvStringify.stringify COLUMNS
      ((TicketsRepository.findByProject projectId db).map toRecord)), db) := by
  obtain ⟨project, found⟩ := Option.isSome_iff_exists.mp live
  rw [exportProject, ProjectsService.run_assertExists, found]
  rfl

/-- The import of records that are valid and whose references exist. -/
theorem CsvImportService.run_importIntoProject [Postgres] [Unicode] {projectId : ℕ} {db : Db}
    {records : List CsvRecord} {inputs : List TicketInput}
    (live : (ProjectsRepository.findById projectId db).isSome)
    (valid : List.Forall₂ (fun record input => validateRow projectId record = .ok input)
      records inputs)
    (insertable : ∀ input ∈ inputs, TicketsRepository.Insertable db input) (performedBy : ℕ) :
    ∃ after created,
      (importIntoProject projectId (.ok records) performedBy).run exec db =
        (.ok ⟨inputs.length, 0, []⟩, after) ∧
      after.tickets.rows = db.tickets.rows ++ created ∧
      List.Forall₂ (fun input row =>
        ∃ id, row = TicketsRepository.createdRow input .undefined db.now id) inputs created := by
  obtain ⟨project, found⟩ := Option.isSome_iff_exists.mp live
  obtain ⟨stored, created, run, rows, made⟩ := importRows_created valid insertable ⟨0, 0, []⟩ 1
  rw [importIntoProject, ProjectsService.run_assertExists, found]
  simp only
  rw [Program.run_bind, run]
  simp only
  rw [AuditService.run_log, Nat.zero_add]
  exact ⟨_, created, rfl, rows, made⟩

/-- **Export then import reproduces a project.** -/
theorem export_import_reproduces [Postgres] [Unicode] [CsvStringify] [CsvParse]
    {projectId target : ℕ} {db : Db} (stored : AssigneesStored db)
    (live : (ProjectsRepository.findById projectId db).isSome)
    (targetLive : (ProjectsRepository.findById target db).isSome)
    (titles : ∀ ticket ∈ TicketsRepository.findByProject projectId db,
      1 ≤ utf16Length (trim ticket.title) ∧ utf16Length (trim ticket.title) ≤ 255)
    (safe : ∀ ticket ∈ TicketsRepository.findByProject projectId db, ∀ assignee,
      ticket.assigneeId = some assignee → assignee ≤ MAX_SAFE_INTEGER)
    (roundTrips : RoundTrips
      ((TicketsRepository.findByProject projectId db).map CsvExportService.toRecord))
    (performedBy : ℕ) :
    ∃ csv after created,
      (CsvExportService.exportProject projectId).run exec db = (.ok csv, db) ∧
      (CsvImportService.importFile target csv performedBy).run exec db =
        (.ok ⟨(TicketsRepository.findByProject projectId db).length, 0, []⟩, after) ∧
      after.tickets.rows = db.tickets.rows ++ created ∧
      List.Forall₂ (CopyOf target) (TicketsRepository.findByProject projectId db) created := by
  obtain ⟨records, parsed, reads⟩ := roundTrips
  generalize listed : TicketsRepository.findByProject projectId db = tickets at *
  have member : ∀ ticket ∈ tickets, ticket ∈ db.tickets.rows := by
    intro ticket member
    rw [← listed] at member
    exact (List.mem_filter.mp member).1
  -- An assignee is a stored user, so its key is positive.
  have assigned : ∀ ticket ∈ tickets, ∀ assignee, ticket.assigneeId = some assignee →
      (db.users.get? assignee).isSome := fun ticket listed assignee held =>
    stored.stored (Table.get?_key (member ticket listed)) held
  have valid : List.Forall₂ (fun record input =>
      CsvImportService.validateRow target record = .ok input) records
      (tickets.map (copyInput target)) := by
    rw [List.forall₂_map_right_iff] at reads ⊢
    have paired : List.Forall₂ (fun ticket record => ticket ∈ tickets ∧
        record.Reads (CsvExportService.toRecord ticket)) tickets records :=
      (List.forall₂_and_left _ _).mpr ⟨fun ticket listed => listed, reads.flip⟩
    refine paired.flip.imp fun record ticket both => ?_
    obtain ⟨listed, same⟩ := both
    obtain ⟨filled, short⟩ := titles ticket listed
    refine validateRow_of_reads same filled short fun assignee held => ?_
    exact ⟨stored.positive (assigned ticket listed assignee held), safe ticket listed assignee held⟩
  have insertable : ∀ input ∈ tickets.map (copyInput target),
      TicketsRepository.Insertable db input := by
    intro input member
    obtain ⟨ticket, listed, rfl⟩ := List.mem_map.mp member
    refine ⟨rfl, rfl, ProjectsRepository.isSome_get? targetLive, ?_⟩
    intro assignee same
    apply assigned ticket listed
    cases held : ticket.assigneeId with
    | none => simp [copyInput, held] at same
    | some id => simpa [copyInput, held] using same
  obtain ⟨after, created, run, rows, made⟩ :=
    CsvImportService.run_importIntoProject targetLive valid insertable performedBy
  refine ⟨_, after, created, CsvExportService.run_exportProject live, ?_, rows, ?_⟩
  · rw [CsvImportService.importFile, listed, parsed, run, List.length_map]
  · rw [List.forall₂_map_left_iff] at made
    refine made.imp fun ticket row same => ?_
    obtain ⟨id, rfl⟩ := same
    exact copyOf_createdRow ticket

/-! ### Two tickets -/

namespace Sample

/-- The records of a file whose cells need no quotes. -/
scoped instance : CsvParse where
  parse csv :=
    let lines := (csv.toList.splitOn '\n').filter fun line => !line.isEmpty
    let cells := lines.map fun line => (line.splitOn ',').map fun cell => trim (String.ofList cell)
    match cells with
    | [] => .ok []
    | header :: rows => .ok (rows.map fun row =>
        let column (name : String) := (header.zip row).lookup name
        { title := column "title"
          description := column "description"
          type := column "type"
          status := column "status"
          priority := column "priority"
          assigneeId := column "assigneeId" })

/-- A ticket with the defaults, and one that is described and assigned. -/
def describedTicket : Db :=
  serveAll (setup ++ [ticket .todo, .request (.createTicket ⟨" Second ", .value "text",
    .value .inReview, .value .high, .feature, 1, .value 1, .undefined⟩ 1)]) Db.empty

/-- The records of its file. -/
def describedRecords : List CsvRecord :=
  [⟨some "Ticket", some "", some "BUG", some "TODO", some "MEDIUM", some ""⟩,
    ⟨some "Second", some "text", some "FEATURE", some "IN_REVIEW", some "HIGH", some "1"⟩]

theorem describedTicket_roundTrips : RoundTrips
    ((TicketsRepository.findByProject 1 describedTicket).map CsvExportService.toRecord) := by
  have listed : (TicketsRepository.findByProject 1 describedTicket).map CsvExportService.toRecord =
      [⟨1, "Ticket", "", .todo, .medium, .bug, .text ""⟩,
        ⟨2, " Second ", "text", .inReview, .high, .feature, .number 1⟩] := by
    decide +kernel
  refine ⟨describedRecords, by decide +kernel, ?_⟩
  rw [listed]
  refine .cons ⟨?_, ?_, ?_, ?_, ?_, ?_⟩ (.cons ⟨?_, ?_, ?_, ?_, ?_, ?_⟩ .nil)
  all_goals
    rw [ReadsAs]
    decide

end Sample

open Sample in
theorem export_import_reproduces_describedTicket :
    ∃ csv after created,
      (CsvExportService.exportProject 1).run exec describedTicket = (.ok csv, describedTicket) ∧
      (CsvImportService.importFile 1 csv 1).run exec describedTicket =
        (.ok ⟨(TicketsRepository.findByProject 1 describedTicket).length, 0, []⟩, after) ∧
      after.tickets.rows = describedTicket.tickets.rows ++ created ∧
      List.Forall₂ (CopyOf 1) (TicketsRepository.findByProject 1 describedTicket) created :=
  export_import_reproduces (assigneesStored_serveAll AssigneesStored.empty _) (by decide +kernel)
    (by decide +kernel) (by decide +kernel) (by decide +kernel) describedTicket_roundTrips 1

end IssueFlow
