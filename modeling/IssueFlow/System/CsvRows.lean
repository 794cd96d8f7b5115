import IssueFlow.System.Effects
import IssueFlow.Text.Numerals

/-!
# Records that are imported

What the import makes of a record whose cells are known, and what it does with
records that are valid and whose references exist: each becomes a ticket, and
the tickets follow each other in the order of the records.

## Main definitions

* `TicketsRepository.Insertable` — an input whose INSERT succeeds

## Main results

* `CsvImportService.validateRow_of_cells` — the input of a record
* `CsvImportService.importRows_created` — valid records are all imported
-/

namespace IssueFlow

open Store Semantics JavaScript

/-! ### Labels -/

@[simp] theorem TicketStatus.trim_text (status : TicketStatus) :
    trim status.text = status.text := by
  cases status <;> decide

@[simp] theorem TicketPriority.trim_text (priority : TicketPriority) :
    trim priority.text = priority.text := by
  cases priority <;> decide

@[simp] theorem TicketType.trim_text (type : TicketType) : trim type.text = type.text := by
  cases type <;> decide

namespace CsvImportService

variable [Unicode] {raw : Option String}

/-! ### Cells -/

/-- A cell that spells a label. -/
theorem optionalEnum_of_label {α : Type} {name : String} {values : List α} {text : α → String}
    {value : α} (label : toUpperCase (cell raw) = text value) (nonempty : text value ≠ "")
    (first : values.find? (fun other => text other = text value) = some value) :
    optionalEnum name values text raw = .ok (.value value) := by
  have filled : (text value).isEmpty = false := by simpa using nonempty
  simp only [optionalEnum, label, filled, first, Bool.false_eq_true, if_false]

theorem optionalEnum_of_blank {α : Type} {name : String} {values : List α} {text : α → String}
    (blank : cell raw = "") : optionalEnum name values text raw = .ok .undefined := by
  rw [optionalEnum, blank]
  rfl

theorem optionalEnum_status {status : TicketStatus} (same : cell raw = status.text) :
    optionalEnum "status" TicketStatus.values TicketStatus.text raw = .ok (.value status) := by
  apply optionalEnum_of_label
  · rw [same]
    cases status <;> rfl
  · cases status <;> decide
  · cases status <;> decide

theorem optionalEnum_priority {priority : TicketPriority} (same : cell raw = priority.text) :
    optionalEnum "priority" TicketPriority.values TicketPriority.text raw =
      .ok (.value priority) := by
  apply optionalEnum_of_label
  · rw [same]
    cases priority <;> rfl
  · cases priority <;> decide
  · cases priority <;> decide

theorem validateType_of_text {type : TicketType} (same : cell raw = type.text) :
    validateType raw = .ok type := by
  have label : optionalEnum "type" TicketType.values TicketType.text raw = .ok (.value type) := by
    apply optionalEnum_of_label
    · rw [same]
      cases type <;> rfl
    · cases type <;> decide
    · cases type <;> decide
  rw [validateType, label]

omit [Unicode] in
theorem validateAssignee_of_blank (blank : cell raw = "") :
    validateAssignee raw = .ok .undefined := by
  rw [validateAssignee, blank]
  rfl

omit [Unicode] in
theorem validateAssignee_of_numeral {assignee : ℕ} (same : cell raw = toString assignee)
    (positive : 0 < assignee) (number : IsNumber assignee) :
    validateAssignee raw = .ok (.value assignee) := by
  have filled : (toString assignee).isEmpty = false := by
    rw [Bool.eq_false_iff, ne_eq, String.isEmpty_iff]
    exact Nat.repr_ne_empty
  simp only [validateAssignee, same, filled, positiveInteger_toString positive number,
    Bool.false_eq_true, if_false]

/-! ### Records -/

/-- A blank description is left out. -/
def describe (text : String) : Field String := if text.isEmpty then .undefined else .value text

/-- **What a record asks for**, field by field; only the title can still fail. -/
theorem validateRow_of_cells {projectId : ℕ} {record : CsvRecord} {type : TicketType}
    {status : Field TicketStatus} {priority : Field TicketPriority} {assigneeId : Field ℕ}
    (typed : validateType record.type = .ok type)
    (inStatus : optionalEnum "status" TicketStatus.values TicketStatus.text record.status =
      .ok status)
    (rated : optionalEnum "priority" TicketPriority.values TicketPriority.text record.priority =
      .ok priority)
    (assigned : validateAssignee record.assigneeId = .ok assigneeId) :
    validateRow projectId record =
      if (cell record.title).isEmpty then .error "title is required and must not be empty"
      else if utf16Length (cell record.title) > 255 then .error "title exceeds 255 characters"
      else .ok
        { title := cell record.title
          description := describe (cell record.description)
          status := status
          priority := priority
          type := type
          projectId := projectId
          assigneeId := assigneeId
          dueDate := .undefined } := by
  unfold validateRow
  simp only [typed, inStatus, rated, assigned, describe]
  split_ifs <;> rfl

end CsvImportService

/-! ### Inserting valid records -/

section Insert

/-- A project that is live is stored. -/
theorem ProjectsRepository.isSome_get? {id : ℕ} {db : Db} (live : (findById id db).isSome) :
    (db.projects.get? id).isSome := by
  obtain ⟨project, found⟩ := Option.isSome_iff_exists.mp live
  exact Option.isSome_iff_exists.mpr ⟨project, (Option.filter_eq_some_iff.mp found).1⟩

variable [Postgres]

/-- An input that asks for no NULL where there can be none, and whose references
exist. -/
structure TicketsRepository.Insertable (db : Db) (input : TicketInput) : Prop where
  dueDate : input.dueDate = .undefined
  notNull : createViolatesNotNull input = false
  project : (db.projects.get? input.projectId).isSome
  assignee : ∀ assignee, input.assigneeId = .value assignee → (db.users.get? assignee).isSome

/-- The INSERT of such an input succeeds. -/
theorem TicketsRepository.Insertable.create {db : Db} {input : TicketInput}
    (insertable : Insertable db input) :
    create input db = (.ok (createdRow input .undefined db.now db.tickets.next), { db with
      tickets := db.tickets.insert (createdRow input .undefined db.now) fun _ => rfl }) := by
  have references : referencesExist db (createdRow input .undefined db.now db.tickets.next) := by
    refine Bool.and_eq_true_iff.mpr ⟨insertable.project, ?_⟩
    cases assigned : input.assigneeId with
    | value assignee =>
        simpa [createdRow, assigned, Field.toOption] using insertable.assignee assignee assigned
    | _ => simp [createdRow, assigned, Field.toOption]
  rw [create_eq, insertable.dueDate]
  simp only [dueInstant, insertable.notNull, references, Bool.false_eq_true, if_false, if_true]

namespace CsvImportService

variable [Unicode] {projectId : ℕ}

theorem countRow_created {db : Db} {record : CsvRecord} {input : TicketInput}
    (valid : validateRow projectId record = .ok input)
    (insertable : TicketsRepository.Insertable db input) (summary : ImportSummary)
    (rowNumber : ℕ) :
    (countRow projectId summary rowNumber record).run exec db =
      (.ok { summary with created := summary.created + 1 },
        (TicketsRepository.create input db).2) := by
  have inserted :
      exec (.command (.createTicket input)) db = TicketsRepository.create input db := rfl
  rw [insertable.create] at inserted ⊢
  unfold countRow importRow
  simp only [valid, execute, query, Program.call_bind, Program.tryCatch_eq, Program.tryCatch,
    Program.run_call, inserted]
  rfl

/-- A record that is not valid is counted as failed, with its row number. -/
theorem countRow_failed {db : Db} {record : CsvRecord} {message : String}
    (invalid : validateRow projectId record = .error message) (summary : ImportSummary)
    (rowNumber : ℕ) :
    (countRow projectId summary rowNumber record).run exec db =
      (.ok { summary with
        failed := summary.failed + 1
        errors := summary.errors ++ [⟨rowNumber, message⟩] }, db) := by
  unfold countRow importRow
  rw [invalid]
  rfl

/-- **Valid records are all imported**, in the order of the file. -/
theorem importRows_created {records : List CsvRecord} {inputs : List TicketInput} {db : Db}
    (valid : List.Forall₂ (fun record input => validateRow projectId record = .ok input)
      records inputs)
    (insertable : ∀ input ∈ inputs, TicketsRepository.Insertable db input)
    (summary : ImportSummary) (rowNumber : ℕ) :
    ∃ after created,
      (importRows projectId summary rowNumber records).run exec db =
        (.ok { summary with created := summary.created + inputs.length }, after) ∧
      after.tickets.rows = db.tickets.rows ++ created ∧
      List.Forall₂ (fun input row =>
        ∃ id, row = TicketsRepository.createdRow input .undefined db.now id) inputs created := by
  induction valid generalizing db summary rowNumber with
  | nil => exact ⟨db, [], rfl, (List.append_nil _).symm, .nil⟩
  | @cons record input records inputs first rest ih =>
      have here := insertable input List.mem_cons_self
      let stored : Db := { db with
        tickets :=
          db.tickets.insert (TicketsRepository.createdRow input .undefined db.now) fun _ => rfl }
      -- An INSERT leaves what the other references look for.
      have later : ∀ input ∈ inputs, TicketsRepository.Insertable stored input := by
        intro other member
        have before := insertable other (List.mem_cons_of_mem _ member)
        exact ⟨before.dueDate, before.notNull, before.project, before.assignee⟩
      obtain ⟨after, created, run, rows, made⟩ :=
        ih later { summary with created := summary.created + 1 } (rowNumber + 1)
      let row := TicketsRepository.createdRow input .undefined db.now db.tickets.next
      refine ⟨after, row :: created, ?_, ?_, .cons ⟨_, rfl⟩ made⟩
      · rw [importRows, Program.run_bind, countRow_created first here, here.create]
        simp only
        rw [run, List.length_cons]
        simp only [Nat.add_comm inputs.length 1, Nat.add_assoc]
      · rw [rows]
        simp only [stored, row, Table.insert, List.append_assoc, List.singleton_append]

end CsvImportService

end Insert

end IssueFlow
