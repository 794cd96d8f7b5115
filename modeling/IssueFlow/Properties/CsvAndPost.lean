import IssueFlow.Properties.CsvRoundTrip
import IssueFlow.Properties.Workload
import IssueFlow.Services.Validation

/-!
# A row of a file and a POST

A ticket can be created by a POST or by a row of a file with the same cells. The
validators were written twice: the DTO counts the characters of a title, as
class-validator does, and the import counts its UTF-16 code units. The two ways
agree on every body whose title has at most 255 code units, and on no other. Of
class-validator it is assumed only that `@Length(1, 255)` refuses an empty text.

## Main definitions

* `CreateTicketDto.cells` — the row with the values of a body
* `ImportedLike` — the row is imported as the ticket that the POST creates

## Main results

* `importedLike_iff` — when the two ways agree
* `long_title_not_imported` — a title that the DTO and the column accept, and the import does not
-/

namespace IssueFlow

open Store Semantics JavaScript

/-- The row of a file that has the values of a body. -/
def CreateTicketDto.cells (dto : CreateTicketDto) : CsvRecord where
  title := some dto.title
  description := some (dto.description.toOption.getD "")
  type := some dto.type.text
  status := some ((dto.status.map TicketStatus.text).toOption.getD "")
  priority := some ((dto.priority.map TicketPriority.text).toOption.getD "")
  assigneeId := some ((dto.assigneeId.map toString).toOption.getD "")

/-- A stored ticket is the one that was answered. -/
structure SameTicket (answered : TicketResponse) (row : TicketRow) : Prop where
  title : row.title = answered.title
  status : row.status = answered.status
  priority : row.priority = answered.priority
  type : row.type = answered.type
  assigneeId : row.assigneeId = answered.assigneeId

section Agreement

variable [Postgres] [Bcrypt] [Unicode]

/-- The import of the row alone counts it as created and adds the ticket that was
answered. -/
def ImportedLike (dto : CreateTicketDto) (performedBy : ℕ) (db : Db) (answered : TicketResponse) :
    Prop :=
  ∃ row after,
    serve (.importTickets dto.projectId (.ok [dto.cells]) performedBy) db =
      (.ok (.imported ⟨1, 0, []⟩), after) ∧
    after.tickets.rows = db.tickets.rows ++ [row] ∧ SameTicket answered row

/-! ### What a POST has found -/

omit [Bcrypt] [Unicode] in
/-- A creation that succeeds has found its project. -/
theorem TicketsService.project_of_create {dto : CreateTicketDto} {performedBy : ℕ} {db after : Db}
    {response : TicketResponse}
    (returned : (create dto performedBy).run exec db = (.ok response, after)) :
    (ProjectsRepository.findById dto.projectId db).isSome := by
  unfold create at returned
  rw [ProjectsService.run_assertExists] at returned
  cases project : ProjectsRepository.findById dto.projectId db with
  | none =>
      rw [project] at returned
      cases returned
  | some found => rfl

omit [Bcrypt] [Unicode] in
/-- An INSERT that succeeds has found its assignee. -/
theorem TicketsRepository.assignee_of_create {input : TicketInput} {db stored : Db}
    {row : TicketRow} {assignee : ℕ} (executed : create input db = (.ok row, stored))
    (given : input.assigneeId = .value assignee) : (db.users.get? assignee).isSome := by
  rw [create_eq] at executed
  cases bound : dueInstant input.dueDate with
  | error exception =>
      rw [bound] at executed
      cases executed
  | ok due =>
      simp only [bound] at executed
      split_ifs at executed with null exist
      · cases executed
      · obtain ⟨-, all⟩ := Bool.and_eq_true_iff.mp exist
        simpa [createdRow, given, Field.toOption] using all
      · cases executed

/-! ### What the import makes of the row -/

/-- What the row asks for. -/
def CreateTicketDto.asRow (dto : CreateTicketDto) (assignee : ℕ) : TicketInput where
  title := dto.title
  description := CsvImportService.describe (trim (dto.description.toOption.getD ""))
  status := dto.status.toOption.elim .undefined .value
  priority := dto.priority.toOption.elim .undefined .value
  type := dto.type
  projectId := dto.projectId
  assigneeId := .value assignee
  dueDate := .undefined

omit [Postgres] [Bcrypt] in
/-- **The two validators agree** on everything but the length of the title. -/
theorem validateRow_cells [ClassValidator] (refuses : Validation.length 1 255 "" = false)
    {dto : CreateTicketDto} {assignee : ℕ} (trimmed : trim dto.title = dto.title)
    (valid : dto.isValid) (given : dto.assigneeId = .value assignee) :
    CsvImportService.validateRow dto.projectId dto.cells =
      if utf16Length dto.title > 255 then .error "title exceeds 255 characters"
      else .ok (dto.asRow assignee) := by
  -- Each cell is read back as the field it was written from.
  have typed : CsvImportService.validateType dto.cells.type = .ok dto.type :=
    CsvImportService.validateType_of_text dto.type.trim_text
  have inStatus : CsvImportService.optionalEnum "status" TicketStatus.values TicketStatus.text
      dto.cells.status = .ok (dto.status.toOption.elim .undefined .value) := by
    rw [CreateTicketDto.cells]
    cases dto.status with
    | value status => exact CsvImportService.optionalEnum_status status.trim_text
    | _ => exact CsvImportService.optionalEnum_of_blank rfl
  have rated : CsvImportService.optionalEnum "priority" TicketPriority.values TicketPriority.text
      dto.cells.priority = .ok (dto.priority.toOption.elim .undefined .value) := by
    rw [CreateTicketDto.cells]
    cases dto.priority with
    | value priority => exact CsvImportService.optionalEnum_priority priority.trim_text
    | _ => exact CsvImportService.optionalEnum_of_blank rfl
  simp only [CreateTicketDto.isValid, Validation.isInt, Validation.isOptional, given,
    Bool.and_eq_true, decide_eq_true_eq] at valid
  obtain ⟨⟨⟨filled, -⟩, number, positive⟩, -⟩ := valid
  have assigned : CsvImportService.validateAssignee dto.cells.assigneeId =
      .ok (.value assignee) := by
    rw [CreateTicketDto.cells, given]
    exact CsvImportService.validateAssignee_of_numeral (trim_toString assignee) positive number
  have title : CsvImportService.cell dto.cells.title = dto.title := trimmed
  have nonempty : dto.title.isEmpty = false := by
    rw [Bool.eq_false_iff, ne_eq, String.isEmpty_iff]
    intro blank
    rw [blank, refuses] at filled
    cases filled
  have description : CsvImportService.cell dto.cells.description =
      trim (dto.description.toOption.getD "") := rfl
  rw [CsvImportService.validateRow_of_cells typed inStatus rated assigned, title, description,
    if_neg (by simp [nonempty]), CreateTicketDto.asRow]

omit [Bcrypt] in
/-- A file whose only record is not valid. -/
theorem CsvImportService.run_importIntoProject_failed {projectId : ℕ} {db : Db}
    {record : CsvRecord} {message : String}
    (live : (ProjectsRepository.findById projectId db).isSome)
    (invalid : validateRow projectId record = .error message) (performedBy : ℕ) :
    ∃ after, (importIntoProject projectId (.ok [record]) performedBy).run exec db =
      (.ok ⟨0, 1, [⟨1, message⟩]⟩, after) ∧ after.tickets = db.tickets := by
  obtain ⟨project, found⟩ := Option.isSome_iff_exists.mp live
  rw [importIntoProject, ProjectsService.run_assertExists, found]
  simp only [importRows]
  rw [Program.run_bind, Program.run_bind, countRow_failed invalid]
  exact ⟨_, rfl, rfl⟩

/-- The import, as a request. -/
theorem serve_importTickets {projectId performedBy : ℕ} {records : List CsvRecord}
    {db after : Db} {summary : ImportSummary}
    (run : (CsvImportService.importIntoProject projectId (.ok records) performedBy).run exec db =
      (.ok summary, after)) :
    serve (.importTickets projectId (.ok records) performedBy) db =
      (.ok (.imported summary), after) := by
  have served : serve (.importTickets projectId (.ok records) performedBy) db =
      (.imported <$> CsvImportService.importIntoProject projectId (.ok records)
        performedBy).run exec db := rfl
  rw [served, Program.run_map, run]
  rfl

omit [Postgres] [Bcrypt] [Unicode] in
theorem CreateTicketDto.insertable_asRow {dto : CreateTicketDto} {assignee : ℕ} {db : Db}
    (live : (ProjectsRepository.findById dto.projectId db).isSome)
    (exist : (db.users.get? assignee).isSome) :
    TicketsRepository.Insertable db (dto.asRow assignee) := by
  have stored := ProjectsRepository.isSome_get? live
  refine ⟨rfl, ?_, ?_, ?_⟩
  · rw [TicketsRepository.createViolatesNotNull, CreateTicketDto.asRow]
    cases dto.status <;> cases dto.priority <;> rfl
  · rw [CreateTicketDto.asRow]
    exact stored
  · rintro _ ⟨⟩
    exact exist

/-! ### The two ways -/

section Ways

variable [ClassValidator] {dto : CreateTicketDto} {performedBy : ℕ} {db after : Db}
  {answered : TicketResponse} {assignee : ℕ}

omit [ClassValidator] in
/-- What a POST has found, and what it answers with. -/
theorem found_of_accepted (given : dto.assigneeId = .value assignee)
    (accepted : serve (.createTicket dto performedBy) db = (.ok (.ticket answered), after)) :
    (ProjectsRepository.findById dto.projectId db).isSome ∧ (db.users.get? assignee).isSome ∧
      ∃ due, answered = toTicketResponse (TicketsRepository.createdRow
        { dto with assigneeId := .value assignee } due db.now db.tickets.next) := by
  have ran : serve (.createTicket dto performedBy) db =
      (.ticket <$> TicketsService.create dto performedBy).run exec db := rfl
  rw [ran] at accepted
  obtain ⟨response, executed, made⟩ := Program.run_map_eq_ok exec accepted
  obtain rfl := Response.ticket.inj made
  obtain ⟨-, row, inserted, entry, created, rfl, -, -⟩ := TicketsService.create_returned executed
  have assigned := TicketsService.effectiveAssignee_value
    (if dto.assigneeId.isDefined then none else chosenAssignee dto.projectId db) given
  obtain ⟨due, -, rfl, -⟩ := TicketsRepository.create_ok created
  rw [assigned] at created ⊢
  exact ⟨TicketsService.project_of_create executed,
    TicketsRepository.assignee_of_create created rfl, due, rfl⟩

/-- A title of at most 255 code units. -/
theorem importedLike_of_short (refuses : Validation.length 1 255 "" = false)
    (trimmed : trim dto.title = dto.title)
    (given : dto.assigneeId = .value assignee) (valid : dto.isValid)
    (accepted : serve (.createTicket dto performedBy) db = (.ok (.ticket answered), after))
    (short : utf16Length dto.title ≤ 255) : ImportedLike dto performedBy db answered := by
  obtain ⟨live, exist, due, rfl⟩ := found_of_accepted given accepted
  have validated := validateRow_cells refuses trimmed valid given
  rw [if_neg (by omega)] at validated
  obtain ⟨after, rows, run, appended, made⟩ := CsvImportService.run_importIntoProject live
    (.cons validated .nil) (by simpa using dto.insertable_asRow live exist) performedBy
  rw [ImportedLike, serve_importTickets run]
  cases made with
  | cons same rest =>
      cases rest
      obtain ⟨id, rfl⟩ := same
      refine ⟨_, after, rfl, appended, rfl, ?_, ?_, rfl, rfl⟩
      · rw [TicketsRepository.createdRow, CreateTicketDto.asRow]
        cases dto.status <;> rfl
      · rw [TicketsRepository.createdRow, CreateTicketDto.asRow]
        cases dto.priority <;> rfl

/-- A longer title is refused by the import, although the column holds it. -/
theorem not_importedLike_of_long (refuses : Validation.length 1 255 "" = false)
    (trimmed : trim dto.title = dto.title)
    (given : dto.assigneeId = .value assignee) (valid : dto.isValid)
    (accepted : serve (.createTicket dto performedBy) db = (.ok (.ticket answered), after))
    (long : 255 < utf16Length dto.title) : ¬ ImportedLike dto performedBy db answered := by
  obtain ⟨live, -, -⟩ := found_of_accepted given accepted
  have validated := validateRow_cells refuses trimmed valid given
  rw [if_pos long] at validated
  obtain ⟨after, run, -⟩ :=
    CsvImportService.run_importIntoProject_failed live validated performedBy
  rw [ImportedLike, serve_importTickets run]
  rintro ⟨row, after, same, -⟩
  cases same

/-- **A POST and a row agree exactly when the title has at most 255 UTF-16 code
units.** -/
theorem importedLike_iff (refuses : Validation.length 1 255 "" = false)
    (trimmed : trim dto.title = dto.title)
    (given : dto.assigneeId = .value assignee) (valid : dto.isValid)
    (accepted : serve (.createTicket dto performedBy) db = (.ok (.ticket answered), after)) :
    ImportedLike dto performedBy db answered ↔ utf16Length dto.title ≤ 255 := by
  constructor
  · intro agrees
    by_contra long
    have refused : ¬ ImportedLike dto performedBy db answered :=
      not_importedLike_of_long refuses trimmed given valid accepted (by omega)
    exact refused agrees
  · exact importedLike_of_short refuses trimmed given valid accepted

omit [Bcrypt] [Unicode] [ClassValidator] in
/-- A creation whose references exist succeeds. -/
theorem TicketsService.create_succeeds {due : Field Timestamp}
    (live : (ProjectsRepository.findById dto.projectId db).isSome)
    (given : dto.assigneeId = .value assignee) (exist : (db.users.get? assignee).isSome)
    (notNull : TicketsRepository.createViolatesNotNull dto = false)
    (bound : TicketsRepository.dueInstant dto.dueDate = .ok due) :
    ∃ answered after, (create dto performedBy).run exec db = (.ok answered, after) := by
  obtain ⟨project, found⟩ := Option.isSome_iff_exists.mp live
  have known : (dto.assigneeId.isDefined &&
      (UsersRepository.findById dto.assigneeId.toOption db).isNone) = false := by
    rw [given]
    simpa [UsersRepository.findById, Field.toOption, Field.isDefined] using exist
  let input : TicketInput := { dto with assigneeId := .value assignee }
  let row := TicketsRepository.createdRow input due db.now db.tickets.next
  have references : TicketsRepository.referencesExist db row := by
    exact Bool.and_eq_true_iff.mpr ⟨ProjectsRepository.isSome_get? live, exist⟩
  have created : TicketsRepository.create input db = (.ok row, { db with
      tickets :=
        db.tickets.insert (TicketsRepository.createdRow input due db.now) fun _ => rfl }) := by
    rw [TicketsRepository.create_eq, show TicketsRepository.dueInstant input.dueDate = _ from bound]
    have filled : TicketsRepository.createViolatesNotNull input = false := notNull
    simp only [filled, references, row, Bool.false_eq_true, if_false, if_true]
  -- No check refuses the body, and the INSERT is followed by its entries.
  rw [create, ProjectsService.run_assertExists, found]
  simp only
  rw [run_assertAssigneeExists, known, if_neg Bool.false_ne_true, run_autoAssign, run_execute,
    effectiveAssignee_value _ given]
  simp only [Command.exec]
  rw [show TicketsRepository.create { dto with assigneeId := .value assignee } db = _ from created]
  simp only
  rw [AuditService.run_log, run_logAutoAssign]
  exact ⟨toTicketResponse row, _, rfl⟩

end Ways

end Agreement

/-! ### A title of surrogate pairs -/

namespace Sample

/-- A body for the user and the project of `setup`. -/
def titled (title : String) : CreateTicketDto :=
  ⟨title, .undefined, .value .todo, .value .low, .bug, 1, .value 1, .undefined⟩

/-- Characters of two code units each. -/
def pairs (count : ℕ) : String := String.ofList (List.replicate count '😀')

/-- The user and the project exist, so any title is stored. -/
theorem titled_accepted (title : String) : ∃ answered after,
    serve (.createTicket (titled title) 1) (serveAll setup Db.empty) =
      (.ok (.ticket answered), after) := by
  have live : (ProjectsRepository.findById 1 (serveAll setup Db.empty)).isSome := by
    decide +kernel
  have exist : ((serveAll setup Db.empty).users.get? 1).isSome := by
    decide +kernel
  obtain ⟨answered, after, run⟩ : ∃ answered after,
      (TicketsService.create (titled title) 1).run exec (serveAll setup Db.empty) =
        (.ok answered, after) :=
    TicketsService.create_succeeds live rfl exist rfl rfl
  have served : serve (.createTicket (titled title) 1) (serveAll setup Db.empty) =
      (.ticket <$> TicketsService.create (titled title) 1).run exec (serveAll setup Db.empty) := rfl
  rw [served, Program.run_map, run]
  exact ⟨answered, after, rfl⟩

theorem titled_valid {title : String} (short : Validation.length 1 255 title) :
    (titled title).isValid := by
  have number : Validation.isInt 1 1 := by
    have one : IsNumber 1 := isNumber_of_le (by decide)
    simp [Validation.isInt, one]
  simp only [CreateTicketDto.isValid, titled, short, Validation.isOptional, number, Bool.and_true]

theorem trim_pairs (count : ℕ) : trim (pairs count) = pairs count := by
  have solid : ∀ c ∈ List.replicate count '😀', isWhiteSpace c = false := by
    intro c member
    rw [List.eq_of_mem_replicate member]
    decide
  rw [trim, pairs, String.toList_ofList, trimChars_of_forall solid]

theorem utf16Length_pairs (count : ℕ) : utf16Length (pairs count) = 2 * count := by
  rw [utf16Length, pairs, String.toList_ofList, List.map_replicate, List.sum_replicate, smul_eq_mul,
    Nat.mul_comm]
  rfl

theorem shownLength_pairs (count : ℕ) : shownLength (pairs count) = count := by
  rw [shownLength, pairs, String.toList_ofList, List.countP_replicate, if_pos (by decide)]

theorem length_pairs {count : ℕ} (some : 1 ≤ count) (short : count ≤ 255) :
    Validation.length 1 255 (pairs count) := by
  show (1 ≤ shownLength (pairs count) && shownLength (pairs count) ≤ 255) = true
  rw [shownLength_pairs]
  exact Bool.and_eq_true_iff.mpr ⟨decide_eq_true some, decide_eq_true short⟩

end Sample

section Pairs

open Sample

theorem importedLike_iff_ticket :
    ∃ answered after, serve (.createTicket (titled "Ticket") 1) (serveAll setup Db.empty) =
        (.ok (.ticket answered), after) ∧
      (ImportedLike (titled "Ticket") 1 (serveAll setup Db.empty) answered ↔
        utf16Length "Ticket" ≤ 255) := by
  obtain ⟨answered, after, accepted⟩ := titled_accepted "Ticket"
  exact ⟨answered, after, accepted,
    importedLike_iff (by decide +kernel) (by decide +kernel) rfl
      (titled_valid (by decide +kernel)) accepted⟩

/-- A title of 200 characters is stored by a POST; the import refuses the row. -/
theorem long_title_not_imported :
    ¬ ∀ (dto : CreateTicketDto) (performedBy assignee : ℕ) (inputs : List Input)
        (answered : TicketResponse) (after : Db),
        trim dto.title = dto.title → dto.assigneeId = .value assignee → dto.isValid →
        serve (.createTicket dto performedBy) (serveAll inputs Db.empty) =
          (.ok (.ticket answered), after) →
        ImportedLike dto performedBy (serveAll inputs Db.empty) answered := by
  intro agree
  -- The proof uses these facts about the title and never looks inside.
  obtain ⟨title, trimmed, short, units⟩ : ∃ title : String,
      trim title = title ∧ Validation.length 1 255 title ∧ utf16Length title = 400 :=
    ⟨pairs 200, trim_pairs 200, length_pairs (by decide) (by decide), utf16Length_pairs 200⟩
  obtain ⟨answered, after, accepted⟩ := titled_accepted title
  have valid := titled_valid short
  have long : 255 < utf16Length (titled title).title := by
    rw [titled, units]
    decide
  have refused : ¬ ImportedLike (titled title) 1 (serveAll setup Db.empty) answered :=
    not_importedLike_of_long (by decide +kernel) trimmed rfl valid accepted long
  have imported := agree (titled title) 1 1 setup answered after trimmed rfl valid accepted
  exact refused imported

end Pairs

end IssueFlow
