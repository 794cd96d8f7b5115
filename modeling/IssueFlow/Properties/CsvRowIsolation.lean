import IssueFlow.Database.Faults
import IssueFlow.System.CsvRows
import IssueFlow.System.Shapes

/-!
# The rows of an import do not influence each other

Every record of an imported file is validated and inserted by itself, and its
INSERT may be refused by the database or fail for any other reason. A record
that fails is reported with its position and leaves no ticket; the others
become tickets in the order of the file, as if it had not been there.

## Main definitions

* `ImportedRow` — a record, and the failure its INSERT meets
* `CsvImportService.importUnder` — an import whose INSERTs meet these failures
* `CsvImportService.failure`, `CsvImportService.accepted` — what becomes of a record
* `TicketInput.Proper` — what is passed on to the database

## Main results

* `CsvImportService.countRow_under` — one record
* `CsvImportService.importRows_under` — all records
* `import_isolates_rows` — an import of any file, and of the file without a record that fails
-/

namespace IssueFlow

open Store Semantics JavaScript

/-- A record, and the failure its INSERT meets, if it is sent and meets one. -/
structure ImportedRow where
  record : CsvRecord
  fault : Option PgError

/-- What is passed on to the database by an import into a project. -/
structure TicketInput.Proper (projectId : ℕ) (input : TicketInput) : Prop where
  title_min : 1 ≤ utf16Length input.title
  title_max : utf16Length input.title ≤ 255
  status : input.status ≠ .null
  priority : input.priority ≠ .null
  assigneeId : input.assigneeId = .undefined ∨ ∃ n, 1 ≤ n ∧ input.assigneeId = .value n
  projectId : input.projectId = projectId
  dueDate : input.dueDate = .undefined

namespace CsvImportService

variable [Unicode] [Postgres] {projectId : ℕ}

/-- Is the INSERT of the record sent? -/
def isSent (projectId : ℕ) (row : ImportedRow) : Bool := (validateRow projectId row.record).isOk

/-- The failures of the INSERTs, in the order in which they are sent. -/
def faults (projectId : ℕ) (rows : List ImportedRow) : List (Option PgError) :=
  (rows.filter (isSent projectId)).map (·.fault)

/-- Nothing but these INSERTs fails; the first statement looks for the project. -/
def importPlan (projectId : ℕ) (rows : List ImportedRow) : Plan
  | 0, _ => none
  | number + 1, _ => ((faults projectId rows)[number]?).join

/-- An import whose INSERTs meet the failures of the rows. -/
def importUnder (projectId performedBy : ℕ) (rows : List ImportedRow) (db : Db) :
    Except Exception ImportSummary × Db :=
  let (result, state) := (importIntoProject projectId (.ok (rows.map (·.record))) performedBy).run
    (execUnder (importPlan projectId rows)) (db, 0)
  (result, state.1)

/-- The error of the INSERT of an input. -/
def refusal (db : Db) (input : TicketInput) : Option PgError :=
  match (TicketsRepository.create input db).1 with
  | .ok _ => none
  | .error error => some error

/-- Why a record fails: the first problem it has, or the error of its INSERT. -/
def failure (db : Db) (projectId : ℕ) (row : ImportedRow) : Option String :=
  match validateRow projectId row.record with
  | .error message => some message
  | .ok input => (row.fault.or (refusal db input)).map Postgres.message

/-- The input of a record that does not fail. -/
def accepted (db : Db) (projectId : ℕ) (row : ImportedRow) : Option TicketInput :=
  if (failure db projectId row).isSome then none else (validateRow projectId row.record).toOption

/-- The reports about the records that fail; `rowNumber` is the number of the first record. -/
def reports (db : Db) (projectId rowNumber : ℕ) (rows : List ImportedRow) : List ImportRowError :=
  (rows.zipIdx rowNumber).filterMap fun row =>
    (failure db projectId row.1).map fun message => ⟨row.2, message⟩

/-- The tickets that an import adds. -/
def newTickets (projectId performedBy : ℕ) (rows : List ImportedRow) (db : Db) : List TicketRow :=
  (importUnder projectId performedBy rows db).2.tickets.rows.drop db.tickets.rows.length

/-- A ticket without the key that was drawn for it. -/
def content (ticket : TicketRow) : TicketRow := { ticket with id := 0 }

/-! ### Inputs -/

omit [Unicode] [Postgres] in
/-- Text that is not blank has a code unit. -/
theorem utf16Length_pos {text : String} (some : text.isEmpty = false) : 1 ≤ utf16Length text := by
  have nonempty : text.toList ≠ [] := by
    intro none
    rw [String.toList_eq_nil_iff.mp none] at some
    cases some
  obtain ⟨c, cs, same⟩ := List.exists_cons_of_ne_nil nonempty
  rw [utf16Length, same, List.map_cons, List.sum_cons]
  split_ifs <;> omega

omit [Unicode] [Postgres] in
theorem one_le_of_positiveInteger {text : String} {n : ℕ} (read : positiveInteger text = some n) :
    1 ≤ n := by
  unfold positiveInteger at read
  split at read
  · cases read
  · simp only at read
    split_ifs at read with zero whole
    obtain rfl := Option.some.inj read
    obtain ⟨-, atLeast, -⟩ := whole
    have positive := Rat.num_pos.mpr (zero_lt_one.trans_le atLeast)
    omega

omit [Postgres] in
theorem optionalEnum_ne_null {α : Type} {name : String} {values : List α} {text : α → String}
    {raw : Option String} {field : Field α} (read : optionalEnum name values text raw = .ok field) :
    field ≠ .null := by
  rintro rfl
  unfold optionalEnum at read
  simp only at read
  split_ifs at read
  · cases read
  · split at read
    · cases read
    · cases read

omit [Unicode] [Postgres] in
theorem assignee_of_validateAssignee {raw : Option String} {field : Field ℕ}
    (read : validateAssignee raw = .ok field) :
    field = .undefined ∨ ∃ n, 1 ≤ n ∧ field = .value n := by
  unfold validateAssignee at read
  simp only at read
  split_ifs at read
  · cases read
    exact .inl rfl
  · split at read
    · next n number =>
      cases read
      exact .inr ⟨n, one_le_of_positiveInteger number, rfl⟩
    · cases read

omit [Postgres] in
/-- **What is passed on to the database** is a proper input for the project. -/
theorem validateRow_proper {record : CsvRecord} {input : TicketInput}
    (valid : validateRow projectId record = .ok input) : input.Proper projectId := by
  -- The checks in the order of the source: the first that fails ends the row.
  cases typed : validateType record.type with
  | error message =>
      simp only [validateRow, typed] at valid
      split_ifs at valid <;> cases valid
  | ok type =>
  cases inStatus : optionalEnum "status" TicketStatus.values TicketStatus.text record.status with
  | error message =>
      simp only [validateRow, typed, inStatus] at valid
      split_ifs at valid <;> cases valid
  | ok status =>
  cases rated :
      optionalEnum "priority" TicketPriority.values TicketPriority.text record.priority with
  | error message =>
      simp only [validateRow, typed, inStatus, rated] at valid
      split_ifs at valid <;> cases valid
  | ok priority =>
  cases assigned : validateAssignee record.assigneeId with
  | error message =>
      simp only [validateRow, typed, inStatus, rated, assigned] at valid
      split_ifs at valid <;> cases valid
  | ok assigneeId =>
      rw [validateRow_of_cells typed inStatus rated assigned] at valid
      split_ifs at valid with blank long
      cases valid
      constructor
      · exact utf16Length_pos (Bool.eq_false_iff.mpr blank)
      · exact not_lt.mp long
      · exact optionalEnum_ne_null inStatus
      · exact optionalEnum_ne_null rated
      · exact assignee_of_validateAssignee assigned
      · rfl
      · rfl

/-! ### One record -/

omit [Unicode] in
/-- Whether an INSERT is refused depends on the users and the projects. -/
theorem refusal_congr {db db' : Db} (users : db'.users = db.users)
    (projects : db'.projects = db.projects) (input : TicketInput) :
    refusal db' input = refusal db input := by
  have references (due : Field Timestamp) :
      TicketsRepository.referencesExist db'
        (TicketsRepository.createdRow input due db'.now db'.tickets.next) =
      TicketsRepository.referencesExist db
        (TicketsRepository.createdRow input due db.now db.tickets.next) := by
    unfold TicketsRepository.referencesExist
    rw [users, projects]
    rfl
  rw [refusal, refusal, TicketsRepository.create_eq, TicketsRepository.create_eq]
  cases TicketsRepository.dueInstant input.dueDate with
  | error error => rfl
  | ok due =>
      simp only [references]
      split_ifs <;> rfl

theorem failure_congr {db db' : Db} (users : db'.users = db.users)
    (projects : db'.projects = db.projects) (row : ImportedRow) :
    failure db' projectId row = failure db projectId row := by
  unfold failure
  cases validateRow projectId row.record with
  | error message => rfl
  | ok input => simp only [refusal_congr users projects input]

theorem accepted_congr {db db' : Db} (users : db'.users = db.users)
    (projects : db'.projects = db.projects) :
    accepted db' projectId = accepted db projectId := by
  funext row
  rw [accepted, accepted, failure_congr users projects]

theorem reports_congr {db db' : Db} (users : db'.users = db.users)
    (projects : db'.projects = db.projects) (rowNumber : ℕ) (rows : List ImportedRow) :
    reports db' projectId rowNumber rows = reports db projectId rowNumber rows := by
  simp only [reports, failure_congr users projects]

/-- The tickets that were added, in order, while users and projects stayed. -/
structure Adds (db after : Db) (inputs : List TicketInput) : Prop where
  users : after.users = db.users
  projects : after.projects = db.projects
  now : after.now = db.now
  tickets : ∃ created, after.tickets.rows = db.tickets.rows ++ created ∧
    List.Forall₂ (fun input ticket =>
      ∃ id, ticket = TicketsRepository.createdRow input .undefined db.now id) inputs created

omit [Unicode] [Postgres] in
theorem Adds.refl (db : Db) : Adds db db [] :=
  ⟨rfl, rfl, rfl, [], (List.append_nil _).symm, .nil⟩

omit [Unicode] [Postgres] in
theorem Adds.trans {db middle after : Db} {inputs more : List TicketInput}
    (first : Adds db middle inputs) (second : Adds middle after more) :
    Adds db after (inputs ++ more) := by
  obtain ⟨created, rows, made⟩ := first.tickets
  obtain ⟨later, laterRows, laterMade⟩ := second.tickets
  rw [first.now] at laterMade
  refine ⟨second.users.trans first.users, second.projects.trans first.projects,
    second.now.trans first.now, created ++ later, ?_, List.rel_append made laterMade⟩
  rw [laterRows, rows, List.append_assoc]

omit [Unicode] [Postgres] in
/-- An audit entry adds no ticket. -/
theorem Adds.of_business {db stored after : Db} {inputs : List TicketInput}
    (adds : Adds db stored inputs) (same : after.business = stored.business) :
    Adds db after inputs := by
  obtain ⟨users, projects, now, tickets⟩ := adds
  have kept : after.users = stored.users ∧ after.projects = stored.projects ∧
      after.now = stored.now ∧ after.tickets = stored.tickets :=
    ⟨congrArg (·.users) same, congrArg (·.projects) same, congrArg (·.now) same,
      congrArg (·.tickets) same⟩
  obtain ⟨sameUsers, sameProjects, sameNow, sameTickets⟩ := kept
  refine ⟨sameUsers.trans users, sameProjects.trans projects, sameNow.trans now, ?_⟩
  rwa [sameTickets]

omit [Unicode] in
/-- An INSERT that fails adds nothing. -/
theorem adds_of_create_error {input : TicketInput} {db after : Db} {error : PgError}
    (executed : TicketsRepository.create input db = (.error error, after)) : Adds db after [] := by
  rw [TicketsRepository.create_eq] at executed
  cases bound : TicketsRepository.dueInstant input.dueDate with
  | error refused =>
      rw [bound] at executed
      obtain ⟨-, rfl⟩ := Prod.mk.inj executed
      exact .refl db
  | ok due =>
      rw [bound] at executed
      simp only at executed
      split_ifs at executed
      · cases executed
        exact ⟨rfl, rfl, rfl, [], (List.append_nil _).symm, .nil⟩
      · cases executed
      · cases executed
        exact ⟨rfl, rfl, rfl, [], (List.append_nil _).symm, .nil⟩

/-- The summary after one more record. -/
def counted (summary : ImportSummary) (rowNumber : ℕ) : Option String → ImportSummary
  | none => { summary with created := summary.created + 1 }
  | some message => { summary with
      failed := summary.failed + 1
      errors := summary.errors ++ [⟨rowNumber, message⟩] }

/-- The number of INSERTs of a record. -/
def sends (projectId : ℕ) (row : ImportedRow) : ℕ := if isSent projectId row then 1 else 0

/-- **One record** is counted, and adds its ticket unless it fails. -/
theorem countRow_under (row : ImportedRow) {plan : Plan} {number : ℕ}
    (planned : isSent projectId row → ∀ sent, plan number sent = row.fault)
    (summary : ImportSummary) (rowNumber : ℕ) (db : Db) :
    ∃ after, (countRow projectId summary rowNumber row.record).run (execUnder plan) (db, number) =
        (.ok (counted summary rowNumber (failure db projectId row)), after,
          number + sends projectId row) ∧
      Adds db after (accepted db projectId row).toList := by
  unfold countRow importRow failure accepted sends failure isSent
  unfold isSent at planned
  cases valid : validateRow projectId row.record with
  | error message => exact ⟨db, rfl, .refl db⟩
  | ok input =>
      have undated : input.dueDate = .undefined := (validateRow_proper valid).dueDate
      have fault := planned (by rw [valid]; rfl)
      simp only [execute, query, Program.call_bind, Program.tryCatch_eq, Program.tryCatch,
        Program.run_call, execUnder, faulty, Plan.statements, fault]
      -- A planned fault is counted as a failure, like an INSERT that is refused.
      cases row.fault with
      | some error => exact ⟨db, rfl, .refl db⟩
      | none =>
          simp only [Option.map_none, exec_command, Command.exec, refusal]
          obtain ⟨⟨result, after⟩, executed⟩ : ∃ reached,
              TicketsRepository.create input db = reached := ⟨_, rfl⟩
          simp only [executed]
          cases result with
          | ok ticket =>
              obtain ⟨due, bound, rfl, rfl⟩ := TicketsRepository.create_ok executed
              rw [undated] at bound
              cases bound
              exact ⟨_, rfl, rfl, rfl, rfl, [_], rfl, .cons ⟨_, rfl⟩ .nil⟩
          | error error => exact ⟨after, rfl, adds_of_create_error executed⟩

/-! ### All records -/

omit [Postgres] in
/-- The first INSERT is the one of the first record that is sent. -/
theorem faults_cons (row : ImportedRow) (rows : List ImportedRow) :
    faults projectId (row :: rows) =
      if isSent projectId row then row.fault :: faults projectId rows
      else faults projectId rows := by
  unfold faults
  by_cases sent : isSent projectId row
  · rw [List.filter_cons_of_pos sent, if_pos sent, List.map_cons]
  · rw [List.filter_cons_of_neg sent, if_neg sent]

theorem reports_cons (db : Db) (rowNumber : ℕ) (row : ImportedRow) (rows : List ImportedRow) :
    reports db projectId rowNumber (row :: rows) =
      ((failure db projectId row).map (⟨rowNumber, ·⟩)).toList ++
        reports db projectId (rowNumber + 1) rows := by
  unfold reports
  rw [List.zipIdx_cons, List.filterMap_cons]
  cases failure db projectId row <;> rfl

/-- A record either is reported or becomes a ticket. -/
theorem accepted_isSome_iff (db : Db) (row : ImportedRow) :
    (accepted db projectId row).isSome ↔ failure db projectId row = none := by
  unfold accepted failure
  cases validateRow projectId row.record with
  | error message => simp
  | ok input => cases row.fault.or (refusal db input) <;> simp [Except.toOption]

theorem validateRow_of_accepted {db : Db} {row : ImportedRow} {input : TicketInput}
    (made : accepted db projectId row = some input) :
    validateRow projectId row.record = .ok input := by
  rw [accepted] at made
  split_ifs at made
  cases valid : validateRow projectId row.record with
  | error message =>
      rw [valid] at made
      cases made
  | ok input' =>
      rw [valid] at made
      cases made
      rfl

theorem accepted_of_failure {db : Db} {row : ImportedRow} {message : String}
    (failed : failure db projectId row = some message) : accepted db projectId row = none := by
  rw [accepted, failed]
  rfl

/-- **All records**: those that fail are reported with their positions, and the
others are added in order. -/
theorem importRows_under (rows : List ImportedRow) {plan : Plan} {number : ℕ}
    (planned : ∀ k fault, (faults projectId rows)[k]? = some fault →
      ∀ sent, plan (number + k) sent = fault)
    (summary : ImportSummary) (rowNumber : ℕ) (db : Db) :
    ∃ after, (importRows projectId summary rowNumber (rows.map (·.record))).run (execUnder plan)
        (db, number) =
        (.ok
          { created := summary.created + (rows.filterMap (accepted db projectId)).length
            failed := summary.failed + (reports db projectId rowNumber rows).length
            errors := summary.errors ++ reports db projectId rowNumber rows },
          after, number + (faults projectId rows).length) ∧
      Adds db after (rows.filterMap (accepted db projectId)) := by
  induction rows generalizing number summary rowNumber db with
  | nil =>
      refine ⟨db, ?_, .refl db⟩
      simp [importRows, reports, faults]
  | cons row rows ih =>
      have first : isSent projectId row → ∀ sent, plan number sent = row.fault := by
        intro isSent sent
        apply planned 0
        rw [faults_cons, if_pos isSent]
        rfl
      have others : ∀ k fault, (faults projectId rows)[k]? = some fault →
          ∀ sent, plan (number + sends projectId row + k) sent = fault := by
        intro k fault later sent
        unfold sends
        split_ifs with isSent
        · have next := planned (k + 1) fault (by rw [faults_cons, if_pos isSent]; exact later) sent
          rwa [show number + 1 + k = number + (k + 1) by omega]
        · exact planned k fault (by rw [faults_cons, if_neg isSent]; exact later) sent
      obtain ⟨middle, ranFirst, addsFirst⟩ := countRow_under row first summary rowNumber db
      obtain ⟨after, ran, adds⟩ := ih others
        (counted summary rowNumber (failure db projectId row)) (rowNumber + 1) middle
      -- The records before it have changed neither the users nor the projects.
      rw [accepted_congr addsFirst.users addsFirst.projects] at ran adds
      rw [reports_congr addsFirst.users addsFirst.projects] at ran
      have numbered : number + sends projectId row + (faults projectId rows).length =
          number + (faults projectId (row :: rows)).length := by
        rw [sends, faults_cons]
        split_ifs
        · rw [List.length_cons]
          omega
        · rfl
      rw [List.map_cons, importRows, Program.run_bind, ranFirst]
      simp only [ran, numbered, reports_cons db rowNumber row rows]
      have either : (accepted db projectId row).isSome ↔ failure db projectId row = none :=
        accepted_isSome_iff db row
      cases failed : failure db projectId row with
      | none =>
          obtain ⟨input, created⟩ := Option.isSome_iff_exists.mp (either.mpr failed)
          rw [created] at addsFirst
          rw [List.filterMap_cons_some created]
          refine ⟨after, ?_, addsFirst.trans adds⟩
          simp [counted]
          omega
      | some message =>
          have skipped := accepted_of_failure failed
          rw [skipped] at addsFirst
          rw [List.filterMap_cons_none skipped]
          refine ⟨after, ?_, addsFirst.trans adds⟩
          simp [counted]
          omega

/-- Every report is about a record that fails, with its position. -/
theorem mem_reports_iff {db : Db} {rowNumber : ℕ} {rows : List ImportedRow}
    {report : ImportRowError} :
    report ∈ reports db projectId rowNumber rows ↔
      ∃ index row, rows[index]? = some row ∧ report.row = rowNumber + index ∧
        failure db projectId row = some report.message := by
  unfold reports
  constructor
  · intro reported
    obtain ⟨⟨row, number⟩, numbered, made⟩ := List.mem_filterMap.mp reported
    obtain ⟨message, failed, rfl⟩ := Option.map_eq_some_iff.mp made
    obtain ⟨atLeast, found⟩ := List.mk_mem_zipIdx_iff_le_and_getElem?_sub.mp numbered
    exact ⟨number - rowNumber, row, found, (Nat.add_sub_cancel' atLeast).symm, failed⟩
  · rintro ⟨index, row, found, number, failed⟩
    refine List.mem_filterMap.mpr ⟨(row, rowNumber + index), ?_, ?_⟩
    · exact List.mk_add_mem_zipIdx_iff_getElem?.mpr found
    · rw [failed, ← number]
      rfl

/-- The reports are in the order of the records. -/
theorem reports_increasing (db : Db) (rowNumber : ℕ) (rows : List ImportedRow) :
    ((reports db projectId rowNumber rows).map (·.row)).Pairwise (· < ·) := by
  induction rows generalizing rowNumber with
  | nil => exact .nil
  | cons row rows ih =>
      rw [reports_cons, List.map_append, List.pairwise_append]
      refine ⟨?_, ih (rowNumber + 1), ?_⟩
      · cases failure db projectId row with
        | none => exact .nil
        | some message => exact List.pairwise_singleton _ _
      · intro first isFirst later isLater
        obtain ⟨report, reported, rfl⟩ := List.mem_map.mp isFirst
        obtain ⟨-, -, rfl⟩ := Option.map_eq_some_iff.mp (Option.mem_toList.mp reported)
        obtain ⟨report, reported, rfl⟩ := List.mem_map.mp isLater
        obtain ⟨index, -, -, number, -⟩ := mem_reports_iff.mp reported
        simp only [number]
        omega

/-- Every record is counted once. -/
theorem length_accepted_add_reports (db : Db) (rowNumber : ℕ) (rows : List ImportedRow) :
    (rows.filterMap (accepted db projectId)).length +
      (reports db projectId rowNumber rows).length = rows.length := by
  induction rows generalizing rowNumber with
  | nil => rfl
  | cons row rows ih =>
      have either : (accepted db projectId row).isSome ↔ failure db projectId row = none :=
        accepted_isSome_iff db row
      have others := ih (rowNumber + 1)
      rw [reports_cons, List.length_append, List.length_cons]
      cases failed : failure db projectId row with
      | none =>
          obtain ⟨input, created⟩ := Option.isSome_iff_exists.mp (either.mpr failed)
          rw [List.filterMap_cons_some created, List.length_cons]
          simp only [Option.map_none, Option.toList_none, List.length_nil]
          omega
      | some message =>
          rw [List.filterMap_cons_none (accepted_of_failure failed)]
          simp only [Option.map_some, Option.toList_some, List.length_singleton]
          omega

/-! ### An import -/

omit [Unicode] in
/-- The project is found when its statement does not fail. -/
theorem run_assertExists_under {α : Type} {db : Db} {project : ProjectRow} {plan : Plan}
    (found : ProjectsRepository.findById projectId db = some project)
    (spared : ∀ sent, plan 0 sent = none) (next : Unit → Service α) :
    (ProjectsService.assertExists projectId >>= next).run (execUnder plan) (db, 0) =
      (next ()).run (execUnder plan) (db, 1) := by
  have unplanned (statement : Statement) : plan.statements 0 statement = none := by
    rw [Plan.statements, spared]
    rfl
  rw [ProjectsService.assertExists, ProjectsService.getOrThrow, Program.bind_assoc,
    Program.bind_assoc, select, query, Program.call_bind, Program.run_call]
  simp only [execUnder, faulty, unplanned, exec_select, Query.eval, found]
  rfl

/-- **An import** into a project that exists. -/
theorem importUnder_eq {db : Db} (existing : (ProjectsRepository.findById projectId db).isSome)
    (performedBy : ℕ) (rows : List ImportedRow) :
    ∃ after, importUnder projectId performedBy rows db =
        (.ok
          { created := (rows.filterMap (accepted db projectId)).length
            failed := (reports db projectId 1 rows).length
            errors := reports db projectId 1 rows }, after) ∧
      Adds db after (rows.filterMap (accepted db projectId)) := by
  obtain ⟨project, found⟩ := Option.isSome_iff_exists.mp existing
  -- The first statement looks the project up; the others are those of the records.
  have planned : ∀ k fault, (faults projectId rows)[k]? = some fault →
      ∀ sent, importPlan projectId rows (1 + k) sent = fault := by
    intro k fault here sent
    rw [Nat.add_comm, importPlan, here]
    rfl
  obtain ⟨stored, ran, adds⟩ := importRows_under rows planned ⟨0, 0, []⟩ 1 db
  let summary : ImportSummary :=
    { created := (rows.filterMap (accepted db projectId)).length
      failed := (reports db projectId 1 rows).length
      errors := reports db projectId 1 rows }
  -- The audit entry comes last, and changes none of the tables that are read.
  obtain ⟨after, number, logged, same⟩ := run_log_under (importPlan projectId rows)
    { action := .create
      entityType := .project
      entityId := projectId
      performedBy := some performedBy
      actor := .user
      metadata := [("operation", .value (.text "csv-import")),
        ("created", .value (.number summary.created)),
        ("failed", .value (.number summary.failed))] }
    (fun _ => pure summary) (stored, 1 + (faults projectId rows).length)
  refine ⟨after, ?_, ?_⟩
  · unfold importUnder importIntoProject
    rw [run_assertExists_under found fun _ => rfl]
    simp only
    rw [Program.run_bind, ran]
    simp only [Nat.zero_add, List.nil_append]
    rw [logged]
    rfl
  · exact adds.of_business same

omit [Unicode] [Postgres] in
/-- The tickets of the inputs, without their keys. -/
theorem Adds.contents {db after : Db} {inputs : List TicketInput} (adds : Adds db after inputs) :
    (after.tickets.rows.drop db.tickets.rows.length).map content =
      inputs.map fun input => TicketsRepository.createdRow input .undefined db.now 0 := by
  obtain ⟨created, rows, made⟩ := adds.tickets
  rw [rows, List.drop_left]
  clear rows adds
  induction made with
  | nil => rfl
  | cons ticket _ ih =>
      obtain ⟨id, rfl⟩ := ticket
      rw [List.map_cons, List.map_cons, ih]
      rfl

/-! ### What is sent -/

/-- **An import sends proper inputs only**, whatever the answers. -/
theorem importIntoProject_proper (records : List CsvRecord) (performedBy : ℕ) :
    (importIntoProject projectId (.ok records) performedBy).Only fun statement =>
      ∀ input, statement = .command (.createTicket input) → input.Proper projectId := by
  have writes : (importIntoProject projectId (.ok records) performedBy).Only
      (Writing fun write => ∀ input, write = .createTicket input → input.Proper projectId) := by
    apply importIntoProject_only
    · rintro raw input valid input' ⟨⟩
      exact validateRow_proper valid
    · rintro entry _ input ⟨⟩
  apply writes.mono
  rintro _ allowed input rfl
  exact allowed input rfl

end CsvImportService

/-! ### Every import -/

open CsvImportService

/-- **The rows of an import are isolated.** -/
theorem import_isolates_rows [Unicode] [Postgres] {projectId : ℕ} {db : Db}
    (existing : (ProjectsRepository.findById projectId db).isSome) (performedBy : ℕ) :
    (∀ rows : List ImportedRow, ∃ summary after created,
      importUnder projectId performedBy rows db = (.ok summary, after) ∧
      summary.created + summary.failed = rows.length ∧
      summary.errors.length = summary.failed ∧
      (summary.errors.map (·.row)).Pairwise (· < ·) ∧
      (∀ report, report ∈ summary.errors ↔ ∃ index row, rows[index]? = some row ∧
        report.row = index + 1 ∧ failure db projectId row = some report.message) ∧
      after.tickets.rows = db.tickets.rows ++ created ∧
      List.Forall₂
        (fun input ticket => ∃ id,
          ticket = TicketsRepository.createdRow input .undefined db.now id ∧
          ticket.projectId = projectId ∧ ticket.dueDate = none)
        (rows.filterMap (accepted db projectId)) created) ∧
    (∀ before row behind, (failure db projectId row).isSome →
      (newTickets projectId performedBy (before ++ row :: behind) db).map content =
        (newTickets projectId performedBy (before ++ behind) db).map content) ∧
    ∀ records, (importIntoProject projectId (.ok records) performedBy).Only fun statement =>
      ∀ input, statement = .command (.createTicket input) → input.Proper projectId := by
  refine ⟨?_, ?_, fun records => importIntoProject_proper records performedBy⟩
  · intro rows
    -- The import adds one ticket for each accepted record, and nothing else.
    obtain ⟨after, ran, adds⟩ := importUnder_eq existing performedBy rows
    obtain ⟨created, added, made⟩ := adds.tickets
    refine ⟨_, after, created, ran, length_accepted_add_reports db 1 rows, rfl,
      reports_increasing db 1 rows, ?_, added, ?_⟩
    · intro report
      simp only [mem_reports_iff, Nat.add_comm 1]
    · have proper : ∀ input ∈ rows.filterMap (accepted db projectId), input.Proper projectId := by
        intro input isAccepted
        obtain ⟨row, -, made⟩ := List.mem_filterMap.mp isAccepted
        exact validateRow_proper (validateRow_of_accepted made)
      refine ((List.forall₂_and_left _ _).mpr ⟨proper, made⟩).imp ?_
      rintro input ticket ⟨proper, id, rfl⟩
      exact ⟨id, rfl, proper.projectId, rfl⟩
  · intro before row behind fails
    obtain ⟨message, failed⟩ := Option.isSome_iff_exists.mp fails
    -- A record that fails contributes no input, wherever it stands.
    have without : (before ++ row :: behind).filterMap (accepted db projectId) =
        (before ++ behind).filterMap (accepted db projectId) := by
      rw [List.filterMap_append, List.filterMap_append,
        List.filterMap_cons_none (accepted_of_failure failed)]
    obtain ⟨after, ran, adds⟩ := importUnder_eq existing performedBy (before ++ row :: behind)
    obtain ⟨after', ran', adds'⟩ := importUnder_eq existing performedBy (before ++ behind)
    rw [newTickets, newTickets, ran, ran', adds.contents, adds'.contents, without]

section Sample

open Sample

/-- A record with a title and a type. -/
def Sample.titledRow (title : String) : ImportedRow where
  record := ⟨some title, none, some "bug", none, none, none⟩
  fault := none

/-- A record without a title, between two others. -/
theorem titled_import_isolates :
    let db := serveAll setup Db.empty
    (failure db 1 (titledRow " ")).isSome ∧
      (newTickets 1 1 ([titledRow "First"] ++ titledRow " " :: [titledRow "Second"]) db).map
          content =
        (newTickets 1 1 ([titledRow "First"] ++ [titledRow "Second"]) db).map content := by
  intro db
  have existing : (ProjectsRepository.findById 1 db).isSome := by decide +kernel
  have fails : (failure db 1 (titledRow " ")).isSome := by decide +kernel
  exact ⟨fails, (import_isolates_rows existing 1).2.1 _ _ _ fails⟩

end Sample

end IssueFlow
