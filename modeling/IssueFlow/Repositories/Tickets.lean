import IssueFlow.Database.Columns
import IssueFlow.Store.Update
import Mathlib.Data.List.Sort

/-!
# The tickets repository

The statements of `tickets.repository.ts` as functions on the database. The
versioned UPDATE builds its SET clause from the supplied fields and is executed
as the built statement; `updateWithVersionCheck_eq` says what it does to the
table for every choice of fields.

## Main definitions

* `TicketsRepository.updateClause`, `TicketsRepository.updateWithVersionCheck` —
  the optimistic-lock UPDATE
* `TicketsRepository.applyEscalation` — the UPDATE of the escalation cycle

## Main results

* `TicketsRepository.updateWithVersionCheck_eq`, `TicketsRepository.applyEscalation_eq` —
  the two built statements in closed form
-/

namespace IssueFlow

open Store

/-- `deleted_at IS NULL` -/
def TicketRow.isLive (row : TicketRow) : Bool := row.deletedAt.isNone

/-- The columns of `tickets` that some statement assigns. -/
inductive TicketColumn
  | title
  | description
  | status
  | priority
  | assigneeId
  | dueDate
  | isOverdue
  | version
  deriving DecidableEq, Repr

instance ticketColumns [Postgres] : Columns TicketColumn TicketRow where
  bind
    | .title => assignNotNull decodeText fun value row => { row with title := value }
    | .description => assignNullable decodeText fun value row => { row with description := value }
    | .status =>
        assignNotNull (decodeEnum TicketStatus.ofText?) fun value row =>
          { row with status := value }
    | .priority =>
        assignNotNull (decodeEnum TicketPriority.ofText?) fun value row =>
          { row with priority := value }
    | .assigneeId => assignNullable decodeNumber fun value row => { row with assigneeId := value }
    | .dueDate => assignNullable decodeTimestamp fun value row => { row with dueDate := value }
    | .isOverdue => fun _ => .error .datatypeMismatch
    | .version => assignNotNull decodeNumber fun value row => { row with version := value }
  literal
    | .isOverdue, .boolean value => fun row => .ok { row with isOverdue := value }
    | .version, .successor => fun row => .ok { row with version := row.version + 1 }
    | _, _ => fun _ => .error .datatypeMismatch
  evaluate
    | .version, .successor => fun row => evaluateSuccessor row.version
    | _, _ => fun _ => .ok ()

/-- The fields of a PATCH that are written to the row. -/
structure TicketUpdate where
  title : Field String
  description : Field String
  status : Field TicketStatus
  priority : Field TicketPriority
  assigneeId : Field ℕ
  dueDate : Field String
  deriving DecidableEq, Repr

/-- The fields a new ticket is made from. -/
structure TicketInput where
  title : String
  description : Field String
  status : Field TicketStatus
  priority : Field TicketPriority
  type : TicketType
  projectId : ℕ
  assigneeId : Field ℕ
  dueDate : Field String
  deriving DecidableEq, Repr

/-- What the caller of `applyEscalation` decided. -/
inductive EscalationChange
  | promote (newPriority : TicketPriority)
  | markOverdue
  deriving DecidableEq, Repr

/-- A row of the workload list. -/
structure WorkloadRow where
  userId : ℕ
  username : String
  openTicketCount : ℕ
  deriving DecidableEq, Repr

namespace TicketsRepository

/-! ### Reads -/

def findByProject (projectId : ℕ) (db : Db) : List TicketRow :=
  db.tickets.rows.filter fun row => row.projectId = projectId && row.isLive

def findAll (db : Db) : List TicketRow := db.tickets.rows.filter TicketRow.isLive

def findById (id : ℕ) (db : Db) : Option TicketRow := (db.tickets.get? id).filter TicketRow.isLive

def findByIdAnyState (id : ℕ) (db : Db) : Option TicketRow := db.tickets.get? id

def findDeletedByProject (projectId : ℕ) (db : Db) : List TicketRow :=
  db.tickets.rows.filter fun row => row.projectId = projectId && !row.isLive

/-- The tickets a developer has open in a project. -/
def openTickets (projectId : ℕ) (db : Db) (user : UserRow) : List TicketRow :=
  db.tickets.rows.filter fun row =>
    row.assigneeId = some user.id && row.projectId = projectId && row.status ≠ .done && row.isLive

/-- Every developer with the number of open tickets in a project, by that
number and then by registration. -/
def workloadByProject (projectId : ℕ) (db : Db) : List WorkloadRow :=
  let developers := db.users.rows.filter fun user => user.role = .developer
  let counted := developers.map fun user => (user, (openTickets projectId db user).length)
  let sorted := counted.insertionSort fun first second =>
    first.2 < second.2 ∨ first.2 = second.2 ∧ first.1.createdAt ≤ second.1.createdAt
  sorted.map fun entry => ⟨entry.1.id, entry.1.username, entry.2⟩

/-- The condition of the escalation scan. -/
def isOverdueUnresolved (now : Timestamp) (row : TicketRow) : Bool :=
  row.dueDate.any (· < now) && row.status ≠ .done && row.isLive

def findOverdueUnresolved (db : Db) : List TicketRow :=
  db.tickets.rows.filter (isOverdueUnresolved db.now)

/-! ### Creating a ticket -/

/-- The optional columns of the INSERT; `$1` to `$4` are always used. -/
def createClause (input : TicketInput) : Clause TicketColumn :=
  let clause := Clause.start [.text input.title, .ofOption .text input.description.toOption,
    .text input.type.text, .number input.projectId]
  let clause := clause.push .status (input.status.param fun status => .text status.text)
  let clause := clause.push .priority (input.priority.param fun priority => .text priority.text)
  let clause := clause.push .assigneeId (input.assigneeId.param .number)
  clause.push .dueDate (input.dueDate.param .text)

/-- The row before its optional columns are assigned: the first four columns,
and the defaults of the schema. -/
def defaultRow (input : TicketInput) (now : Timestamp) (id : ℕ) : TicketRow where
  id := id
  title := input.title
  description := input.description.toOption
  status := .todo
  priority := .medium
  type := input.type
  projectId := input.projectId
  assigneeId := none
  dueDate := none
  isOverdue := false
  version := 1
  deletedAt := none
  createdAt := now
  updatedAt := now

/-- Do the references of a row exist? -/
def referencesExist (db : Db) (row : TicketRow) : Bool :=
  (db.projects.get? row.projectId).isSome &&
    row.assigneeId.all fun assignee => (db.users.get? assignee).isSome

/-- `INSERT INTO tickets`. A statement that fails after its row was built has
drawn its key. -/
def create [Postgres] (input : TicketInput) (db : Db) : Except PgError TicketRow × Db :=
  let clause := createClause input
  match Clause.compile (ρ := TicketRow) clause.params clause.sets with
  | .error exception => (.error exception, db)
  | .ok assign =>
      match assign (defaultRow input db.now db.tickets.next) with
      | .error exception => (.error exception, { db with tickets := db.tickets.skip })
      | .ok row =>
          if referencesExist db row then
            let row := { row with id := db.tickets.next }
            (.ok row, { db with
              tickets := db.tickets.insert (fun id => { row with id := id }) fun _ => rfl })
          else (.error .foreignKeyViolation, { db with tickets := db.tickets.skip })

/-! ### Updates -/

/-- An assignee that the row did not have before has to exist. -/
def assigneeExists (db : Db) (old new : TicketRow) : Bool :=
  new.assigneeId = old.assigneeId ||
    new.assigneeId.all fun assignee => (db.users.get? assignee).isSome

/-- The reference check and the trigger of an UPDATE on `tickets`. -/
def commit (db : Db) (old new : TicketRow) : Except PgError TicketRow :=
  if assigneeExists db old new then .ok { new with id := old.id, updatedAt := db.now }
  else .error .foreignKeyViolation

/-- `UPDATE tickets SET … WHERE id = $idIdx AND … RETURNING …` -/
def update [Postgres] (clause : Clause TicketColumn) (idIdx : ℕ)
    (condition : Except PgError (TicketRow → Bool)) (db : Db) :
    Except PgError (Option TicketRow) × Db :=
  let (result, tickets) := updateRow clause idIdx condition (commit db) db.tickets
  (result, { db with tickets := tickets })

/-- The SET clause of a PATCH: the supplied fields, the flag that a manual
priority change clears, and the version. -/
def updateClause (input : TicketUpdate) (resetOverdueFlag : Bool) : Clause TicketColumn :=
  let clause := Clause.start []
  let clause := clause.push .title (input.title.param .text)
  let clause := clause.push .description (input.description.param .text)
  let clause := clause.push .status (input.status.param fun status => .text status.text)
  let clause := clause.push .priority (input.priority.param fun priority => .text priority.text)
  let clause := clause.push .assigneeId (input.assigneeId.param .number)
  let clause := clause.push .dueDate (input.dueDate.param .text)
  let clause :=
    if resetOverdueFlag then clause.pushLiteral .isOverdue (.boolean false) else clause
  clause.pushLiteral .version .successor

/-- The optimistic-lock UPDATE: it takes effect only on a live row that still
has the expected version. -/
def updateWithVersionCheck [Postgres] (id : ℕ) (expectedVersion : Option ℕ)
    (input : TicketUpdate) (resetOverdueFlag : Bool) (db : Db) :
    Except PgError (Option TicketRow) × Db :=
  let (idIdx, clause) := (updateClause input resetOverdueFlag).param (.number id)
  let (verIdx, clause) := clause.param (.ofOption .number expectedVersion)
  update clause idIdx
    ((Clause.lookup clause.params verIdx).map fun version row =>
      version.matchesNumber row.version && row.isLive) db

/-- The two statements of the escalation cycle. -/
def escalationClause (id : ℕ) : EscalationChange → Clause TicketColumn
  | .promote newPriority =>
      { sets := [(.priority, .placeholder 2), (.version, .literal .successor)]
        params := [.number id, .text newPriority.text]
        i := 3 }
  | .markOverdue =>
      { sets := [(.isOverdue, .literal (.boolean true)), (.version, .literal .successor)]
        params := [.number id]
        i := 2 }

/-- One escalation step. It is skipped when the ticket was resolved or deleted
in the meantime; nothing else of the row is compared. -/
def applyEscalation [Postgres] (id : ℕ) (change : EscalationChange) (db : Db) :
    Except PgError (Option TicketRow) × Db :=
  update (escalationClause id change) 1 (.ok fun row => row.status ≠ .done && row.isLive) db

/-- Set or clear `deleted_at` on the row with a key, if its state allows it.
The answer says whether a row was affected. -/
def stamp (id : ℕ) (condition : TicketRow → Bool) (deletedAt : Option Timestamp) (db : Db) :
    Bool × Db :=
  match db.tickets.rows.find? fun row => row.id = id && condition row with
  | none => (false, db)
  | some row =>
      (true, { db with
        tickets := db.tickets.set { row with deletedAt := deletedAt, updatedAt := db.now } })

def softDelete (id : ℕ) (db : Db) : Bool × Db := stamp id TicketRow.isLive (some db.now) db

def restore (id : ℕ) (db : Db) : Bool × Db := stamp id (fun row => !row.isLive) none db

theorem stamp_eq (id : ℕ) (condition : TicketRow → Bool) (deletedAt : Option Timestamp) (db : Db) :
    stamp id condition deletedAt db =
      match (db.tickets.get? id).filter condition with
      | none => (false, db)
      | some row =>
          (true, { db with
            tickets := db.tickets.set
              { row with deletedAt := deletedAt, updatedAt := db.now } }) := by
  rw [stamp, ← Table.find?_key_and]
  rfl

/-- Stamping misses, or it writes the row and says so. -/
theorem stamp_cases (id : ℕ) (condition : TicketRow → Bool) (deletedAt : Option Timestamp)
    (db : Db) :
    stamp id condition deletedAt db = (false, db) ∨
      ∃ row, (db.tickets.get? id).filter condition = some row ∧
        stamp id condition deletedAt db = (true, { db with
          tickets :=
            db.tickets.set { row with deletedAt := deletedAt, updatedAt := db.now } }) := by
  rw [stamp_eq]
  cases (db.tickets.get? id).filter condition with
  | none => exact .inl rfl
  | some row => exact .inr ⟨row, rfl, rfl⟩

/-! ### The built statements in closed form -/

section ClosedForm

variable [Postgres]

/-- The instant of a supplied due date, or the error of binding it. -/
def dueInstant : Field String → Except PgError (Field Timestamp)
  | .undefined => .ok .undefined
  | .null => .ok .null
  | .value text =>
      match Postgres.timestamptz text with
      | some instant => .ok (.value instant)
      | none => .error .invalidDatetime

/-- Is NULL supplied for a column that is declared `NOT NULL`? -/
def violatesNotNull (input : TicketUpdate) : Bool :=
  input.title.isNull || input.status.isNull || input.priority.isNull

/-- The row a PATCH leaves behind, apart from `updated_at`. -/
def patchedRow (input : TicketUpdate) (due : Field Timestamp) (resetOverdueFlag : Bool)
    (row : TicketRow) : TicketRow :=
  { row with
    title := input.title.getD row.title
    description := input.description.orKeep row.description
    status := input.status.getD row.status
    priority := input.priority.getD row.priority
    assigneeId := input.assigneeId.orKeep row.assigneeId
    dueDate := due.orKeep row.dueDate
    isOverdue := !resetOverdueFlag && row.isOverdue
    version := row.version + 1 }

/-- The only expression of a PATCH that can fail is the new version. -/
theorem evaluate_updateClause (input : TicketUpdate) (resetOverdueFlag : Bool) (row : TicketRow) :
    Clause.evaluate (updateClause input resetOverdueFlag).sets row =
      evaluateSuccessor row.version := by
  cases resetOverdueFlag <;> simp [updateClause, Columns.evaluate, bind, Except.bind]

private theorem assign_dueDate (field : Field String) :
    (Clause.assignOption TicketColumn.dueDate (field.param .text) :
        Except PgError (TicketRow → Except PgError TicketRow)) =
      (dueInstant field).map fun due row => .ok { row with dueDate := due.orKeep row.dueDate } := by
  cases field with
  | undefined => rfl
  | null => rfl
  | value text =>
      simp only [Clause.assignOption, Field.param, dueInstant, Columns.bind, assignNullable,
        decodeTimestamp]
      cases Postgres.timestamptz text <;> rfl

/-- What the SET clause of a PATCH assigns. -/
theorem updateClause_denotes (input : TicketUpdate) (resetOverdueFlag : Bool) :
    (updateClause input resetOverdueFlag).Denotes ((dueInstant input.dueDate).map fun due row =>
      if violatesNotNull input then .error .notNullViolation
      else .ok (patchedRow input due resetOverdueFlag row)) := by
  have empty : (Clause.start [] : Clause TicketColumn).Denotes
      (Clause.assignNothing : Except PgError (TicketRow → Except PgError TicketRow)) :=
    Clause.denotes_start []
  have fields := (((((empty.push .title (input.title.param .text)).push
    .description (input.description.param .text)).push
    .status (input.status.param fun status => .text status.text)).push
    .priority (input.priority.param fun priority => .text priority.text)).push
    .assigneeId (input.assigneeId.param .number)).push
    .dueDate (input.dueDate.param .text)
  rw [assignOption_notNull input.title (fun _ => rfl) (fun _ => rfl) rfl,
    assignOption_nullable input.description (fun _ => rfl) (fun _ => rfl) rfl,
    assignOption_notNull input.status (fun _ => rfl)
      (decodeEnum_text TicketStatus.ofText?_text) rfl,
    assignOption_notNull input.priority (fun _ => rfl)
      (decodeEnum_text TicketPriority.ofText?_text) rfl,
    assignOption_nullable input.assigneeId (fun _ => rfl) (fun _ => rfl) rfl,
    assign_dueDate] at fields
  -- The assignments of the supplied fields compose to one record update.
  have closed : ∀ (due : Field Timestamp) (row : TicketRow),
      ((((input.title.assign (fun value row => { row with title := value }) row >>= fun row =>
        .ok (input.description.assignNull (fun value row => { row with description := value })
          row)) >>=
        input.status.assign fun value row => { row with status := value }) >>=
        input.priority.assign fun value row => { row with priority := value }) >>= fun row =>
        .ok (input.assigneeId.assignNull (fun value row => { row with assigneeId := value })
          row)) >>= (fun row => .ok { row with dueDate := due.orKeep row.dueDate }) =
      if violatesNotNull input then (.error .notNullViolation : Except PgError TicketRow)
      else .ok { patchedRow input due false row with version := row.version } := by
    intro due row
    rcases input with ⟨title, description, status, priority, assigneeId, dueDate⟩
    cases title <;> cases status <;> cases priority <;> cases description <;>
      cases assigneeId <;> rfl
  cases bound : dueInstant input.dueDate with
  | error exception =>
      simp only [bound, Except.map, Clause.assignNothing_andThen, Clause.ok_andThen_ok,
        Clause.ok_andThen_error] at fields ⊢
      cases resetOverdueFlag with
      | false => exact fields.pushLiteral .version .successor
      | true =>
          exact (fields.pushLiteral .isOverdue (.boolean false)).pushLiteral .version .successor
  | ok due =>
      simp only [bound, Except.map, Clause.assignNothing_andThen, Clause.ok_andThen_ok,
        closed] at fields ⊢
      cases resetOverdueFlag with
      | false =>
          refine (fields.pushLiteral .version .successor).of_eq ?_
          simp only [Clause.ok_andThen_ok, Except.ok.injEq, funext_iff]
          intro row
          cases violatesNotNull input <;> rfl
      | true =>
          refine ((fields.pushLiteral .isOverdue (.boolean false)).pushLiteral
            .version .successor).of_eq ?_
          simp only [Clause.ok_andThen_ok, Except.ok.injEq, funext_iff]
          intro row
          cases violatesNotNull input <;> rfl

/-- Is NULL supplied for a column of a new ticket that is declared `NOT NULL`? -/
def createViolatesNotNull (input : TicketInput) : Bool :=
  input.status.isNull || input.priority.isNull

/-- The row of a new ticket. -/
def createdRow (input : TicketInput) (due : Field Timestamp) (now : Timestamp) (id : ℕ) :
    TicketRow :=
  { defaultRow input now id with
    status := input.status.getD .todo
    priority := input.priority.getD .medium
    assigneeId := input.assigneeId.toOption
    dueDate := due.toOption }

/-- What the optional columns of the INSERT assign. -/
private theorem createClause_denotes (input : TicketInput) :
    (createClause input).Denotes ((dueInstant input.dueDate).map fun due (row : TicketRow) =>
      if createViolatesNotNull input then .error .notNullViolation
      else .ok { row with
        status := input.status.getD row.status
        priority := input.priority.getD row.priority
        assigneeId := input.assigneeId.orKeep row.assigneeId
        dueDate := due.orKeep row.dueDate }) := by
  -- The columns that are always there, then the optional ones in their order.
  have first : (Clause.start [.text input.title, .ofOption .text input.description.toOption,
      .text input.type.text, .number input.projectId] : Clause TicketColumn).Denotes
      (Clause.assignNothing : Except PgError (TicketRow → Except PgError TicketRow)) :=
    Clause.denotes_start _
  have fields := (((first.push
    .status (input.status.param fun status => .text status.text)).push
    .priority (input.priority.param fun priority => .text priority.text)).push
    .assigneeId (input.assigneeId.param .number)).push
    .dueDate (input.dueDate.param .text)
  rw [assignOption_notNull input.status (fun _ => rfl)
      (decodeEnum_text TicketStatus.ofText?_text) rfl,
    assignOption_notNull input.priority (fun _ => rfl)
      (decodeEnum_text TicketPriority.ofText?_text) rfl,
    assignOption_nullable input.assigneeId (fun _ => rfl) (fun _ => rfl) rfl,
    assign_dueDate] at fields
  refine fields.of_eq ?_
  cases dueInstant input.dueDate with
  | error exception => rfl
  | ok due =>
      simp only [Except.map, Clause.assignNothing_andThen, Clause.ok_andThen_ok,
        Except.ok.injEq, funext_iff]
      intro row
      rcases input with ⟨title, description, status, priority, type, projectId, assigneeId, _⟩
      cases status <;> cases priority <;> cases assigneeId <;> rfl

/-- **The INSERT in closed form.** -/
theorem create_eq (input : TicketInput) (db : Db) :
    create input db =
      match dueInstant input.dueDate with
      | .error exception => (.error exception, db)
      | .ok due =>
          if createViolatesNotNull input then
            (.error .notNullViolation, { db with tickets := db.tickets.skip })
          else if referencesExist db (createdRow input due db.now db.tickets.next) then
            (.ok (createdRow input due db.now db.tickets.next), { db with
              tickets := db.tickets.insert (createdRow input due db.now) fun _ => rfl })
          else (.error .foreignKeyViolation, { db with tickets := db.tickets.skip }) := by
  have compiled := (createClause_denotes input).assigns []
  rw [List.append_nil] at compiled
  cases due : dueInstant input.dueDate with
  | error exception =>
      rw [due] at compiled
      simp only [create, compiled, Except.map]
  | ok instant =>
      rw [due] at compiled
      simp only [create, compiled, Except.map]
      cases createViolatesNotNull input with
      | true => rfl
      | false =>
          -- The defaults of the columns, and what the clause has assigned.
          have row : ({ defaultRow input db.now db.tickets.next with
              status := input.status.getD .todo
              priority := input.priority.getD .medium
              assigneeId := input.assigneeId.orKeep none
              dueDate := instant.orKeep none } : TicketRow) =
              createdRow input instant db.now db.tickets.next := by
            simp only [createdRow]
            congr 1
            · cases input.assigneeId <;> rfl
            · cases instant <;> rfl
          simp only [defaultRow] at row ⊢
          simp only [row, Bool.false_eq_true, if_false]
          split_ifs <;> rfl

/-- An INSERT that succeeds has added the row it returns. -/
theorem create_ok {input : TicketInput} {db stored : Db} {row : TicketRow}
    (executed : create input db = (.ok row, stored)) :
    ∃ due, dueInstant input.dueDate = .ok due ∧
      row = createdRow input due db.now db.tickets.next ∧
      stored = { db with
        tickets := db.tickets.insert (createdRow input due db.now) fun _ => rfl } := by
  rw [create_eq] at executed
  cases bound : dueInstant input.dueDate with
  | error exception =>
      rw [bound] at executed
      cases executed
  | ok due =>
      simp only [bound] at executed
      split_ifs at executed
      · cases executed
      · obtain ⟨returned, rfl⟩ := Prod.mk.inj executed
        obtain rfl := Except.ok.inj returned
        exact ⟨due, rfl, rfl, rfl⟩
      · cases executed

/-- **The optimistic-lock UPDATE in closed form.** -/
theorem updateWithVersionCheck_eq (id : ℕ) (expectedVersion : Option ℕ) (input : TicketUpdate)
    (resetOverdueFlag : Bool) (db : Db) :
    updateWithVersionCheck id expectedVersion input resetOverdueFlag db =
      match dueInstant input.dueDate with
      | .error exception => (.error exception, db)
      | .ok due =>
          match (findById id db).filter fun row => expectedVersion = some row.version with
          | none => (.ok none, db)
          | some row =>
              let new := { patchedRow input due resetOverdueFlag row with updatedAt := db.now }
              if versionOverflows row.version then (.error .numericValueOutOfRange, db)
              else if violatesNotNull input then (.error .notNullViolation, db)
              else if assigneeExists db row new then
                (.ok (some new), { db with tickets := db.tickets.set new })
              else (.error .foreignKeyViolation, db) := by
  obtain ⟨denotes, boundId⟩ :=
    (updateClause_denotes input resetOverdueFlag).param (.number id)
  obtain ⟨denotesAll, boundVersion⟩ := denotes.param (.ofOption .number expectedVersion)
  have compiled := denotesAll.assigns []
  have version := boundVersion []
  rw [List.append_nil] at compiled version
  have idFound := boundId [.ofOption .number expectedVersion]
  simp only [updateWithVersionCheck, update, version, Except.map]
  cases due : dueInstant input.dueDate with
  | error exception =>
      rw [due] at compiled
      rw [updateRow_of_unbound compiled]
  | ok instant =>
      rw [due] at compiled
      rw [updateRow_of_bound compiled idFound]
      -- A version that is not sent is compared as NULL, and no row matches.
      have condition : (db.tickets.get? id).filter (fun row =>
          (Param.ofOption .number expectedVersion).matchesNumber row.version && row.isLive) =
          (findById id db).filter fun row => expectedVersion = some row.version := by
        rw [findById, Option.filter_filter]
        refine congrArg (fun p => Option.filter p (db.tickets.get? id)) (funext fun row => ?_)
        cases expectedVersion with
        | none => simp [Param.ofOption, Param.matchesNumber]
        | some expected =>
            simp [Param.ofOption, Param.matchesNumber, eq_comm, Bool.and_comm]
      rw [condition]
      cases (findById id db).filter fun row => expectedVersion = some row.version with
      | none => rfl
      | some row =>
          simp only [writeRow, Clause.evaluate_param, evaluate_updateClause, evaluateSuccessor]
          cases versionOverflows row.version with
          | true => rfl
          | false =>
              cases violatesNotNull input with
              | true => rfl
              | false =>
                  have same :
                      assigneeExists db row (patchedRow input instant resetOverdueFlag row) =
                        assigneeExists db row { patchedRow input instant resetOverdueFlag row with
                          updatedAt := db.now } := rfl
                  simp only [Bool.false_eq_true, if_false, bind, Except.bind, commit, same]
                  split_ifs <;> rfl

/-- A versioned UPDATE that affects a row has found it live, with the expected
version, and has written it. -/
theorem updateWithVersionCheck_ok {id : ℕ} {expectedVersion : Option ℕ} {input : TicketUpdate}
    {resetOverdueFlag : Bool} {db stored : Db} {new : TicketRow}
    (executed : updateWithVersionCheck id expectedVersion input resetOverdueFlag db =
      (.ok (some new), stored)) :
    ∃ row due, findById id db = some row ∧ expectedVersion = some row.version ∧
      dueInstant input.dueDate = .ok due ∧ violatesNotNull input = false ∧
      versionOverflows row.version = false ∧
      new = { patchedRow input due resetOverdueFlag row with updatedAt := db.now } ∧
      stored = { db with tickets := db.tickets.set new } := by
  rw [updateWithVersionCheck_eq] at executed
  cases bound : dueInstant input.dueDate with
  | error exception =>
      rw [bound] at executed
      cases executed
  | ok due =>
      rw [bound] at executed
      cases matched : (findById id db).filter fun row => expectedVersion = some row.version with
      | none =>
          rw [matched] at executed
          cases executed
      | some row =>
          obtain ⟨found, version⟩ := Option.filter_eq_some_iff.mp matched
          simp only [matched] at executed
          -- Only a version with a successor, given values and an assignee that exists
          -- let it return a row.
          split_ifs at executed with overflows null assigned
          · cases executed
          · cases executed
          · cases executed
            exact ⟨row, due, found, of_decide_eq_true version, rfl,
              Bool.eq_false_of_not_eq_true null, Bool.eq_false_of_not_eq_true overflows, rfl, rfl⟩
          · cases executed

/-- The row an escalation step leaves behind, apart from `updated_at`. -/
def escalatedRow (change : EscalationChange) (row : TicketRow) : TicketRow :=
  match change with
  | .promote newPriority => { row with priority := newPriority, version := row.version + 1 }
  | .markOverdue => { row with isOverdue := true, version := row.version + 1 }

/-- **The escalation UPDATE in closed form.** -/
theorem applyEscalation_eq (id : ℕ) (change : EscalationChange) (db : Db) :
    applyEscalation id change db =
      match (findById id db).filter fun row => row.status ≠ .done with
      | none => (.ok none, db)
      | some row =>
          let new := { escalatedRow change row with updatedAt := db.now }
          if versionOverflows row.version then (.error .numericValueOutOfRange, db)
          else (.ok (some new), { db with tickets := db.tickets.set new }) := by
  have compiled : Clause.compile (escalationClause id change).params
      (escalationClause id change).sets =
      (.ok fun row => .ok (escalatedRow change row) :
        Except PgError (TicketRow → Except PgError TicketRow)) := by
    cases change with
    | promote newPriority => cases newPriority <;> rfl
    | markOverdue => rfl
  have bound : Clause.lookup (escalationClause id change).params 1 = .ok (.number id) := by
    cases change <;> rfl
  have condition : (db.tickets.get? id).filter (fun row => row.status ≠ .done && row.isLive) =
      (findById id db).filter fun row => row.status ≠ .done := by
    rw [findById, Option.filter_filter]
    simp only [Bool.and_comm]
  rw [applyEscalation, update, updateRow_of_bound compiled bound, condition]
  cases (findById id db).filter fun row => row.status ≠ .done with
  | none => rfl
  | some row =>
      have evaluated : Clause.evaluate (escalationClause id change).sets row =
          evaluateSuccessor row.version := by
        cases change <;> cases successor : evaluateSuccessor row.version <;>
          simp [escalationClause, Clause.evaluate, Clause.evaluateOne, Columns.evaluate, successor,
            bind, Except.bind, pure, Except.pure]
      -- The assignee stays, so that its reference is not checked again.
      have same : assigneeExists db row (escalatedRow change row) = true := by
        cases change <;> simp [assigneeExists, escalatedRow]
      simp only [writeRow, evaluated, evaluateSuccessor]
      cases versionOverflows row.version with
      | true => rfl
      | false =>
          simp only [Bool.false_eq_true, if_false, bind, Except.bind, commit, same, if_true]
          cases change <;> rfl

end ClosedForm

end TicketsRepository

end IssueFlow
