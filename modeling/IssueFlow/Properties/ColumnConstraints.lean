import IssueFlow.Database.Ranges
import IssueFlow.Properties.Workload
import IssueFlow.Semantics.Triple
import IssueFlow.Services.Filters
import IssueFlow.Services.Validation

/-!
# Validated bodies and the columns

`@IsOptional()` lets `null` through, and the services ask only whether a field
is `undefined`. So a body that passes the validation can reach a `NOT NULL`
column with a NULL, or bcrypt with no text. A date that passes may be none that
PostgreSQL reads, and a text that passes may be too long for its column, since
the validation does not count variation selectors and PostgreSQL does. Nothing
else goes wrong: the outcome is a success or a 4xx exactly when no such field
gets as far as the statement, and no PATCH finds the last version.

## Main definitions

* `BodyRequest` — the requests with a validated body
* `Command.StoresNoNull`, `Command.FitsColumns` — what a write takes from a body fits the columns
* `BodyRequest.IsSound` — a success or a 4xx, and every write fits the columns
* `BodyRequest.Suits` — the fields that would go wrong do not get to the statement

## Main results

* `isSound_iff_suits` — when the outcome is sound
* `null_title_unsound` — a PATCH with the title `null`
-/

namespace IssueFlow

open Store Semantics JavaScript Validation

/-! ### Requests with a body -/

/-- The requests whose body the validation has let through. -/
inductive BodyRequest [ClassValidator]
  | createTicket (dto : CreateTicketDto) (valid : dto.isValid) (performedBy : ℕ)
  | updateTicket (id : ℕ) (dto : UpdateTicketDto) (valid : dto.isValid) (performedBy : ℕ)
  | updateProject (id : ℕ) (dto : UpdateProjectDto) (valid : dto.isValid) (performedBy : ℕ)
  | createUser (dto : CreateUserDto) (valid : dto.isValid) (performedBy : Option ℕ)
      (salt : String)
  | updateUser (id : ℕ) (dto : UpdateUserDto) (valid : dto.isValid) (performedBy : ℕ)

def BodyRequest.request [ClassValidator] : BodyRequest → Request
  | createTicket dto _ performedBy => .createTicket dto performedBy
  | updateTicket id dto _ performedBy => .updateTicket id dto performedBy
  | updateProject id dto _ performedBy => .updateProject id dto performedBy
  | createUser dto _ performedBy salt => .createUser dto performedBy salt
  | updateUser id dto _ performedBy => .updateUser id dto performedBy

/-! ### Columns -/

/-- No row gets a NULL in a column that is `NOT NULL`. -/
def Command.StoresNoNull (db : Db) : Command → Prop
  | .updateUser id input =>
      (db.users.get? id).isSome → input.fullName ≠ .null ∧ input.role ≠ .null
  | .updateProject id input => (ProjectsRepository.findById id db).isSome → input.name ≠ .null
  | .createTicket input => input.status ≠ .null ∧ input.priority ≠ .null
  | .updateWithVersionCheck id expectedVersion input _ =>
      ∀ row, TicketsRepository.findById id db = some row → expectedVersion = some row.version →
        input.title ≠ .null ∧ input.status ≠ .null ∧ input.priority ≠ .null
  | _ => True

/-- What a write takes from a request body fits the columns: no text is too long
for its `VARCHAR`, which is checked whether or not a row is found, and no row gets
a NULL. -/
structure Command.FitsColumns (db : Db) (write : Command) : Prop where
  widths : tooWide write.texts = none
  noNull : write.StoresNoNull db

def Statement.FitsColumns (db : Db) : Statement → Prop
  | .select _ => True
  | .command write => write.FitsColumns db

section Sound

variable [Postgres] [Bcrypt] [Unicode] [ClassValidator]

/-- The outcome is a success or a 4xx, and every statement that is sent fits the
columns. -/
structure BodyRequest.IsSound (sent : BodyRequest) (db : Db) : Prop where
  answer : ∀ exception, (serve sent.request db).1 = .error exception → ∀ details,
    400 ≤ (exception.answer details).statusCode ∧ (exception.answer details).statusCode < 500
  statements : ∀ event ∈ (sent.request.program (walkFuel db)).events exec db,
    event.op.FitsColumns event.state

end Sound

/-! ### The condition -/

section Condition

variable [Postgres]

/-- A due date is left out, cleared, or one that PostgreSQL reads. -/
def isReadable : Field String → Bool
  | .value text => (Postgres.timestamptz text).isSome
  | _ => true

/-- A supplied assignee exists. -/
def assigneeKnown (assigneeId : Field ℕ) (db : Db) : Bool :=
  !assigneeId.isDefined || (UsersRepository.findById assigneeId.toOption db).isSome

/-- A creation gets to its INSERT. -/
def CreateTicketDto.getsToInsert (dto : CreateTicketDto) (db : Db) : Prop :=
  (ProjectsRepository.findById dto.projectId db).isSome ∧ assigneeKnown dto.assigneeId db

/-- A PATCH gets to the look-up of its assignee. -/
def UpdateTicketDto.getsToAssignee (id : ℕ) (dto : UpdateTicketDto) (db : Db) : Prop :=
  TicketsService.hasUpdate dto ∧ dto.version.isDefined ∧
    ∃ before, TicketsRepository.findById id db = some before ∧ before.status ≠ .done ∧
      TicketsService.isIllegalTransition before.status dto.status = false ∧
      (dto.status = .value .done → DependenciesRepository.countUnresolvedBlockers id db = 0)

/-- A PATCH gets to its UPDATE. -/
def UpdateTicketDto.getsToUpdate (id : ℕ) (dto : UpdateTicketDto) (db : Db) : Prop :=
  dto.getsToAssignee id db ∧ assigneeKnown dto.assigneeId db

/-- The fields that the validation lets through and the database does not take
are not there, or the request is refused before the statement. A PATCH with a
version that is not the stored one writes no NULL, and its version has a
successor. -/
def BodyRequest.Suits [ClassValidator] (db : Db) : BodyRequest → Prop
  | createTicket dto _ _ => dto.getsToInsert db →
      fits 255 dto.title ∧ dto.status ≠ .null ∧ dto.priority ≠ .null ∧ isReadable dto.dueDate
  | updateTicket id dto _ _ => dto.getsToUpdate id db →
      isOptional (fits 255) dto.title ∧ isReadable dto.dueDate ∧
        ∀ before, TicketsRepository.findById id db = some before →
          dto.version = .value before.version →
            dto.title ≠ .null ∧ dto.status ≠ .null ∧ dto.priority ≠ .null ∧
              versionOverflows before.version = false
  | updateProject id dto _ _ => (ProjectsRepository.findById id db).isSome →
      isOptional (fits 255) dto.name ∧ dto.name ≠ .null
  | createUser dto _ _ _ => UsersRepository.findByUsername dto.username db = none →
      dto.password ≠ .null ∧ fits 64 dto.username ∧ fits 255 dto.email ∧ fits 255 dto.fullName
  | updateUser id dto _ _ => (db.users.get? id).isSome →
      isOptional (fits 255) dto.fullName ∧ dto.fullName ≠ .null ∧ dto.role ≠ .null

end Condition

/-! ### Rules -/

section Rules

variable [Postgres] {α β : Type} {db : Db}

/-- A success, or an exception that is answered with a 4xx. -/
def AnswersWell : Except Exception α → Prop
  | .ok _ => True
  | .error exception => exception.isClientError

/-- Every statement of a part fits the columns, and its outcome is answered well. -/
def Fine (p : Service α) (db : Db) : Prop :=
  p.Conforms exec (fun op state => op.FitsColumns state) (fun result _ => AnswersWell result) db

theorem fine_iff (p : Service α) : Fine p db ↔
    (∀ event ∈ p.events exec db, event.op.FitsColumns event.state) ∧
      AnswersWell (p.run exec db).1 :=
  Program.conforms_iff p

theorem fine_map (f : α → β) (p : Service α) : Fine (f <$> p) db ↔ Fine p db := by
  have answers (result : Except Exception α) : AnswersWell (result.map f) ↔ AnswersWell result := by
    cases result <;> exact Iff.rfl
  unfold Fine
  rw [Program.conforms_map]
  simp only [answers]

theorem fine_http (status : HttpStatus) (message : String) :
    Fine (throw (.http status message) : Service α) db :=
  Exception.isClientError_http status message

theorem fine_select (read : Query) (next : read.Rows → Service α) :
    Fine (select read >>= next) db ↔ Fine (next (read.eval db)) db :=
  and_iff_right trivial

theorem fine_execute (write : Command) (next : write.Rows → Service α) :
    Fine (execute write >>= next) db ↔ write.FitsColumns db ∧
      match write.exec db with
      | (.ok rows, after) => Fine (next rows) after
      | (.error error, _) => (Exception.database error).isClientError := by
  unfold Fine execute query
  rw [Program.call_bind, Program.Conforms, exec_command]
  refine and_congr Iff.rfl ?_
  generalize write.exec db = answer
  obtain ⟨result, after⟩ := answer
  cases result <;> exact Iff.rfl

theorem fine_log (input : AuditInsert) (next : Unit → Service α) :
    Fine (AuditService.log input >>= next) db ↔
      Fine (next ()) (AuditRepository.insert input db).2 :=
  and_iff_right ⟨rfl, trivial⟩

/-! ### Parts that only read -/

theorem ProjectsService.fine_getOrThrow (id : ℕ) (next : ProjectRow → Service α) :
    Fine (getOrThrow id >>= next) db ↔
      ∀ row, ProjectsRepository.findById id db = some row → Fine (next row) db := by
  rw [getOrThrow, Program.bind_assoc, fine_select, Query.eval]
  cases ProjectsRepository.findById id db with
  | none => exact iff_of_true (fine_http _ _) (by simp)
  | some project => simp

theorem ProjectsService.fine_assertExists (id : ℕ) (next : Unit → Service α) :
    Fine (assertExists id >>= next) db ↔
      ((ProjectsRepository.findById id db).isSome → Fine (next ()) db) := by
  rw [assertExists, Program.bind_assoc, ProjectsService.fine_getOrThrow, Option.isSome_iff_exists,
    forall_exists_index]
  exact Iff.rfl

theorem UsersService.fine_getOrThrow (id : Option ℕ) (next : UserRow → Service α) :
    Fine (getOrThrow id >>= next) db ↔
      ∀ row, UsersRepository.findById id db = some row → Fine (next row) db := by
  rw [getOrThrow, Program.bind_assoc, fine_select, Query.eval]
  cases UsersRepository.findById id db with
  | none => exact iff_of_true (fine_http _ _) (by simp)
  | some user => simp

namespace TicketsService

theorem fine_getOrThrow (id : ℕ) (next : TicketRow → Service α) :
    Fine (getOrThrow id >>= next) db ↔
      ∀ row, TicketsRepository.findById id db = some row → Fine (next row) db := by
  rw [getOrThrow, Program.bind_assoc, fine_select, Query.eval]
  cases TicketsRepository.findById id db with
  | none => exact iff_of_true (fine_http _ _) (by simp)
  | some ticket => simp

theorem fine_assertAssigneeExists (assigneeId : Field ℕ) (next : Unit → Service α) :
    Fine (assertAssigneeExists assigneeId >>= next) db ↔
      (assigneeKnown assigneeId db → Fine (next ()) db) := by
  unfold assertAssigneeExists assigneeKnown
  cases assigneeId.isDefined with
  | false => simp
  | true =>
      rw [if_pos rfl, UsersService.findById]
      simp only [Program.bind_assoc]
      rw [UsersService.fine_getOrThrow, Bool.not_true, Bool.false_or, Option.isSome_iff_exists,
        forall_exists_index]
      exact Iff.rfl

theorem fine_assertNoUnresolvedBlockers (id : ℕ) (status : Field TicketStatus)
    (next : Unit → Service α) :
    Fine (assertNoUnresolvedBlockers id status >>= next) db ↔
      ((status = .value .done → DependenciesRepository.countUnresolvedBlockers id db = 0) →
        Fine (next ()) db) := by
  unfold assertNoUnresolvedBlockers
  split_ifs with resolves
  · rw [Program.bind_assoc, fine_select, Query.eval]
    split_ifs with unresolved
    · have some : 0 < DependenciesRepository.countUnresolvedBlockers id db := unresolved
      refine iff_of_true (fine_http _ _) fun none => absurd (none resolves) ?_
      omega
    · have none : DependenciesRepository.countUnresolvedBlockers id db = 0 :=
        Nat.eq_zero_of_not_pos unresolved
      simp [none]
  · simp [resolves]

theorem fine_autoAssign (dto : CreateTicketDto) (next : Option ℕ → Service α) :
    Fine (autoAssign dto >>= next) db ↔
      Fine (next (if dto.assigneeId.isDefined then none
        else chosenAssignee dto.projectId db)) db := by
  unfold autoAssign
  cases dto.assigneeId.isDefined with
  | false =>
      rw [if_neg Bool.false_ne_true, if_neg Bool.false_ne_true, Program.bind_assoc, fine_select]
      rfl
  | true => rfl

theorem fine_logAutoAssign (ticketId : ℕ) (chosen : Option ℕ) (next : Unit → Service α)
    (rest : ∀ db, Fine (next ()) db) : Fine (logAutoAssign ticketId chosen >>= next) db := by
  cases chosen with
  | none => exact rest db
  | some assignee => exact (fine_log _ _).mpr (rest _)

end TicketsService

/-! ### Statements -/

omit [Postgres] in
theorem Command.fitsColumns_iff {write : Command} :
    write.FitsColumns db ↔ tooWide write.texts = none ∧ write.StoresNoNull db :=
  ⟨fun fit => ⟨fit.widths, fit.noNull⟩, fun fit => ⟨fit.1, fit.2⟩⟩

omit [Postgres] in
theorem tooWide_singleton {limit : ℕ} {text : String} :
    tooWide [(limit, text)] = none ↔ fits limit text := by
  rw [tooWide_eq_none_iff, List.forall_mem_singleton]

omit [Postgres] in
/-- A text that may be left out. -/
theorem tooWide_optional {limit : ℕ} {field : Field String} :
    tooWide (field.toOption.toList.map (limit, ·)) = none ↔ isOptional (fits limit) field := by
  cases field with
  | value text => exact tooWide_singleton
  | _ => exact iff_of_true rfl rfl

omit [Postgres] in
theorem Field.toOption_eq_some {γ : Type} {field : Field γ} {given : γ} :
    field.toOption = some given ↔ field = .value given := by
  cases field <;> simp [Field.toOption]

theorem dueInstant_cases (field : Field String) :
    (isReadable field = true ∧ ∃ due, TicketsRepository.dueInstant field = .ok due) ∨
      isReadable field = false ∧ TicketsRepository.dueInstant field = .error .invalidDatetime := by
  cases field with
  | value text =>
      simp only [isReadable, TicketsRepository.dueInstant]
      cases Postgres.timestamptz text with
      | none => exact .inr ⟨rfl, rfl⟩
      | some instant => exact .inl ⟨rfl, _, rfl⟩
  | _ => exact .inl ⟨rfl, _, rfl⟩

omit [Postgres] in
theorem isNull_eq_false {γ : Type} {field : Field γ} (given : field ≠ .null) :
    field.isNull = false := by
  cases field with
  | null => exact absurd rfl given
  | _ => rfl

/-- The INSERT of a ticket goes wrong by a long title, by a NULL or by a date. -/
theorem fine_createTicket {input : TicketInput} {next : TicketRow → Service α}
    (rest : ∀ row db, Fine (next row) db) :
    Fine (execute (.createTicket input) >>= next) db ↔
      fits 255 input.title ∧ input.status ≠ .null ∧ input.priority ≠ .null ∧
        isReadable input.dueDate := by
  rw [fine_execute]
  simp only [Command.fitsColumns_iff, Command.texts, tooWide_singleton, Command.StoresNoNull,
    Command.exec, TicketsRepository.create_eq, and_assoc]
  refine and_congr_right fun _ => and_congr_right fun status => and_congr_right fun priority => ?_
  have filled : TicketsRepository.createViolatesNotNull input = false := by
    rw [TicketsRepository.createViolatesNotNull, isNull_eq_false status, isNull_eq_false priority]
    rfl
  rcases dueInstant_cases input.dueDate with ⟨readable, due, bound⟩ | ⟨unreadable, bound⟩
  · -- A reference that does not exist is a 400.
    rw [bound]
    refine iff_of_true ?_ readable
    simp only [filled, Bool.false_eq_true, if_false]
    split_ifs
    · exact rest _ _
    · rfl
  · rw [bound, unreadable]
    exact iff_of_false Bool.false_ne_true Bool.false_ne_true

/-- The versioned UPDATE goes wrong by a long title and by a date whether or not it
finds its row, and on its row by a NULL and by the last version. -/
theorem fine_updateWithVersionCheck {id : ℕ} {expectedVersion : Option ℕ} {input : TicketUpdate}
    {resetOverdueFlag : Bool} {next : Option TicketRow → Service α}
    (rest : ∀ row db, Fine (next row) db) :
    Fine (execute (.updateWithVersionCheck id expectedVersion input resetOverdueFlag) >>= next) db ↔
      isOptional (fits 255) input.title ∧ isReadable input.dueDate ∧
        ∀ row, TicketsRepository.findById id db = some row → expectedVersion = some row.version →
          input.title ≠ .null ∧ input.status ≠ .null ∧ input.priority ≠ .null ∧
            versionOverflows row.version = false := by
  rw [fine_execute]
  simp only [Command.fitsColumns_iff, Command.texts, tooWide_optional, Command.StoresNoNull,
    Command.exec, TicketsRepository.updateWithVersionCheck_eq, and_assoc]
  refine and_congr_right fun _ => ?_
  rcases dueInstant_cases input.dueDate with ⟨readable, due, bound⟩ | ⟨unreadable, bound⟩
  · rw [bound, and_iff_right readable]
    cases matched : (TicketsRepository.findById id db).filter fun row =>
        expectedVersion = some row.version with
    | none =>
        have missed : ∀ row, TicketsRepository.findById id db = some row →
            expectedVersion ≠ some row.version := by
          intro row found same
          rw [found, Option.filter_some, if_pos (by simpa using same)] at matched
          exact absurd matched (Option.some_ne_none row)
        exact iff_of_true
          ⟨fun row found same => absurd same (missed row found), rest _ _⟩
          fun row found same => absurd same (missed row found)
    | some row =>
        obtain ⟨found, same⟩ := Option.filter_eq_some_iff.mp matched
        have only (other : TicketRow) (read : TicketsRepository.findById id db = some other) :
            other = row := Option.some.inj (read.symm.trans found)
        constructor
        · rintro ⟨given, ended⟩ other read version
          obtain ⟨title, status, priority⟩ := given other read version
          refine ⟨title, status, priority, ?_⟩
          rw [only other read]
          cases overflows : versionOverflows row.version with
          | false => rfl
          | true =>
              simp only [overflows, if_true] at ended
              exact absurd ended Bool.false_ne_true
        · intro given
          obtain ⟨title, status, priority, successor⟩ := given row found (by simpa using same)
          refine ⟨fun _ _ _ => ⟨title, status, priority⟩, ?_⟩
          have filled : TicketsRepository.violatesNotNull input = false := by
            rw [TicketsRepository.violatesNotNull, isNull_eq_false title, isNull_eq_false status,
              isNull_eq_false priority]
            rfl
          -- An assignee that does not exist is a 400.
          simp only [successor, filled, Bool.false_eq_true, if_false]
          split_ifs
          · exact rest _ _
          · rfl
  · rw [bound, unreadable]
    exact iff_of_false (fun fine => Bool.false_ne_true fine.2) fun suits =>
      Bool.false_ne_true suits.1

/-- The UPDATE of a live project goes wrong by a long name or by a NULL. -/
theorem fine_updateProject {id : ℕ} {input : ProjectUpdate}
    {next : Option ProjectRow → Service α} (live : (ProjectsRepository.findById id db).isSome)
    (rest : ∀ row db, Fine (next row) db) :
    Fine (execute (.updateProject id input) >>= next) db ↔
      isOptional (fits 255) input.name ∧ input.name ≠ .null := by
  rw [fine_execute]
  simp only [Command.fitsColumns_iff, Command.texts, tooWide_optional, Command.StoresNoNull,
    Command.exec, live, forall_true_left]
  refine and_iff_left_of_imp ?_
  rintro ⟨-, name⟩
  rw [ProjectsRepository.update_eq, isNull_eq_false name]
  simp only [Bool.false_eq_true, if_false]
  split_ifs
  · cases ProjectsRepository.findById id db <;> exact rest _ _
  · exact rest _ _

/-- The UPDATE of a user goes wrong by a long name or by a NULL. -/
theorem fine_updateUser {id : ℕ} {input : UserUpdate} {next : Option UserRow → Service α}
    (stored : (db.users.get? id).isSome) (rest : ∀ row db, Fine (next row) db) :
    Fine (execute (.updateUser id input) >>= next) db ↔
      isOptional (fits 255) input.fullName ∧ input.fullName ≠ .null ∧ input.role ≠ .null := by
  rw [fine_execute]
  simp only [Command.fitsColumns_iff, Command.texts, tooWide_optional, Command.StoresNoNull,
    Command.exec, stored, forall_true_left]
  refine and_iff_left_of_imp ?_
  rintro ⟨-, fullName, role⟩
  have filled : UsersRepository.violatesNotNull input = false := by
    rw [UsersRepository.violatesNotNull, isNull_eq_false fullName, isNull_eq_false role]
    rfl
  rw [UsersRepository.update_eq, filled]
  simp only [Bool.false_eq_true, if_false]
  split_ifs
  · cases db.users.get? id <;> exact rest _ _
  · exact rest _ _

/-- The INSERT of a user goes wrong by a long text: a name that is taken is a 409. -/
theorem fine_createUser {input : UserInput} {next : UserRow → Service α}
    (rest : ∀ row db, Fine (next row) db) :
    Fine (execute (.createUser input) >>= next) db ↔
      fits 64 input.username ∧ fits 255 input.email ∧ fits 255 input.fullName := by
  have widths : (Command.createUser input).FitsColumns db ↔
      fits 64 input.username ∧ fits 255 input.email ∧ fits 255 input.fullName := by
    simp [Command.fitsColumns_iff, Command.texts, tooWide_eq_none_iff, Command.StoresNoNull]
  rw [fine_execute, widths]
  refine and_iff_left_of_imp fun _ => ?_
  simp only [Command.exec, UsersRepository.create]
  split_ifs
  · rfl
  · exact rest _ _

end Rules

/-! ### Services -/

section Services

variable [Postgres] {db : Db}

theorem TicketsService.fine_create (dto : CreateTicketDto) (performedBy : ℕ) :
    Fine (create dto performedBy) db ↔ (dto.getsToInsert db →
      fits 255 dto.title ∧ dto.status ≠ .null ∧ dto.priority ≠ .null ∧
        isReadable dto.dueDate) := by
  rw [create, ProjectsService.fine_assertExists, CreateTicketDto.getsToInsert, and_imp]
  refine imp_congr_right fun _ => ?_
  rw [fine_assertAssigneeExists]
  refine imp_congr_right fun _ => ?_
  rw [fine_autoAssign]
  refine fine_createTicket fun row after => ?_
  exact (fine_log _ _).mpr (fine_logAutoAssign _ _ _ fun _ => trivial)

theorem TicketsService.fine_update (dto : UpdateTicketDto) (id performedBy : ℕ) :
    Fine (update id dto performedBy) db ↔ (dto.getsToUpdate id db →
      isOptional (fits 255) dto.title ∧ isReadable dto.dueDate ∧
        ∀ before, TicketsRepository.findById id db = some before →
          dto.version = .value before.version →
            dto.title ≠ .null ∧ dto.status ≠ .null ∧ dto.priority ≠ .null ∧
              versionOverflows before.version = false) := by
  unfold update UpdateTicketDto.getsToUpdate UpdateTicketDto.getsToAssignee
  cases hasUpdate dto with
  | false => exact iff_of_true (fine_http _ _) fun gets => absurd gets.1.1 Bool.false_ne_true
  | true =>
    cases dto.version.isDefined with
    | false => exact iff_of_true (fine_http _ _) fun gets => absurd gets.1.2.1 Bool.false_ne_true
    | true =>
      simp only [Bool.not_true, Bool.false_eq_true, if_false, true_and, forall_exists_index,
        and_imp]
      rw [fine_getOrThrow]
      refine forall_congr' fun before => imp_congr_right fun found => ?_
      -- The checks of the service, in its order.
      split_ifs with resolved illegal
      · exact iff_of_true (fine_http _ _) fun live => absurd resolved live
      · exact iff_of_true (fine_http _ _) fun _ legal => absurd (legal.symm.trans illegal)
          Bool.false_ne_true
      · rw [fine_assertNoUnresolvedBlockers, forall_prop_of_true resolved,
          forall_prop_of_true (Bool.eq_false_of_not_eq_true illegal)]
        refine imp_congr_right fun _ => ?_
        rw [fine_assertAssigneeExists]
        refine imp_congr_right fun _ => ?_
        simp only [← Field.toOption_eq_some]
        refine fine_updateWithVersionCheck fun row after => ?_
        cases row with
        | none => exact (fine_select _ _).mpr (fine_http _ _)
        | some updated => exact (fine_log _ _).mpr trivial

theorem ProjectsService.fine_update (dto : UpdateProjectDto) (id performedBy : ℕ) :
    Fine (update id dto performedBy) db ↔ ((ProjectsRepository.findById id db).isSome →
      isOptional (fits 255) dto.name ∧ dto.name ≠ .null) := by
  unfold update
  split_ifs with missing
  · -- Neither field is there.
    have absent : dto.name = .undefined := by
      cases name : dto.name <;> simp [name, Field.isDefined] at missing ⊢
    rw [absent]
    exact iff_of_true (fine_http _ _) fun _ => ⟨rfl, by simp⟩
  · rw [fine_getOrThrow, Option.isSome_iff_exists, forall_exists_index]
    refine forall_congr' fun before => imp_congr_right fun found => ?_
    refine fine_updateProject (Option.isSome_of_eq_some found) fun row after => ?_
    cases row with
    | none => exact fine_http _ _
    | some updated => exact (fine_log _ _).mpr trivial

theorem UsersService.fine_create [Bcrypt] (dto : CreateUserDto) (performedBy : Option ℕ)
    (salt : String) :
    Fine (create dto performedBy salt) db ↔
      (UsersRepository.findByUsername dto.username db = none → dto.password ≠ .null ∧
        fits 64 dto.username ∧ fits 255 dto.email ∧ fits 255 dto.fullName) := by
  rw [create, fine_select, Query.eval]
  cases UsersRepository.findByUsername dto.username db with
  | some taken =>
      exact iff_of_true (fine_http _ _) fun free => absurd free (Option.some_ne_none taken)
  | none =>
      -- `null` gets to the hashing, which throws an error that no filter maps.
      cases dto.password with
      | null => exact iff_of_false Bool.false_ne_true fun given => (given rfl).1 rfl
      | _ =>
          rw [forall_prop_of_true rfl, and_iff_right (by simp)]
          exact fine_createUser fun row after => (fine_log _ _).mpr trivial

theorem UsersService.fine_update (dto : UpdateUserDto) (id performedBy : ℕ) :
    Fine (update id dto performedBy) db ↔ ((db.users.get? id).isSome →
      isOptional (fits 255) dto.fullName ∧ dto.fullName ≠ .null ∧ dto.role ≠ .null) := by
  unfold update
  split_ifs with missing
  · -- Neither field is there.
    have absent : dto.fullName = .undefined ∧ dto.role = .undefined := by
      cases fullName : dto.fullName <;> cases role : dto.role <;>
        simp [fullName, role, Field.isDefined] at missing ⊢
    rw [absent.1, absent.2]
    exact iff_of_true (fine_http _ _) fun _ => ⟨rfl, by simp, by simp⟩
  · rw [fine_getOrThrow, Option.isSome_iff_exists, forall_exists_index]
    refine forall_congr' fun before => imp_congr_right fun found => ?_
    refine fine_updateUser (Option.isSome_of_eq_some found) fun row after => ?_
    cases row with
    | none => exact fine_http _ _
    | some updated => exact (fine_log _ _).mpr trivial

end Services

/-! ### Main results -/

section Requests

variable [Postgres] [Bcrypt] [Unicode] [ClassValidator]

theorem BodyRequest.isSound_iff_fine (sent : BodyRequest) (db : Db) :
    sent.IsSound db ↔ Fine (sent.request.program (walkFuel db)) db := by
  rw [fine_iff]
  have answers : AnswersWell (serve sent.request db).1 ↔
      ∀ exception, (serve sent.request db).1 = .error exception → ∀ details,
        400 ≤ (exception.answer details).statusCode ∧
          (exception.answer details).statusCode < 500 := by
    simp only [Exception.statusCode_answer]
    cases (serve sent.request db).1 with
    | ok response => exact iff_of_true trivial fun _ same => absurd same (by simp)
    | error exception =>
        simp only [AnswersWell, Exception.isClientError, Bool.and_eq_true, decide_eq_true_eq]
        exact ⟨fun within _ same _ => Except.error.inj same ▸ within,
          fun within => within exception rfl ⟨none, none⟩⟩
  exact ⟨fun sound => ⟨sound.statements, answers.mpr sound.answer⟩,
    fun fine => ⟨answers.mp fine.2, fine.1⟩⟩

/-- **Validated bodies.** A request with a body that the validation has let
through ends with a success or a 4xx, and sends only statements that fit the
columns, exactly when no long text and no unreadable date gets to its statement,
and no `null` and no last version to its row. -/
theorem isSound_iff_suits (sent : BodyRequest) (db : Db) : sent.IsSound db ↔ sent.Suits db := by
  rw [BodyRequest.isSound_iff_fine]
  cases sent with
  | createTicket dto valid performedBy =>
      exact (fine_map _ _).trans (TicketsService.fine_create dto performedBy)
  | updateTicket id dto valid performedBy =>
      exact (fine_map _ _).trans (TicketsService.fine_update dto id performedBy)
  | updateProject id dto valid performedBy =>
      exact (fine_map _ _).trans (ProjectsService.fine_update dto id performedBy)
  | createUser dto valid performedBy salt =>
      exact (fine_map _ _).trans (UsersService.fine_create dto performedBy salt)
  | updateUser id dto valid performedBy =>
      exact (fine_map _ _).trans (UsersService.fine_update dto id performedBy)

end Requests

section NullTitle

open Sample

/-- A PATCH that sends the title as `null`. -/
def nullTitle : UpdateTicketDto where
  title := .null
  description := .undefined
  status := .undefined
  priority := .undefined
  assigneeId := .undefined
  dueDate := .undefined
  version := .value 1

theorem nullTitle_valid : nullTitle.isValid := by
  have one : JavaScript.IsNumber 1 := isNumber_of_le (by decide)
  simp [UpdateTicketDto.isValid, nullTitle, Validation.isOptional, Validation.isInt, one]

/-- The title gets to the UPDATE as a NULL, and the answer is a 500. -/
theorem null_title_unsound :
    ¬ ∀ (inputs : List Input) (sent : BodyRequest), sent.IsSound (serveAll inputs Db.empty) := by
  intro sound
  have failed : (serve (.updateTicket 1 nullTitle 1)
      (serveAll (setup ++ [ticket .todo]) Db.empty)).1 =
      .error (.database .notNullViolation) := by
    decide +kernel
  have answered := (sound (setup ++ [ticket .todo])
    (.updateTicket 1 nullTitle nullTitle_valid 1)).answer _ failed ⟨none, none⟩
  exact absurd answered.2 (by decide)

end NullTitle

end IssueFlow
