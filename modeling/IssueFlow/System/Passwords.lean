import IssueFlow.Database.Service
import IssueFlow.Semantics.Simulation

/-!
# Hashes of passwords

The hash of a password is read with every row of a user, but nothing except a
login looks at it. Removing the hashes from a database and from the rows that
are read commutes with every statement.

## Main definitions

* `UserRow.redact`, `Db.redact` — a row and a database without hashes
* `SameButPasswords` — databases that agree without hashes
* `BlindToHashes` — writes that do not look at hashes
* `SameButHash` — statements that correspond, and which of their answers do

## Main results

* `Query.eval_redact`, `Command.exec_redact` — statements do not look at hashes
* `simulates_redacted` — corresponding statements on such databases
-/

namespace IssueFlow

open Store Semantics

/-- The row without the hash of its password. -/
def UserRow.redact (row : UserRow) : UserRow := { row with passwordHash := none }

/-- Rows that agree without hashes differ in the hash. -/
theorem UserRow.exists_eq_of_redact {row row' : UserRow} (same : row.redact = row'.redact) :
    ∃ hash, row' = { row with passwordHash := hash } := by
  refine ⟨row'.passwordHash, ?_⟩
  have restored : row' = { row'.redact with passwordHash := row'.passwordHash } := rfl
  rw [restored, ← same]
  rfl

/-- The rows without the hashes of their passwords. -/
def redactUsers (users : Table UserRow) : Table UserRow :=
  users.update (fun _ => true) UserRow.redact fun _ _ => rfl

theorem rows_redactUsers (users : Table UserRow) :
    (redactUsers users).rows = users.rows.map UserRow.redact := rfl

/-- A condition that does not look at hashes picks the same rows. -/
theorem filter_redactUsers (users : Table UserRow) {p : UserRow → Bool}
    (blind : ∀ row : UserRow, p row.redact = p row) :
    (redactUsers users).rows.filter p = (users.rows.filter p).map UserRow.redact := by
  rw [rows_redactUsers, List.filter_map]
  congr 2
  funext row
  exact blind row

theorem get?_redactUsers (users : Table UserRow) (id : ℕ) :
    (redactUsers users).get? id = (users.get? id).map UserRow.redact :=
  List.find?_map ..

theorem isSome_get?_redactUsers (users : Table UserRow) (id : ℕ) :
    ((redactUsers users).get? id).isSome = (users.get? id).isSome := by
  rw [get?_redactUsers, Option.isSome_map]

/-- Redacting twice is redacting once. -/
theorem redactUsers_redactUsers (users : Table UserRow) :
    redactUsers (redactUsers users) = redactUsers users := by
  apply Table.ext
  · rw [rows_redactUsers, rows_redactUsers, List.map_map]
    rfl
  · rfl

theorem redactUsers_skip (users : Table UserRow) :
    redactUsers (redactUsers users).skip = redactUsers users.skip := by
  apply Table.ext
  · exact (congrArg Table.rows (redactUsers_redactUsers users) :)
  · rfl

theorem redactUsers_insert (users : Table UserRow) {make make' : ℕ → UserRow}
    (keyed : ∀ id, Keyed.key (make id) = id) (keyed' : ∀ id, Keyed.key (make' id) = id)
    (same : ∀ id, (make id).redact = (make' id).redact) :
    redactUsers ((redactUsers users).insert make keyed) =
      redactUsers (users.insert make' keyed') := by
  apply Table.ext
  · have old := congrArg Table.rows (redactUsers_redactUsers users)
    simp only [rows_redactUsers] at old
    simp only [rows_redactUsers, Table.insert, List.map_append, old, List.map_singleton]
    exact congrArg (fun row => _ ++ [row]) (same users.next)
  · rfl

theorem redactUsers_remove (users : Table UserRow) (id : ℕ) :
    redactUsers ((redactUsers users).remove fun user => user.id = id) =
      redactUsers (users.remove fun user => user.id = id) := by
  apply Table.ext
  · have kept : ((redactUsers users).rows.filter fun user : UserRow => !decide (user.id = id)) =
        (users.rows.filter fun user => !decide (user.id = id)).map UserRow.redact :=
      filter_redactUsers users fun _ => rfl
    simp only [rows_redactUsers, Table.remove] at kept ⊢
    rw [kept, List.map_map]
    rfl
  · rfl

/-- A row written over rows that were redacted. -/
theorem redactUsers_set (users : Table UserRow) {row row' : UserRow}
    (same : row.redact = row'.redact) :
    redactUsers ((redactUsers users).set row) = redactUsers (users.set row') := by
  have key : row.id = row'.id := (congrArg UserRow.id same :)
  apply Table.ext
  · simp only [redactUsers, Table.set, Table.update, if_true, List.map_map]
    apply List.map_congr_left
    intro old _
    simp only [Function.comp_apply, Keyed.key, UserRow.redact, key]
    split_ifs
    · exact same
    · rfl
  · rfl

/-- The database without the hashes of passwords. -/
def Db.redact (db : Db) : Db := { db with users := redactUsers db.users }

/-- Databases with the same users but for the hashes, and the same in everything else. -/
theorem redact_eq {db db' : Db} (users : redactUsers db.users = redactUsers db'.users)
    (rest : { db with users := .empty } = { db' with users := .empty }) :
    db.redact = db'.redact := by
  show { { db with users := .empty } with users := redactUsers db.users } = _
  rw [users, rest]
  rfl

/-- The databases agree without the hashes of passwords. -/
def SameButPasswords (db db' : Db) : Prop := db.redact = db'.redact

/-! ### Reads -/

/-- What a read returns, without hashes. -/
def Query.hide : (query : Query) → query.Rows → query.Rows
  | .findAllUsers, rows => rows.map UserRow.redact
  | .findUserById _, row => row.map UserRow.redact
  | .findUserByUsername _, row => row.map UserRow.redact
  | .findUsersByUsernamesLower _, rows => rows.map UserRow.redact
  | _, rows => rows

variable [Postgres]

/-- What a write returns, without hashes. -/
def Command.hide : (command : Command) → command.Rows → command.Rows
  | .createUser _, row => row.redact
  | .updateUser .., row => row.map UserRow.redact
  | _, rows => rows

/-- A new user, with whatever hash. -/
theorem createUser_redact {input input' : UserInput} (db : Db)
    (same : { input with passwordHash := none } = { input' with passwordHash := none }) :
    (UsersRepository.create input db.redact).1.map UserRow.redact =
        (UsersRepository.create input' db).1.map UserRow.redact ∧
      (UsersRepository.create input db.redact).2.redact =
        (UsersRepository.create input' db).2.redact := by
  have clashes : db.redact.users.rows.any (UsersRepository.clashes input) =
      db.users.rows.any (UsersRepository.clashes input') := by
    have blind : UsersRepository.clashes input ∘ UserRow.redact =
        UsersRepository.clashes input' := by
      obtain ⟨username, email, fullName, role, hash⟩ := input
      obtain ⟨username', email', fullName', role', hash'⟩ := input'
      cases same
      rfl
    exact List.any_map.trans (congrArg _ blind)
  have created (id : ℕ) : (UsersRepository.createdRow input db.redact.now id).redact =
      (UsersRepository.createdRow input' db.now id).redact := by
    obtain ⟨username, email, fullName, role, hash⟩ := input
    obtain ⟨username', email', fullName', role', hash'⟩ := input'
    cases same
    rfl
  simp only [UsersRepository.create, clashes]
  split_ifs
  · exact ⟨rfl, redact_eq (redactUsers_skip db.users) rfl⟩
  · refine ⟨congrArg Except.ok (created db.users.next), redact_eq ?_ rfl⟩
    exact redactUsers_insert db.users (fun _ => rfl) (fun _ => rfl) created

omit [Postgres] in
/-- A row is there with or without hashes. -/
theorem isSome_users_redact (db : Db) (id : ℕ) :
    (db.redact.users.get? id).isSome = (db.users.get? id).isSome :=
  isSome_get?_redactUsers db.users id

omit [Postgres] in
theorem redact_redact (db : Db) : db.redact.redact = db.redact :=
  congrArg (fun users => { db with users := users }) (redactUsers_redactUsers db.users)

/-- A write that neither looks at hashes nor answers with one. -/
def BlindToHashes {α : Type} (write : Db → α × Db) : Prop :=
  ∀ db, (write db.redact).1 = (write db).1 ∧ (write db.redact).2.redact = (write db).2.redact

omit [Postgres] in
/-- The writes of a transaction. -/
theorem ClientStatement.exec_redact (statement : ClientStatement) :
    BlindToHashes statement.exec := by
  intro db
  have users := redactUsers_redactUsers db.users
  have stored := isSome_users_redact db
  cases statement with
  | insertComment ticketId authorId content =>
      have found : db.redact.tickets = db.tickets := rfl
      simp only [exec, stored, found]
      split_ifs <;> exact ⟨rfl, redact_eq users rfl⟩
  | updateContent content id expectedVersion =>
      have found : db.redact.comments = db.comments := rfl
      simp only [exec, found]
      cases (db.comments.get? id).filter fun row => expectedVersion = some row.version with
      | none => exact ⟨rfl, redact_eq users rfl⟩
      | some row =>
          simp only
          split_ifs <;> exact ⟨rfl, redact_eq users rfl⟩
  | deleteMentions commentId => exact ⟨rfl, redact_eq users rfl⟩
  | insertMentions commentId mentionedUserIds =>
      have found : db.redact.comments = db.comments := rfl
      have mentions : db.redact.commentMentions = db.commentMentions := rfl
      simp only [exec, stored, found, mentions]
      split_ifs <;> exact ⟨rfl, redact_eq users rfl⟩
  | insertAudit input => exact ⟨rfl, redact_eq users rfl⟩

omit [Postgres] in
/-- A transaction, committed or rolled back. -/
theorem transaction_redact {α : Type} (body : Transaction α) :
    BlindToHashes (transaction body) := by
  intro db
  have unwinds : Simulates (Itself fun _ => True) ClientStatement.exec ClientStatement.exec
      SameButPasswords := by
    refine simulates_itself fun statement _ db db' same => ?_
    obtain ⟨answer, after⟩ := statement.exec_redact db
    obtain ⟨answer', after'⟩ := statement.exec_redact db'
    rw [show db.redact = db'.redact from same] at answer after
    exact ⟨answer.symm.trans answer', after.symm.trans after'⟩
  obtain ⟨outcomes, after⟩ := (Program.Only.all body).alike.run unwinds (redact_redact db)
  rw [Outcomes.eq_iff] at outcomes
  unfold transaction
  generalize body.run ClientStatement.exec db = ran at outcomes after ⊢
  generalize body.run ClientStatement.exec db.redact = ran' at outcomes after ⊢
  obtain ⟨result, reached⟩ := ran
  obtain ⟨result', reached'⟩ := ran'
  obtain rfl : result' = result := outcomes
  cases result' with
  | ok value => exact ⟨rfl, after⟩
  | error exception =>
      -- The keys that were drawn stay drawn, on both sides.
      have same : reached'.redact = reached.redact := after
      have comments : reached'.comments = reached.comments := (congrArg Db.comments same :)
      have auditLogs : reached'.auditLogs = reached.auditLogs := (congrArg Db.auditLogs same :)
      refine ⟨rfl, redact_eq (redactUsers_redactUsers db.users) ?_⟩
      simp only [rollback, comments, auditLogs]
      rfl

omit [Postgres] in
/-- The supplied columns of a user, with whatever hash. -/
theorem updateUser_redact (id : ℕ) (input : UserUpdate) (db : Db) :
    (UsersRepository.update id input db.redact).1.map (Option.map UserRow.redact) =
        (UsersRepository.update id input db).1.map (Option.map UserRow.redact) ∧
      (UsersRepository.update id input db.redact).2.redact =
        (UsersRepository.update id input db).2.redact := by
  have users := redactUsers_redactUsers db.users
  have found : db.redact.users.get? id = (db.users.get? id).map UserRow.redact :=
    get?_redactUsers db.users id
  simp only [UsersRepository.update_eq, found]
  cases input.fullName.isDefined || input.role.isDefined with
  | false =>
      refine ⟨?_, redact_eq users rfl⟩
      cases db.users.get? id <;> rfl
  | true =>
      cases db.users.get? id with
      | none => exact ⟨rfl, redact_eq users rfl⟩
      | some row =>
          simp only [if_true, Option.map_some]
          split_ifs
          · exact ⟨rfl, redact_eq users rfl⟩
          · exact ⟨rfl, redact_eq (redactUsers_set db.users rfl) rfl⟩

omit [Postgres] in
theorem deleteUser_redact (id : ℕ) : BlindToHashes (UsersRepository.delete id) := by
  intro db
  have users := redactUsers_redactUsers db.users
  have found : db.redact.users.get? id = (db.users.get? id).map UserRow.redact :=
    get?_redactUsers db.users id
  have referenced : UsersRepository.isReferenced db.redact id =
      UsersRepository.isReferenced db id := rfl
  simp only [UsersRepository.delete, found, referenced]
  cases db.users.get? id with
  | none => exact ⟨rfl, redact_eq users rfl⟩
  | some user =>
      simp only [Option.map_some]
      cases UsersRepository.isReferenced db id with
      | true => exact ⟨rfl, redact_eq users rfl⟩
      | false => exact ⟨rfl, redact_eq (redactUsers_remove db.users id) rfl⟩

omit [Postgres] in
theorem createProject_redact (input : ProjectInput) :
    BlindToHashes (ProjectsRepository.create input) := by
  intro db
  simp only [ProjectsRepository.create, isSome_users_redact db]
  split_ifs <;> exact ⟨rfl, redact_eq (redactUsers_redactUsers db.users) rfl⟩

omit [Postgres] in
theorem updateProject_redact (id : ℕ) (input : ProjectUpdate) :
    BlindToHashes (ProjectsRepository.update id input) := by
  intro db
  have found : db.redact.projects = db.projects := rfl
  simp only [ProjectsRepository.update, found]
  split_ifs <;> exact ⟨rfl, redact_eq (redactUsers_redactUsers db.users) rfl⟩

omit [Postgres] in
/-- The two statements that stamp a project. -/
theorem stampProject_redact (id : ℕ) (condition : ProjectRow → Bool)
    (deletedAt : Db → Option Timestamp) (blind : ∀ db, deletedAt db.redact = deletedAt db) :
    BlindToHashes fun db => ProjectsRepository.stamp id condition (deletedAt db) db := by
  intro db
  have found : db.redact.projects = db.projects := rfl
  simp only [ProjectsRepository.stamp_eq, found, blind]
  cases (db.projects.get? id).filter condition <;>
    exact ⟨rfl, redact_eq (redactUsers_redactUsers db.users) rfl⟩

theorem createTicket_redact (input : TicketInput) :
    BlindToHashes (TicketsRepository.create input) := by
  intro db
  have users := redactUsers_redactUsers db.users
  have checked (row : TicketRow) : TicketsRepository.referencesExist db.redact row =
      TicketsRepository.referencesExist db row := by
    simp only [TicketsRepository.referencesExist, isSome_users_redact db]
    rfl
  have found : db.redact.tickets = db.tickets := rfl
  have now : db.redact.now = db.now := rfl
  simp only [TicketsRepository.create_eq, checked, found, now]
  cases TicketsRepository.dueInstant input.dueDate with
  | error exception => exact ⟨rfl, redact_eq users rfl⟩
  | ok due =>
      simp only
      split_ifs <;> exact ⟨rfl, redact_eq users rfl⟩

theorem updateWithVersionCheck_redact (id : ℕ) (expectedVersion : Option ℕ) (input : TicketUpdate)
    (resetOverdueFlag : Bool) :
    BlindToHashes (TicketsRepository.updateWithVersionCheck id expectedVersion input
      resetOverdueFlag) := by
  intro db
  have users := redactUsers_redactUsers db.users
  have found : TicketsRepository.findById id db.redact = TicketsRepository.findById id db := rfl
  have checked (old new : TicketRow) : TicketsRepository.assigneeExists db.redact old new =
      TicketsRepository.assigneeExists db old new := by
    simp only [TicketsRepository.assigneeExists, isSome_users_redact db]
  have now : db.redact.now = db.now := rfl
  simp only [TicketsRepository.updateWithVersionCheck_eq, found, checked, now]
  cases TicketsRepository.dueInstant input.dueDate with
  | error exception => exact ⟨rfl, redact_eq users rfl⟩
  | ok due =>
      cases (TicketsRepository.findById id db).filter fun row =>
          expectedVersion = some row.version with
      | none => exact ⟨rfl, redact_eq users rfl⟩
      | some row =>
          simp only
          split_ifs <;> exact ⟨rfl, redact_eq users rfl⟩

theorem applyEscalation_redact (id : ℕ) (change : EscalationChange) :
    BlindToHashes (TicketsRepository.applyEscalation id change) := by
  intro db
  have users := redactUsers_redactUsers db.users
  have found : TicketsRepository.findById id db.redact = TicketsRepository.findById id db := rfl
  simp only [TicketsRepository.applyEscalation_eq, found]
  cases (TicketsRepository.findById id db).filter fun row => row.status ≠ .done with
  | none => exact ⟨rfl, redact_eq users rfl⟩
  | some row =>
      simp only
      split_ifs <;> exact ⟨rfl, redact_eq users rfl⟩

omit [Postgres] in
/-- The two statements that stamp a ticket. -/
theorem stampTicket_redact (id : ℕ) (condition : TicketRow → Bool)
    (deletedAt : Db → Option Timestamp) (blind : ∀ db, deletedAt db.redact = deletedAt db) :
    BlindToHashes fun db => TicketsRepository.stamp id condition (deletedAt db) db := by
  intro db
  have found : db.redact.tickets = db.tickets := rfl
  simp only [TicketsRepository.stamp_eq, found, blind]
  cases (db.tickets.get? id).filter condition <;>
    exact ⟨rfl, redact_eq (redactUsers_redactUsers db.users) rfl⟩

omit [Postgres] in
theorem addDependency_redact (ticketId blockerId : ℕ) :
    BlindToHashes (DependenciesRepository.add ticketId blockerId) := by
  intro db
  have edge : db.redact.blockedBy ticketId blockerId ↔ db.blockedBy ticketId blockerId := Iff.rfl
  have found : db.redact.tickets = db.tickets := rfl
  simp only [DependenciesRepository.add, edge, found]
  split_ifs <;> exact ⟨rfl, redact_eq (redactUsers_redactUsers db.users) rfl⟩

omit [Postgres] in
theorem createAttachment_redact (input : AttachmentInput) :
    BlindToHashes (AttachmentsRepository.create input) := by
  intro db
  have found : db.redact.tickets = db.tickets := rfl
  have keys : db.redact.attachments = db.attachments := rfl
  simp only [AttachmentsRepository.create, isSome_users_redact db, found, keys]
  split_ifs <;> exact ⟨rfl, redact_eq (redactUsers_redactUsers db.users) rfl⟩

omit [Postgres] in
theorem revoke_redact (jti : String) (userId : ℕ) (expiresAt : Timestamp) :
    BlindToHashes (TokenDenylistRepository.revoke jti userId expiresAt) := by
  intro db
  have denylist : db.redact.tokenDenylist = db.tokenDenylist := rfl
  simp only [TokenDenylistRepository.revoke, isSome_users_redact db, denylist]
  split_ifs <;> exact ⟨rfl, redact_eq (redactUsers_redactUsers db.users) rfl⟩

omit [Postgres] in
/-- What is the same without looking at hashes is the same once they are hidden. -/
theorem BlindToHashes.map {α β ε : Type} {write : Db → Except ε α × Db}
    (blind : BlindToHashes write) (hide : α → β) (db : Db) :
    (write db.redact).1.map hide = (write db).1.map hide ∧
      (write db.redact).2.redact = (write db).2.redact :=
  ⟨congrArg (Except.map hide) (blind db).1, (blind db).2⟩

omit [Postgres] in
/-- A write that answers with a plain value. -/
theorem BlindToHashes.ok {α : Type} {write : Db → α × Db} (blind : BlindToHashes write) :
    BlindToHashes fun db => ((.ok (write db).1 : Except PgError α), (write db).2) :=
  fun db => ⟨congrArg Except.ok (blind db).1, (blind db).2⟩

/-- **A write does not look at hashes.** -/
theorem Command.exec_redact (write : Command) (db : Db) :
    (write.exec db.redact).1.map write.hide = (write.exec db).1.map write.hide ∧
      (write.exec db.redact).2.redact = (write.exec db).2.redact := by
  cases write with
  | createUser input => exact createUser_redact db rfl
  | updateUser id input => exact updateUser_redact id input db
  | deleteUser id => exact (deleteUser_redact id).map _ db
  | createProject input => exact (createProject_redact input).map _ db
  | updateProject id input => exact (updateProject_redact id input).map _ db
  | softDeleteProject id =>
      exact (stampProject_redact id _ (fun db => some db.now) fun _ => rfl).ok.map _ db
  | restoreProject id =>
      exact (stampProject_redact id _ (fun _ => none) fun _ => rfl).ok.map _ db
  | createTicket input => exact (createTicket_redact input).map _ db
  | updateWithVersionCheck id expectedVersion input resetOverdueFlag =>
      exact (updateWithVersionCheck_redact id expectedVersion input resetOverdueFlag).map _ db
  | softDeleteTicket id =>
      exact (stampTicket_redact id _ (fun db => some db.now) fun _ => rfl).ok.map _ db
  | restoreTicket id => exact (stampTicket_redact id _ (fun _ => none) fun _ => rfl).ok.map _ db
  | applyEscalation id change => exact (applyEscalation_redact id change).map _ db
  | addDependency ticketId blockerId => exact (addDependency_redact ticketId blockerId).map _ db
  | createWithMentions input onCommitting => exact (transaction_redact _).map _ db
  | updateContentAndMentions id expectedVersion content mentionedUserIds onCommitting =>
      exact (transaction_redact _).map _ db
  | createAttachment input => exact (createAttachment_redact input).map _ db
  | revoke jti userId expiresAt => exact (revoke_redact jti userId expiresAt).map _ db
  | removeDependency | deleteComment | deleteAttachment | insertAudit =>
      exact ⟨rfl, redact_eq (redactUsers_redactUsers db.users) rfl⟩

/-! ### Corresponding statements -/

/-- Statements that agree but for the hash of a new user; what they answer agrees
without hashes. -/
inductive SameButHash : Pairing Statement.Ans Statement.Ans
  | createUser {input input' : UserInput}
      (same : { input with passwordHash := none } = { input' with passwordHash := none }) :
      SameButHash (.command (.createUser input)) (.command (.createUser input'))
        fun answer answer' => answer.map UserRow.redact = answer'.map UserRow.redact
  | select (read : Query) :
      SameButHash (.select read) (.select read)
        fun answer answer' => answer.map read.hide = answer'.map read.hide
  | command (write : Command) :
      SameButHash (.command write) (.command write)
        fun answer answer' => answer.map write.hide = answer'.map write.hide

end IssueFlow
