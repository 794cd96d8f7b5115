import IssueFlow.Database.Columns
import IssueFlow.Store.Update

/-!
# The users repository

The statements of `users.repository.ts`. Deleting a user is where the schema
acts by itself: rows that restrict the deletion refuse it, and otherwise the
assignee of tickets is cleared and the user's mentions and revoked tokens are
removed.

## Main results

* `UsersRepository.update_eq`, `UsersRepository.update_outcome` — the UPDATE in closed form
* `UsersRepository.delete_cases` — the DELETE and the referential actions
-/

namespace IssueFlow

open Store

inductive UserColumn
  | fullName
  | role
  deriving DecidableEq, Repr

instance userColumns : Columns UserColumn UserRow where
  bind
    | .fullName => assignNotNull decodeText fun value row => { row with fullName := value }
    | .role =>
        assignNotNull (decodeEnum UserRole.ofText?) fun value row => { row with role := value }
  literal _ _ _ := .error .datatypeMismatch

structure UserInput where
  username : String
  email : String
  fullName : String
  role : UserRole
  passwordHash : Option String
  deriving DecidableEq, Repr

structure UserUpdate where
  fullName : Field String
  role : Field UserRole
  deriving DecidableEq, Repr

namespace UsersRepository

def findAll (db : Db) : List UserRow := db.users.rows

/-- An id that is `null` matches no row. -/
def findById (id : Option ℕ) (db : Db) : Option UserRow := id.bind db.users.get?

/-- `WHERE LOWER(username) = LOWER($1)` -/
def findByUsername [Postgres] (username : String) (db : Db) : Option UserRow :=
  db.users.rows.find? fun user => Postgres.lower user.username = Postgres.lower username

/-- `WHERE LOWER(username) = ANY($1)` -/
def findByUsernamesLower [Postgres] (usernames : List String) (db : Db) : List UserRow :=
  if usernames.isEmpty then []
  else
    db.users.rows.filter fun user =>
      Postgres.lower user.username ∈ usernames.map fun username => username.toLower

/-- The unique constraints and indexes on names and addresses. -/
def clashes [Postgres] (input : UserInput) (user : UserRow) : Bool :=
  user.username = input.username || user.email = input.email ||
    Postgres.lower user.username = Postgres.lower input.username ||
    Postgres.lower user.email = Postgres.lower input.email

/-- The row of a new user. -/
def createdRow (input : UserInput) (now : Timestamp) (id : ℕ) : UserRow where
  id := id
  username := input.username
  email := input.email
  fullName := input.fullName
  role := input.role
  passwordHash := input.passwordHash
  createdAt := now
  updatedAt := now

def create [Postgres] (input : UserInput) (db : Db) : Except PgError UserRow × Db :=
  if db.users.rows.any (clashes input) then
    (.error .uniqueViolation, { db with users := db.users.skip })
  else
    (.ok (createdRow input db.now db.users.next),
      { db with users := db.users.insert (createdRow input db.now) fun _ => rfl })

def updateClause (input : UserUpdate) : Clause UserColumn :=
  ((Clause.start []).push .fullName (input.fullName.param .text)).push .role
    (input.role.param fun role => .text role.text)

/-- The supplied columns only; without any, the row is just read. -/
def update (id : ℕ) (input : UserUpdate) (db : Db) : Except PgError (Option UserRow) × Db :=
  let clause := updateClause input
  if clause.sets.isEmpty then (.ok (findById (some id) db), db)
  else
    let (i, clause) := clause.param (.number id)
    let (result, users) := updateRow clause i (.ok fun _ => true)
      (fun old new => .ok { new with id := old.id, updatedAt := db.now }) db.users
    (result, { db with users := users })

/-- The references to users that are declared `ON DELETE RESTRICT`. -/
def isReferenced (db : Db) (id : ℕ) : Bool :=
  db.projects.rows.any (·.ownerId = id) || db.comments.rows.any (·.authorId = id) ||
    db.attachments.rows.any (·.uploaderId = id)

/-- `assignee_id` is declared `ON DELETE SET NULL`; the trigger sees an UPDATE. -/
def clearAssignee (id : ℕ) (db : Db) : Table TicketRow :=
  db.tickets.update (fun row => row.assigneeId = some id)
    (fun row => { row with assigneeId := none, updatedAt := db.now }) fun _ _ => rfl

/-- `DELETE FROM users`, with the referential actions of the schema. -/
def delete (id : ℕ) (db : Db) : Except PgError Bool × Db :=
  match db.users.get? id with
  | none => (.ok false, db)
  | some _ =>
      if isReferenced db id then (.error .foreignKeyViolation, db)
      else
        (.ok true, { db with
          users := db.users.remove fun user => user.id = id
          tickets := clearAssignee id db
          commentMentions := db.commentMentions.filter fun row => row.mentionedUserId ≠ id
          tokenDenylist := db.tokenDenylist.filter fun row => row.userId ≠ id })

/-- A DELETE changes nothing, or no row restricts it and the schema acts. -/
theorem delete_cases (id : ℕ) (db : Db) :
    (delete id db).2 = db ∨ isReferenced db id = false ∧ delete id db =
      (.ok true, { db with
        users := db.users.remove fun user => user.id = id
        tickets := clearAssignee id db
        commentMentions := db.commentMentions.filter fun row => row.mentionedUserId ≠ id
        tokenDenylist := db.tokenDenylist.filter fun row => row.userId ≠ id }) := by
  rw [delete]
  cases db.users.get? id with
  | none => exact .inl rfl
  | some user =>
      cases referenced : isReferenced db id with
      | true => exact .inl rfl
      | false => exact .inr ⟨rfl, rfl⟩

/-- The row an UPDATE leaves behind, apart from `updated_at`. -/
def updatedRow (input : UserUpdate) (row : UserRow) : UserRow :=
  { row with fullName := input.fullName.getD row.fullName, role := input.role.getD row.role }

def violatesNotNull (input : UserUpdate) : Bool := input.fullName.isNull || input.role.isNull

private theorem updateClause_denotes (input : UserUpdate) :
    (updateClause input).Denotes (.ok fun (row : UserRow) =>
      if violatesNotNull input then .error .notNullViolation
      else .ok (updatedRow input row)) := by
  have empty : (Clause.start [] : Clause UserColumn).Denotes
      (Clause.assignNothing : Except PgError (UserRow → Except PgError UserRow)) :=
    Clause.denotes_start []
  have fields := (empty.push .fullName (input.fullName.param .text)).push .role
    (input.role.param fun role => .text role.text)
  rw [assignOption_notNull input.fullName (fun _ => rfl) (fun _ => rfl) rfl,
    assignOption_notNull input.role (fun _ => rfl) (decodeEnum_text UserRole.ofText?_text) rfl]
    at fields
  refine fields.of_eq ?_
  simp only [Clause.assignNothing_andThen, Clause.ok_andThen_ok, Except.ok.injEq, funext_iff]
  intro row
  rcases input with ⟨fullName, role⟩
  cases fullName <;> cases role <;> rfl

/-- **The UPDATE in closed form.** -/
theorem update_eq (id : ℕ) (input : UserUpdate) (db : Db) :
    update id input db =
      if input.fullName.isDefined || input.role.isDefined then
        match db.users.get? id with
        | none => (.ok none, db)
        | some row =>
            let new := { updatedRow input row with updatedAt := db.now }
            if violatesNotNull input then (.error .notNullViolation, db)
            else (.ok (some new), { db with users := db.users.set new })
      else (.ok (db.users.get? id), db) := by
  obtain ⟨denotes, bound⟩ := (updateClause_denotes input).param (.number id)
  have compiled := denotes.assigns []
  have idFound := bound []
  rw [List.append_nil] at compiled idFound
  -- Without a field to set no UPDATE is sent.
  have sets : (updateClause input).sets.isEmpty =
      !(input.fullName.isDefined || input.role.isDefined) := by
    rcases input with ⟨fullName, role⟩
    cases fullName <;> cases role <;> rfl
  simp only [update, sets]
  cases input.fullName.isDefined || input.role.isDefined with
  | false => rfl
  | true =>
      rw [updateRow_of_bound compiled idFound]
      simp only [Bool.not_true, Bool.false_eq_true, if_false, if_true]
      have all : (db.users.get? id).filter (fun _ => true) = db.users.get? id := by
        cases db.users.get? id <;> rfl
      rw [all]
      cases db.users.get? id with
      | none => rfl
      | some row =>
          have evaluated : Clause.evaluate ((updateClause input).param (.number id)).2.sets row =
              .ok () := by
            simp [updateClause]
          simp only [writeRow, evaluated]
          cases violatesNotNull input <;> rfl

/-- The UPDATE changes nothing, or it answers with the row it has written. -/
theorem update_outcome (id : ℕ) (input : UserUpdate) (db : Db) :
    (update id input db).2 = db ∨ ∃ row, db.users.get? id = some row ∧
      update id input db = (.ok (some { updatedRow input row with updatedAt := db.now }),
        { db with users := db.users.set { updatedRow input row with updatedAt := db.now } }) := by
  rw [update_eq]
  split_ifs
  · cases db.users.get? id <;> exact .inl rfl
  · cases db.users.get? id with
    | none => exact .inl rfl
    | some row => exact .inr ⟨row, rfl, rfl⟩
  · exact .inl rfl

/-- The UPDATE writes one row over itself or changes nothing. -/
theorem update_cases (id : ℕ) (input : UserUpdate) (db : Db) :
    (update id input db).2 = db ∨ ∃ row, db.users.get? id = some row ∧ (update id input db).2 =
      { db with users := db.users.set { updatedRow input row with updatedAt := db.now } } := by
  rcases update_outcome id input db with same | ⟨row, found, executed⟩
  · exact .inl same
  · exact .inr ⟨row, found, congrArg Prod.snd executed⟩

end UsersRepository

end IssueFlow
