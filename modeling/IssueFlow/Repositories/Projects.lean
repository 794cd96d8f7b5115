import IssueFlow.Database.Columns
import IssueFlow.Store.Update

/-!
# The projects repository

The statements of `projects.repository.ts`. Standard reads and the UPDATE see
only rows without `deleted_at`.

## Main results

* `ProjectsRepository.update_eq`, `ProjectsRepository.update_outcome` — the built UPDATE in
  closed form
-/

namespace IssueFlow

open Store

/-- `deleted_at IS NULL` -/
def ProjectRow.isLive (row : ProjectRow) : Bool := row.deletedAt.isNone

inductive ProjectColumn
  | name
  | description
  deriving DecidableEq, Repr

instance projectColumns : Columns ProjectColumn ProjectRow where
  bind
    | .name => assignNotNull decodeText fun value row => { row with name := value }
    | .description => assignNullable decodeText fun value row => { row with description := value }
  literal _ _ _ := .error .datatypeMismatch

structure ProjectInput where
  name : String
  description : Field String
  ownerId : ℕ
  deriving DecidableEq, Repr

structure ProjectUpdate where
  name : Field String
  description : Field String
  deriving DecidableEq, Repr

namespace ProjectsRepository

def findAll (db : Db) : List ProjectRow := db.projects.rows.filter ProjectRow.isLive

def findById (id : ℕ) (db : Db) : Option ProjectRow :=
  (db.projects.get? id).filter ProjectRow.isLive

def findByIdAnyState (id : ℕ) (db : Db) : Option ProjectRow := db.projects.get? id

def findDeleted (db : Db) : List ProjectRow := db.projects.rows.filter fun row => !row.isLive

/-- The row of a new project. -/
def createdRow (input : ProjectInput) (now : Timestamp) (id : ℕ) : ProjectRow where
  id := id
  name := input.name
  description := input.description.toOption
  ownerId := input.ownerId
  deletedAt := none
  createdAt := now
  updatedAt := now

def create (input : ProjectInput) (db : Db) : Except PgError ProjectRow × Db :=
  if (db.users.get? input.ownerId).isSome then
    (.ok (createdRow input db.now db.projects.next),
      { db with projects := db.projects.insert (createdRow input db.now) fun _ => rfl })
  else (.error .foreignKeyViolation, { db with projects := db.projects.skip })

def updateClause (input : ProjectUpdate) : Clause ProjectColumn :=
  ((Clause.start []).push .name (input.name.param .text)).push .description
    (input.description.param .text)

/-- The supplied columns of a live project; without any, the row is just read. -/
def update (id : ℕ) (input : ProjectUpdate) (db : Db) : Except PgError (Option ProjectRow) × Db :=
  let clause := updateClause input
  if clause.sets.isEmpty then (.ok (findById id db), db)
  else
    let (i, clause) := clause.param (.number id)
    let (result, projects) := updateRow clause i (.ok ProjectRow.isLive)
      (fun old new => .ok { new with id := old.id, updatedAt := db.now }) db.projects
    (result, { db with projects := projects })

/-- Set or clear `deleted_at` on the row with a key, if its state allows it. -/
def stamp (id : ℕ) (condition : ProjectRow → Bool) (deletedAt : Option Timestamp) (db : Db) :
    Bool × Db :=
  match db.projects.rows.find? fun row => row.id = id && condition row with
  | none => (false, db)
  | some row =>
      (true, { db with
        projects := db.projects.set { row with deletedAt := deletedAt, updatedAt := db.now } })

def softDelete (id : ℕ) (db : Db) : Bool × Db := stamp id ProjectRow.isLive (some db.now) db

def restore (id : ℕ) (db : Db) : Bool × Db := stamp id (fun row => !row.isLive) none db

theorem stamp_eq (id : ℕ) (condition : ProjectRow → Bool) (deletedAt : Option Timestamp) (db : Db) :
    stamp id condition deletedAt db =
      match (db.projects.get? id).filter condition with
      | none => (false, db)
      | some row =>
          (true, { db with
            projects := db.projects.set
              { row with deletedAt := deletedAt, updatedAt := db.now } }) := by
  rw [stamp, ← Table.find?_key_and]
  rfl

/-- Stamping misses, or it writes the row and says so. -/
theorem stamp_cases (id : ℕ) (condition : ProjectRow → Bool) (deletedAt : Option Timestamp)
    (db : Db) :
    stamp id condition deletedAt db = (false, db) ∨
      ∃ row, (db.projects.get? id).filter condition = some row ∧
        stamp id condition deletedAt db = (true, { db with
          projects :=
            db.projects.set { row with deletedAt := deletedAt, updatedAt := db.now } }) := by
  rw [stamp_eq]
  cases (db.projects.get? id).filter condition with
  | none => exact .inl rfl
  | some row => exact .inr ⟨row, rfl, rfl⟩

/-- The row an UPDATE leaves behind, apart from `updated_at`. -/
def updatedRow (input : ProjectUpdate) (row : ProjectRow) : ProjectRow :=
  { row with
    name := input.name.getD row.name
    description := input.description.orKeep row.description }

private theorem updateClause_denotes (input : ProjectUpdate) :
    (updateClause input).Denotes (.ok fun (row : ProjectRow) =>
      if input.name.isNull then .error .notNullViolation else .ok (updatedRow input row)) := by
  have empty : (Clause.start [] : Clause ProjectColumn).Denotes
      (Clause.assignNothing : Except PgError (ProjectRow → Except PgError ProjectRow)) :=
    Clause.denotes_start []
  have fields := (empty.push .name (input.name.param .text)).push .description
    (input.description.param .text)
  rw [assignOption_notNull input.name (fun _ => rfl) (fun _ => rfl) rfl,
    assignOption_nullable input.description (fun _ => rfl) (fun _ => rfl) rfl] at fields
  refine fields.of_eq ?_
  simp only [Clause.assignNothing_andThen, Clause.ok_andThen_ok, Except.ok.injEq, funext_iff]
  intro row
  rcases input with ⟨name, description⟩
  cases name <;> cases description <;> rfl

/-- **The UPDATE in closed form.** -/
theorem update_eq (id : ℕ) (input : ProjectUpdate) (db : Db) :
    update id input db =
      if input.name.isDefined || input.description.isDefined then
        match findById id db with
        | none => (.ok none, db)
        | some row =>
            let new := { updatedRow input row with updatedAt := db.now }
            if input.name.isNull then (.error .notNullViolation, db)
            else (.ok (some new), { db with projects := db.projects.set new })
      else (.ok (findById id db), db) := by
  obtain ⟨denotes, bound⟩ := (updateClause_denotes input).param (.number id)
  have compiled := denotes.assigns []
  have idFound := bound []
  rw [List.append_nil] at compiled idFound
  have sets : (updateClause input).sets.isEmpty =
      !(input.name.isDefined || input.description.isDefined) := by
    rcases input with ⟨name, description⟩
    cases name <;> cases description <;> rfl
  simp only [update, sets]
  cases input.name.isDefined || input.description.isDefined with
  | false => rfl
  | true =>
      rw [updateRow_of_bound compiled idFound]
      simp only [Bool.not_true, Bool.false_eq_true, if_false, if_true]
      rw [← findById]
      cases findById id db with
      | none => rfl
      | some row =>
          have evaluated : Clause.evaluate ((updateClause input).param (.number id)).2.sets row =
              .ok () := by
            simp [updateClause]
          simp only [writeRow, evaluated]
          cases input.name.isNull <;> rfl

/-- The UPDATE changes nothing, or it answers with the row it has written. -/
theorem update_outcome (id : ℕ) (input : ProjectUpdate) (db : Db) :
    (update id input db).2 = db ∨ ∃ row, findById id db = some row ∧
      update id input db = (.ok (some { updatedRow input row with updatedAt := db.now }),
        { db with
          projects := db.projects.set { updatedRow input row with updatedAt := db.now } }) := by
  rw [update_eq]
  split_ifs
  · cases findById id db <;> exact .inl rfl
  · cases findById id db with
    | none => exact .inl rfl
    | some row => exact .inr ⟨row, rfl, rfl⟩
  · exact .inl rfl

end ProjectsRepository

end IssueFlow
