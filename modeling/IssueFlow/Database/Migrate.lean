import IssueFlow.Semantics.Session
import IssueFlow.Text.JavaScript

/-!
# The migration runner

`migrate.ts`: the files of the migrations directory are applied one by one, each
in a transaction that also records its name in `schema_migrations`. The runner
has a connection of its own and sends its transaction control itself. The schema
the files act on, and what their SQL does to it, are parameters; the files have
no transaction control of their own and leave the runner's table alone.

## Main definitions

* `Catalog`, `MigrationStatement`, `engine` — the database as the runner sees it
* `Directory` — the migrations directory
* `Migrate.migrate` — the runner
* `Run`, `runAll` — runs one after the other
-/

namespace IssueFlow

open Semantics JavaScript

/-! ### The database -/

/-- The SQL of migration files: a text changes the schema or is refused. -/
class Sql (σ : Type) where
  run : String → σ → Except String σ

/-- A database: its schema, and the file names in `schema_migrations` in the
order they were inserted in, if the table exists. -/
structure Catalog (σ : Type) where
  schema : σ
  migrations : Option (List String)
  deriving DecidableEq, Repr

namespace Catalog

variable {σ : Type}

/-- A database that was never migrated. -/
def empty (schema : σ) : Catalog σ := ⟨schema, none⟩

/-- The names that are recorded. -/
def recorded (catalog : Catalog σ) : List String := catalog.migrations.getD []

end Catalog

/-- The statements of the runner. -/
inductive MigrationStatement
  /-- `CREATE TABLE IF NOT EXISTS schema_migrations …` -/
  | createTable
  /-- `SELECT filename FROM schema_migrations ORDER BY filename` -/
  | selectFilenames
  /-- The contents of a file. -/
  | file (sql : String)
  /-- `INSERT INTO schema_migrations (filename) VALUES ($1)` -/
  | insertFilename (filename : String)

abbrev MigrationStatement.Rows : MigrationStatement → Type
  | selectFilenames => List String
  | _ => Unit

namespace MigrationStatement

variable {σ : Type} [Sql σ]

/-- Execute a statement. The rows of the SELECT become a set, so their order,
which is a collation's, is left out. -/
def exec : (statement : MigrationStatement) → Catalog σ →
    Except String (statement.Rows × Catalog σ)
  | createTable, catalog => .ok ((), { catalog with migrations := some catalog.recorded })
  | selectFilenames, catalog =>
      match catalog.migrations with
      | none => .error "relation \"schema_migrations\" does not exist"
      | some names => .ok (names, catalog)
  | file sql, catalog =>
      match Sql.run sql catalog.schema with
      | .error error => .error error
      | .ok schema => .ok ((), { catalog with schema := schema })
  | insertFilename filename, catalog =>
      match catalog.migrations with
      | none => .error "relation \"schema_migrations\" does not exist"
      | some names =>
          if filename.length > 255 then .error "value too long for type character varying(255)"
          else if filename ∈ names then
            .error "duplicate key value violates unique constraint \"schema_migrations_pkey\""
          else .ok ((), { catalog with migrations := some (names ++ [filename]) })

variable {catalog after : Catalog σ}

/-- Creating the table records nothing. -/
theorem exec_createTable {rows : Unit} (executed : exec .createTable catalog = .ok (rows, after)) :
    after.schema = catalog.schema ∧ after.migrations = some catalog.recorded := by
  cases executed
  exact ⟨rfl, rfl⟩

theorem exec_selectFilenames {names : List String}
    (executed : exec .selectFilenames catalog = .ok (names, after)) :
    after = catalog ∧ names = catalog.recorded := by
  rw [exec] at executed
  cases table : catalog.migrations with
  | none =>
      rw [table] at executed
      cases executed
  | some stored =>
      rw [table] at executed
      cases executed
      refine ⟨rfl, ?_⟩
      rw [Catalog.recorded, table]
      rfl

/-- A file that was executed has changed the schema as its SQL says. -/
theorem exec_file {sql : String} {rows : Unit}
    (executed : exec (.file sql) catalog = .ok (rows, after)) :
    Sql.run sql catalog.schema = .ok after.schema ∧ after.migrations = catalog.migrations := by
  rw [exec] at executed
  cases ran : Sql.run sql catalog.schema with
  | error error =>
      rw [ran] at executed
      cases executed
  | ok schema =>
      rw [ran] at executed
      cases executed
      exact ⟨rfl, rfl⟩

/-- A name that was inserted is new. -/
theorem exec_insertFilename {filename : String} {rows : Unit}
    (executed : exec (.insertFilename filename) catalog = .ok (rows, after)) :
    ∃ names, catalog.migrations = some names ∧ filename ∉ names ∧
      after.schema = catalog.schema ∧ after.migrations = some (names ++ [filename]) := by
  rw [exec] at executed
  cases table : catalog.migrations with
  | none =>
      rw [table] at executed
      cases executed
  | some names =>
      simp only [table] at executed
      split_ifs at executed with long known
      cases executed
      exact ⟨names, rfl, known, rfl, rfl⟩

end MigrationStatement

/-- The server of the runner. -/
def engine {σ : Type} [Sql σ] :
    Engine MigrationStatement MigrationStatement.Rows (Catalog σ) String where
  exec := MigrationStatement.exec
  blockAborted := "current transaction is aborted, commands ignored until end of transaction block"
  notConnected := "Client has encountered a connection error and is not queryable"

/-! ### The files -/

/-- The migrations directory: names that differ, each with its contents or the
error of reading it. -/
structure Directory where
  entries : List (String × Except String String)
  distinct : (entries.map Prod.fst).Nodup

/-- `fs.readFileSync`. -/
def Directory.read (directory : Directory) (filename : String) : Except String String :=
  match directory.entries.find? fun entry => entry.1 = filename with
  | some (_, contents) => contents
  | none => .error s!"ENOENT: no such file or directory, open '{filename}'"

/-! ### The runner -/

/-- Programs of the runner. -/
abbrev Runner (α : Type) : Type := Client MigrationStatement MigrationStatement.Rows String α

namespace Migrate

/-- `client.query`. -/
def query (statement : MigrationStatement) : Runner statement.Rows := send (.statement statement)

def ensureMigrationsTable : Runner Unit := query .createTable

def getAppliedMigrations : Runner (List String) := query .selectFilenames

/-- The SQL files of a directory that may be missing, sorted. -/
def listMigrationFiles (directory : Option Directory) : List String :=
  match directory with
  | none => []
  | some directory =>
      sort ((directory.entries.map Prod.fst).filter fun filename => endsWith filename ".sql")

/-- The contents of a file of a directory that may be missing. -/
def readFile (directory : Option Directory) (filename : String) : Except String String :=
  match directory with
  | none => .error s!"ENOENT: no such file or directory, open '{filename}'"
  | some directory => directory.read filename

def applyMigration (directory : Option Directory) (filename : String) : Runner Unit :=
  match readFile directory filename with
  | .error error => throw error
  | .ok sql => transact do
      query (.file sql)
      query (.insertFilename filename)

/-- The files that are not recorded. -/
def pendingFiles (directory : Option Directory) (applied : List String) : List String :=
  (listMigrationFiles directory).filter fun filename => filename ∉ applied

/-- What the runner does once it is connected. -/
def applyPending (directory : Option Directory) : Runner Unit := do
  ensureMigrationsTable
  let applied ← getAppliedMigrations
  let pending := pendingFiles directory applied
  if pending.isEmpty then pure ()
  else Program.forEach (applyMigration directory) pending

/-- `migrate()`. An exit of the process is a failure. -/
def migrate (databaseUrl : Option String) (directory : Option Directory) : Runner Unit :=
  if (databaseUrl.map trim).getD "" = "" then
    throw "DATABASE_URL is not set. Copy .env.example to .env first."
  else do
    send .connect
    (applyPending directory).ensure (send .disconnect)

end Migrate

/-! ### Runs -/

/-- A run: its configuration, the directory it finds, and what fails. -/
structure Run where
  databaseUrl : Option String
  directory : Option Directory
  plan : ℕ → Option (Fault String)

variable {σ : Type} [Sql σ]

/-- How a run ends, and what it leaves behind. -/
def Run.outcome (run : Run) (catalog : Catalog σ) : Except String Unit × Catalog σ :=
  let (result, session) := (Migrate.migrate run.databaseUrl run.directory).run
    (Session.exec engine run.plan) (Session.fresh catalog)
  (result, session.committed)

/-- Runs one after the other. -/
def runAll (runs : List Run) (catalog : Catalog σ) : Catalog σ :=
  runs.foldl (fun catalog run => (run.outcome catalog).2) catalog

end IssueFlow
