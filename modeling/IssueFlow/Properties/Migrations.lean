import IssueFlow.Database.Migrate

/-!
# Migrations take effect once

Over any number of runs, with directories that change and statements that are
refused or cut off at any place, the schema is the one at the start with the
SQL of the recorded files applied in the order of their recording, each once.
A run applies a prefix of the files that it finds pending, all of them if it
ends without failure, and then the next run has nothing to do.

## Main definitions

* `Progress` — what applying files one after the other makes of a database
* `Run.pending`, `Run.applied` — the files a run has to apply, and those it applies
* `effects` — the files that took effect in a sequence of runs

## Main results

* `Migrate.wp_applyMigration` — a file is applied and recorded, or neither
* `Run.outcome_progress` — what one run does
* `migrations_exactly_once` — what any number of runs does
-/

namespace IssueFlow

open Semantics JavaScript Migrate

variable {σ : Type} [Sql σ]

/-! ### One file -/

/-- The SQL of a file; a file that cannot be read has none. -/
def fileText (directory : Option Directory) (filename : String) : String :=
  (readFile directory filename).toOption.getD ""

/-- The schema after the SQL of some files, one after the other. -/
def replay (effects : List (String × String)) (schema : σ) : Except String σ :=
  effects.foldlM (fun schema effect => Sql.run effect.2 schema) schema

/-- Files with their SQL. -/
def withTexts (directory : Option Directory) (filenames : List String) : List (String × String) :=
  filenames.map fun filename => (filename, fileText directory filename)

/-- The files were applied and recorded, one after the other. -/
structure Progress (directory : Option Directory) (filenames : List String)
    (before after : Catalog σ) : Prop where
  read : ∀ filename ∈ filenames,
    readFile directory filename = .ok (fileText directory filename)
  schema : replay (withTexts directory filenames) before.schema = .ok after.schema
  recorded : after.recorded = before.recorded ++ filenames
  distinct : before.recorded.Nodup → after.recorded.Nodup

namespace Progress

variable {directory : Option Directory} {filename : String} {filenames more : List String}
  {before middle after : Catalog σ}

/-- Nothing was applied. The table may be new. -/
theorem nil (schema : after.schema = before.schema) (recorded : after.recorded = before.recorded) :
    Progress directory [] before after where
  read filename member := absurd member List.not_mem_nil
  schema := by
    rw [schema]
    rfl
  recorded := by rw [recorded, List.append_nil]
  distinct := by
    rw [recorded]
    exact id

theorem append (first : Progress directory filenames before middle)
    (second : Progress directory more middle after) :
    Progress directory (filenames ++ more) before after where
  read filename member := by
    rcases List.mem_append.mp member with early | late
    · exact first.read filename early
    · exact second.read filename late
  schema := by
    rw [withTexts, List.map_append, replay, List.foldlM_append]
    have schemaFirst := first.schema
    rw [replay, withTexts] at schemaFirst
    rw [schemaFirst]
    exact second.schema
  recorded := by rw [second.recorded, first.recorded, List.append_assoc]
  distinct nodup := second.distinct (first.distinct nodup)

theorem fileText_eq {text : String} (read : readFile directory filename = .ok text) :
    fileText directory filename = text := by
  rw [fileText, read]
  rfl

/-- A file whose SQL ran and whose name was inserted. -/
theorem single {text : String} {names : List String} (read : readFile directory filename = .ok text)
    (ran : Sql.run text before.schema = .ok after.schema) (table : before.migrations = some names)
    (fresh : filename ∉ names) (inserted : after.migrations = some (names ++ [filename])) :
    Progress directory [filename] before after where
  read other member := by
    rw [List.mem_singleton.mp member, fileText_eq read, read]
  schema := by
    have once : replay (withTexts directory [filename]) before.schema =
        Sql.run text before.schema >>= pure := by
      rw [← fileText_eq read]
      rfl
    rw [once, ran]
    rfl
  recorded := by
    rw [Catalog.recorded, Catalog.recorded, table, inserted]
    rfl
  distinct nodup := by
    rw [Catalog.recorded, table] at nodup
    rw [Catalog.recorded, inserted]
    refine List.nodup_append.mpr ⟨nodup, List.nodup_singleton _, ?_⟩
    rintro name member other single rfl
    exact fresh (List.mem_singleton.mp single ▸ member)

end Progress

namespace Migrate

variable {directory : Option Directory} {plan : ℕ → Option (Fault String)}
  {session : Session (Catalog σ)}

/-- **One file** is applied and recorded, or neither. When the runner throws it
may be either, since a `COMMIT` may be cut off. -/
theorem wp_applyMigration (filename : String) (outside : session.block = .outside) :
    (applyMigration directory filename).wp (Session.exec engine plan)
      (fun _ after => after.block = .outside ∧
        Progress directory [filename] session.committed after.committed)
      (fun _ after => after.committed = session.committed ∨
        Progress directory [filename] session.committed after.committed) session := by
  unfold applyMigration
  cases read : readFile directory filename with
  | error error => exact .inl rfl
  | ok text =>
      refine Session.wp_transact (Progress directory [filename]) outside ?_
      intro begun data block
      rw [Program.wp_bind]
      refine Session.wp_statement_inside block ?_ fun _ _ same => same.trans data
      intro _ migrated first executed sameFirst inside
      refine Session.wp_statement_inside inside ?_ fun _ _ same =>
        same.trans (sameFirst.trans data)
      intro _ final last inserted sameLast insideLast
      refine ⟨sameLast.trans (sameFirst.trans data), final, insideLast, ?_⟩
      -- Together the two statements run the SQL and record the name.
      obtain ⟨ran, kept⟩ := MigrationStatement.exec_file executed
      obtain ⟨names, table, fresh, schema, recorded⟩ :=
        MigrationStatement.exec_insertFilename inserted
      exact .single read (schema ▸ ran) (kept.symm.trans table) fresh recorded

/-- The loop: the files that were handled are those that were applied. -/
theorem wp_applyAll {before : Catalog σ} (pending : List String)
    (outside : session.block = .outside) (start : Progress directory [] before session.committed) :
    (Program.forEach (applyMigration directory) pending).wp (Session.exec engine plan)
      (fun _ after => Progress directory pending before after.committed)
      (fun _ after => ∃ applied, applied <+: pending ∧
        Progress directory applied before after.committed) session := by
  let invariant (handled : List String) (after : Session (Catalog σ)) : Prop :=
    after.block = .outside ∧ Progress directory handled before after.committed
  refine Program.wp_mono (fun _ _ holds => holds.2) (fun _ _ failed => failed)
    (Program.wp_forEach invariant ?_ ⟨outside, start⟩)
  rintro handled filename rest state split ⟨block, done⟩
  refine Program.wp_mono ?_ ?_ (wp_applyMigration filename block)
  · rintro _ after ⟨block, progress⟩
    exact ⟨block, done.append progress⟩
  · -- The body has thrown: the file was applied if its `COMMIT` was cut off.
    rintro _ after (same | progress)
    · refine ⟨handled, ?_, ?_⟩
      · rw [split]
        exact List.prefix_append _ _
      · rw [same]
        exact done
    · refine ⟨handled ++ [filename], ?_, done.append progress⟩
      rw [split, List.append_cons handled filename rest]
      exact List.prefix_append _ _

/-- What the runner does once it is connected: it applies the pending files in
their order, until one fails. -/
theorem wp_applyPending (outside : session.block = .outside) :
    let pending := pendingFiles directory session.committed.recorded
    (applyPending directory).wp (Session.exec engine plan)
      (fun _ after => Progress directory pending session.committed after.committed)
      (fun _ after => ∃ applied, applied <+: pending ∧
        Progress directory applied session.committed after.committed) session := by
  intro pending
  -- Creating the table changes neither the schema nor what is recorded.
  have created {after : Catalog σ} {rows : Unit}
      (executed : MigrationStatement.exec .createTable session.committed = .ok (rows, after)) :
      Progress directory [] session.committed after := by
    obtain ⟨schema, table⟩ := MigrationStatement.exec_createTable executed
    refine .nil schema ?_
    rw [Catalog.recorded, table]
    rfl
  unfold applyPending
  rw [Program.wp_bind]
  refine Session.wp_statement_outside outside ?_ ?_
  · intro _ made table block
    have start := created table
    have recorded : made.committed.recorded = session.committed.recorded := by
      rw [start.recorded, List.append_nil]
    rw [Program.wp_bind]
    refine Session.wp_statement_outside block ?_ ?_
    · intro names listed selected block
      obtain ⟨same, rfl⟩ := MigrationStatement.exec_selectFilenames selected
      rw [← same] at start
      simp only [recorded]
      split_ifs with none
      · rw [Program.wp_pure, show pending = [] from List.isEmpty_iff.mp none]
        exact start
      · exact wp_applyAll pending block start
    · rintro error after (same | ⟨rows, selected⟩)
      · exact ⟨[], List.nil_prefix, same ▸ start⟩
      · obtain ⟨same, -⟩ := MigrationStatement.exec_selectFilenames selected
        exact ⟨[], List.nil_prefix, same ▸ start⟩
  · rintro error after (same | ⟨rows, table⟩)
    · exact ⟨[], List.nil_prefix, .nil (by rw [same]) (by rw [same])⟩
    · exact ⟨[], List.nil_prefix, created table⟩

/-- What the runner does: a prefix of the pending files is applied, and all of
them if it does not throw. -/
theorem wp_migrate (databaseUrl : Option String) (catalog : Catalog σ) :
    let pending := pendingFiles directory catalog.recorded
    (migrate databaseUrl directory).wp (Session.exec engine plan)
      (fun _ after => Progress directory pending catalog after.committed)
      (fun _ after => ∃ applied, applied <+: pending ∧
        Progress directory applied catalog after.committed) (Session.fresh catalog) := by
  intro pending
  unfold migrate
  split_ifs with missing
  · exact ⟨[], List.nil_prefix, .nil rfl rfl⟩
  · rw [Program.wp_bind]
    refine Session.wp_connect ?_ ?_
    · intro connected data block
      have start : connected.committed = catalog := data
      rw [Program.wp_ensure]
      -- Whatever the files have done, the connection is ended, which changes no data.
      refine Program.wp_mono ?_ ?_ (wp_applyPending block)
      · intro _ after progress
        rw [start] at progress
        refine Session.wp_disconnect ?_ ?_
        · intro last same
          rw [same]
          exact progress
        · intro error last same
          refine ⟨pending, List.prefix_refl _, ?_⟩
          rw [same]
          exact progress
      · -- The failure goes on, whether the connection ends well or not.
        intro error after stopped
        rw [start] at stopped
        refine Session.wp_disconnect ?_ ?_
        · intro last same
          rw [same]
          exact stopped
        · intro other last same
          rw [same]
          exact stopped
    · intro error after data
      have same : after.committed = catalog := data
      rw [same]
      exact ⟨[], List.nil_prefix, .nil rfl rfl⟩

end Migrate

/-! ### One run -/

namespace Run

/-- The SQL files a run finds. -/
def Finds (run : Run) (filename : String) : Prop :=
  ∃ directory, run.directory = some directory ∧ filename ∈ directory.entries.map Prod.fst ∧
    endsWith filename ".sql"

/-- The files a run finds and has to apply. -/
def pending (run : Run) (catalog : Catalog σ) : List String :=
  pendingFiles run.directory catalog.recorded

/-- The files a run applies. -/
def applied (run : Run) (catalog : Catalog σ) : List String :=
  (run.outcome catalog).2.recorded.drop catalog.recorded.length

omit [Sql σ] in
theorem mem_pending {run : Run} {catalog : Catalog σ} {filename : String} :
    filename ∈ run.pending catalog ↔ run.Finds filename ∧ filename ∉ catalog.recorded := by
  unfold pending pendingFiles listMigrationFiles Finds
  cases run.directory with
  | none => simp
  | some directory => simp

omit [Sql σ] in
theorem pairwise_pending (run : Run) (catalog : Catalog σ) :
    (run.pending catalog).Pairwise unitsBefore := by
  refine List.Pairwise.filter _ ?_
  unfold listMigrationFiles
  cases run.directory with
  | none => exact .nil
  | some directory => exact pairwise_sort _

/-- **One run** applies a prefix of its pending files, and all of them if it
ends without failure. -/
theorem outcome_progress (run : Run) (catalog : Catalog σ) :
    Progress run.directory (run.applied catalog) catalog (run.outcome catalog).2 ∧
      run.applied catalog <+: run.pending catalog ∧
      ((run.outcome catalog).1 = .ok () → run.applied catalog = run.pending catalog) := by
  -- What was applied can be read off the names that were recorded.
  have read {applied : List String}
      (progress : Progress run.directory applied catalog (run.outcome catalog).2) :
      run.applied catalog = applied := by
    rw [Run.applied, progress.recorded, List.drop_left]
  have ends : (migrate run.databaseUrl run.directory).wp (Session.exec engine run.plan) _ _
      (Session.fresh catalog) := wp_migrate run.databaseUrl catalog
  obtain ⟨completes, stops⟩ := Program.wp_iff.mp ends
  cases ended : (migrate run.databaseUrl run.directory).run (Session.exec engine run.plan)
    (Session.fresh catalog) with
  | mk result session =>
      have outcome : run.outcome catalog = (result, session.committed) := by
        rw [Run.outcome, ended]
      cases result with
      | ok value =>
          have progress := completes value session ended
          rw [← show (run.outcome catalog).2 = session.committed by rw [outcome]] at progress
          rw [read progress]
          exact ⟨progress, List.prefix_refl _, fun _ => rfl⟩
      | error error =>
          obtain ⟨applied, isPrefix, progress⟩ := stops error session ended
          rw [← show (run.outcome catalog).2 = session.committed by rw [outcome]] at progress
          rw [read progress]
          refine ⟨progress, isPrefix, fun succeeded => ?_⟩
          rw [outcome] at succeeded
          cases succeeded

end Run

/-! ### Any number of runs -/

/-- The files that take effect in a sequence of runs, with their SQL. -/
def effects : List Run → Catalog σ → List (String × String)
  | [], _ => []
  | run :: runs, catalog =>
      withTexts run.directory (run.applied catalog) ++ effects runs (run.outcome catalog).2

theorem map_fst_withTexts (directory : Option Directory) (filenames : List String) :
    (withTexts directory filenames).map Prod.fst = filenames := by
  rw [withTexts, List.map_map]
  exact List.map_id _

/-- The schema and the names after a sequence of runs. -/
theorem runAll_effects (runs : List Run) (catalog : Catalog σ) :
    replay (effects runs catalog) catalog.schema = .ok (runAll runs catalog).schema ∧
      (runAll runs catalog).recorded =
        catalog.recorded ++ (effects runs catalog).map Prod.fst ∧
      (catalog.recorded.Nodup → (runAll runs catalog).recorded.Nodup) := by
  induction runs generalizing catalog with
  | nil => exact ⟨rfl, (List.append_nil _).symm, id⟩
  | cons run runs ih =>
      obtain ⟨progress, -, -⟩ := run.outcome_progress catalog
      obtain ⟨schema, recorded, distinct⟩ := ih (run.outcome catalog).2
      have later : runAll (run :: runs) catalog = runAll runs (run.outcome catalog).2 := rfl
      rw [later, effects]
      refine ⟨?_, ?_, fun nodup => distinct (progress.distinct nodup)⟩
      · rw [replay, List.foldlM_append]
        have first := progress.schema
        rw [replay] at first
        rw [first]
        exact schema
      · rw [recorded, progress.recorded, List.map_append, map_fst_withTexts, List.append_assoc]

/-- **Migrations take effect exactly once.** After any sequence of runs the
recorded names are those of the files that took effect, in this order and each
once, and the schema is what their SQL makes of the one at the start. A run then
applies a prefix of the files it finds unrecorded, in the order of their names;
if it ends without failure it leaves none of them, and a run after it that finds
the same files applies nothing. -/
theorem migrations_exactly_once (initial : σ) (runs : List Run) :
    let start := Catalog.empty initial
    let catalog := runAll runs start
    replay (effects runs start) initial = .ok catalog.schema ∧
      catalog.recorded = (effects runs start).map Prod.fst ∧ catalog.recorded.Nodup ∧
      ∀ run : Run,
        let after := (run.outcome catalog).2
        (∀ filename, filename ∈ run.pending catalog ↔
            run.Finds filename ∧ filename ∉ catalog.recorded) ∧
          (run.pending catalog).Pairwise unitsBefore ∧
          run.applied catalog <+: run.pending catalog ∧
          (∀ filename ∈ run.applied catalog, readFile run.directory filename =
            .ok (fileText run.directory filename)) ∧
          replay (withTexts run.directory (run.applied catalog)) catalog.schema =
            .ok after.schema ∧
          after.recorded = catalog.recorded ++ run.applied catalog ∧
          ((run.outcome catalog).1 = .ok () →
            run.applied catalog = run.pending catalog ∧
              (∀ filename, run.Finds filename → filename ∈ after.recorded) ∧
              ∀ again : Run, again.directory = run.directory →
                again.applied after = [] ∧ (again.outcome after).2.schema = after.schema ∧
                  (again.outcome after).2.recorded = after.recorded) := by
  intro start catalog
  obtain ⟨schema, recorded, distinct⟩ := runAll_effects runs start
  refine ⟨schema, recorded, distinct List.nodup_nil, ?_⟩
  intro run after
  obtain ⟨progress, isPrefix, complete⟩ := run.outcome_progress catalog
  refine ⟨fun _ => Run.mem_pending, run.pairwise_pending catalog, isPrefix, progress.read,
    progress.schema, progress.recorded, ?_⟩
  intro succeeded
  have all := complete succeeded
  have found : ∀ filename, run.Finds filename → filename ∈ after.recorded := by
    intro filename finds
    rw [progress.recorded, all, List.mem_append]
    by_cases known : filename ∈ catalog.recorded
    · exact .inl known
    · exact .inr (Run.mem_pending.mpr ⟨finds, known⟩)
  refine ⟨all, found, ?_⟩
  intro again same
  obtain ⟨progress', isPrefix', -⟩ := again.outcome_progress after
  -- Every file that the second run finds was found by the first one.
  have nothing : again.pending after = [] := by
    refine List.eq_nil_iff_forall_not_mem.mpr fun filename member => ?_
    obtain ⟨⟨directory, found', here⟩, fresh⟩ := Run.mem_pending.mp member
    exact fresh (found filename ⟨directory, same ▸ found', here⟩)
  rw [nothing, List.prefix_nil] at isPrefix'
  rw [isPrefix'] at progress'
  refine ⟨isPrefix', ?_, ?_⟩
  · have unchanged := progress'.schema
    exact (Except.ok.inj unchanged).symm
  · rw [progress'.recorded, List.append_nil]

/-! ### Three runs -/

namespace Sample

/-- A schema that remembers the SQL it was changed by. -/
@[reducible] def textLog : Sql (List String) where
  run sql schema := if sql = "bad" then .error "syntax error" else .ok (schema ++ [sql])

def twoFiles : Directory where
  entries := [("002_more.sql", .ok "more"), ("README.md", .ok ""), ("001_init.sql", .ok "init")]
  distinct := by decide

/-- A run whose operation with this number fails. -/
def failingAt (number : ℕ) (fault : Fault String) : Run :=
  ⟨some "postgres://db", some twoFiles, fun sent => if sent = number then some fault else none⟩

/-- The `COMMIT` of the first file is cut off, then the INSERT of the second one
is refused, and the third run applies it. -/
example :
    let _ := textLog
    let runs := [failingAt 6 (.lost true "reset"), failingAt 5 (.refused "disk full"),
      failingAt 100 (.refused "")]
    runAll (runs.take 1) (Catalog.empty []) = ⟨["init"], some ["001_init.sql"]⟩ ∧
      runAll (runs.take 2) (Catalog.empty []) = ⟨["init"], some ["001_init.sql"]⟩ ∧
      runAll runs (Catalog.empty []) =
        ⟨["init", "more"], some ["001_init.sql", "002_more.sql"]⟩ := by
  decide +kernel

end Sample

end IssueFlow
