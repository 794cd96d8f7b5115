import IssueFlow.System.Requests

/-!
# Entries about updates

Projects and users have no version. An update reads the row, writes the supplied
columns and logs the difference between the row it has read and the row it has
written. When another request writes in between, the entry blames one request
for the changes of the other. As long as that does not happen, every entry is
about its own request, and the entries tell the history of the row.

## Main definitions

* `EditedRow` — a row that is updated, as a service sees it
* `EditedRow.readsCurrent` — the row a request has read is still the stored one
* `EditedRow.Described` — entries are about their requests and tell the history

## Main results

* `EditedRow.Edits.described` — what follows for any row that is updated so
* `update_entries_described` — projects and users
-/

namespace IssueFlow

open Store Semantics JavaScript

/-- A row that is updated: how a service reads it, the fields it logs, and the
row an UPDATE answers with. -/
structure EditedRow (ρ : Type) where
  row : Db → Option ρ
  fields : List (String × (ρ → Value))
  entity : AuditEntity
  id : ℕ
  find : Query
  answer : Command → Db → Option ρ

namespace EditedRow

variable {ρ : Type} (e : EditedRow ρ)

/-- The logged values of the stored row. -/
def current (db : Db) : List (String × Value) :=
  match e.row db with
  | some row => fieldValues e.fields row
  | none => []

/-- The row that a statement has written. -/
def written (event : Event Statement Db) : Option ρ :=
  match event.op with
  | .select _ => none
  | .command write => e.answer write event.state

theorem current_of_row {db : Db} {row : ρ} (found : e.row db = some row) :
    e.current db = fieldValues e.fields row := by
  rw [current, found]

section Runs

variable [Postgres] {ι : Type}

/-- What the row held after each of its updates, the first one first. -/
def history (c : System ι) : List (List (String × Value)) :=
  c.trace.reverse.filterMap fun entry =>
    (e.written entry.2).map fun _ => e.current (exec entry.2.op entry.2.state).2

variable [DecidableEq ι]

/-- The row that a request has read is the stored one when its UPDATE is
executed, as far as the logged fields go. -/
def readsCurrent (c : System ι) (thread : ι) (statement : Statement) : Bool :=
  (e.written ⟨statement, c.state⟩).isNone ||
    (c.history thread).head?.all fun event => e.current event.state = e.current c.state

/-- The difference that a request has logged. -/
def loggedDifference (c : System ι) (thread : ι) : Option Metadata :=
  (c.history thread).findSome? fun event =>
    match event.op with
    | .command (.insertAudit entry) => some entry.metadata
    | _ => none

/-- The logged differences, in the order of the updates. -/
def entriesInWriteOrder (c : System ι) : List Metadata :=
  c.trace.reverse.filterMap fun entry =>
    (e.written entry.2).bind fun _ => loggedDifference c entry.1

/-- Every entry is about its own request: it mentions fields the request has
supplied, with the value stored right before its UPDATE and the value it wrote.
And when the requests that have written have ended, their entries replayed in
the order of the writes reproduce the history of the row. -/
structure Described (supplied : ι → String → Bool) (db : Db) (c : System ι) : Prop where
  entry : ∀ thread entry state, (thread, ⟨.command (.insertAudit entry), state⟩) ∈ c.trace →
    entry.action = .update ∧ entry.entityType = e.entity ∧ entry.entityId = e.id ∧
      ∃ event old new, (thread, event) ∈ c.trace ∧ e.row event.state = some old ∧
        e.written event = some new ∧ e.row (exec event.op event.state).2 = some new ∧
        ∀ field ∈ entry.metadata, supplied thread field.1 = true ∧
          ∃ read, (field.1, read) ∈ e.fields ∧ field.2 = .change (read old) (read new)
  replay : (∀ thread event, (thread, event) ∈ c.trace → (e.written event).isSome →
      ∃ result, c.programs thread = .done result) →
    (e.entriesInWriteOrder c).scanl replayDiff (e.current db) = e.current db :: e.history c

variable {e}

/-- No entry mentions a field that its request has not supplied. -/
theorem Described.suppliedOnly {supplied : ι → String → Bool} {db : Db} {c : System ι}
    (described : e.Described supplied db c) :
    (c.trace.all fun sent =>
      match sent.2.op with
      | .command (.insertAudit entry) => entry.metadata.all fun field => supplied sent.1 field.1
      | _ => true) = true := by
  rw [List.all_eq_true]
  rintro ⟨thread, op, state⟩ member
  split
  case h_1 entry inserted =>
    obtain rfl : op = .command (.insertAudit entry) := inserted
    obtain ⟨-, -, -, event, old, new, -, -, -, -, fields⟩ :=
      described.entry thread entry state member
    exact List.all_eq_true.mpr fun field mentioned => (fields field mentioned).1
  case h_2 => rfl

end Runs

/-! ### What a request sends -/

section Evidence

variable [Postgres]

/-- An update request reads the row, sends its UPDATE, and logs how the row it
has read differs from the row the UPDATE answers with. -/
inductive Sends (update : Command) : List (Event Statement Db) → Statement → Prop
  | find : Sends update [] (.select e.find)
  | update {read : Db} : Sends update [⟨.select e.find, read⟩] (.command update)
  | log {read state : Db} {before new : ρ} {entry : AuditInsert} (found : e.row read = some before)
      (answered : e.answer update state = some new) (action : entry.action = .update)
      (entityType : entry.entityType = e.entity) (entityId : entry.entityId = e.id)
      (metadata : entry.metadata = diffMetadata before new e.fields) :
      Sends update [⟨.command update, state⟩, ⟨.select e.find, read⟩]
        (.command (.insertAudit entry))

/-- A request that has written has logged, when it ends. -/
def Ends {α : Type} (events : List (Event Statement Db)) (_ : Except Exception α) : Prop :=
  ∀ event ∈ events, (e.written event).isSome →
    ∃ entry state earlier, events = ⟨.command (.insertAudit entry), state⟩ :: event :: earlier

/-- What the services and the statements of the requests make sure of. -/
structure Edits {ι : Type} (update : ι → Command) (supplied : ι → String → Bool) : Prop where
  distinct : (e.fields.map Prod.fst).Nodup
  faithful : Faithful e.fields
  advanced : ∀ elapsed db, e.row (advance elapsed db) = e.row db
  logged : ∀ input db, e.row (AuditRepository.insert input db).2 = e.row db
  silent : ∀ input db, e.answer (.insertAudit input) db = none
  noEntry : ∀ thread input, update thread ≠ .insertAudit input
  missed : ∀ thread db, e.answer (update thread) db = none →
    e.row ((update thread).exec db).2 = e.row db
  written : ∀ thread db new, e.answer (update thread) db = some new → ∃ old, e.row db = some old ∧
    e.row ((update thread).exec db).2 = some new ∧
    ∀ field ∈ e.fields, supplied thread field.1 = false → field.2 new = field.2 old

variable {e}

omit [Postgres] in
/-- An entry is logged after the UPDATE, which comes after the read. -/
theorem Sends.logged {update : Command} {events : List (Event Statement Db)} {entry : AuditInsert}
    (sends : e.Sends update events (.command (.insertAudit entry)))
    (other : update ≠ .insertAudit entry) :
    ∃ read state before new, events = [⟨.command update, state⟩, ⟨.select e.find, read⟩] ∧
      e.row read = some before ∧ e.answer update state = some new ∧ entry.action = .update ∧
      entry.entityType = e.entity ∧ entry.entityId = e.id ∧
      entry.metadata = diffMetadata before new e.fields := by
  generalize statement : Statement.command (.insertAudit entry) = sent at sends
  cases sends with
  | find => cases statement
  | update => exact absurd (Statement.command.inj statement).symm other
  | log found answered action entityType entityId metadata =>
      cases statement
      exact ⟨_, _, _, _, rfl, found, answered, action, entityType, entityId, metadata⟩

omit [Postgres] in
theorem Ends.of_written {α : Type} {events : List (Event Statement Db)}
    {result : Except Exception α} (nothing : ∀ event ∈ events, e.written event = none) :
    e.Ends events result := by
  intro event member wrote
  rw [nothing event member] at wrote
  cases wrote

omit [Postgres] in
/-- The entry stands right after the UPDATE. -/
theorem Ends.of_logged {α : Type} {entry : AuditInsert} {event : Event Statement Db}
    {earlier : List (Event Statement Db)} {later : Db} {result : Except Exception α}
    (silent : ∀ input db, e.answer (.insertAudit input) db = none)
    (nothing : ∀ event ∈ earlier, e.written event = none) :
    e.Ends (⟨.command (.insertAudit entry), later⟩ :: event :: earlier) result := by
  intro sent member wrote
  rcases List.mem_cons.mp member with rfl | member
  · have none : e.written ⟨.command (.insertAudit entry), later⟩ = none := silent entry later
    rw [none] at wrote
    cases wrote
  rcases List.mem_cons.mp member with rfl | member
  · exact ⟨_, later, _, rfl⟩
  · rw [nothing sent member] at wrote
    cases wrote

variable (e) in
omit [Postgres] in
/-- The read, and nothing else, has been sent. -/
theorem written_find (read : Db) :
    ∀ event ∈ [⟨.select e.find, read⟩], e.written event = none := by
  intro event member
  rw [List.mem_singleton.mp member]
  rfl

/-- A service that has read the row: it sends its UPDATE, and it throws or logs
the difference by what the UPDATE answers. -/
theorem outline_update {α : Type} {update : Command} {read : Db} {before : ρ}
    (view : update.Rows → Option ρ) {finish : update.Rows → Service α}
    (silent : ∀ input db, e.answer (.insertAudit input) db = none)
    (failed : ∀ db error, (update.exec db).1 = .error error → e.answer update db = none)
    (answered : ∀ db rows, (update.exec db).1 = .ok rows → e.answer update db = view rows)
    (found : e.row read = some before)
    (missed : ∀ rows, view rows = none → ∃ exception, finish rows = throw exception)
    (logs : ∀ rows new, view rows = some new → ∃ entry response,
      finish rows = (AuditService.log entry >>= fun _ => pure response) ∧
        entry.action = .update ∧ entry.entityType = e.entity ∧ entry.entityId = e.id ∧
        entry.metadata = diffMetadata before new e.fields) :
    (execute update >>= finish).Outline exec (e.Sends update) e.Ends
      [⟨.select e.find, read⟩] := by
  have unwritten := e.written_find read
  refine (outline_execute _ _).mpr ⟨.update, fun db => ?_⟩
  -- What the UPDATE answers decides whether an entry is due.
  cases executed : (update.exec db).1 with
  | error error =>
      exact .of_written (List.forall_mem_cons.mpr ⟨failed db error executed, unwritten⟩)
  | ok rows =>
      have answer := answered db rows executed
      cases seen : view rows with
      | none =>
          rw [seen] at answer
          obtain ⟨exception, thrown⟩ := missed rows seen
          simp only [thrown]
          exact .of_written (List.forall_mem_cons.mpr ⟨answer, unwritten⟩)
      | some new =>
          rw [seen] at answer
          obtain ⟨entry, response, rest, action, entityType, entityId, metadata⟩ :=
            logs rows new seen
          simp only [rest]
          refine (AuditService.outline_log _ _).mpr ⟨?_, fun later => .of_logged silent unwritten⟩
          exact .log found answer action entityType entityId metadata

end Evidence

/-! ### Replaying the true differences -/

section Replay

variable [Postgres]

/-- How an UPDATE has changed the row. -/
def difference (event : Event Statement Db) : Option Metadata :=
  match e.row event.state, e.written event with
  | some old, some new => some (diffMetadata old new e.fields)
  | _, _ => none

variable {ι : Type} {update : ι → Command} {supplied : ι → String → Bool}

/-- A statement of an update request, seen from the row: it leaves the row, or
it is the UPDATE and changes the row by the difference. -/
theorem Edits.step (edits : e.Edits update supplied) {thread : ι}
    {events : List (Event Statement Db)} {op : Statement}
    (sends : e.Sends (update thread) events op) (state : Db) :
    e.written ⟨op, state⟩ = none ∧ e.current (exec op state).2 = e.current state ∨
      ∃ new diff, e.written ⟨op, state⟩ = some new ∧ e.difference ⟨op, state⟩ = some diff ∧
        e.current (exec op state).2 = replayDiff (e.current state) diff := by
  cases sends with
  | find => exact .inl ⟨rfl, rfl⟩
  | log found answered =>
      refine .inl ⟨edits.silent _ _, ?_⟩
      unfold current
      rw [exec_command, Command.exec, edits.logged]
  | update =>
      -- An UPDATE that misses changes nothing; one that hits writes the difference.
      cases answer : e.answer (update thread) state with
      | none =>
          refine .inl ⟨answer, ?_⟩
          unfold current
          rw [exec_command, edits.missed thread state answer]
      | some new =>
          obtain ⟨old, found, stored, -⟩ := edits.written thread state new answer
          have written : e.written ⟨.command (update thread), state⟩ = some new := answer
          refine .inr ⟨new, diffMetadata old new e.fields, written, ?_, ?_⟩
          · rw [difference, written, found]
          · rw [exec_command, e.current_of_row stored, e.current_of_row found,
              replayDiff_diffMetadata edits.distinct edits.faithful]

variable [DecidableEq ι] {db : Db} {requests : ι → Request} {fuel : ι → ℕ}
  [Bcrypt] [Unicode]

/-- The differences of the updates lead through the history of the row. -/
theorem Edits.replay (edits : e.Edits update supplied)
    (outlined : ∀ thread, ((requests thread).program (fuel thread)).Outline exec
      (e.Sends (update thread)) e.Ends []) (turns : List (Turn ι ℕ)) :
    let c := System.run db requests fuel turns
    (c.trace.reverse.filterMap fun entry => e.difference entry.2).scanl replayDiff (e.current db) =
        e.current db :: e.history c ∧
      (c.trace.reverse.filterMap fun entry => e.difference entry.2).foldl replayDiff
        (e.current db) = e.current c.state := by
  have start : (System.start db requests fuel).Outlined exec (fun thread => e.Sends (update thread))
      (fun _ => e.Ends) := outlined
  -- Both equations are kept together, by every write and by the clock.
  refine start.play_invariant (fun c : System ι =>
    (c.trace.reverse.filterMap fun entry => e.difference entry.2).scanl replayDiff (e.current db) =
        e.current db :: e.history c ∧
      (c.trace.reverse.filterMap fun entry => e.difference entry.2).foldl replayDiff
        (e.current db) = e.current c.state) ⟨rfl, rfl⟩ ?_ ?_ turns
  · rintro c thread op next ⟨scan, fold⟩ running sends
    rcases edits.step e sends c.state with ⟨silent, same⟩ | ⟨new, diff, written, changed, after⟩
    · -- A statement that writes nothing of the row adds no difference.
      have nothing : e.difference ⟨op, c.state⟩ = none := by
        rw [difference, silent]
        cases e.row c.state <;> rfl
      simp only [history, Config.send_trace, Config.send_state, List.reverse_cons,
        List.filterMap_append, List.filterMap_cons, List.filterMap_nil, nothing, silent,
        Option.map_none, List.append_nil, same]
      exact ⟨scan, fold⟩
    · simp only [history, Config.send_trace, Config.send_state, List.reverse_cons,
        List.filterMap_append, List.filterMap_cons, List.filterMap_nil, changed, written,
        Option.map_some, List.scanl_append, List.foldl_append, List.foldl_cons, List.foldl_nil,
        scan, fold, List.scanl_cons, List.scanl_nil, List.tail_cons, after, List.cons_append,
        and_self]
  · rintro c change ⟨scan, fold⟩
    refine ⟨scan, fold.trans ?_⟩
    unfold current
    rw [edits.advanced]

/-! ### Fresh reads -/

/-- The row that a request has read is still the stored one. -/
def ReadsCurrent (events : List (Event Statement Db)) (event : Event Statement Db) : Prop :=
  (e.written event).isSome → ∀ last ∈ events.head?, e.current last.state = e.current event.state

omit [Postgres] [Bcrypt] [Unicode] in
theorem readsCurrent_iff {c : System ι} {thread : ι} {statement : Statement}
    (reads : e.readsCurrent c thread statement = true) :
    e.ReadsCurrent (c.history thread) ⟨statement, c.state⟩ := by
  intro written last member
  rw [readsCurrent, Bool.or_eq_true] at reads
  rcases reads with missed | same
  · rw [Option.isNone_iff_eq_none.mp missed] at written
    cases written
  · rw [Option.mem_def.mp member] at same
    simpa using same

variable {turns : List (Turn ι ℕ)}

/-- The entry of a request whose read was fresh: it is the true difference. -/
theorem Edits.entry (edits : e.Edits update supplied)
    (outlined : ∀ thread, ((requests thread).program (fuel thread)).Outline exec
      (e.Sends (update thread)) e.Ends [])
    (meets : System.Meets db requests fuel
      (fun c thread statement => e.readsCurrent c thread statement = true) turns)
    {thread : ι} (newer : List (Event Statement Db)) {earlier : List (Event Statement Db)}
    {entry : AuditInsert} {state : Db}
    (split : (System.run db requests fuel turns).history thread =
      newer ++ ⟨.command (.insertAudit entry), state⟩ :: earlier) :
    entry.action = .update ∧ entry.entityType = e.entity ∧ entry.entityId = e.id ∧
      ∃ event rest old new, earlier = event :: rest ∧ e.row event.state = some old ∧
        e.written event = some new ∧ e.row (exec event.op event.state).2 = some new ∧
        entry.metadata = diffMetadata old new e.fields ∧
        ∀ field ∈ e.fields, supplied thread field.1 = false → field.2 new = field.2 old := by
  have start : (System.start db requests fuel).Outlined exec (fun thread => e.Sends (update thread))
      (fun _ => e.Ends) := outlined
  have known := meets.history_split start rfl e.ReadsCurrent
    fun c thread statement reads => e.readsCurrent_iff reads
  obtain ⟨read, written, before, new, rfl, found, answered, action, entityType, entityId,
    metadata⟩ := (known thread newer _ earlier split).1.logged (edits.noEntry thread entry)
  -- The UPDATE was executed while the row was as it had been read.
  have fresh := (known thread (newer ++ [⟨.command (.insertAudit entry), state⟩])
    ⟨.command (update thread), written⟩ [⟨.select e.find, read⟩] (by simpa using split)).2
    (Option.isSome_of_mem answered) ⟨.select e.find, read⟩ rfl
  obtain ⟨old, stored, rewritten, kept⟩ := edits.written thread written new answered
  rw [e.current_of_row found, e.current_of_row stored] at fresh
  exact ⟨action, entityType, entityId, _, _, old, new, rfl, stored, answered, rewritten,
    metadata.trans (diffMetadata_congr fresh), kept⟩

/-- When the requests that have written have ended, each has logged the true
difference. -/
theorem Edits.entriesInWriteOrder_eq (edits : e.Edits update supplied)
    (outlined : ∀ thread, ((requests thread).program (fuel thread)).Outline exec
      (e.Sends (update thread)) e.Ends [])
    (meets : System.Meets db requests fuel
      (fun c thread statement => e.readsCurrent c thread statement = true) turns)
    (ended : ∀ thread event, (thread, event) ∈ (System.run db requests fuel turns).trace →
      (e.written event).isSome →
        ∃ result, (System.run db requests fuel turns).programs thread = .done result) :
    e.entriesInWriteOrder (System.run db requests fuel turns) =
      (System.run db requests fuel turns).trace.reverse.filterMap
        fun entry => e.difference entry.2 := by
  apply List.filterMap_congr
  rintro ⟨thread, event⟩ member
  simp only
  have member : (thread, event) ∈ (System.run db requests fuel turns).trace :=
    List.mem_reverse.mp member
  cases written : e.written event with
  | none =>
      rw [difference, written]
      cases e.row event.state <;> rfl
  | some new =>
      have wrote : (e.written event).isSome = true := Option.isSome_of_mem written
      obtain ⟨result, finished⟩ := ended thread event member wrote
      have start : (System.start db requests fuel).Outlined exec
          (fun thread => e.Sends (update thread)) (fun _ => e.Ends) := outlined
      have ends : e.Ends ((System.run db requests fuel turns).history thread) result :=
        (start.play turns).of_done finished
      -- The entry is the last thing the request has sent.
      obtain ⟨entry, state, earlier, split⟩ := ends event (Config.mem_history.mpr member) wrote
      obtain ⟨-, -, -, event', rest, old, new', last, stored, written', -, metadata, -⟩ :=
        edits.entry e outlined meets [] split
      obtain ⟨rfl, -⟩ := List.cons.inj last
      have found : loggedDifference (System.run db requests fuel turns) thread =
          some entry.metadata := by
        rw [loggedDifference, split]
        rfl
      obtain rfl : new' = new := Option.some.inj (written'.symm.trans written)
      rw [Option.bind_some, found, difference, stored, written, metadata]

/-- **Entries are about their requests**, and replayed in the order of the writes
they tell the history of the row. -/
theorem Edits.described (edits : e.Edits update supplied)
    (outlined : ∀ thread, ((requests thread).program (fuel thread)).Outline exec
      (e.Sends (update thread)) e.Ends [])
    (meets : System.Meets db requests fuel
      (fun c thread statement => e.readsCurrent c thread statement = true) turns) :
    e.Described supplied db (System.run db requests fuel turns) := by
  constructor
  · intro thread entry state member
    obtain ⟨newer, earlier, split⟩ := List.append_of_mem (Config.mem_history.mpr member)
    obtain ⟨action, entityType, entityId, event, rest, old, new, rfl, stored, written, rewritten,
      metadata, kept⟩ := edits.entry e outlined meets newer split
    have sent : event ∈ (System.run db requests fuel turns).history thread := by
      rw [split]
      simp
    refine ⟨action, entityType, entityId, event, old, new, Config.mem_history.mp sent, stored,
      written, rewritten, ?_⟩
    rintro ⟨name, detail⟩ mentioned
    rw [metadata] at mentioned
    obtain ⟨read, field, changed, rfl⟩ := mem_diffMetadata.mp mentioned
    refine ⟨?_, read, field, rfl⟩
    -- A field that was not supplied has kept its value, and is not mentioned.
    cases supplies : supplied thread name with
    | true => rfl
    | false =>
        have same : read new = read old := kept _ field supplies
        have equal : (read old).strictEquals (read new) = true :=
          (edits.faithful _ field old new).trans (decide_eq_true same.symm)
        rw [equal] at changed
        cases changed
  · intro ended
    rw [edits.entriesInWriteOrder_eq e outlined meets ended]
    exact (edits.replay e outlined turns).1

end Replay

end EditedRow

/-- The row an UPDATE answers with. -/
def answeredRow {ρ : Type} : Except PgError (Option ρ) → Option ρ
  | .ok found => found
  | .error _ => none

/-- A column that is not supplied keeps its value. -/
theorem Field.getD_of_not_isDefined {α : Type} {field : Field α} (left : field.isDefined = false)
    (old : α) : field.getD old = old := by
  cases field with
  | undefined => rfl
  | null | value => cases left

theorem Field.orKeep_of_not_isDefined {α : Type} {field : Field α} (left : field.isDefined = false)
    (old : Option α) : field.orKeep old = old := by
  cases field with
  | undefined => rfl
  | null | value => cases left

/-! ### Projects -/

section Projects

variable [Postgres]

/-- The fields of a project PATCH, by the names they are logged under. -/
def UpdateProjectDto.supplies (dto : UpdateProjectDto) : String → Bool
  | "name" => dto.name.isDefined
  | "description" => dto.description.isDefined
  | _ => false

/-- A live project. -/
def editedProject (id : ℕ) : EditedRow ProjectRow where
  row := ProjectsRepository.findById id
  fields := ProjectsService.diffFields
  entity := .project
  id := id
  find := .findProjectById id
  answer
    | .updateProject target input, db =>
        if target = id then answeredRow (ProjectsRepository.update id input db).1 else none
    | _, _ => none

omit [Postgres] in
theorem ProjectsService.faithful_diffFields : Faithful ProjectsService.diffFields := by
  intro field member first second
  apply Value.strictEquals_eq
  rcases List.mem_pair.mp member with rfl | rfl
  · rfl
  · exact Value.isPrimitive_ofOption _ fun _ => rfl

omit [Postgres] in
/-- A live project that is written over. -/
private theorem findById_set_project {id : ℕ} {db : Db} {old new : ProjectRow}
    (found : ProjectsRepository.findById id db = some old) (key : new.id = old.id)
    (deletedAt : new.deletedAt = old.deletedAt) :
    ProjectsRepository.findById id { db with projects := db.projects.set new } = some new := by
  obtain ⟨stored, live⟩ := Option.filter_eq_some_iff.mp found
  have target : Keyed.key new = id := key.trans (Table.key_of_get? stored)
  have replaced : (db.projects.set new).get? id = some new := by
    rw [Table.get?_set, if_pos target.symm, stored]
    rfl
  refine Option.filter_eq_some_iff.mpr ⟨replaced, ?_⟩
  rwa [ProjectRow.isLive, deletedAt]

omit [Postgres] in
/-- **The UPDATE of a project** leaves the database, or it answers with the row
that it has written. -/
theorem ProjectsRepository.update_answer (id : ℕ) (input : ProjectUpdate) (db : Db) :
    answeredRow (update id input db).1 = none ∧ (update id input db).2 = db ∨
      ∃ old new, answeredRow (update id input db).1 = some new ∧ findById id db = some old ∧
        findById id (update id input db).2 = some new ∧
        new.name = input.name.getD old.name ∧
        new.description = input.description.orKeep old.description := by
  rw [update_eq]
  cases found : findById id db with
  | none =>
      left
      split_ifs <;> exact ⟨rfl, rfl⟩
  | some old =>
      split_ifs with supplied null
      · exact .inl ⟨rfl, rfl⟩
      · exact .inr ⟨old, _, rfl, rfl, findById_set_project found rfl rfl, rfl, rfl⟩
      · -- Without columns the row is only read.
        obtain ⟨name, description⟩ : input.name = .undefined ∧ input.description = .undefined := by
          rcases input with ⟨_ | _ | _, _ | _ | _⟩ <;> simp [Field.isDefined] at supplied ⊢
        refine .inr ⟨old, old, rfl, rfl, found, ?_, ?_⟩
        · rw [name]
          rfl
        · rw [description]
          rfl

theorem editedProject_edits {ι : Type} (id : ℕ) (edits : ι → UpdateProjectDto × ℕ) :
    (editedProject id).Edits (fun thread => .updateProject id (edits thread).1)
      (fun thread => (edits thread).1.supplies) where
  distinct := show (ProjectsService.diffFields.map Prod.fst).Nodup by decide
  faithful := ProjectsService.faithful_diffFields
  advanced _ _ := rfl
  logged _ _ := rfl
  silent _ _ := rfl
  noEntry _ _ same := by cases same
  missed := by
    intro thread db missed
    have missed : answeredRow (ProjectsRepository.update id (edits thread).1 db).1 = none :=
      (if_pos rfl).symm.trans missed
    rcases ProjectsRepository.update_answer id (edits thread).1 db with
      ⟨-, same⟩ | ⟨old, new, answered, -⟩
    · exact congrArg (ProjectsRepository.findById id) same
    · cases missed.symm.trans answered
  written := by
    intro thread db new answered
    have answered : answeredRow (ProjectsRepository.update id (edits thread).1 db).1 = some new :=
      (if_pos rfl).symm.trans answered
    rcases ProjectsRepository.update_answer id (edits thread).1 db with
      ⟨missed, -⟩ | ⟨old, new', answered', found, stored, name, description⟩
    · cases missed.symm.trans answered
    · obtain rfl := Option.some.inj (answered'.symm.trans answered)
      refine ⟨old, found, stored, ?_⟩
      intro field member left
      rcases List.mem_pair.mp member with rfl | rfl
      · exact congrArg Value.text (name.trans (Field.getD_of_not_isDefined left _))
      · exact congrArg (Value.ofOption Value.text)
          (description.trans (Field.orKeep_of_not_isDefined left _))

/-- The project a request starts from. -/
theorem ProjectsService.outline_getOrThrow {β : Type} {id : ℕ}
    {events : List (Event Statement Db)} {sends : List (Event Statement Db) → Statement → Prop}
    {ends : List (Event Statement Db) → Except Exception β → Prop}
    (next : ProjectRow → Service β) :
    (getOrThrow id >>= next).Outline exec sends ends events ↔
      sends events (.select (.findProjectById id)) ∧ ∀ db : Db,
        match ProjectsRepository.findById id db with
        | some row =>
            (next row).Outline exec sends ends (⟨.select (.findProjectById id), db⟩ :: events)
        | none => ends (⟨.select (.findProjectById id), db⟩ :: events)
            (.error (.http .notFound s!"Project {id} not found")) := by
  refine and_congr Iff.rfl (forall_congr' fun db => ?_)
  simp only [exec_select, Query.eval]
  cases ProjectsRepository.findById id db <;> rfl

theorem ProjectsService.update_sends (id : ℕ) (dto : UpdateProjectDto) (performedBy : ℕ) :
    (ProjectsService.update id dto performedBy).Outline exec
      ((editedProject id).Sends (.updateProject id dto)) (editedProject id).Ends [] := by
  unfold ProjectsService.update
  split_ifs
  · exact .of_written (by simp)
  refine (outline_getOrThrow _).mpr ⟨.find, fun read => ?_⟩
  cases found : ProjectsRepository.findById id read with
  | none => exact .of_written ((editedProject id).written_find read)
  | some before =>
      refine EditedRow.outline_update (fun updated => updated) (fun _ _ => rfl)
        (fun db error executed => (if_pos rfl).trans (congrArg answeredRow executed))
        (fun db row executed => ?_) found ?_ ?_
      · have answer := congrArg answeredRow executed
        exact (if_pos rfl).trans answer
      · rintro _ rfl
        exact ⟨_, rfl⟩
      · rintro _ updated rfl
        exact ⟨_, _, rfl, rfl, rfl, rfl, rfl⟩

end Projects

/-! ### Users -/

section Users

variable [Postgres]

/-- The fields of a user PATCH, by the names they are logged under. -/
def UpdateUserDto.supplies (dto : UpdateUserDto) : String → Bool
  | "full_name" => dto.fullName.isDefined
  | "role" => dto.role.isDefined
  | _ => false

/-- A user. -/
def editedUser (id : ℕ) : EditedRow UserRow where
  row := UsersRepository.findById (some id)
  fields := UsersService.diffFields
  entity := .user
  id := id
  find := .findUserById (some id)
  answer
    | .updateUser target input, db =>
        if target = id then answeredRow (UsersRepository.update id input db).1 else none
    | _, _ => none

omit [Postgres] in
theorem UsersService.faithful_diffFields : Faithful UsersService.diffFields := by
  intro field member first second
  apply Value.strictEquals_eq
  rcases List.mem_pair.mp member with rfl | rfl
  · rfl
  · rfl

omit [Postgres] in
/-- A user that is written over. -/
private theorem get?_set_user {id : ℕ} {db : Db} {old new : UserRow}
    (found : db.users.get? id = some old) (key : new.id = old.id) :
    (db.users.set new).get? id = some new := by
  have target : Keyed.key new = id := key.trans (Table.key_of_get? found)
  rw [Table.get?_set, if_pos target.symm, found]
  rfl

omit [Postgres] in
/-- **The UPDATE of a user** leaves the database, or it answers with the row that
it has written. -/
theorem UsersRepository.update_answer (id : ℕ) (input : UserUpdate) (db : Db) :
    answeredRow (update id input db).1 = none ∧ (update id input db).2 = db ∨
      ∃ old new, answeredRow (update id input db).1 = some new ∧ db.users.get? id = some old ∧
        (update id input db).2.users.get? id = some new ∧
        new.fullName = input.fullName.getD old.fullName ∧
        new.role = input.role.getD old.role := by
  rw [update_eq]
  cases found : db.users.get? id with
  | none =>
      left
      split_ifs <;> exact ⟨rfl, rfl⟩
  | some old =>
      split_ifs with supplied null
      · exact .inl ⟨rfl, rfl⟩
      · exact .inr ⟨old, _, rfl, rfl, get?_set_user found rfl, rfl, rfl⟩
      · -- Without columns the row is only read.
        obtain ⟨fullName, role⟩ : input.fullName = .undefined ∧ input.role = .undefined := by
          rcases input with ⟨_ | _ | _, _ | _ | _⟩ <;> simp [Field.isDefined] at supplied ⊢
        refine .inr ⟨old, old, rfl, rfl, found, ?_, ?_⟩
        · rw [fullName]
          rfl
        · rw [role]
          rfl

theorem editedUser_edits {ι : Type} (id : ℕ) (edits : ι → UpdateUserDto × ℕ) :
    (editedUser id).Edits (fun thread => .updateUser id (edits thread).1)
      (fun thread => (edits thread).1.supplies) where
  distinct := show (UsersService.diffFields.map Prod.fst).Nodup by decide
  faithful := UsersService.faithful_diffFields
  advanced _ _ := rfl
  logged _ _ := rfl
  silent _ _ := rfl
  noEntry _ _ same := by cases same
  missed := by
    intro thread db missed
    have missed : answeredRow (UsersRepository.update id (edits thread).1 db).1 = none :=
      (if_pos rfl).symm.trans missed
    rcases UsersRepository.update_answer id (edits thread).1 db with
      ⟨-, same⟩ | ⟨old, new, answered, -⟩
    · exact congrArg (UsersRepository.findById (some id)) same
    · cases missed.symm.trans answered
  written := by
    intro thread db new answered
    have answered : answeredRow (UsersRepository.update id (edits thread).1 db).1 = some new :=
      (if_pos rfl).symm.trans answered
    rcases UsersRepository.update_answer id (edits thread).1 db with
      ⟨missed, -⟩ | ⟨old, new', answered', found, stored, fullName, role⟩
    · cases missed.symm.trans answered
    · obtain rfl := Option.some.inj (answered'.symm.trans answered)
      refine ⟨old, found, stored, ?_⟩
      intro field member left
      rcases List.mem_pair.mp member with rfl | rfl
      · exact congrArg Value.text (fullName.trans (Field.getD_of_not_isDefined left _))
      · exact congrArg (fun role => Value.text role.text)
          (role.trans (Field.getD_of_not_isDefined left _))

/-- The user a request starts from. -/
theorem UsersService.outline_getOrThrow {β : Type} {id : ℕ}
    {events : List (Event Statement Db)} {sends : List (Event Statement Db) → Statement → Prop}
    {ends : List (Event Statement Db) → Except Exception β → Prop}
    (next : UserRow → Service β) :
    (getOrThrow (some id) >>= next).Outline exec sends ends events ↔
      sends events (.select (.findUserById (some id))) ∧ ∀ db : Db,
        match UsersRepository.findById (some id) db with
        | some row =>
            (next row).Outline exec sends ends (⟨.select (.findUserById (some id)), db⟩ :: events)
        | none => ends (⟨.select (.findUserById (some id)), db⟩ :: events)
            (.error (.http .notFound s!"User {showNumber (some id)} not found")) := by
  refine and_congr Iff.rfl (forall_congr' fun db => ?_)
  simp only [exec_select, Query.eval]
  cases UsersRepository.findById (some id) db <;> rfl

theorem UsersService.update_sends (id : ℕ) (dto : UpdateUserDto) (performedBy : ℕ) :
    (UsersService.update id dto performedBy).Outline exec
      ((editedUser id).Sends (.updateUser id dto)) (editedUser id).Ends [] := by
  unfold UsersService.update
  split_ifs
  · exact .of_written (by simp)
  refine (outline_getOrThrow _).mpr ⟨.find, fun read => ?_⟩
  cases found : UsersRepository.findById (some id) read with
  | none => exact .of_written ((editedUser id).written_find read)
  | some before =>
      refine EditedRow.outline_update (fun updated => updated) (fun _ _ => rfl)
        (fun db error executed => (if_pos rfl).trans (congrArg answeredRow executed))
        (fun db row executed => ?_) found ?_ ?_
      · have answer := congrArg answeredRow executed
        exact (if_pos rfl).trans answer
      · rintro _ rfl
        exact ⟨_, rfl⟩
      · rintro _ updated rfl
        exact ⟨_, _, rfl, rfl, rfl, rfl, rfl⟩

end Users

/-! ### Both -/

section Both

variable [Postgres] [Bcrypt] [Unicode] {ι : Type} [DecidableEq ι]

/-- Requests that update one project. -/
def projectUpdates (id : ℕ) (edits : ι → UpdateProjectDto × ℕ) (thread : ι) : Request :=
  .updateProject id (edits thread).1 (edits thread).2

/-- Requests that update one user. -/
def userUpdates (id : ℕ) (edits : ι → UpdateUserDto × ℕ) (thread : ι) : Request :=
  .updateUser id (edits thread).1 (edits thread).2

/-- **The entries of concurrent updates** of one project, and of one user, are
about their requests and tell the history, if no UPDATE is executed on a row
that has changed since its request has read it. -/
theorem update_entries_described (db : Db) (id : ℕ) (fuel : ι → ℕ) (turns : List (Turn ι ℕ)) :
    (∀ edits : ι → UpdateProjectDto × ℕ,
      System.Meets db (projectUpdates id edits) fuel
        (fun c thread statement => (editedProject id).readsCurrent c thread statement = true)
        turns →
      (editedProject id).Described (fun thread => (edits thread).1.supplies) db
        (System.run db (projectUpdates id edits) fuel turns)) ∧
    ∀ edits : ι → UpdateUserDto × ℕ,
      System.Meets db (userUpdates id edits) fuel
        (fun c thread statement => (editedUser id).readsCurrent c thread statement = true) turns →
      (editedUser id).Described (fun thread => (edits thread).1.supplies) db
        (System.run db (userUpdates id edits) fuel turns) := by
  constructor
  · intro edits meets
    refine (editedProject_edits id edits).described _ ?_ meets
    intro thread
    exact (Program.outline_map _ _ _).mpr (ProjectsService.update_sends ..)
  · intro edits meets
    refine (editedUser_edits id edits).described _ ?_ meets
    intro thread
    exact (Program.outline_map _ _ _).mpr (UsersService.update_sends ..)

end Both

/-! ### Two updates of one project, or of one user -/

section Twice

open Sample

/-- A user called `root` and one project. -/
def Sample.oneProject : Db := serveAll setup Db.empty

/-- One request renames the project, the other one describes it. -/
def Sample.renameAndDescribe : Bool → UpdateProjectDto × ℕ
  | true => (⟨.value "Renamed", .undefined⟩, 1)
  | false => (⟨.undefined, .value "Described"⟩, 1)

/-- One request renames the user, the other one makes a developer of it. -/
def Sample.renameAndDemote : Bool → UpdateUserDto × ℕ
  | true => (⟨.value "Renamed", .undefined⟩, 1)
  | false => (⟨.undefined, .value .developer⟩, 1)

theorem updates_in_turn_described :
    (editedProject 1).Described (fun thread => (renameAndDescribe thread).1.supplies) oneProject
        (System.run oneProject (projectUpdates 1 renameAndDescribe) (fun _ => 0) inTurn) ∧
      (editedUser 1).Described (fun thread => (renameAndDemote thread).1.supplies) oneProject
        (System.run oneProject (userUpdates 1 renameAndDemote) (fun _ => 0) inTurn) :=
  ⟨(update_entries_described oneProject 1 (fun _ => 0) inTurn).1 _ (by decide +kernel),
    (update_entries_described oneProject 1 (fun _ => 0) inTurn).2 _ (by decide +kernel)⟩

/-- Both requests have read the project before the other one wrote it. The entry
of the request that describes it says that it was renamed as well. -/
theorem description_logged_as_renaming :
    ¬ (editedProject 1).Described (fun thread => (renameAndDescribe thread).1.supplies) oneProject
      (System.run oneProject (projectUpdates 1 renameAndDescribe) (fun _ => 0) inStep) := by
  intro described
  have supplied := described.suppliedOnly
  revert supplied
  decide +kernel

end Twice

end IssueFlow
