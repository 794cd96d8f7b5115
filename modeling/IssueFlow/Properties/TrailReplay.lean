import IssueFlow.Properties.AuditCompleteness
import IssueFlow.System.TicketTrail

/-!
# The audit log tells what the tickets look like

Replaying the audit log gives, for every ticket that was created by
`POST /tickets`, the title, project, type, status, priority, assignee, flag and
deletion that are stored, whatever else has happened since: updates, escalations,
deletions and restorations, and deletions of users. Nothing else is told of:
tickets that were imported have no entry about their creation.

## Main definitions

* `Db.trail` — the entries of the audit log
* `posted` — the tickets that a run has created by `POST /tickets`

## Main results

* `serve_accounted` — the entries of a request tell what it has done to the tickets
* `audit_trail_rebuilds_tickets` — the replayed log of a run
-/

namespace IssueFlow

open Store Semantics JavaScript

/-- The entries of the audit log, the oldest one first. -/
def Db.trail (db : Db) : List AuditInsert := db.auditLogs.rows.map AuditLogRow.toAuditInsert

theorem Appended.trail {entries : List AuditInsert} {before after : Db}
    (appended : Appended entries before after) : after.trail = before.trail ++ entries := by
  obtain ⟨rows, grown, rfl⟩ := appended
  rw [Db.trail, grown, List.map_append]
  rfl

section Serving

variable [Postgres]

/-! ### Rules -/

namespace Accounted

variable {α β : Type} {db : Db}

omit [Postgres] in
theorem of_sameRows {outcome : Except Exception α × Db} (same : SameRows db outcome.2) :
    Accounted db outcome := by
  refine ⟨[], .of_rows_eq same.auditLogs, tells_of_quiet (List.forall_mem_nil _) ?_⟩
  intro id row found
  rw [Table.get?_congr same.tickets, found]

omit [Postgres] in
/-- The response does not matter. -/
theorem of_after {outcome : Except Exception α × Db} {other : Except Exception β × Db}
    (accounted : Accounted db outcome) (same : other.2 = outcome.2) : Accounted db other := by
  obtain ⟨entries, appended, tells⟩ := accounted
  exact ⟨entries, same ▸ appended, same ▸ tells⟩

theorem map {p : Service α} (f : α → β) (accounted : Accounted db (p.run exec db)) :
    Accounted db ((f <$> p).run exec db) :=
  accounted.of_after (by rw [Program.run_map])

/-- A part that only reads comes first. -/
theorem reads {p : Service β} {next : β → Service α} (only : p.Only IsRead)
    (rest : ∀ value, (p.run exec db).1 = .ok value → Accounted db ((next value).run exec db)) :
    Accounted db ((p >>= next).run exec db) := by
  have kept := run_reads only db
  rw [Program.run_bind]
  generalize p.run exec db = reached at kept rest ⊢
  obtain ⟨result, after⟩ := reached
  cases kept
  cases result with
  | ok value => exact rest value rfl
  | error exception => exact .of_sameRows (.refl _)

/-- A write comes next. -/
theorem write {write : Command} {next : write.Rows → Service α}
    (rest : ∀ rows after, write.exec db = (.ok rows, after) →
      (write.foundNone rows = true → SameRows db after) →
      Accounted db ((next rows).run exec after)) :
    Accounted db ((execute write >>= next).run exec db) := by
  rw [run_execute]
  have missed := write.exec_sameRows db
  generalize answered : write.exec db = answer at missed ⊢
  obtain ⟨result, after⟩ := answer
  cases result with
  | ok rows => exact rest rows after answered missed
  | error error => exact .of_sameRows (missed rfl)

omit [Postgres] in
/-- A write that makes no entry of its own is told by the entry that follows;
what is logged after that is no news. -/
theorem logged {outcome : Except Exception α × Db} {stored : Db} {entry : AuditInsert}
    (entries : List AuditInsert) (after : outcome.2 = entries.foldl Db.log (stored.log entry))
    (silent : stored.auditLogs.rows = db.auditLogs.rows)
    (tells : ticketTrail.Tells [entry] db (stored.log entry))
    (quiet : ∀ entry ∈ entries, entry.key.isQuiet = true) : Accounted db outcome := by
  have nothing : Appended [] db stored := .of_rows_eq silent
  obtain ⟨auditLogs, logged⟩ := Db.foldl_log entries (stored.log entry)
  have rest : ticketTrail.Tells entries (stored.log entry) outcome.2 := by
    refine tells_of_quiet quiet fun found => ?_
    rw [after, logged]
    exact found
  refine ⟨[entry] ++ entries, ?_, tells.trans rest⟩
  rw [after]
  exact (nothing.trans (.log stored entry)).trans (.foldl_log entries _)

end Accounted

/-! ### Requests about tickets -/

namespace TicketsService

variable {db : Db}

omit [Postgres] in
/-- The entry about a new ticket lists its columns. -/
theorem tell_created {input : TicketInput} {due : Field Timestamp} {now : Timestamp} {id : ℕ}
    {entry : AuditInsert} {row : TicketRow} (known : Option TicketFacts)
    (created : row = TicketsRepository.createdRow input due now id)
    (entityType : entry.entityType = .ticket) (action : entry.action = .create)
    (entityId : entry.entityId = row.id)
    (metadata : entry.metadata = [("title", .value (.text row.title)),
      ("projectId", .value (.number row.projectId)), ("type", .value (.text row.type.text)),
      ("status", .value (.text row.status.text)),
      ("priority", .value (.text row.priority.text)),
      ("assigneeId", .value (.ofOption .number row.assigneeId))]) :
    TicketFacts.tell id known entry = some row.facts := by
  have key : row.id = id := by rw [created]; rfl
  have flag : row.isOverdue = false := by rw [created]; rfl
  have live : row.isLive = true := by rw [created]; rfl
  simp [TicketFacts.tell, entityType, action, entityId, key, metadata, TicketFacts.created,
    columnName, TicketFacts.columnValue_number, TicketRow.facts, fieldValues, toldFields, flag,
    live]

theorem create_accounted (dto : CreateTicketDto) (performedBy : ℕ) :
    Accounted db ((create dto performedBy).run exec db) := by
  unfold create
  apply Accounted.reads (ProjectsService.assertExists_reads _)
  intro _ _
  apply Accounted.reads (assertAssigneeExists_reads _)
  intro _ _
  apply Accounted.reads (autoAssign_reads _)
  intro assignee _
  apply Accounted.write
  intro row stored executed _
  rw [AuditService.run_log]
  obtain ⟨entries, run, keys⟩ := logAutoAssign_run (AuditRepository.insert _ stored).2 row.id
    assignee (toTicketResponse row)
  rw [run]
  obtain ⟨due, -, created, rfl⟩ := TicketsRepository.create_ok executed
  refine .logged entries rfl rfl ?_ ?_
  · have fresh : db.tickets.get? db.tickets.next = none := Table.get?_of_next_le (le_refl _)
    refine tells_insert fresh rfl ?_
      (fun known => tell_created known created rfl rfl rfl rfl) fun other => ?_
    · rw [created]
      rfl
    · refine (Table.get?_insert _ fun _ => rfl).trans ?_
      split_ifs with same
      · rw [created, same]
      · rfl
  · -- The entry about the assignment repeats what was told.
    intro entry member
    have listed : entry.key ∈ entries.map AuditInsert.key := List.mem_map_of_mem member
    rw [keys] at listed
    split_ifs at listed
    · rw [List.mem_singleton.mp listed]
      rfl
    · cases listed

omit [Postgres] in
/-- A row that is written back under its key. -/
private theorem get?_set_of_stored {row new : TicketRow} {id : ℕ}
    (stored : db.tickets.get? id = some row) (key : new.id = row.id) (other : ℕ) :
    (db.tickets.set new).get? other = if other = id then some new else db.tickets.get? other := by
  have own : Keyed.key new = id := key.trans (Table.key_of_get? stored)
  rw [Table.get?_set, own]
  split_ifs with same
  · rw [same, stored]
    rfl
  · rfl

theorem finishUpdate_accounted {id : ℕ} {dto : UpdateTicketDto} {before : TicketRow}
    (performedBy : ℕ) (found : TicketsRepository.findById id db = some before) :
    Accounted db ((execute (.updateWithVersionCheck id dto.version.toOption dto.toTicketUpdate
      dto.priority.isDefined) >>= finishUpdate id dto performedBy before).run exec db) := by
  apply Accounted.write
  intro rows stored executed missed
  cases rows with
  | none => exact .of_sameRows (missed rfl)
  | some updated =>
      -- Nothing runs in between, so the row that was read is the one that is written.
      obtain ⟨row, due, again, -, -, -, -, written, rfl⟩ :=
        TicketsRepository.updateWithVersionCheck_ok executed
      obtain rfl := Option.some.inj (found.symm.trans again)
      have here : db.tickets.get? id = some before := (Option.filter_eq_some_iff.mp found).1
      have tickets := get?_set_of_stored here (show updated.id = before.id by rw [written]; rfl)
      refine .logged [] rfl rfl (tells_set here rfl rfl ?_ ?_ tickets)
        fun _ member => absurd member List.not_mem_nil
      · simp only [TicketFacts.tell, ne_eq, not_true_eq_false, if_false, Option.map_some]
        rw [TicketFacts.changed_update (by rw [written]; rfl) (by rw [written]; rfl)
          (by rw [written]; rfl)]
      · simp [TicketFacts.tell]

theorem update_accounted (id : ℕ) (dto : UpdateTicketDto) (performedBy : ℕ) :
    Accounted db ((update id dto performedBy).run exec db) := by
  unfold update
  split_ifs
  · exact .of_sameRows (.refl db)
  · exact .of_sameRows (.refl db)
  apply Accounted.reads (getOrThrow_reads _)
  intro before returned
  have found := getOrThrow_run returned
  split_ifs
  · exact .of_sameRows (.refl db)
  · exact .of_sameRows (.refl db)
  apply Accounted.reads (assertNoUnresolvedBlockers_reads _ _)
  intro _ _
  apply Accounted.reads (assertAssigneeExists_reads _)
  intro _ _
  exact finishUpdate_accounted performedBy found

omit [Postgres] in
/-- A ticket that was stamped, and the entry that says so. -/
theorem stamped_accounted {outcome : Except Exception Unit × Db} {stored : Db}
    {entry : AuditInsert} {id : ℕ} {condition : TicketRow → Bool} {deletedAt : Option Timestamp}
    (executed : TicketsRepository.stamp id condition deletedAt db = (true, stored))
    (after : outcome.2 = stored.log entry) (entityType : entry.entityType = .ticket)
    (entityId : entry.entityId = id)
    (told : ∀ known, TicketFacts.tell id known entry =
      known.map fun facts => { facts with deleted := deletedAt.isSome }) :
    Accounted db outcome := by
  rcases TicketsRepository.stamp_cases id condition deletedAt db with
    missed | ⟨row, matched, stamped⟩
  · cases missed.symm.trans executed
  · obtain ⟨-, rfl⟩ := Prod.mk.inj (stamped.symm.trans executed)
    have here := (Option.filter_eq_some_iff.mp matched).1
    have key : ({ row with deletedAt := deletedAt, updatedAt := db.now } : TicketRow).id = row.id :=
      rfl
    have tickets := get?_set_of_stored here key
    refine .logged [] after rfl (tells_set here entityType entityId ?_ (told none) tickets) ?_
    · rw [told, Option.map_some]
      cases deletedAt <;> rfl
    · exact List.forall_mem_nil _

theorem softDelete_accounted (id performedBy : ℕ) :
    Accounted db ((softDelete id performedBy).run exec db) := by
  unfold softDelete
  apply Accounted.reads (getOrThrow_reads _)
  intro before _
  apply Accounted.write
  intro deleted stored executed missed
  cases deleted with
  | false => exact .of_sameRows (missed rfl)
  | true =>
      obtain ⟨answer, same⟩ := Prod.mk.inj executed
      refine stamped_accounted (Prod.ext (Except.ok.inj answer) same) rfl rfl rfl fun known => ?_
      simp [TicketFacts.tell]

theorem restore_accounted (id performedBy : ℕ) :
    Accounted db ((restore id performedBy).run exec db) := by
  unfold restore
  rw [run_select]
  simp only [Query.eval, TicketsRepository.findByIdAnyState]
  cases found : db.tickets.get? id with
  | none => exact .of_sameRows (.refl db)
  | some existing =>
      simp only
      split_ifs with live
      · exact .of_sameRows (.refl db)
      apply Accounted.write
      intro restored stored executed _
      -- The ticket was found deleted, and it still is.
      have deleted : existing.isLive = false := Bool.eq_false_of_not_eq_true live
      have written : TicketsRepository.stamp id (fun row => !row.isLive) none db =
          (true, stored) := by
        have matched : (db.tickets.get? id).filter (fun row => !row.isLive) = some existing := by
          simp [found, Option.filter, deleted]
        obtain ⟨-, same⟩ := Prod.mk.inj executed
        rw [← same]
        show _ = (true, (TicketsRepository.stamp id (fun row => !row.isLive) none db).2)
        rw [TicketsRepository.stamp_eq, matched]
      refine stamped_accounted written rfl rfl rfl fun known => ?_
      simp [TicketFacts.tell]

end TicketsService

theorem UsersService.delete_accounted (id performedBy : ℕ) (db : Db) :
    Accounted db ((delete id performedBy).run exec db) := by
  unfold delete
  apply Accounted.reads (getOrThrow_reads _)
  intro before returned
  apply Accounted.write
  intro deleted stored executed missed
  cases deleted with
  | false => exact .of_sameRows (missed rfl)
  | true =>
      have written : UsersRepository.delete id db = (.ok true, stored) := executed
      rw [UsersRepository.delete] at written
      cases found : db.users.get? id with
      | none =>
          rw [found] at written
          cases written
      | some user =>
          rw [found] at written
          simp only at written
          split_ifs at written
          · cases written
          · obtain ⟨-, rfl⟩ := Prod.mk.inj written
            exact .logged [] rfl rfl (tells_unassigned rfl rfl rfl rfl)
              fun _ member => absurd member List.not_mem_nil

/-! ### Escalation cycles -/

namespace EscalationService

variable {db : Db} {id : ℕ}

omit [Postgres] in
theorem entityType_cycleEntries {entry : AuditInsert} (member : entry ∈ cycleEntries db) :
    entry.entityType = .ticket ∧ entry.action = .priorityEscalated := by
  obtain ⟨row, -, member⟩ := List.mem_flatMap.mp member
  unfold decidedEntry at member
  rw [Option.mem_toList] at member
  obtain ⟨change, -, rfl⟩ := Option.map_eq_some_iff.mp member
  exact ⟨rfl, rfl⟩

omit [Postgres] in
/-- The entry about a decision leads to the row that was decided on. -/
theorem rebuild_decidedEntry (now : Timestamp) (row : TicketRow) :
    ticketTrail.rebuild row.id (some row.facts) (decidedEntry row) =
      some (decidedRow now row).facts := by
  unfold decidedEntry decidedRow
  cases decided : decision row with
  | none => rfl
  | some change =>
      cases change with
      | promote next =>
          simp [ticketTrail, TicketFacts.tell, escalationEntry, escalationMetadata,
            TicketFacts.changed, columnName, TicketRow.facts, fieldValues, toldFields, replayDiff,
            List.lookup_cons, TicketsRepository.escalatedRow, TicketRow.isLive]
      | markOverdue =>
          simp [ticketTrail, TicketFacts.tell, escalationEntry, escalationMetadata,
            TicketFacts.changed, columnName, TicketRow.facts, fieldValues, toldFields, replayDiff,
            List.lookup_cons, TicketsRepository.escalatedRow, TicketRow.isLive]

omit [Postgres] in
/-- **The entries of a cycle** tell what it has done, also if it has stopped. -/
theorem tells_cycled (db : Db) : ticketTrail.Tells (cycleEntries db) db (cycled db) where
  stored {id seen} found := by
    obtain ⟨row, stored, rfl⟩ := Option.map_eq_some_iff.mp found
    obtain rfl : row.id = id := Table.key_of_get? stored
    refine ⟨(if row ∈ reached db then decidedRow db.now row else row).facts,
      view_eq (by rw [get?_cycled, stored]; rfl), ?_⟩
    -- Only the entry about this ticket matters.
    rw [← Projection.rebuild_filter fun entry => entry.entityId = row.id, filter_cycleEntries,
      stored, Option.filter_some]
    · split_ifs with gotTo decided decided
      · exact rebuild_decidedEntry db.now row
      · exact absurd (of_decide_eq_true gotTo) decided
      · exact absurd (decide_eq_true decided) gotTo
      · rfl
    · intro entry member other
      exact silent_of_other (entityType_cycleEntries member).1 (of_decide_eq_false other)
  fresh {id seen} told := by
    rw [Projection.rebuild_eq_self] at told
    · cases told
    · intro entry member
      obtain ⟨entityType, action⟩ := entityType_cycleEntries member
      simp [ticketTrail, TicketFacts.tell, entityType, action]

end EscalationService

/-! ### Any request -/

/-- A ticket was created, updated, deleted, restored or escalated, or it may have
lost its assignee. -/
def Request.isTold : Request → Bool
  | createTicket .. | updateTicket .. | softDeleteTicket .. | restoreTicket .. | escalate
  | deleteUser .. => true
  | _ => false

omit [Postgres] in
/-- The entries due to any other request are about other things. -/
theorem isQuiet_of_mem_due {request : Request} {before after : Db} {response : Response}
    {key : EntryKey} (other : request.isTold = false)
    (due : key ∈ request.due before after response) :
    key.isQuiet = true := by
  unfold Request.due at due
  split at due
  all_goals first
    | (cases other; done)
    | (cases due; done)
    | (obtain rfl := List.mem_singleton.mp due; rfl)
    | skip
  -- Nothing is due to a dependency that was there.
  split_ifs at due
  · cases due
  · obtain rfl := List.mem_singleton.mp due
    rfl

omit [Postgres] in
/-- No entries are due to any other request that is rejected. -/
theorem dueRejected_of_other {request : Request} (other : request.isTold = false)
    (before after : Db) : request.dueRejected before after = [] := by
  cases request with
  | escalate => cases other
  | _ => rfl

variable [Bcrypt] [Unicode]

/-- Any other request leaves the tickets that are stored. -/
theorem serve_keeps_tickets {request : Request} {db : Db} {id : ℕ} {row : TicketRow}
    (other : request.isTold = false) (stored : db.tickets.get? id = some row) :
    (serve request db).2.tickets.get? id = some row := by
  obtain ⟨row', here, effect⟩ := serve_ticket request stored
  rw [here]
  cases effect with
  | kept => rfl
  | _ => cases other

theorem accounted_of_other {request : Request} (other : request.isTold = false) (db : Db) :
    Accounted db (serve request db) := by
  have appended := serve_appended request db
  have kept {id : ℕ} {row : TicketRow} (stored : db.tickets.get? id = some row) :=
    serve_keeps_tickets other stored
  generalize serve request db = outcome at appended kept ⊢
  obtain ⟨result, after⟩ := outcome
  cases result with
  | ok response =>
      obtain ⟨entries, grown, keys⟩ := appended.1 response after rfl
      refine ⟨entries, grown, tells_of_quiet (fun entry member => ?_) kept⟩
      have due : entry.key ∈ entries.map AuditInsert.key := List.mem_map_of_mem member
      rw [keys] at due
      exact isQuiet_of_mem_due other due
  | error exception =>
      obtain ⟨entries, grown, keys⟩ := appended.2 exception after rfl
      rw [dueRejected_of_other other, List.map_eq_nil_iff] at keys
      subst keys
      exact ⟨[], grown, tells_of_quiet (List.forall_mem_nil _) kept⟩

/-- **The entries of a request tell what it has done to the tickets.** -/
theorem serve_accounted (request : Request) (db : Db) : Accounted db (serve request db) := by
  cases request with
  | createTicket dto performedBy => exact (TicketsService.create_accounted dto performedBy).map _
  | updateTicket id dto performedBy =>
      exact (TicketsService.update_accounted id dto performedBy).map _
  | softDeleteTicket id performedBy =>
      exact (TicketsService.softDelete_accounted id performedBy).map _
  | restoreTicket id performedBy => exact (TicketsService.restore_accounted id performedBy).map _
  | deleteUser id performedBy => exact (UsersService.delete_accounted id performedBy db).map _
  | escalate =>
      have effect := serve_effect .escalate db
      generalize serve .escalate db = outcome at effect
      cases effect with
      | rejected same => exact .of_sameRows same
      | answered same nothing => exact .of_sameRows same
      | performed checked => exact checked.elim
      | escalated | stopped => exact ⟨_, appended_cycled db, EscalationService.tells_cycled db⟩
  | _ => exact accounted_of_other rfl db

/-! ### Tickets that were posted -/

/-- The entry about a new ticket. -/
def EntryKey.creates (id : ℕ) (key : EntryKey) : Bool :=
  key.action = .create && key.entityType = .ticket && key.entityId = id

omit [Postgres] [Bcrypt] [Unicode] in
theorem isSome_tell_iff {id : ℕ} {known : Option TicketFacts} (entry : AuditInsert) :
    (TicketFacts.tell id known entry).isSome ↔
      known.isSome ∨ entry.key.creates id = true := by
  obtain ⟨action, entityType, entityId, performedBy, actor, metadata⟩ := entry
  simp only [TicketFacts.tell, EntryKey.creates, AuditInsert.key]
  cases entityType with
  | ticket =>
      by_cases about : entityId = id
      · cases action <;> simp [about]
      · simp [about]
  | user => cases action <;> simp
  | _ => simp

omit [Postgres] [Bcrypt] [Unicode] in
/-- A ticket is known from the entry about its creation on. -/
theorem isSome_rebuild_iff {id : ℕ} {known : Option TicketFacts} {entries : List AuditInsert} :
    (ticketTrail.rebuild id known entries).isSome ↔
      known.isSome ∨ ∃ entry ∈ entries, entry.key.creates id = true := by
  induction entries generalizing known with
  | nil => simp
  | cons entry entries ih =>
      rw [Projection.rebuild_cons, ih]
      simp only [ticketTrail, isSome_tell_iff, List.exists_mem_cons_iff, or_assoc]

/-- The ticket that an input has created by `POST /tickets`. -/
def postedBy (db : Db) : Input → List ℕ
  | .request (.createTicket dto performedBy) =>
      match (serve (.createTicket dto performedBy) db).1 with
      | .ok (.ticket created) => [created.id]
      | _ => []
  | _ => []

/-- The tickets that were created by `POST /tickets`, in this order. -/
def posted : List Input → Db → List ℕ
  | [], _ => []
  | input :: inputs, db => postedBy db input ++ posted inputs (input.apply db)

theorem posted_append (first second : List Input) (db : Db) :
    posted (first ++ second) db = posted first db ++ posted second (serveAll first db) := by
  induction first generalizing db with
  | nil => rfl
  | cons input first ih =>
      rw [List.cons_append, posted, posted, ih, List.append_assoc]
      rfl

/-- The entries due to a request are about a new ticket exactly if it was posted. -/
theorem creates_due_iff {request : Request} {db after : Db} {response : Response} {id : ℕ}
    (answered : (serve request db).1 = .ok response) :
    (∃ key ∈ request.due db after response, key.creates id = true) ↔
      id ∈ postedBy db (.request request) := by
  cases request with
  | createTicket dto performedBy =>
      simp only [postedBy, answered]
      cases response with
      | ticket created =>
          simp only [Request.due]
          have same : created.id = id ↔ id = created.id := eq_comm
          split_ifs <;> simpa [EntryKey.creates, EntryKey.byUser] using same
      | _ => simp [Request.due]
  | escalate => simp [Request.due, EntryKey.creates, postedBy]
  | addDependency ticketId blockerId performedBy =>
      simp only [Request.due]
      split_ifs <;> simp [EntryKey.creates, EntryKey.byUser, postedBy]
  | _ => cases response <;> simp [Request.due, EntryKey.creates, EntryKey.byUser, postedBy]

omit [Postgres] [Bcrypt] [Unicode] in
/-- The entries due to a request that is rejected are about no new ticket. -/
theorem not_creates_dueRejected {request : Request} {before after : Db} {id : ℕ} {key : EntryKey}
    (due : key ∈ request.dueRejected before after) : key.creates id = false := by
  cases request with
  | escalate =>
      unfold Request.dueRejected at due
      split_ifs at due
      · obtain ⟨ticket, -, rfl⟩ := List.mem_map.mp due
        rfl
      · cases due
  | _ => cases due

/-- One input: what is told stays true, and the tickets that become known are
those that are posted. -/
theorem apply_trail (input : Input) (db : Db) :
    ∃ entries, (input.apply db).trail = db.trail ++ entries ∧
      ticketTrail.Tells entries db (input.apply db) ∧
      ∀ id, (∃ entry ∈ entries, entry.key.creates id = true) ↔ id ∈ postedBy db input := by
  cases input with
  | advance elapsed =>
      refine ⟨[], (List.append_nil _).symm, tells_of_quiet (List.forall_mem_nil _) ?_, ?_⟩
      · exact fun found => found
      · simp [postedBy]
  | request sent =>
      obtain ⟨entries, appended, tells⟩ := serve_accounted sent db
      refine ⟨entries, appended.trail, tells, fun id => ?_⟩
      have keyed := serve_appended sent db
      cases answered : (serve sent db).1 with
      | ok response =>
          obtain ⟨entries', appended', keys⟩ := keyed.1 response _ (Prod.ext answered rfl)
          -- The entries that were appended are determined by the two logs.
          obtain rfl : entries = entries' :=
            List.append_cancel_left (appended.trail.symm.trans appended'.trail)
          rw [← creates_due_iff answered, ← keys]
          simp
      | error exception =>
          obtain ⟨entries', appended', keys⟩ := keyed.2 exception _ (Prod.ext answered rfl)
          obtain rfl : entries = entries' :=
            List.append_cancel_left (appended.trail.symm.trans appended'.trail)
          have none : ¬ ∃ entry ∈ entries, entry.key.creates id = true := by
            rintro ⟨entry, member, creates⟩
            have due : entry.key ∈ entries.map AuditInsert.key := List.mem_map_of_mem member
            rw [keys] at due
            exact Bool.noConfusion (creates.symm.trans (not_creates_dueRejected due))
          refine iff_of_false none ?_
          cases sent with
          | createTicket dto performedBy => simp [postedBy, answered]
          | _ => simp [postedBy]

/-- What the log of a run tells is what is stored, and it tells of the tickets
that were posted. -/
theorem serveAll_trail (inputs : List Input) :
    ticketTrail.Sound (serveAll inputs Db.empty).trail (serveAll inputs Db.empty) ∧
      ∀ id, (ticketTrail.rebuild id none (serveAll inputs Db.empty).trail).isSome ↔
        id ∈ posted inputs Db.empty := by
  induction inputs using List.reverseRecOn with
  | nil =>
      refine ⟨fun told => (nomatch told), fun id => ?_⟩
      simp [serveAll, Db.empty, Db.trail, posted, Table.empty]
  | append_singleton inputs input ih =>
      obtain ⟨sound, known⟩ := ih
      obtain ⟨entries, trail, tells, created⟩ := apply_trail input (serveAll inputs Db.empty)
      have last : serveAll (inputs ++ [input]) Db.empty =
          input.apply (serveAll inputs Db.empty) := serveAll_append inputs [input] Db.empty
      rw [last, trail, posted_append]
      refine ⟨sound.step tells, fun id => ?_⟩
      rw [Projection.rebuild_append, isSome_rebuild_iff, known, created]
      simp [posted]

/-- **The audit log rebuilds the tickets.** In every state that is reached one
request at a time, the replayed log gives the stored facts about every ticket
that was posted, which is still stored, and nothing about any other ticket. -/
theorem audit_trail_rebuilds_tickets (inputs : List Input) (id : ℕ) :
    ticketTrail.rebuild id none (serveAll inputs Db.empty).trail =
        (if id ∈ posted inputs Db.empty then
          ((serveAll inputs Db.empty).tickets.get? id).map TicketRow.facts
        else none) ∧
      (id ∈ posted inputs Db.empty → ((serveAll inputs Db.empty).tickets.get? id).isSome) := by
  obtain ⟨sound, known⟩ := serveAll_trail inputs
  have stored : id ∈ posted inputs Db.empty →
      ticketTrail.rebuild id none (serveAll inputs Db.empty).trail =
        ((serveAll inputs Db.empty).tickets.get? id).map TicketRow.facts := by
    intro member
    obtain ⟨facts, told⟩ := Option.isSome_iff_exists.mp ((known id).mpr member)
    rw [told]
    exact (sound told).symm
  constructor
  · split_ifs with member
    · exact stored member
    · exact Option.not_isSome_iff_eq_none.mp fun told => member ((known id).mp told)
  · intro member
    have told := (known id).mpr member
    rwa [stored member, Option.isSome_map] at told

end Serving

/-! ### A deleted user -/

section Runs

open Sample

/-- The project and a second developer, a ticket that is assigned to her and
moved, and her deletion. -/
def assignedAndMoved : List Input :=
  setup ++ [.request
      (.createUser ⟨"dev", "dev@example.com", "Dev", .developer, .undefined⟩ none ""),
    ticket .todo, .request (move 1 1 .inProgress), .request (.deleteUser 2 1)]

/-- What the log tells of the ticket, which was assigned automatically. -/
example : ticketTrail.rebuild 1 none (serveAll assignedAndMoved Db.empty).trail =
    some ⟨[("title", .text "Ticket"), ("projectId", .number 1), ("type", .text "BUG"),
      ("status", .text "IN_PROGRESS"), ("priority", .text "MEDIUM"), ("assignee_id", .null),
      ("is_overdue", .bool false)], false⟩ := by
  decide +kernel

end Runs

end IssueFlow
