import IssueFlow.Database.Deletion
import IssueFlow.System.Writes

/-!
# Entries about deletions and restorations

A `DELETE` or `RESTORE` entry should tell of something that has happened. Every
such entry directly follows the write it is about. Half of the services look at
the number of affected rows before they log; the others log in any case, and
then an entry is one too many when another request was faster.

## Main definitions

* `deletions`, `restorations` — what has happened to an entity in a run
* `Command.announced`, `Command.affects` — the writes that entries are about
* `Command.ignoresCount` — those whose count of affected rows is ignored

## Main results

* `Request.outline_announces` — entries directly follow the writes they are about
* `entries_match_transitions` — there are no more entries than transitions
-/

namespace IssueFlow

open Store Semantics JavaScript

/-! ### Entities and their transitions -/

/-- The entries about an action on an entity. -/
def Db.entries (action : AuditAction) (entity : AuditEntity) (id : ℕ) (db : Db) : ℕ :=
  db.auditLogs.rows.countP fun row =>
    row.action = action && row.entityType = entity && row.entityId = id

/-- The write that an entry is logged about: the action, and the entity with its
key. -/
def Command.announced : Command → Option (AuditAction × AuditEntity × ℕ)
  | deleteUser id => some (.delete, .user, id)
  | softDeleteProject id => some (.delete, .project, id)
  | restoreProject id => some (.restore, .project, id)
  | softDeleteTicket id => some (.delete, .ticket, id)
  | restoreTicket id => some (.restore, .ticket, id)
  | deleteComment id => some (.delete, .comment, id)
  | deleteAttachment id => some (.delete, .attachment, id)
  | _ => none

/-- Does such a write affect a row? -/
def Command.affects (write : Command) (db : Db) : Bool :=
  match write with
  | deleteUser id => (db.users.get? id).isSome && !UsersRepository.isReferenced db id
  | softDeleteProject id => db.isLive .project id
  | restoreProject id => db.isDeleted .project id
  | softDeleteTicket id => db.isLive .ticket id
  | restoreTicket id => db.isDeleted .ticket id
  | deleteComment id => db.isLive .comment id
  | deleteAttachment id => db.isLive .attachment id
  | _ => false

/-- The writes after which a service logs without a look at the number of
affected rows. -/
def Command.ignoresCount : Command → Bool
  | restoreProject _ | restoreTicket _ | deleteComment _ | deleteAttachment _ => true
  | _ => false

/-- A row that is removed by its key. -/
private theorem get?_remove_self {ρ : Type} [Keyed ρ] (t : Table ρ) (id : ℕ) :
    (t.remove fun row => Keyed.key row = id).get? id = none := by
  rw [Table.get?_remove]
  cases found : t.get? id with
  | none => rfl
  | some row => simp [Table.key_of_get? found]

/-- A row that is deleted softly or restored. -/
private theorem ticket_stamped {id : ℕ} {condition : TicketRow → Bool}
    {deletedAt : Option Timestamp} {db : Db} {row : TicketRow}
    (found : db.tickets.get? id = some row) (holds : condition row = true) :
    (TicketsRepository.stamp id condition deletedAt db).2.tickets.get? id =
      some { row with deletedAt := deletedAt, updatedAt := db.now } := by
  have key : Keyed.key row = id := Table.key_of_get? found
  rw [TicketsRepository.stamp_eq, found, Option.filter_some, if_pos holds]
  show (db.tickets.set _).get? id = _
  rw [Table.get?_set, found]
  exact if_pos key.symm

private theorem project_stamped {id : ℕ} {condition : ProjectRow → Bool}
    {deletedAt : Option Timestamp} {db : Db} {row : ProjectRow}
    (found : db.projects.get? id = some row) (holds : condition row = true) :
    (ProjectsRepository.stamp id condition deletedAt db).2.projects.get? id =
      some { row with deletedAt := deletedAt, updatedAt := db.now } := by
  have key : Keyed.key row = id := Table.key_of_get? found
  rw [ProjectsRepository.stamp_eq, found, Option.filter_some, if_pos holds]
  show (db.projects.set _).get? id = _
  rw [Table.get?_set, found]
  exact if_pos key.symm

private theorem ticket_softDeleted {id : ℕ} {db : Db} (live : db.isLive .ticket id = true) :
    (TicketsRepository.softDelete id db).2.isLive .ticket id = false := by
  obtain ⟨row, found⟩ := Option.isSome_iff_exists.mp live
  obtain ⟨stored, live⟩ := Option.filter_eq_some_iff.mp found
  show (TicketsRepository.findById id (TicketsRepository.softDelete id db).2).isSome = false
  rw [TicketsRepository.findById, TicketsRepository.softDelete, ticket_stamped stored live]
  rfl

private theorem ticket_restored {id : ℕ} {db : Db} (deleted : db.isDeleted .ticket id = true) :
    (TicketsRepository.restore id db).2.isLive .ticket id = true := by
  obtain ⟨row, stored, deleted⟩ := (Option.any_eq_true _ _).mp deleted
  show (TicketsRepository.findById id (TicketsRepository.restore id db).2).isSome = true
  rw [TicketsRepository.findById, TicketsRepository.restore, ticket_stamped stored deleted]
  rfl

private theorem project_softDeleted {id : ℕ} {db : Db} (live : db.isLive .project id = true) :
    (ProjectsRepository.softDelete id db).2.isLive .project id = false := by
  obtain ⟨row, found⟩ := Option.isSome_iff_exists.mp live
  obtain ⟨stored, live⟩ := Option.filter_eq_some_iff.mp found
  show (ProjectsRepository.findById id (ProjectsRepository.softDelete id db).2).isSome = false
  rw [ProjectsRepository.findById, ProjectsRepository.softDelete, project_stamped stored live]
  rfl

private theorem project_restored {id : ℕ} {db : Db} (deleted : db.isDeleted .project id = true) :
    (ProjectsRepository.restore id db).2.isLive .project id = true := by
  obtain ⟨row, stored, deleted⟩ := (Option.any_eq_true _ _).mp deleted
  show (ProjectsRepository.findById id (ProjectsRepository.restore id db).2).isSome = true
  rw [ProjectsRepository.findById, ProjectsRepository.restore, project_stamped stored deleted]
  rfl

/-- A user that nothing refers to is removed. -/
private theorem user_deleted {id : ℕ} {db : Db} (stored : (db.users.get? id).isSome = true)
    (free : UsersRepository.isReferenced db id = false) :
    (UsersRepository.delete id db).2.isLive .user id = false := by
  obtain ⟨user, found⟩ := Option.isSome_iff_exists.mp stored
  have removed : (UsersRepository.delete id db).2.users =
      db.users.remove fun user => Keyed.key user = id := by
    rw [UsersRepository.delete, found]
    simp only
    rw [if_neg (by simp [free])]
    rfl
  show ((UsersRepository.delete id db).2.users.get? id).isSome = false
  rw [removed, get?_remove_self]
  rfl

section Transitions

variable [Postgres]

/-- Has the entity been deleted by this statement? -/
def isDeletion (entity : AuditEntity) (id : ℕ) (event : Event Statement Db) : Bool :=
  event.state.isLive entity id && !(exec event.op event.state).2.isLive entity id

/-- Has the entity been restored by this statement? -/
def isRestoration (entity : AuditEntity) (id : ℕ) (event : Event Statement Db) : Bool :=
  event.state.isDeleted entity id && (exec event.op event.state).2.isLive entity id

/-- The transition that entries about an action tell of. -/
def isTransition : AuditAction → AuditEntity → ℕ → Event Statement Db → Bool
  | .delete => isDeletion
  | .restore => isRestoration
  | _ => fun _ _ _ => false

/-- Was the statement a write that affected a row and that such entries are
about? -/
def isAnnounced (action : AuditAction) (entity : AuditEntity) (id : ℕ)
    (event : Event Statement Db) : Bool :=
  match event.op with
  | .command write =>
      decide (write.announced = some (action, entity, id)) && write.affects event.state
  | .select _ => false

private theorem isDeletion_of {entity : AuditEntity} {id : ℕ} {event : Event Statement Db}
    (live : event.state.isLive entity id = true)
    (gone : (exec event.op event.state).2.isLive entity id = false) :
    isDeletion entity id event = true := by
  rw [isDeletion, live, gone]
  rfl

/-- **A write that affects its row** makes the transition that its entry tells
of. -/
theorem isTransition_of_isAnnounced {action : AuditAction} {entity : AuditEntity} {id : ℕ}
    {event : Event Statement Db} (announced : isAnnounced action entity id event = true) :
    isTransition action entity id event = true := by
  obtain ⟨statement, db⟩ := event
  cases statement with
  | select read => cases announced
  | command write =>
      obtain ⟨about, affects⟩ := (Bool.and_eq_true _ _).mp announced
      have about := of_decide_eq_true about
      -- Each write that announces its row is one of seven.
      cases write with
      | deleteUser id =>
          cases about
          -- A user goes only if no project, comment or attachment refers to them.
          obtain ⟨stored, free⟩ := (Bool.and_eq_true _ _).mp affects
          exact isDeletion_of stored (user_deleted stored (by simpa using free))
      | softDeleteProject id =>
          cases about
          exact isDeletion_of affects (project_softDeleted affects)
      | restoreProject id =>
          cases about
          exact (Bool.and_eq_true _ _).mpr ⟨affects, project_restored affects⟩
      | softDeleteTicket id =>
          cases about
          exact isDeletion_of affects (ticket_softDeleted affects)
      | restoreTicket id =>
          cases about
          exact (Bool.and_eq_true _ _).mpr ⟨affects, ticket_restored affects⟩
      | deleteComment id =>
          cases about
          have gone : ((CommentsRepository.delete id db).2.comments.get? id).isSome = false :=
            congrArg Option.isSome (get?_remove_self db.comments id)
          exact isDeletion_of affects gone
      | deleteAttachment id =>
          cases about
          have gone : ((AttachmentsRepository.delete id db).2.attachments.get? id).isSome = false :=
            congrArg Option.isSome (get?_remove_self db.attachments id)
          exact isDeletion_of affects gone
      | _ => cases about

/-! ### Entries follow their writes -/

/-- Does the entry tell of a deletion or a restoration? -/
def AuditInsert.tellsTransition (entry : AuditInsert) : Bool :=
  entry.entityType ≠ .dependency && (entry.action = .delete || entry.action = .restore)

/-- A write was sent last, and the service has seen that it affected a row,
unless it ignores that. -/
def JustWrote (events : List (Event Statement Db)) (action : AuditAction) (entity : AuditEntity)
    (id : ℕ) : Prop :=
  ∃ write db earlier, events = ⟨.command write, db⟩ :: earlier ∧
    write.announced = some (action, entity, id) ∧
    (write.ignoresCount = false → write.affects db = true)

/-- An entry about a deletion or a restoration directly follows the write it is
about. -/
def Announces (events : List (Event Statement Db)) : Statement → Prop
  | .select _ => True
  | .command write => ∀ rows, ∀ entry ∈ write.entries rows, entry.tellsTransition = true →
      JustWrote events entry.action entry.entityType entry.entityId

section Outline

variable {α : Type} {events : List (Event Statement Db)}

omit [Postgres] in
/-- An entry is logged. -/
theorem announces_insertAudit {entry : AuditInsert}
    (wrote : entry.tellsTransition = true →
      JustWrote events entry.action entry.entityType entry.entityId) :
    Announces events (.command (.insertAudit entry)) := by
  intro rows other member
  rw [List.mem_singleton.mp member]
  exact wrote

theorem outline_entry {entry : AuditInsert}
    (wrote : JustWrote events entry.action entry.entityType entry.entityId) :
    (AuditService.log entry).Outline exec Announces (fun _ _ => True) events :=
  ⟨announces_insertAudit fun _ => wrote, fun _ => trivial⟩

/-- A write that logs nothing by itself, and what follows it. -/
theorem outline_write {write : Command} {next : write.Rows → Service α}
    (quiet : ∀ rows, write.entries rows = [])
    (rest : ∀ db rows, (write.exec db).1 = .ok rows →
      (next rows).Outline exec Announces (fun _ _ => True) (⟨.command write, db⟩ :: events)) :
    (execute write >>= next).Outline exec Announces (fun _ _ => True) events := by
  refine (outline_execute _ _).mpr ⟨?_, fun db => ?_⟩
  · intro rows entry member
    rw [quiet] at member
    cases member
  · cases answered : (write.exec db).1 with
    | ok rows => exact rest db rows answered
    | error error => trivial

/-- A request whose entries tell of neither. -/
theorem outline_of_silent {allowed : Command → Prop} {p : Service α}
    (only : p.Only (Writing allowed))
    (silent : ∀ write, allowed write → ∀ rows, ∀ entry ∈ write.entries rows,
      entry.tellsTransition = false) :
    p.Outline exec Announces (fun _ _ => True) events := by
  refine outline_of_only (fun _ _ => trivial) only ?_
  intro events write holds rows entry member tells
  rw [silent write holds rows entry member] at tells
  cases tells

end Outline

/-! ### The services that delete and restore -/

private abbrev Announcing {α : Type} (p : Service α) : Prop :=
  p.Outline exec Announces (fun _ _ => True) []

omit [Postgres] in
/-- What the answer of a soft delete says. -/
theorem TicketsRepository.softDelete_affects {id : ℕ} {db : Db}
    (deleted : (softDelete id db).1 = true) : (findById id db).isSome = true := by
  rw [findById]
  rcases stamp_cases id TicketRow.isLive (some db.now) db with missed | ⟨row, found, -⟩
  · rw [softDelete, missed] at deleted
    cases deleted
  · rw [found]
    rfl

omit [Postgres] in
theorem ProjectsRepository.softDelete_affects {id : ℕ} {db : Db}
    (deleted : (softDelete id db).1 = true) : (findById id db).isSome = true := by
  rw [findById]
  rcases stamp_cases id ProjectRow.isLive (some db.now) db with missed | ⟨row, found, -⟩
  · rw [softDelete, missed] at deleted
    cases deleted
  · rw [found]
    rfl

omit [Postgres] in
theorem UsersRepository.delete_affects {id : ℕ} {db : Db}
    (deleted : (delete id db).1 = .ok true) :
    ((db.users.get? id).isSome && !isReferenced db id) = true := by
  rw [delete] at deleted
  cases found : db.users.get? id with
  | none =>
      rw [found] at deleted
      cases deleted
  | some user =>
      rw [found] at deleted
      simp only at deleted
      split_ifs at deleted with referenced
      simpa using referenced

theorem TicketsService.softDelete_announces (id performedBy : ℕ) :
    Announcing (TicketsService.softDelete id performedBy) := by
  apply outline_of_reads (fun _ _ => trivial) (TicketsService.getOrThrow_reads id)
  intro events before
  apply outline_write (fun _ => rfl)
  intro db deleted answered
  cases deleted with
  | false => trivial
  | true =>
      have affected : (TicketsRepository.softDelete id db).1 = true := Except.ok.inj answered
      exact outline_entry ⟨_, db, events, rfl, rfl, fun _ =>
        TicketsRepository.softDelete_affects affected⟩

theorem TicketsService.restore_announces (id performedBy : ℕ) :
    Announcing (TicketsService.restore id performedBy) := by
  apply outline_of_reads (fun _ _ => trivial) (read_only _)
  rintro events (_ | existing)
  · trivial
  simp only
  split_ifs
  · trivial
  apply outline_write (fun _ => rfl)
  intro db restored answered
  exact outline_entry ⟨_, db, events, rfl, rfl, fun counted => by cases counted⟩

theorem ProjectsService.softDelete_announces (id performedBy : ℕ) :
    Announcing (ProjectsService.softDelete id performedBy) := by
  apply outline_of_reads (fun _ _ => trivial) (ProjectsService.getOrThrow_reads id)
  intro events before
  apply outline_write (fun _ => rfl)
  intro db deleted answered
  cases deleted with
  | false => trivial
  | true =>
      have affected : (ProjectsRepository.softDelete id db).1 = true := Except.ok.inj answered
      exact outline_entry ⟨_, db, events, rfl, rfl, fun _ =>
        ProjectsRepository.softDelete_affects affected⟩

theorem ProjectsService.restore_announces (id performedBy : ℕ) :
    Announcing (ProjectsService.restore id performedBy) := by
  apply outline_of_reads (fun _ _ => trivial) (read_only _)
  rintro events (_ | existing)
  · trivial
  simp only
  split_ifs
  · trivial
  apply outline_write (fun _ => rfl)
  intro db restored answered
  exact outline_entry ⟨_, db, events, rfl, rfl, fun counted => by cases counted⟩

theorem UsersService.delete_announces (id performedBy : ℕ) :
    Announcing (UsersService.delete id performedBy) := by
  apply outline_of_reads (fun _ _ => trivial) (UsersService.getOrThrow_reads _)
  intro events before
  apply outline_write (fun _ => rfl)
  intro db deleted answered
  cases deleted with
  | false => trivial
  | true =>
      exact outline_entry ⟨_, db, events, rfl, rfl, fun _ =>
        UsersRepository.delete_affects answered⟩

theorem CommentsService.delete_announces (ticketId commentId performedBy : ℕ) :
    Announcing (CommentsService.delete ticketId commentId performedBy) := by
  apply outline_of_reads (fun _ _ => trivial) (CommentsService.getOrThrow_reads _)
  intro events existing
  split_ifs
  · trivial
  apply outline_write (fun _ => rfl)
  intro db deleted answered
  exact outline_entry ⟨_, db, events, rfl, rfl, fun counted => by cases counted⟩

theorem AttachmentsService.delete_announces (ticketId attachmentId performedBy : ℕ) :
    Announcing (AttachmentsService.delete ticketId attachmentId performedBy) := by
  apply outline_of_reads (fun _ _ => trivial) (read_only _)
  rintro events (_ | row)
  · trivial
  simp only
  split_ifs
  · trivial
  apply outline_write (fun _ => rfl)
  intro db deleted answered
  exact outline_entry ⟨_, db, events, rfl, rfl, fun counted => by cases counted⟩

/-! ### All requests -/

omit [Postgres] in
/-- A write without entries about deletions and restorations. -/
def Command.TellsNothing (write : Command) : Prop :=
  ∀ rows, ∀ entry ∈ write.entries rows, entry.tellsTransition = false

omit [Postgres] in
theorem CommentsService.create_tellsNothing (ticketId : ℕ) (dto : CreateCommentDto)
    (performedBy : ℕ) : (CommentsService.create ticketId dto performedBy).Only
      (Writing Command.TellsNothing) := by
  apply (writing_of_reads (TicketsService.getOrThrow_reads _)).bind
  intro ticket
  apply (writing_of_reads (UsersService.findById_reads _)).bind
  intro author
  apply (writing_of_reads (CommentsService.resolveMentions_reads _)).bind
  intro ids
  refine (writing_execute ?_).bind fun row => ?_
  swap
  · exact writing_of_reads (CommentsService.toResponse_reads row)
  intro row entry member
  rw [List.mem_singleton.mp member]
  rfl

omit [Postgres] in
theorem CommentsService.update_tellsNothing (ticketId commentId : ℕ) (dto : UpdateCommentDto)
    (performedBy : ℕ) : (CommentsService.update ticketId commentId dto performedBy).Only
      (Writing Command.TellsNothing) := by
  unfold CommentsService.update
  split_ifs
  · trivial
  apply (writing_of_reads (CommentsService.getOrThrow_reads _)).bind
  intro existing
  split_ifs
  · trivial
  apply (writing_of_reads (CommentsService.resolveMentions_reads _)).bind
  intro ids
  refine (writing_execute ?_).bind fun found => ?_
  · rintro (_ | row) entry member
    · cases member
    · rw [List.mem_singleton.mp member]
      rfl
  · cases found with
    | none => exact (writing_select _).bind fun _ => trivial
    | some updated => exact writing_of_reads (CommentsService.toResponse_reads updated)

omit [Postgres] in
/-- Entries about other actions, and about dependencies. -/
theorem Logs.tellsNothing {action : AuditAction} {entity : AuditEntity} {write : Command}
    (logs : Logs action entity write)
    (other : (entity ≠ .dependency && (action = .delete || action = .restore)) = false) :
    write.TellsNothing := by
  obtain ⟨entry, rfl, rfl, rfl⟩ := logs
  intro rows entry' member
  rw [List.mem_singleton.mp member]
  exact other

/-- **Every request** logs a deletion or a restoration right after its write. -/
theorem Request.outline_announces [Bcrypt] [Unicode] (request : Request) (fuel : ℕ) :
    (request.program fuel).Outline exec Announces (fun _ _ => True) [] := by
  have only := Request.only request fuel
  cases request with
  | deleteUser id performedBy =>
      exact (Program.outline_map _ _ _).mpr (UsersService.delete_announces ..)
  | softDeleteProject id performedBy =>
      exact (Program.outline_map _ _ _).mpr (ProjectsService.softDelete_announces ..)
  | restoreProject id performedBy =>
      exact (Program.outline_map _ _ _).mpr (ProjectsService.restore_announces ..)
  | softDeleteTicket id performedBy =>
      exact (Program.outline_map _ _ _).mpr (TicketsService.softDelete_announces ..)
  | restoreTicket id performedBy =>
      exact (Program.outline_map _ _ _).mpr (TicketsService.restore_announces ..)
  | deleteComment ticketId commentId performedBy =>
      exact (Program.outline_map _ _ _).mpr (CommentsService.delete_announces ..)
  | deleteAttachment ticketId attachmentId performedBy =>
      exact (Program.outline_map _ _ _).mpr (AttachmentsService.delete_announces ..)
  -- The other requests log no deletion and no restoration.
  | createComment ticketId dto performedBy =>
      exact outline_of_silent ((CommentsService.create_tellsNothing ..).map _) fun _ holds => holds
  | updateComment ticketId commentId dto performedBy =>
      exact outline_of_silent ((CommentsService.update_tellsNothing ..).map _) fun _ holds => holds
  | login expiresInSeconds jti username password => exact outline_of_silent only fun _ => False.elim
  | authenticate payload => exact outline_of_silent only fun _ => False.elim
  | logout payload =>
      refine outline_of_silent only ?_
      rintro _ ⟨jti, userId, expiresAt, rfl⟩ rows entry member
      cases member
  | createTicket dto performedBy =>
      refine outline_of_silent only ?_
      rintro _ (⟨input, rfl⟩ | logs | logs)
      · intro rows entry member
        cases member
      · exact logs.tellsNothing rfl
      · exact logs.tellsNothing rfl
  | createUser | createProject | importTickets =>
      refine outline_of_silent only ?_
      rintro _ (⟨input, rfl⟩ | logs)
      · intro rows entry member
        cases member
      · exact logs.tellsNothing rfl
  | uploadAttachment =>
      refine outline_of_silent only ?_
      rintro _ (⟨input, rfl, -⟩ | logs)
      · intro rows entry member
        cases member
      · exact logs.tellsNothing rfl
  | escalate =>
      refine outline_of_silent only ?_
      rintro _ (⟨id, change, rfl⟩ | logs)
      · intro rows entry member
        cases member
      · exact logs.tellsNothing rfl
  | updateUser | updateProject | updateTicket | addDependency | removeDependency =>
      refine outline_of_silent only ?_
      rintro _ (rfl | logs)
      · intro rows entry member
        cases member
      · exact logs.tellsNothing rfl

/-! ### Entries in a run -/

omit [Postgres] in
/-- Is the entry about this action? -/
def AuditInsert.isAbout (entry : AuditInsert) (action : AuditAction) (entity : AuditEntity)
    (id : ℕ) : Bool :=
  entry.action = action && entry.entityType = entity && entry.entityId = id

/-- A made entry was logged by a write. -/
theorem mem_madeEntries {event : Event Statement Db} {entry : AuditInsert}
    (made : entry ∈ madeEntries event) :
    ∃ write rows, event.op = .command write ∧ entry ∈ write.entries rows := by
  obtain ⟨statement, db⟩ := event
  cases statement with
  | select read => cases made
  | command write =>
      rw [madeEntries_command] at made
      cases answered : (write.exec db).1 with
      | ok rows =>
          rw [answered] at made
          exact ⟨write, rows, rfl, made⟩
      | error error =>
          rw [answered] at made
          cases made

omit [Postgres] in
/-- A write makes at most one entry. -/
theorem Command.length_entries_le (write : Command) (rows : write.Rows) :
    (write.entries rows).length ≤ 1 := by
  cases write with
  | createWithMentions | insertAudit => exact Nat.le_refl _
  | updateContentAndMentions => cases rows <;> simp [entries]
  | _ => exact Nat.zero_le _

theorem length_madeEntries_le (event : Event Statement Db) : (madeEntries event).length ≤ 1 := by
  obtain ⟨statement, db⟩ := event
  cases statement with
  | select read => exact Nat.zero_le _
  | command write =>
      rw [madeEntries_command]
      cases (write.exec db).1 with
      | ok rows => exact write.length_entries_le rows
      | error error => exact Nat.zero_le _

/-- Has the statement made an entry about this action? -/
def isEntry (action : AuditAction) (entity : AuditEntity) (id : ℕ)
    (event : Event Statement Db) : Bool :=
  (madeEntries event).any fun entry => entry.isAbout action entity id

/-- A statement adds at most one entry about an action, and only if it makes
one. -/
theorem entries_exec_le (action : AuditAction) (entity : AuditEntity) (id : ℕ)
    (event : Event Statement Db) :
    (exec event.op event.state).2.entries action entity id ≤
      event.state.entries action entity id + if isEntry action entity id event then 1 else 0 := by
  obtain ⟨added, grown, made⟩ := appended_madeEntries event
  have counted : added.countP (fun row => row.action = action && row.entityType = entity &&
      row.entityId = id) =
      (madeEntries event).countP fun entry => entry.isAbout action entity id := by
    rw [← made, List.countP_map]
    rfl
  rw [Db.entries, Db.entries, grown, List.countP_append, counted, isEntry]
  apply Nat.add_le_add_left
  match madeEntries event, length_madeEntries_le event with
  | [], _ => exact Nat.zero_le _
  | [entry], _ => cases about : entry.isAbout action entity id <;> simp [about]

omit [Postgres] in
/-- The writes that make entries are not those that entries are about. -/
theorem Command.announced_of_entries {write : Command} {rows : write.Rows} {entry : AuditInsert}
    (made : entry ∈ write.entries rows) : write.announced = none := by
  cases write with
  | createWithMentions | insertAudit | updateContentAndMentions => rfl
  | _ => cases made

theorem isAnnounced_of_isEntry {action : AuditAction} {entity : AuditEntity} {id : ℕ}
    {event : Event Statement Db} (entry : isEntry action entity id event = true) :
    isAnnounced action entity id event = false := by
  obtain ⟨other, made, -⟩ := List.any_eq_true.mp entry
  obtain ⟨write, rows, op, made⟩ := mem_madeEntries made
  rw [isAnnounced, op]
  simp [Command.announced_of_entries made]

/-- A write that ignores its count has found its row. -/
def findsRow (db : Db) : Statement → Bool
  | .command write => !write.ignoresCount || write.affects db
  | .select _ => true

/-- An entry has been announced, if its write has found its row. -/
theorem announced_of_announces {action : AuditAction} {entity : AuditEntity} {id : ℕ}
    {events : List (Event Statement Db)} {op : Statement} {state : Db}
    (tells : action = .delete ∨ action = .restore) (tracked : entity ≠ .dependency)
    (announces : Announces events op) (entry : isEntry action entity id ⟨op, state⟩ = true) :
    ∃ event earlier, events = event :: earlier ∧
      (findsRow event.state event.op = true → isAnnounced action entity id event = true) := by
  obtain ⟨made, member, about⟩ := List.any_eq_true.mp entry
  obtain ⟨write, rows, rfl, logged⟩ := mem_madeEntries member
  obtain ⟨⟨rfl, rfl⟩, rfl⟩ : (made.action = action ∧ made.entityType = entity) ∧
      made.entityId = id := by
    simpa [AuditInsert.isAbout] using about
  have telling : made.tellsTransition = true := by
    simp [AuditInsert.tellsTransition, tracked, tells]
  obtain ⟨prior, db, earlier, last, announced, counted⟩ := announces rows made logged telling
  refine ⟨_, earlier, last, fun found => ?_⟩
  have affects : prior.affects db = true := by
    cases ignores : prior.ignoresCount with
    | false => exact counted ignores
    | true => simpa [findsRow, ignores] using found
  simp [isAnnounced, announced, affects]

section Runs

variable [Bcrypt] [Unicode] {ι : Type} [DecidableEq ι]

/-- How often the entity has been deleted. -/
def deletions (c : System ι) (entity : AuditEntity) (id : ℕ) : ℕ :=
  c.trace.countP fun entry => isDeletion entity id entry.2

/-- How often the entity has been restored. -/
def restorations (c : System ι) (entity : AuditEntity) (id : ℕ) : ℕ :=
  c.trace.countP fun entry => isRestoration entity id entry.2

variable (db : Db) (requests : ι → Request) (fuel : ι → ℕ)

/-- The entries of a run are made by its statements. -/
theorem entries_run_le (action : AuditAction) (entity : AuditEntity) (id : ℕ)
    (turns : List (Turn ι ℕ)) :
    (System.run db requests fuel turns).state.entries action entity id ≤
      db.entries action entity id + (System.run db requests fuel turns).trace.countP fun entry =>
        isEntry action entity id entry.2 := by
  refine Config.play_invariant (fun c : System ι => c.state.entries action entity id ≤
    db.entries action entity id + c.trace.countP fun entry => isEntry action entity id entry.2)
    turns (Nat.le_add_right _ _) ?_
  intro c turn bounded
  obtain pass | ⟨thread, op, next, -, -, sent⟩ | ⟨change, -, changed⟩ :=
    Config.turn_cases exec advance c turn
  · rwa [pass]
  · rw [sent, Config.send_state, Config.send_trace, List.countP_cons]
    have added := entries_exec_le action entity id ⟨op, c.state⟩
    simp only at added ⊢
    omega
  · rwa [changed]

/-- One action: as many transitions as entries, or more. -/
theorem entries_le_transitions {turns : List (Turn ι ℕ)}
    (found : System.Meets db requests fuel (fun c _ statement => findsRow c.state statement = true)
      turns) {action : AuditAction} (tells : action = .delete ∨ action = .restore)
    {entity : AuditEntity} (tracked : entity ≠ .dependency) (id : ℕ) :
    (System.run db requests fuel turns).state.entries action entity id ≤
      db.entries action entity id + (System.run db requests fuel turns).trace.countP fun entry =>
        isTransition action entity id entry.2 := by
  have outlined : (System.start db requests fuel).Outlined exec (fun _ => Announces)
      (fun _ _ _ => True) :=
    fun thread => Request.outline_announces (requests thread) (fuel thread)
  have made := entries_run_le db requests fuel action entity id turns
  have paid := found.countP_le outlined rfl
    (fun event => findsRow event.state event.op = true)
    (isAnnounced action entity id) (isEntry action entity id) (fun c thread op holds => holds)
    (fun event => isAnnounced_of_isEntry)
    (fun thread events op state => announced_of_announces tells tracked)
  have transitions := List.countP_mono_left
    (p := fun entry : ι × Event Statement Db => isAnnounced action entity id entry.2)
    (q := fun entry : ι × Event Statement Db => isTransition action entity id entry.2)
    (l := (System.run db requests fuel turns).trace)
    fun entry _ announced => isTransition_of_isAnnounced announced
  exact made.trans (Nat.add_le_add_left (paid.trans transitions) _)

/-- **There are no more entries than transitions**, whatever the requests and
however their statements interleave, as long as the writes that ignore their
count find their row. -/
theorem entries_match_transitions {turns : List (Turn ι ℕ)}
    (found : System.Meets db requests fuel (fun c _ statement => findsRow c.state statement = true)
      turns) {entity : AuditEntity} (tracked : entity ≠ .dependency) (id : ℕ) :
    let c := System.run db requests fuel turns
    c.state.entries .restore entity id ≤
        db.entries .restore entity id + restorations c entity id ∧
      c.state.entries .delete entity id ≤
        db.entries .delete entity id + deletions c entity id :=
  ⟨entries_le_transitions db requests fuel found (.inr rfl) tracked id,
    entries_le_transitions db requests fuel found (.inl rfl) tracked id⟩

end Runs

end Transitions

/-! ### Two restorations of one ticket -/

section Twice

open Sample

/-- A ticket that has been deleted. -/
def Sample.deletedTicket : Db :=
  serveAll (setup ++ [ticket .todo, .request (.softDeleteTicket 1 1)]) Db.empty

/-- Two requests to restore it. -/
def Sample.restoreTwice : Bool → Request := fun _ => .restoreTicket 1 1

theorem restored_in_turn :
    let c := System.run deletedTicket restoreTwice (fun _ => 0) inTurn
    c.state.entries .restore .ticket 1 ≤
        deletedTicket.entries .restore .ticket 1 + restorations c .ticket 1 ∧
      c.state.entries .delete .ticket 1 ≤
        deletedTicket.entries .delete .ticket 1 + deletions c .ticket 1 :=
  entries_match_transitions deletedTicket restoreTwice (fun _ => 0) (by decide +kernel)
    (by decide) 1

/-- Both requests have seen the ticket deleted, and both log that they have
restored it. -/
theorem restored_once_logged_twice :
    let c := System.run deletedTicket restoreTwice (fun _ => 0) inStep
    ¬ c.state.entries .restore .ticket 1 ≤
      deletedTicket.entries .restore .ticket 1 + restorations c .ticket 1 := by
  decide +kernel

end Twice

end IssueFlow
