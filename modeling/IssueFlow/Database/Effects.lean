import IssueFlow.Database.CommentTransitions

/-!
# Writes that miss

A write that fails, or that answers that it has found nothing, leaves every row
as it was; at most it has drawn a key. This is what lets a request fail after
its write without leaving anything behind.

## Main definitions

* `SameRows` — two states with the same rows in every table
* `Command.missed` — the answer of a write that has found nothing to do
* `Db.log` — the state after some audit entries

## Main results

* `Command.exec_sameRows` — a write that missed has changed no row
* `Command.exec_appended` — the entries a write adds by itself
* `appended_madeEntries` — the entries a statement adds
-/

namespace IssueFlow

open Store Semantics

/-! ### The same rows -/

/-- The rows of all tables are the same; keys may have been drawn. -/
structure SameRows (before after : Db) : Prop where
  users : after.users.rows = before.users.rows
  projects : after.projects.rows = before.projects.rows
  tickets : after.tickets.rows = before.tickets.rows
  ticketDependencies : after.ticketDependencies = before.ticketDependencies
  comments : after.comments.rows = before.comments.rows
  commentMentions : after.commentMentions = before.commentMentions
  attachments : after.attachments.rows = before.attachments.rows
  auditLogs : after.auditLogs.rows = before.auditLogs.rows
  tokenDenylist : after.tokenDenylist = before.tokenDenylist
  now : after.now = before.now

namespace SameRows

theorem refl (db : Db) : SameRows db db := by
  constructor <;> rfl

theorem trans {first second third : Db} (earlier : SameRows first second)
    (later : SameRows second third) : SameRows first third where
  users := later.users.trans earlier.users
  projects := later.projects.trans earlier.projects
  tickets := later.tickets.trans earlier.tickets
  ticketDependencies := later.ticketDependencies.trans earlier.ticketDependencies
  comments := later.comments.trans earlier.comments
  commentMentions := later.commentMentions.trans earlier.commentMentions
  attachments := later.attachments.trans earlier.attachments
  auditLogs := later.auditLogs.trans earlier.auditLogs
  tokenDenylist := later.tokenDenylist.trans earlier.tokenDenylist
  now := later.now.trans earlier.now

end SameRows

/-! ### Writes that miss -/

/-- Is the write an audit entry? -/
def Command.isAudit : Command → Bool
  | insertAudit _ => true
  | _ => false

/-- The answers by which a service sees that its write has found nothing. -/
def Command.foundNone : (write : Command) → write.Rows → Bool
  | updateUser .., found => found.isNone
  | deleteUser _, deleted => !deleted
  | updateProject .., found => found.isNone
  | softDeleteProject _, deleted => !deleted
  | updateWithVersionCheck .., found => found.isNone
  | softDeleteTicket _, deleted => !deleted
  | applyEscalation .., found => found.isNone
  | addDependency .., added => !added
  | removeDependency .., removed => !removed
  | updateContentAndMentions .., found => found.isNone
  | _, _ => false

/-- A write that has failed or has found nothing. -/
def Command.missed (write : Command) : Except PgError write.Rows → Bool
  | .ok rows => write.foundNone rows
  | .error _ => true

section Missed

variable [Postgres]

/-- A write leaves the database, or announces in its answer that it has not. -/
def Command.Announces (write : Command) (db : Db) : Prop :=
  (write.exec db).2 = db ∨
    ∃ rows after, write.exec db = (.ok rows, after) ∧ write.foundNone rows = false

theorem Command.Announces.sameRows {write : Command} {db : Db} (announces : write.Announces db)
    (missed : write.missed (write.exec db).1 = true) : SameRows db (write.exec db).2 := by
  rcases announces with same | ⟨rows, after, executed, announced⟩
  · rw [same]
    exact .refl db
  · rw [executed] at missed
    cases announced.symm.trans missed

namespace Command

/-! Updates and deletions announce what they have found. -/

theorem updateUser_announces (id : ℕ) (input : UserUpdate) (db : Db) :
    (updateUser id input).Announces db := by
  refine (UsersRepository.update_outcome id input db).imp_right ?_
  rintro ⟨row, -, executed⟩
  exact ⟨_, _, executed, rfl⟩

theorem deleteUser_announces (id : ℕ) (db : Db) : (deleteUser id).Announces db := by
  refine (UsersRepository.delete_cases id db).imp_right ?_
  rintro ⟨-, executed⟩
  exact ⟨_, _, executed, rfl⟩

theorem updateProject_announces (id : ℕ) (input : ProjectUpdate) (db : Db) :
    (updateProject id input).Announces db := by
  refine (ProjectsRepository.update_outcome id input db).imp_right ?_
  rintro ⟨row, -, executed⟩
  exact ⟨_, _, executed, rfl⟩

theorem softDeleteProject_announces (id : ℕ) (db : Db) :
    (softDeleteProject id).Announces db := by
  refine (ProjectsRepository.stamp_cases id ProjectRow.isLive (some db.now) db).imp
    (congrArg Prod.snd) ?_
  rintro ⟨row, -, executed⟩
  exact ⟨_, _, congrArg ok executed, rfl⟩

theorem updateWithVersionCheck_announces (id : ℕ) (expectedVersion : Option ℕ)
    (input : TicketUpdate) (resetOverdueFlag : Bool) (db : Db) :
    (updateWithVersionCheck id expectedVersion input resetOverdueFlag).Announces db := by
  refine (updateWithVersionCheck_cases id expectedVersion input resetOverdueFlag db).imp
    And.right ?_
  rintro ⟨row, due, -, -, -, -, executed⟩
  exact ⟨_, _, executed, rfl⟩

theorem softDeleteTicket_announces (id : ℕ) (db : Db) : (softDeleteTicket id).Announces db := by
  refine (TicketsRepository.stamp_cases id TicketRow.isLive (some db.now) db).imp
    (congrArg Prod.snd) ?_
  rintro ⟨row, -, executed⟩
  exact ⟨_, _, congrArg ok executed, rfl⟩

theorem applyEscalation_announces (id : ℕ) (change : EscalationChange) (db : Db) :
    (applyEscalation id change).Announces db := by
  refine (applyEscalation_cases id change db).imp And.right ?_
  rintro ⟨row, -, -, -, executed⟩
  exact ⟨_, _, executed, rfl⟩

theorem addDependency_announces (ticketId blockerId : ℕ) (db : Db) :
    (addDependency ticketId blockerId).Announces db := by
  simp only [Announces, exec, DependenciesRepository.add]
  split_ifs
  · exact .inl rfl
  · exact .inl rfl
  · exact .inr ⟨_, _, rfl, rfl⟩
  · exact .inl rfl

theorem removeDependency_announces (ticketId blockerId : ℕ) (db : Db) :
    (removeDependency ticketId blockerId).Announces db := by
  by_cases edge : db.blockedBy ticketId blockerId
  · exact .inr ⟨true, _, Prod.ext (congrArg Except.ok (decide_eq_true edge)) rfl, rfl⟩
  · -- No row is the removed pair, so the filter keeps them all.
    have kept : db.ticketDependencies.filter
        (fun row => ¬(row.ticketId = ticketId ∧ row.blockerId = blockerId)) =
        db.ticketDependencies := by
      apply List.filter_eq_self.mpr
      intro row member
      exact decide_eq_true fun same => edge ⟨row, member, same⟩
    exact .inl (by simp only [exec, ok, DependenciesRepository.remove, kept])

theorem updateContentAndMentions_announces (id : ℕ) (expectedVersion : Option ℕ)
    (content : String) (mentionedUserIds : List ℕ) (onCommitting : CommentRow → AuditInsert)
    (db : Db) :
    (updateContentAndMentions id expectedVersion content mentionedUserIds
      onCommitting).Announces db := by
  rcases updateContentAndMentions_cases id expectedVersion content mentionedUserIds
    onCommitting db with ⟨-, same⟩ | ⟨row, -, -, answered, -⟩
  · exact .inl same
  · obtain ⟨updated, answered⟩ := affected_iff.mp answered
    exact .inr ⟨some updated, _, Prod.ext answered rfl, rfl⟩

/-! Inserts draw a key when they fail. -/

theorem createUser_sameRows (input : UserInput) (db : Db)
    (missed : (createUser input).missed ((createUser input).exec db).1 = true) :
    SameRows db ((createUser input).exec db).2 := by
  simp only [exec, UsersRepository.create] at missed ⊢
  split_ifs at missed ⊢
  · constructor <;> rfl
  · cases missed

theorem createProject_sameRows (input : ProjectInput) (db : Db)
    (missed : (createProject input).missed ((createProject input).exec db).1 = true) :
    SameRows db ((createProject input).exec db).2 := by
  simp only [exec, ProjectsRepository.create] at missed ⊢
  split_ifs at missed ⊢
  · cases missed
  · constructor <;> rfl

theorem createTicket_sameRows (input : TicketInput) (db : Db)
    (missed : (createTicket input).missed ((createTicket input).exec db).1 = true) :
    SameRows db ((createTicket input).exec db).2 := by
  simp only [exec, TicketsRepository.create_eq] at missed ⊢
  generalize TicketsRepository.dueInstant input.dueDate = due at missed ⊢
  cases due with
  | error exception => exact .refl db
  | ok due =>
      simp only at missed ⊢
      split_ifs at missed ⊢
      · constructor <;> rfl
      · cases missed
      · constructor <;> rfl

theorem createWithMentions_sameRows (input : CommentInput)
    (onCommitting : CommentRow → AuditInsert) (db : Db)
    (missed : (createWithMentions input onCommitting).missed
      ((createWithMentions input onCommitting).exec db).1 = true) :
    SameRows db ((createWithMentions input onCommitting).exec db).2 := by
  rcases CommentsRepository.createWithMentions_cases input onCommitting db with
    ⟨exception, after, executed⟩ | executed
  · simp only [exec]
    rw [executed]
    constructor <;> rfl
  · simp only [exec] at missed
    rw [executed] at missed
    cases missed

theorem createAttachment_sameRows (input : AttachmentInput) (db : Db)
    (missed : (createAttachment input).missed ((createAttachment input).exec db).1 = true) :
    SameRows db ((createAttachment input).exec db).2 := by
  rcases AttachmentsRepository.create_cases input db with ⟨error, refused⟩ | created
  · rw [exec, refused]
    constructor <;> rfl
  · rw [exec, created] at missed
    cases missed

theorem revoke_sameRows (jti : String) (userId : ℕ) (expiresAt : Timestamp) (db : Db)
    (missed : (revoke jti userId expiresAt).missed ((revoke jti userId expiresAt).exec db).1 =
      true) :
    SameRows db ((revoke jti userId expiresAt).exec db).2 := by
  simp only [exec, TokenDenylistRepository.revoke] at missed ⊢
  split_ifs at missed ⊢
  · exact .refl db
  · cases missed
  · exact .refl db

/-- **A write that missed** has changed no row. -/
theorem exec_sameRows (write : Command) (db : Db)
    (missed : write.missed (write.exec db).1 = true) : SameRows db (write.exec db).2 := by
  cases write with
  | createUser input => exact createUser_sameRows input db missed
  | updateUser id input => exact (updateUser_announces id input db).sameRows missed
  | deleteUser id => exact (deleteUser_announces id db).sameRows missed
  | createProject input => exact createProject_sameRows input db missed
  | updateProject id input => exact (updateProject_announces id input db).sameRows missed
  | softDeleteProject id => exact (softDeleteProject_announces id db).sameRows missed
  | createTicket input => exact createTicket_sameRows input db missed
  | updateWithVersionCheck id expectedVersion input resetOverdueFlag =>
      exact (updateWithVersionCheck_announces id expectedVersion input resetOverdueFlag
        db).sameRows missed
  | softDeleteTicket id => exact (softDeleteTicket_announces id db).sameRows missed
  | applyEscalation id change => exact (applyEscalation_announces id change db).sameRows missed
  | addDependency ticketId blockerId =>
      exact (addDependency_announces ticketId blockerId db).sameRows missed
  | removeDependency ticketId blockerId =>
      exact (removeDependency_announces ticketId blockerId db).sameRows missed
  | createWithMentions input onCommitting =>
      exact createWithMentions_sameRows input onCommitting db missed
  | updateContentAndMentions id expectedVersion content mentionedUserIds onCommitting =>
      exact (updateContentAndMentions_announces id expectedVersion content mentionedUserIds
        onCommitting db).sameRows missed
  | createAttachment input => exact createAttachment_sameRows input db missed
  | revoke jti userId expiresAt => exact revoke_sameRows jti userId expiresAt db missed
  | restoreProject | restoreTicket | deleteComment | deleteAttachment | insertAudit =>
      cases missed

end Command

end Missed

/-! ### Audit entries -/

/-- The database after an audit entry. -/
def Db.log (db : Db) (entry : AuditInsert) : Db := (AuditRepository.insert entry db).2

/-- Entries change nothing but the audit log. -/
theorem Db.foldl_log (entries : List AuditInsert) (db : Db) :
    ∃ auditLogs, entries.foldl Db.log db = { db with auditLogs := auditLogs } := by
  induction entries generalizing db with
  | nil => exact ⟨db.auditLogs, rfl⟩
  | cons entry entries ih =>
      obtain ⟨auditLogs, same⟩ := ih (db.log entry)
      exact ⟨auditLogs, same⟩

/-- The audit log has grown by these entries. -/
def Appended (entries : List AuditInsert) (before after : Db) : Prop :=
  ∃ rows : List AuditLogRow, after.auditLogs.rows = before.auditLogs.rows ++ rows ∧
    rows.map AuditLogRow.toAuditInsert = entries

namespace Appended

variable {before middle after : Db} {entries later : List AuditInsert}

theorem of_rows_eq (same : after.auditLogs.rows = before.auditLogs.rows) :
    Appended [] before after :=
  ⟨[], by rw [same, List.append_nil], rfl⟩

theorem log (db : Db) (entry : AuditInsert) : Appended [entry] db (db.log entry) :=
  ⟨[{ entry with id := db.auditLogs.next, timestamp := db.now }], rfl, rfl⟩

theorem trans (first : Appended entries before middle) (second : Appended later middle after) :
    Appended (entries ++ later) before after := by
  obtain ⟨rows, grown, same⟩ := first
  obtain ⟨rows', grown', same'⟩ := second
  refine ⟨rows ++ rows', ?_, ?_⟩
  · rw [grown', grown, List.append_assoc]
  · rw [List.map_append, same, same']

theorem foldl_log (entries : List AuditInsert) (db : Db) :
    Appended entries db (entries.foldl Db.log db) := by
  induction entries generalizing db with
  | nil => exact .of_rows_eq rfl
  | cons entry entries ih => exact (Appended.log db entry).trans (ih (db.log entry))

end Appended

/-- The entries a write makes by itself. -/
def Command.entries : (write : Command) → write.Rows → List AuditInsert
  | createWithMentions _ onCommitting, comment => [onCommitting comment]
  | updateContentAndMentions _ _ _ _ onCommitting, some updated => [onCommitting updated]
  | insertAudit input, _ => [input]
  | _, _ => []

/-- **A write makes its own entries and no others.** -/
theorem Command.exec_appended [Postgres] {write : Command} {db after : Db} {rows : write.Rows}
    (executed : write.exec db = (.ok rows, after)) :
    Appended (write.entries rows) db after := by
  -- Every other write leaves the audit log alone.
  have frame := (write.exec_sameOutside db).auditLogs
  rw [executed] at frame
  cases write with
  | createWithMentions input onCommitting =>
      rcases CommentsRepository.createWithMentions_cases input onCommitting db with
        ⟨exception, rolledBack, refused⟩ | created
      · cases refused.symm.trans executed
      · obtain ⟨same, rfl⟩ := Prod.mk.inj (created.symm.trans executed)
        obtain rfl := Except.ok.inj same
        exact ⟨[_], rfl, rfl⟩
  | updateContentAndMentions id expectedVersion content mentionedUserIds onCommitting =>
      -- Only a transaction that has found its row commits an entry.
      have closed := CommentsRepository.updateContentAndMentions_eq id expectedVersion content
        mentionedUserIds onCommitting db
      rw [exec] at executed
      rw [executed] at closed
      generalize ((db.comments.get? id).filter fun row => expectedVersion = some row.version) =
        found at closed
      cases found with
      | none =>
          obtain ⟨same, rfl⟩ := Prod.mk.inj closed
          obtain rfl := Except.ok.inj same
          exact .of_rows_eq rfl
      | some row =>
          simp only at closed
          split_ifs at closed
          · cases closed
          · obtain ⟨same, rfl⟩ := Prod.mk.inj closed
            obtain rfl := Except.ok.inj same
            exact ⟨[_], rfl, rfl⟩
          · cases closed
          · cases closed
  | insertAudit input =>
      obtain ⟨-, rfl⟩ := Prod.mk.inj executed
      exact .log db input
  | _ => exact .of_rows_eq (congrArg Table.rows (frame (by simp [tables])))

/-- The entries of a write with this answer. -/
def Command.made (write : Command) : Except PgError write.Rows → List AuditInsert
  | .ok rows => write.entries rows
  | .error _ => []

section Made

variable [Postgres]

/-- The entries that a statement has made. -/
def madeEntries (event : Event Statement Db) : List AuditInsert :=
  match event.op with
  | .select _ => []
  | .command write => write.made (write.exec event.state).1

theorem madeEntries_command (write : Command) (db : Db) :
    madeEntries ⟨.command write, db⟩ = write.made (write.exec db).1 := rfl

/-- **A statement adds the entries it makes.** -/
theorem appended_madeEntries (event : Event Statement Db) :
    Appended (madeEntries event) event.state (exec event.op event.state).2 := by
  obtain ⟨statement, db⟩ := event
  cases statement with
  | select read => exact .of_rows_eq rfl
  | command write =>
      rw [madeEntries_command, exec_command]
      cases answered : (write.exec db).1 with
      | ok rows => exact Command.exec_appended (Prod.ext answered rfl)
      | error error => exact .of_rows_eq (write.exec_sameRows db (by rw [answered]; rfl)).auditLogs

end Made

end IssueFlow
