import IssueFlow.Database.Service

/-!
# What a statement does to a row

One inversion lemma per table: what any statement can do to the tickets and to
the dependency relation. Invariants and histories are derived from these, so
nothing later looks into a statement again.

## Main definitions

* `writesTicket` — a versioned write of a ticket took effect
* `TicketTransition` — the ways a stored ticket changes
* `TicketsTransition` — the ways the tickets change as a whole

## Main results

* `tickets_transition` — every statement changes the tickets in one of them
* `ticket_transition`, `ticket_created` — stored tickets and new ones
* `blockedBy_of_exec` — where a dependency comes from
-/

namespace IssueFlow

open Store Semantics

variable [Postgres]

/-! ### Frames -/

inductive TableName
  | users
  | projects
  | tickets
  | ticketDependencies
  | comments
  | commentMentions
  | attachments
  | auditLogs
  | tokenDenylist
  deriving DecidableEq, Repr

/-- The tables a write can change, referential actions included. -/
def Command.tables : Command → List TableName
  | createUser _ | updateUser .. => [.users]
  | deleteUser _ => [.users, .tickets, .commentMentions, .tokenDenylist]
  | createProject _ | updateProject .. | softDeleteProject _ | restoreProject _ => [.projects]
  | createTicket _ | updateWithVersionCheck .. | softDeleteTicket _ | restoreTicket _
  | applyEscalation .. => [.tickets]
  | addDependency .. | removeDependency .. => [.ticketDependencies]
  | createWithMentions .. | updateContentAndMentions .. => [.comments, .commentMentions, .auditLogs]
  | deleteComment _ => [.comments, .commentMentions]
  | createAttachment _ | deleteAttachment _ => [.attachments]
  | insertAudit _ => [.auditLogs]
  | revoke .. => [.tokenDenylist]

/-- The tables outside a list, and the clock, are the same. -/
structure SameOutside (tables : List TableName) (before after : Db) : Prop where
  users : .users ∉ tables → after.users = before.users
  projects : .projects ∉ tables → after.projects = before.projects
  tickets : .tickets ∉ tables → after.tickets = before.tickets
  ticketDependencies :
    .ticketDependencies ∉ tables → after.ticketDependencies = before.ticketDependencies
  comments : .comments ∉ tables → after.comments = before.comments
  commentMentions : .commentMentions ∉ tables → after.commentMentions = before.commentMentions
  attachments : .attachments ∉ tables → after.attachments = before.attachments
  auditLogs : .auditLogs ∉ tables → after.auditLogs = before.auditLogs
  tokenDenylist : .tokenDenylist ∉ tables → after.tokenDenylist = before.tokenDenylist
  now : after.now = before.now

omit [Postgres] in
theorem SameOutside.refl (tables : List TableName) (db : Db) : SameOutside tables db db :=
  ⟨fun _ => rfl, fun _ => rfl, fun _ => rfl, fun _ => rfl, fun _ => rfl, fun _ => rfl,
    fun _ => rfl, fun _ => rfl, fun _ => rfl, rfl⟩

omit [Postgres] in
theorem SameOutsideComments.sameOutside {before after : Db}
    (same : SameOutsideComments before after) :
    SameOutside [.comments, .commentMentions, .auditLogs] before after where
  users _ := same.users
  projects _ := same.projects
  tickets _ := same.tickets
  ticketDependencies _ := same.ticketDependencies
  comments touched := (touched (by simp)).elim
  commentMentions touched := (touched (by simp)).elim
  attachments _ := same.attachments
  auditLogs touched := (touched (by simp)).elim
  tokenDenylist _ := same.tokenDenylist
  now := same.now

/-- **A write changes only its tables.** -/
theorem Command.exec_sameOutside (write : Command) (db : Db) :
    SameOutside write.tables db (write.exec db).2 := by
  cases write with
  | createUser input =>
      simp only [exec, UsersRepository.create]
      split_ifs <;> constructor <;> simp [tables]
  | updateUser id input =>
      simp only [exec, UsersRepository.update]
      split_ifs <;> constructor <;> simp [tables]
  | deleteUser id =>
      simp only [exec, UsersRepository.delete]
      split
      · exact .refl _ db
      · split_ifs <;> constructor <;> simp [tables]
  | createProject input =>
      simp only [exec, ProjectsRepository.create]
      split_ifs <;> constructor <;> simp [tables]
  | updateProject id input =>
      simp only [exec, ProjectsRepository.update]
      split_ifs <;> constructor <;> simp [tables]
  | softDeleteProject id =>
      simp only [exec, ok, ProjectsRepository.softDelete, ProjectsRepository.stamp]
      split <;> constructor <;> simp [tables]
  | restoreProject id =>
      simp only [exec, ok, ProjectsRepository.restore, ProjectsRepository.stamp]
      split <;> constructor <;> simp [tables]
  -- An INSERT that fails has at most drawn its key.
  | createTicket input =>
      simp only [exec, TicketsRepository.create]
      split
      · exact .refl _ db
      · split
        · constructor <;> simp [tables]
        · split_ifs <;> constructor <;> simp [tables]
  | updateWithVersionCheck id expectedVersion input resetOverdueFlag =>
      constructor <;>
        simp [tables, exec, TicketsRepository.updateWithVersionCheck, TicketsRepository.update]
  | softDeleteTicket id =>
      simp only [exec, ok, TicketsRepository.softDelete, TicketsRepository.stamp]
      split <;> constructor <;> simp [tables]
  | restoreTicket id =>
      simp only [exec, ok, TicketsRepository.restore, TicketsRepository.stamp]
      split <;> constructor <;> simp [tables]
  | applyEscalation id change =>
      constructor <;>
        simp [tables, exec, TicketsRepository.applyEscalation, TicketsRepository.update]
  | addDependency ticketId blockerId =>
      simp only [exec, DependenciesRepository.add]
      split_ifs <;> constructor <;> simp [tables]
  | removeDependency ticketId blockerId => constructor <;> simp [tables, exec, ok,
      DependenciesRepository.remove]
  | createWithMentions input onCommitting =>
      exact (transaction_sameOutsideComments _ db).sameOutside
  | updateContentAndMentions id expectedVersion content mentionedUserIds onCommitting =>
      exact (transaction_sameOutsideComments _ db).sameOutside
  | deleteComment id => constructor <;> simp [tables, exec, ok, CommentsRepository.delete]
  | createAttachment input =>
      rcases AttachmentsRepository.create_cases input db with ⟨error, refused⟩ | created
      · rw [exec, refused]
        constructor <;> simp [tables]
      · rw [exec, created]
        constructor <;> simp [tables]
  | deleteAttachment id => constructor <;> simp [tables, exec, ok, AttachmentsRepository.delete]
  | insertAudit input => constructor <;> simp [tables, exec, AuditRepository.insert]
  | revoke jti userId expiresAt =>
      simp only [exec, TokenDenylistRepository.revoke]
      split_ifs <;> constructor <;> simp [tables]

/-! ### Tickets -/

/-- An update statement that returned a row. -/
def affected {α : Type} : Except PgError (Option α) → Bool
  | .ok (some _) => true
  | _ => false

omit [Postgres] in
theorem affected_iff {α : Type} {answer : Except PgError (Option α)} :
    affected answer = true ↔ ∃ row, answer = .ok (some row) := by
  rcases answer with error | (_ | row) <;> simp [affected]

omit [Postgres] in
/-- An UPDATE that affected no row has found none or has failed. -/
theorem affected_eq_false_iff {α : Type} {answer : Except PgError (Option α)} :
    affected answer = false ↔ answer = .ok none ∨ ∃ error, answer = .error error := by
  rcases answer with error | (_ | row) <;> simp [affected]

/-- Did the statement write the ticket and raise its version? -/
def writesTicket (id : ℕ) (event : Event Statement Db) : Bool :=
  match event.op with
  | .command (.updateWithVersionCheck target expectedVersion input resetOverdueFlag) =>
      target = id && affected (TicketsRepository.updateWithVersionCheck target expectedVersion
        input resetOverdueFlag event.state).1
  | .command (.applyEscalation target change) =>
      target = id && affected (TicketsRepository.applyEscalation target change event.state).1
  | _ => false

/-- What a statement can do to a stored ticket. -/
inductive TicketTransition (db : Db) : Statement → TicketRow → TicketRow → Prop
  | kept {statement : Statement} {row : TicketRow}
      (silent : writesTicket row.id ⟨statement, db⟩ = false) :
      TicketTransition db statement row row
  | patched {row : TicketRow} {expectedVersion : Option ℕ} {input : TicketUpdate}
      {due : Field Timestamp} {resetOverdueFlag : Bool} (live : row.isLive)
      (version : expectedVersion = some row.version)
      (bound : TicketsRepository.dueInstant input.dueDate = .ok due)
      (writes : writesTicket row.id ⟨.command (.updateWithVersionCheck row.id expectedVersion input
        resetOverdueFlag), db⟩ = true) :
      TicketTransition db
        (.command (.updateWithVersionCheck row.id expectedVersion input resetOverdueFlag)) row
        { TicketsRepository.patchedRow input due resetOverdueFlag row with updatedAt := db.now }
  | escalated {row : TicketRow} {change : EscalationChange} (live : row.isLive)
      (unresolved : row.status ≠ .done)
      (writes : writesTicket row.id ⟨.command (.applyEscalation row.id change), db⟩ = true) :
      TicketTransition db (.command (.applyEscalation row.id change)) row
        { TicketsRepository.escalatedRow change row with updatedAt := db.now }
  | softDeleted {row : TicketRow} (live : row.isLive) :
      TicketTransition db (.command (.softDeleteTicket row.id)) row
        { row with deletedAt := some db.now, updatedAt := db.now }
  | restored {row : TicketRow} (deleted : row.isLive = false) :
      TicketTransition db (.command (.restoreTicket row.id)) row
        { row with deletedAt := none, updatedAt := db.now }
  | unassigned {row : TicketRow} {user : ℕ} (assigned : row.assigneeId = some user)
      (removed : (UsersRepository.delete user db).1 = .ok true) :
      TicketTransition db (.command (.deleteUser user)) row
        { row with assigneeId := none, updatedAt := db.now }

/-- A statement raises the version of a stored ticket by one or leaves it. -/
theorem TicketTransition.version {db : Db} {statement : Statement} {row row' : TicketRow}
    (transition : TicketTransition db statement row row') :
    row'.version = row.version + if writesTicket row.id ⟨statement, db⟩ then 1 else 0 := by
  cases transition with
  | kept silent => simp [silent]
  | patched live version bound writes => simp [writes, TicketsRepository.patchedRow]
  | @escalated _ change live unresolved writes =>
      cases change <;> simp [writes, TicketsRepository.escalatedRow]
  | softDeleted live => rfl
  | restored deleted => rfl
  | unassigned assigned removed => rfl

/-- No statement moves a ticket to another project. -/
theorem TicketTransition.projectId {db : Db} {statement : Statement} {row row' : TicketRow}
    (transition : TicketTransition db statement row row') : row'.projectId = row.projectId := by
  cases transition with
  | @escalated _ change live unresolved writes => cases change <;> rfl
  | _ => rfl

/-- A statement that leaves the version leaves the ticket, apart from the
deletion mark, the trigger's timestamp, and an assignee who is removed. -/
theorem TicketTransition.of_version_eq {db : Db} {statement : Statement} {row row' : TicketRow}
    (transition : TicketTransition db statement row row') (version : row'.version = row.version) :
    ∃ assigneeId deletedAt updatedAt, row' = { row with
        assigneeId := assigneeId, deletedAt := deletedAt, updatedAt := updatedAt } ∧
      (assigneeId = row.assigneeId ∨ ∃ user, statement = .command (.deleteUser user) ∧
        (UsersRepository.delete user db).1 = .ok true ∧ row.assigneeId = some user) := by
  cases transition with
  | kept silent => exact ⟨_, _, _, rfl, .inl rfl⟩
  | patched live expected bound writes => simp [TicketsRepository.patchedRow] at version
  | @escalated _ change live unresolved writes =>
      cases change <;> simp [TicketsRepository.escalatedRow] at version
  | softDeleted live => exact ⟨_, _, _, rfl, .inl rfl⟩
  | restored deleted => exact ⟨_, _, _, rfl, .inl rfl⟩
  | unassigned assigned removed => exact ⟨_, _, _, rfl, .inr ⟨_, rfl, removed, assigned⟩⟩

variable {db : Db} {id : ℕ} {row : TicketRow}

/-- The versioned UPDATE takes effect on one row or changes nothing. -/
theorem updateWithVersionCheck_cases (target : ℕ) (expectedVersion : Option ℕ)
    (input : TicketUpdate) (resetOverdueFlag : Bool) (db : Db) :
    (affected (TicketsRepository.updateWithVersionCheck target expectedVersion input
        resetOverdueFlag db).1 = false ∧
      (TicketsRepository.updateWithVersionCheck target expectedVersion input
        resetOverdueFlag db).2 = db) ∨
    ∃ row due, db.tickets.get? target = some row ∧ row.isLive ∧
      expectedVersion = some row.version ∧
      TicketsRepository.dueInstant input.dueDate = .ok due ∧
      TicketsRepository.updateWithVersionCheck target expectedVersion input resetOverdueFlag db =
        (.ok (some { TicketsRepository.patchedRow input due resetOverdueFlag row with
            updatedAt := db.now }),
          { db with tickets := db.tickets.set { TicketsRepository.patchedRow input due
            resetOverdueFlag row with updatedAt := db.now } }) := by
  rw [TicketsRepository.updateWithVersionCheck_eq]
  cases bound : TicketsRepository.dueInstant input.dueDate with
  | error exception => exact .inl ⟨rfl, rfl⟩
  | ok due =>
      cases matched : (TicketsRepository.findById target db).filter fun row =>
          expectedVersion = some row.version with
      | none => exact .inl ⟨rfl, rfl⟩
      | some row =>
          obtain ⟨found, version⟩ := Option.filter_eq_some_iff.mp matched
          obtain ⟨stored, live⟩ := Option.filter_eq_some_iff.mp found
          simp only
          -- The last version, a missing value, the row that is written, and a missing assignee.
          split_ifs
          · exact .inl ⟨rfl, rfl⟩
          · exact .inl ⟨rfl, rfl⟩
          · exact .inr ⟨row, due, stored, live, of_decide_eq_true version, rfl, rfl⟩
          · exact .inl ⟨rfl, rfl⟩

/-- The escalation UPDATE takes effect on one row or changes nothing. -/
theorem applyEscalation_cases (target : ℕ) (change : EscalationChange) (db : Db) :
    (affected (TicketsRepository.applyEscalation target change db).1 = false ∧
      (TicketsRepository.applyEscalation target change db).2 = db) ∨
    ∃ row, db.tickets.get? target = some row ∧ row.isLive ∧ row.status ≠ .done ∧
      TicketsRepository.applyEscalation target change db =
        (.ok (some { TicketsRepository.escalatedRow change row with updatedAt := db.now }),
          { db with tickets := db.tickets.set { TicketsRepository.escalatedRow change row with
            updatedAt := db.now } }) := by
  rw [TicketsRepository.applyEscalation_eq]
  cases matched : (TicketsRepository.findById target db).filter fun row => row.status ≠ .done with
  | none => exact .inl ⟨rfl, rfl⟩
  | some row =>
      obtain ⟨found, unresolved⟩ := Option.filter_eq_some_iff.mp matched
      obtain ⟨stored, live⟩ := Option.filter_eq_some_iff.mp found
      simp only
      split_ifs
      · exact .inl ⟨rfl, rfl⟩
      · exact .inr ⟨row, stored, live, of_decide_eq_true unresolved, rfl⟩

/-- What a statement can do to the tickets as a whole. -/
inductive TicketsTransition (db : Db) (statement : Statement) (after : Db) : Prop
  | kept (same : ∀ id, after.tickets.get? id = db.tickets.get? id)
      (drawn : db.tickets.next ≤ after.tickets.next)
      (silent : ∀ id, writesTicket id ⟨statement, db⟩ = false)
  | inserted (input : TicketInput) (due : Field Timestamp)
      (sent : statement = .command (.createTicket input))
      (keyed : ∀ id, Keyed.key (TicketsRepository.createdRow input due db.now id) = id)
      (executed : after.tickets = db.tickets.insert
        (TicketsRepository.createdRow input due db.now) keyed)
  | written (old new : TicketRow) (stored : db.tickets.get? old.id = some old)
      (transition : TicketTransition db statement old new) (key : new.id = old.id)
      (executed : after.tickets = db.tickets.set new)
      (silent : ∀ id, id ≠ old.id → writesTicket id ⟨statement, db⟩ = false)
  | unassigned (user : ℕ) (sent : statement = .command (.deleteUser user))
      (removed : (UsersRepository.delete user db).1 = .ok true)
      (executed : after.tickets = UsersRepository.clearAssignee user db)

/-- Setting or clearing `deleted_at` keeps the tickets or writes one of them. -/
private theorem tickets_stamp {write : Command} {target : ℕ} {condition : TicketRow → Bool}
    {deletedAt : Option Timestamp}
    (executed : (exec (.command write) db).2 =
      (TicketsRepository.stamp target condition deletedAt db).2)
    (silent : ∀ id, writesTicket id ⟨.command write, db⟩ = false)
    (transition : ∀ row : TicketRow, row.id = target → condition row →
      TicketTransition db (.command write) row
        { row with deletedAt := deletedAt, updatedAt := db.now }) :
    TicketsTransition db (.command write) (exec (.command write) db).2 := by
  rcases TicketsRepository.stamp_cases target condition deletedAt db with
    missed | ⟨row, matched, stamped⟩
  · rw [executed, missed]
    exact .kept (fun _ => rfl) le_rfl silent
  · rw [executed, stamped]
    obtain ⟨stored, holds⟩ := Option.filter_eq_some_iff.mp matched
    obtain rfl : row.id = target := Table.key_of_get? stored
    exact .written row _ stored (transition row rfl holds) rfl rfl fun id _ => silent id

/-- **Every statement** changes the tickets in one of the listed ways. -/
theorem tickets_transition (statement : Statement) (db : Db) :
    TicketsTransition db statement (exec statement db).2 := by
  have unchanged (same : (exec statement db).2.tickets = db.tickets)
      (silent : ∀ id, writesTicket id ⟨statement, db⟩ = false) :
      TicketsTransition db statement (exec statement db).2 :=
    .kept (fun id => by rw [same]) (by rw [same]) silent
  cases statement with
  | select read => exact unchanged rfl fun _ => rfl
  | command write =>
      have frame := (write.exec_sameOutside db).tickets
      cases write with
      | deleteUser user =>
          rcases UsersRepository.delete_cases user db with same | ⟨-, executed⟩
          · exact unchanged (congrArg Db.tickets same) fun _ => rfl
          · exact .unassigned user rfl (congrArg Prod.fst executed)
              (congrArg (·.2.tickets) executed)
      | createTicket input =>
          have executed := TicketsRepository.create_eq input db
          cases bound : TicketsRepository.dueInstant input.dueDate with
          | error exception =>
              rw [bound] at executed
              exact unchanged (congrArg (·.2.tickets) executed) fun _ => rfl
          | ok due =>
              simp only [bound] at executed
              -- An INSERT that is refused may still have drawn a key.
              split_ifs at executed
              · have skipped := congrArg (·.2.tickets) executed
                exact .kept (fun id => congrArg (·.get? id) skipped)
                  ((Nat.le_succ _).trans_eq (congrArg Table.next skipped).symm) fun _ => rfl
              · exact .inserted input due rfl (fun _ => rfl) (congrArg (·.2.tickets) executed)
              · have skipped := congrArg (·.2.tickets) executed
                exact .kept (fun id => congrArg (·.get? id) skipped)
                  ((Nat.le_succ _).trans_eq (congrArg Table.next skipped).symm) fun _ => rfl
      | updateWithVersionCheck target expectedVersion input resetOverdueFlag =>
          rcases updateWithVersionCheck_cases target expectedVersion input resetOverdueFlag db with
            ⟨silent, same⟩ | ⟨old, due, stored, live, version, bound, executed⟩
          · exact unchanged (congrArg Db.tickets same) fun id => by simp [writesTicket, silent]
          · obtain rfl : old.id = target := Table.key_of_get? stored
            have writes : writesTicket old.id ⟨.command (.updateWithVersionCheck old.id
                expectedVersion input resetOverdueFlag), db⟩ = true := by
              simp [writesTicket, executed, affected]
            exact .written old _ stored (.patched live version bound writes) rfl
              (congrArg (·.2.tickets) executed) fun id other => by simp [writesTicket, other.symm]
      | applyEscalation target change =>
          rcases applyEscalation_cases target change db with
            ⟨silent, same⟩ | ⟨old, stored, live, unresolved, executed⟩
          · exact unchanged (congrArg Db.tickets same) fun id => by simp [writesTicket, silent]
          · obtain rfl : old.id = target := Table.key_of_get? stored
            have writes : writesTicket old.id ⟨.command (.applyEscalation old.id change), db⟩ =
                true := by
              simp [writesTicket, executed, affected]
            refine .written old _ stored (.escalated live unresolved writes) ?_
              (congrArg (·.2.tickets) executed) fun id other => by simp [writesTicket, other.symm]
            cases change <;> rfl
      | softDeleteTicket target =>
          refine tickets_stamp rfl (fun _ => rfl) ?_
          rintro row rfl live
          exact .softDeleted live
      | restoreTicket target =>
          refine tickets_stamp rfl (fun _ => rfl) ?_
          rintro row rfl deleted
          exact .restored (by simpa using deleted)
      | _ => exact unchanged (frame (by simp [Command.tables])) fun _ => rfl

/-- **A stored ticket stays stored**, and a statement changes it in one of the
listed ways. -/
theorem ticket_transition (statement : Statement) (found : db.tickets.get? id = some row) :
    ∃ row', (exec statement db).2.tickets.get? id = some row' ∧
      TicketTransition db statement row row' := by
  obtain rfl : row.id = id := Table.key_of_get? found
  cases tickets_transition statement db with
  | kept same drawn silent => exact ⟨row, (same _).trans found, .kept (silent _)⟩
  | inserted input due sent keyed executed =>
      subst sent
      -- The new row has a key of its own, so it does not hide the old one.
      have old : row.id ≠ db.tickets.next := (Table.lt_next_of_get? found).ne
      rw [executed, Table.get?_insert, if_neg old]
      exact ⟨row, found, .kept rfl⟩
  | written old new stored transition key executed silent =>
      have keyNew : Keyed.key new = old.id := key
      rw [executed, Table.get?_set, keyNew]
      by_cases same : row.id = old.id
      · rw [← same, found] at stored
        obtain rfl := Option.some.inj stored
        exact ⟨new, by rw [if_pos rfl, found]; rfl, transition⟩
      · exact ⟨row, by rw [if_neg same, found], .kept (silent _ same)⟩
  | unassigned user sent removed executed =>
      subst sent
      rw [executed, UsersRepository.clearAssignee, Table.get?_update, found, Option.map_some]
      -- The deletion of a user clears the assignee where it is that user.
      by_cases assigned : row.assigneeId = some user
      · exact ⟨_, rfl, by simpa [assigned] using .unassigned assigned removed⟩
      · exact ⟨row, by simp [assigned], .kept rfl⟩

/-- **A new ticket** comes from an INSERT; it has the next key and version 1. -/
theorem ticket_created {statement : Statement} (absent : db.tickets.get? id = none)
    (stored : (exec statement db).2.tickets.get? id = some row) :
    ∃ input due, statement = .command (.createTicket input) ∧ id = db.tickets.next ∧
      row = TicketsRepository.createdRow input due db.now id := by
  cases tickets_transition statement db with
  | kept same drawn silent =>
      rw [same, absent] at stored
      cases stored
  | inserted input due sent keyed executed =>
      rw [executed, Table.get?_insert] at stored
      split_ifs at stored with fresh
      · exact ⟨input, due, sent, fresh, (Option.some.inj stored).symm⟩
      · rw [absent] at stored
        cases stored
  | written old new found transition key executed silent =>
      rw [executed, Table.get?_set, absent, Option.map_none, ite_self] at stored
      cases stored
  | unassigned user sent removed executed =>
      rw [executed, UsersRepository.clearAssignee, Table.get?_update, absent] at stored
      cases stored

/-- A ticket that is written is stored. -/
theorem stored_of_writesTicket {statement : Statement}
    (writes : writesTicket id ⟨statement, db⟩ = true) :
    ∃ row, db.tickets.get? id = some row := by
  cases tickets_transition statement db with
  | kept same drawn silent =>
      rw [silent] at writes
      cases writes
  | inserted input due sent keyed executed =>
      subst sent
      cases writes
  | written old new stored transition key executed silent =>
      by_cases same : id = old.id
      · exact ⟨old, same ▸ stored⟩
      · rw [silent id same] at writes
        cases writes
  | unassigned user sent removed executed =>
      subst sent
      cases writes

/-- Keys of tickets are only drawn. -/
theorem next_tickets_le (statement : Statement) (db : Db) :
    db.tickets.next ≤ (exec statement db).2.tickets.next := by
  cases tickets_transition statement db with
  | kept same drawn silent => exact drawn
  | inserted input due sent keyed executed =>
      rw [executed]
      exact Nat.le_succ _
  | written old new stored transition key executed silent => rw [executed, Table.next_set]
  | unassigned user sent removed executed =>
      rw [executed]
      exact le_rfl

/-! ### Dependencies -/

/-- **A dependency** was there before, or it was just added. -/
theorem blockedBy_of_exec {statement : Statement} {ticketId blockerId : ℕ}
    (edge : (exec statement db).2.blockedBy ticketId blockerId) :
    db.blockedBy ticketId blockerId ∨
      statement = .command (.addDependency ticketId blockerId) := by
  cases statement with
  | select read => exact .inl edge
  | command write =>
      have frame := (write.exec_sameOutside db).ticketDependencies
      cases write with
      | addDependency tail head =>
          rcases DependenciesRepository.add_blockedBy tail head db edge with old | ⟨rfl, rfl⟩
          · exact .inl old
          · exact .inr rfl
      | removeDependency tail head =>
          exact .inl (DependenciesRepository.remove_blockedBy tail head db edge)
      | _ =>
          rw [Db.blockedBy, exec_command, frame (by simp [Command.tables])] at edge
          exact .inl edge

end IssueFlow
