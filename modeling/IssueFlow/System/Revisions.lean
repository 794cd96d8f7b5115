import IssueFlow.Database.Assignees
import IssueFlow.Database.Blockers
import IssueFlow.System.Outlines
import IssueFlow.System.Shapes

/-!
# Requests that revise

Seven kinds of requests change or remove what is stored: the PATCHes of users,
projects and tickets, the deletions of these, and the removal of a dependency.
Each makes one write, and the write repeats what matters of what was read before
it. A request whose write takes effect is therefore answered as if it had been
served, alone, at the moment of its write. A ticket PATCH checks more than its
UPDATE repeats: the lifecycle and the blockers.

## Main definitions

* `Request.revision`, `Command.response` — the write of such a request, and its answer
* `Request.WellFormed`, `Request.Allowed` — what is checked before the write
* `takesEffect` — the writes that have found what they are for

## Main results

* `run_revision` — a request of this kind, served alone where its write takes effect
* `revision_missed` — a write that has found nothing changes nothing
* `revision_outline` — what such a request sends, and how it ends
-/

namespace IssueFlow

open Store Semantics JavaScript

/-- The write by which a request changes or removes what is stored. -/
def Request.revision : Request → Option Command
  | .updateUser id dto _ => some (.updateUser id dto)
  | .deleteUser id _ => some (.deleteUser id)
  | .updateProject id dto _ => some (.updateProject id dto)
  | .softDeleteProject id _ => some (.softDeleteProject id)
  | .updateTicket id dto _ =>
      some (.updateWithVersionCheck id dto.version.toOption dto.toTicketUpdate
        dto.priority.isDefined)
  | .softDeleteTicket id _ => some (.softDeleteTicket id)
  | .removeDependency ticketId blockerId _ => some (.removeDependency ticketId blockerId)
  | _ => none

theorem Request.isAudit_revision {request : Request} {write : Command}
    (revision : request.revision = some write) : write.isAudit = false := by
  cases request <;> cases revision <;> rfl

/-- These requests check no cycle. -/
theorem Request.program_eq_of_revision [Postgres] [Bcrypt] [Unicode] {request : Request}
    (revises : request.revision.isSome) (fuel fuel' : ℕ) :
    request.program fuel = request.program fuel' := by
  cases request <;> first | rfl | cases revises

/-- What a request is answered with after its write. -/
def Command.response : (write : Command) → write.Rows → Response
  | .updateUser .., some updated => .user (toUserResponse updated)
  | .updateProject .., some updated => .project (toProjectResponse updated)
  | .updateWithVersionCheck .., some updated => .ticket (toTicketResponse updated)
  | _, _ => .none

/-- The checks of a body that no read is needed for. An assignee that is `null`
is looked for, and is not found. -/
def Request.WellFormed : Request → Prop
  | .updateUser _ dto _ => dto.fullName.isDefined ∨ dto.role.isDefined
  | .updateProject _ dto _ => dto.name.isDefined ∨ dto.description.isDefined
  | .updateTicket _ dto _ =>
      TicketsService.hasUpdate dto ∧ dto.version.isDefined ∧ dto.assigneeId ≠ .null
  | _ => True

/-- The checks of a ticket PATCH that its UPDATE does not repeat. -/
def Request.Allowed : Request → Db → Prop
  | .updateTicket id dto _, db => ∀ row ∈ db.tickets.get? id, row.status ≠ .done ∧
      TicketsService.isIllegalTransition row.status dto.status = false ∧
      (dto.status = .value .done → db.Unblocked id)
  | _, _ => True

/-! ### Served alone -/

section Alone

variable [Postgres] {α : Type} {db after : Db}

theorem UsersService.run_getOrThrow_found {id : ℕ} {row : UserRow}
    (found : db.users.get? id = some row) (next : UserRow → Service α) :
    (UsersService.getOrThrow (some id) >>= next).run exec db = (next row).run exec db := by
  have read : Query.eval (.findUserById (some id)) db = some row := found
  rw [UsersService.getOrThrow, Program.bind_assoc, run_select, read]
  rfl

theorem ProjectsService.run_getOrThrow_found {id : ℕ} {row : ProjectRow}
    (found : ProjectsRepository.findById id db = some row) (next : ProjectRow → Service α) :
    (ProjectsService.getOrThrow id >>= next).run exec db = (next row).run exec db := by
  have read : Query.eval (.findProjectById id) db = some row := found
  rw [ProjectsService.getOrThrow, Program.bind_assoc, run_select, read]
  rfl

theorem TicketsService.run_getOrThrow_found {id : ℕ} {row : TicketRow}
    (found : TicketsRepository.findById id db = some row) (next : TicketRow → Service α) :
    (TicketsService.getOrThrow id >>= next).run exec db = (next row).run exec db := by
  have read : Query.eval (.findTicketById id) db = some row := found
  rw [TicketsService.getOrThrow, Program.bind_assoc, run_select, read]
  rfl

/-- The check of a supplied assignee passes if the assignee is stored. -/
theorem TicketsService.run_assertAssigneeExists_stored {assigneeId : Field ℕ}
    (supplied : assigneeId ≠ .null)
    (stored : ∀ assignee, assigneeId = .value assignee → (db.users.get? assignee).isSome)
    (next : Unit → Service α) :
    (TicketsService.assertAssigneeExists assigneeId >>= next).run exec db =
      (next ()).run exec db := by
  cases assigneeId with
  | undefined => rfl
  | null => exact absurd rfl supplied
  | value assignee =>
      obtain ⟨user, found⟩ := Option.isSome_iff_exists.mp (stored assignee rfl)
      have given : (Field.value assignee).isDefined = true := rfl
      rw [TicketsService.assertAssigneeExists, if_pos given, Program.bind_assoc,
        UsersService.findById, Program.bind_assoc]
      exact UsersService.run_getOrThrow_found found _

/-- The check of the blockers passes if there are none unresolved. -/
theorem TicketsService.run_assertNoUnresolvedBlockers_unblocked {id : ℕ}
    {status : Field TicketStatus} (unblocked : status = .value .done → db.Unblocked id)
    (next : Unit → Service α) :
    (TicketsService.assertNoUnresolvedBlockers id status >>= next).run exec db =
      (next ()).run exec db := by
  rw [TicketsService.assertNoUnresolvedBlockers]
  split_ifs with toDone
  · have none : Query.eval (.countUnresolvedBlockers id) db = 0 :=
      DependenciesRepository.countUnresolvedBlockers_eq_zero.mpr (unblocked toDone)
    rw [Program.bind_assoc, run_select, none, if_neg (lt_irrefl 0)]
    rfl
  · rfl

/-- A ticket PATCH whose checks pass and whose UPDATE takes effect. -/
theorem TicketsService.run_update_passed {id performedBy : ℕ} {dto : UpdateTicketDto}
    {row new : TicketRow} (wellFormed : (Request.updateTicket id dto performedBy).WellFormed)
    (found : TicketsRepository.findById id db = some row) (unresolved : row.status ≠ .done)
    (legal : TicketsService.isIllegalTransition row.status dto.status = false)
    (blockers : dto.status = .value .done → db.Unblocked id)
    (assigned : ∀ assignee, dto.assigneeId = .value assignee → (db.users.get? assignee).isSome)
    (executed : TicketsRepository.updateWithVersionCheck id dto.version.toOption dto.toTicketUpdate
      dto.priority.isDefined db = (.ok (some new), after)) :
    ∃ entry, (TicketsService.update id dto performedBy).run exec db =
      (.ok (toTicketResponse new), after.log entry) := by
  obtain ⟨updatable, versioned, supplied⟩ := wellFormed
  rw [TicketsService.update, if_neg (by simpa using updatable), if_neg (by simpa using versioned),
    TicketsService.run_getOrThrow_found found, if_neg unresolved, if_neg (by simpa using legal),
    TicketsService.run_assertNoUnresolvedBlockers_unblocked blockers,
    TicketsService.run_assertAssigneeExists_stored supplied assigned, run_execute, Command.exec,
    executed]
  exact ⟨_, rfl⟩

/-- The checks of a ticket PATCH pass where its UPDATE takes effect. -/
private theorem TicketsService.run_update_found {id performedBy : ℕ} {dto : UpdateTicketDto}
    {new : TicketRow}
    (wellFormed : (Request.updateTicket id dto performedBy).WellFormed)
    (allowed : (Request.updateTicket id dto performedBy).Allowed db)
    (assignees : AssigneesStored db)
    (executed : TicketsRepository.updateWithVersionCheck id dto.version.toOption dto.toTicketUpdate
      dto.priority.isDefined db = (.ok (some new), after)) :
    ∃ entry, (TicketsService.update id dto performedBy).run exec db =
      (.ok (toTicketResponse new), after.log entry) := by
  -- The row that is written is live, and its assignee is stored.
  have kept : AssigneesStored after := by
    have written := assigneesStored_exec (.command (.updateWithVersionCheck id
      dto.version.toOption dto.toTicketUpdate dto.priority.isDefined)) assignees
    rw [exec_command, Command.exec, executed] at written
    exact written
  obtain ⟨row, due, found, -, -, -, -, rfl, rfl⟩ :=
    TicketsRepository.updateWithVersionCheck_ok executed
  obtain ⟨stored, -⟩ := Option.filter_eq_some_iff.mp found
  obtain ⟨unresolved, legal, blockers⟩ := allowed row stored
  refine TicketsService.run_update_passed wellFormed found unresolved legal blockers ?_ executed
  intro assignee given
  obtain rfl : row.id = id := Table.key_of_get? stored
  have written : (db.tickets.set { TicketsRepository.patchedRow dto.toTicketUpdate due
      dto.priority.isDefined row with updatedAt := db.now }).get? row.id =
      some { TicketsRepository.patchedRow dto.toTicketUpdate due dto.priority.isDefined row with
        updatedAt := db.now } := by
    rw [Table.get?_set, stored]
    exact if_pos rfl
  refine kept.stored written ?_
  simp [TicketsRepository.patchedRow, given, Field.orKeep]

private theorem UsersService.run_update_found {id performedBy : ℕ} {dto : UpdateUserDto}
    {updated : UserRow} (supplied : dto.fullName.isDefined ∨ dto.role.isDefined)
    (executed : (Command.updateUser id dto).exec db = (.ok (some updated), after)) :
    ∃ entry, (UsersService.update id dto performedBy).run exec db =
      (.ok (toUserResponse updated), after.log entry) := by
  cases stored : db.users.get? id with
  | none =>
      simp only [Command.exec, UsersRepository.update_eq, stored] at executed
      split_ifs at executed <;> cases executed
  | some row =>
      rw [UsersService.update, if_neg (by simpa [or_iff_not_imp_left] using supplied),
        UsersService.run_getOrThrow_found stored, run_execute, executed]
      exact ⟨_, rfl⟩

private theorem UsersService.run_delete_found {id performedBy : ℕ}
    (executed : (Command.deleteUser id).exec db = (.ok true, after)) :
    ∃ entry, (UsersService.delete id performedBy).run exec db = (.ok (), after.log entry) := by
  cases stored : db.users.get? id with
  | none =>
      simp only [Command.exec, UsersRepository.delete, stored] at executed
      cases executed
  | some row =>
      rw [UsersService.delete, UsersService.run_getOrThrow_found stored, run_execute,
        executed]
      exact ⟨_, rfl⟩

private theorem ProjectsService.run_update_found {id performedBy : ℕ} {dto : UpdateProjectDto}
    {updated : ProjectRow} (supplied : dto.name.isDefined ∨ dto.description.isDefined)
    (executed : (Command.updateProject id dto).exec db = (.ok (some updated), after)) :
    ∃ entry, (ProjectsService.update id dto performedBy).run exec db =
      (.ok (toProjectResponse updated), after.log entry) := by
  cases found : ProjectsRepository.findById id db with
  | none =>
      simp only [Command.exec, ProjectsRepository.update_eq, found] at executed
      split_ifs at executed <;> cases executed
  | some row =>
      rw [ProjectsService.update, if_neg (by simpa [or_iff_not_imp_left] using supplied),
        ProjectsService.run_getOrThrow_found found, run_execute, executed]
      exact ⟨_, rfl⟩

private theorem ProjectsService.run_softDelete_found {id performedBy : ℕ}
    (executed : (Command.softDeleteProject id).exec db = (.ok true, after)) :
    ∃ entry, (ProjectsService.softDelete id performedBy).run exec db =
      (.ok (), after.log entry) := by
  cases found : ProjectsRepository.findById id db with
  | none =>
      rw [ProjectsRepository.findById] at found
      simp only [Command.exec, ProjectsRepository.softDelete, ProjectsRepository.stamp_eq,
        found] at executed
      cases executed
  | some row =>
      rw [ProjectsService.softDelete, ProjectsService.run_getOrThrow_found found, run_execute,
        executed]
      exact ⟨_, rfl⟩

private theorem TicketsService.run_softDelete_found {id performedBy : ℕ}
    (executed : (Command.softDeleteTicket id).exec db = (.ok true, after)) :
    ∃ entry, (TicketsService.softDelete id performedBy).run exec db =
      (.ok (), after.log entry) := by
  cases found : TicketsRepository.findById id db with
  | none =>
      rw [TicketsRepository.findById] at found
      simp only [Command.exec, TicketsRepository.softDelete, TicketsRepository.stamp_eq,
        found] at executed
      cases executed
  | some row =>
      rw [TicketsService.softDelete, TicketsService.run_getOrThrow_found found, run_execute,
        executed]
      exact ⟨_, rfl⟩

private theorem DependenciesService.run_remove_found {ticketId blockerId performedBy : ℕ}
    (executed : (Command.removeDependency ticketId blockerId).exec db = (.ok true, after)) :
    ∃ entry, (DependenciesService.remove ticketId blockerId performedBy).run exec db =
      (.ok (), after.log entry) := by
  rw [DependenciesService.remove, run_execute, executed]
  exact ⟨_, rfl⟩

/-- The response of a request, from the value its service returns. -/
private theorem run_wrapped {p : Service α} {value : α} (wrap : α → Response)
    (ran : ∃ entry, p.run exec db = (.ok value, after.log entry)) :
    ∃ entry, (wrap <$> p).run exec db = (.ok (wrap value), after.log entry) := by
  obtain ⟨entry, ran⟩ := ran
  refine ⟨entry, ?_⟩
  rw [Program.run_map, ran]
  rfl

/-- **A request that revises, served alone** where its write takes effect: the
write is made, an entry is logged, and the request is answered. -/
theorem run_revision [Bcrypt] [Unicode] {request : Request} {write : Command} {rows : write.Rows}
    (revision : request.revision = some write) (wellFormed : request.WellFormed)
    (allowed : request.Allowed db) (assignees : AssigneesStored db)
    (executed : write.exec db = (.ok rows, after)) (found : write.foundNone rows = false)
    (fuel : ℕ) :
    ∃ entry, (request.program fuel).run exec db = (.ok (write.response rows), after.log entry) := by
  -- A write that has found something has answered `true` or with a row.
  cases request with
  | updateUser id dto performedBy =>
      cases revision
      obtain _ | updated := rows
      · cases found
      · exact run_wrapped .user (UsersService.run_update_found wellFormed executed)
  | deleteUser id performedBy =>
      cases revision
      obtain _ | _ := rows
      · cases found
      · exact run_wrapped (fun _ => .none) (UsersService.run_delete_found executed)
  | updateProject id dto performedBy =>
      cases revision
      obtain _ | updated := rows
      · cases found
      · exact run_wrapped .project (ProjectsService.run_update_found wellFormed executed)
  | softDeleteProject id performedBy =>
      cases revision
      obtain _ | _ := rows
      · cases found
      · exact run_wrapped (fun _ => .none)
          (ProjectsService.run_softDelete_found executed)
  | updateTicket id dto performedBy =>
      cases revision
      obtain _ | updated := rows
      · cases found
      · exact run_wrapped .ticket
          (TicketsService.run_update_found wellFormed allowed assignees executed)
  | softDeleteTicket id performedBy =>
      cases revision
      obtain _ | _ := rows
      · cases found
      · exact run_wrapped (fun _ => .none)
          (TicketsService.run_softDelete_found executed)
  | removeDependency ticketId blockerId performedBy =>
      cases revision
      obtain _ | _ := rows
      · cases found
      · exact run_wrapped (fun _ => .none)
          (DependenciesService.run_remove_found executed)
  | _ => cases revision

end Alone

/-! ### Writes that miss -/

section Missed

variable [Postgres] {db : Db}

omit [Postgres] in
/-- Removing a dependency that is not there changes nothing. -/
theorem DependenciesRepository.remove_of_not_blockedBy {ticketId blockerId : ℕ}
    (absent : ¬ db.blockedBy ticketId blockerId) : (remove ticketId blockerId db).2 = db := by
  have kept : db.ticketDependencies.filter
      (fun row => ¬(row.ticketId = ticketId ∧ row.blockerId = blockerId)) =
      db.ticketDependencies := by
    apply List.filter_eq_self.mpr
    intro row member
    exact decide_eq_true fun same => absent ⟨row, member, same⟩
  simp only [remove, kept]

/-- **The write of such a request changes nothing when it misses.** -/
theorem revision_missed {request : Request} {write : Command}
    (revision : request.revision = some write)
    (missed : write.missed (write.exec db).1 = true) : (write.exec db).2 = db := by
  -- Each write changes nothing, or it announces what it has found.
  have of_outcome {write : Command} (missed : write.missed (write.exec db).1 = true)
      (outcome : (write.exec db).2 = db ∨
        ∃ rows after, write.exec db = (.ok rows, after) ∧ write.foundNone rows = false) :
      (write.exec db).2 = db := by
    rcases outcome with same | ⟨rows, after, executed, announced⟩
    · exact same
    · rw [executed] at missed
      cases announced.symm.trans missed
  cases request with
  | updateUser id dto performedBy =>
      cases revision
      refine of_outcome missed ((UsersRepository.update_outcome id dto db).imp_right ?_)
      rintro ⟨row, -, executed⟩
      exact ⟨_, _, executed, rfl⟩
  | deleteUser id performedBy =>
      cases revision
      refine of_outcome missed ((UsersRepository.delete_cases id db).imp_right ?_)
      rintro ⟨-, executed⟩
      exact ⟨_, _, executed, rfl⟩
  | updateProject id dto performedBy =>
      cases revision
      refine of_outcome missed ((ProjectsRepository.update_outcome id dto db).imp_right ?_)
      rintro ⟨row, -, executed⟩
      exact ⟨_, _, executed, rfl⟩
  | softDeleteProject id performedBy =>
      cases revision
      refine of_outcome missed ((ProjectsRepository.stamp_cases id ProjectRow.isLive (some db.now)
        db).imp (congrArg Prod.snd) ?_)
      rintro ⟨row, -, executed⟩
      exact ⟨_, _, congrArg ok executed, rfl⟩
  | updateTicket id dto performedBy =>
      cases revision
      refine of_outcome missed ((updateWithVersionCheck_cases id dto.version.toOption
        dto.toTicketUpdate dto.priority.isDefined db).imp And.right ?_)
      rintro ⟨row, due, -, -, -, -, executed⟩
      exact ⟨_, _, executed, rfl⟩
  | softDeleteTicket id performedBy =>
      cases revision
      refine of_outcome missed ((TicketsRepository.stamp_cases id TicketRow.isLive (some db.now)
        db).imp (congrArg Prod.snd) ?_)
      rintro ⟨row, -, executed⟩
      exact ⟨_, _, congrArg ok executed, rfl⟩
  | removeDependency ticketId blockerId performedBy =>
      cases revision
      apply DependenciesRepository.remove_of_not_blockedBy
      simpa [Command.missed, Command.foundNone, Command.exec, ok, DependenciesRepository.remove]
        using missed
  | _ => cases revision

end Missed

/-! ### What is sent, and how it ends -/

section Outlines

variable [Postgres]

/-- Has the write found what it is for? Audit entries do not count. -/
def takesEffect : Event Statement Db → Bool
  | ⟨.select _, _⟩ => false
  | ⟨.command write, db⟩ => !write.isAudit && !write.missed (write.exec db).1

/-- A request that revises sends its write after reads only, when its body has
been checked. -/
def SendsRevision (request : Request) (events : History) : Statement → Prop
  | .select _ => True
  | .command write => write.isAudit = true ∨
      OnlyReads events ∧ request.WellFormed ∧ request.revision = some write

/-- A request that revises has succeeded if its write has taken effect, and is
answered from what the write has returned. -/
structure EndsRevised (events : History) (result : Except Exception Response) : Prop where
  effective : ∀ value, result = .ok value → ∃ event ∈ events, takesEffect event = true
  answered : ∀ write db rows, ⟨.command write, db⟩ ∈ events →
    takesEffect ⟨.command write, db⟩ = true → (write.exec db).1 = .ok rows →
      result = .ok (write.response rows)

/-- Nothing has taken effect yet. -/
def Ineffective (events : History) : Prop := ∀ event ∈ events, takesEffect event = false

theorem Ineffective.refused {events : History} (ineffective : Ineffective events)
    (exception : Exception) : EndsRevised events (.error exception) where
  effective value succeeded := nomatch succeeded
  answered write db rows member takes := by
    rw [ineffective _ member] at takes
    cases takes

theorem Ineffective.cons {events : History} {event : Event Statement Db}
    (none : takesEffect event = false) (ineffective : Ineffective events) :
    Ineffective (event :: events) :=
  List.forall_mem_cons.mpr ⟨none, ineffective⟩

theorem OnlyReads.ineffective {events : History} (reads : OnlyReads events) :
    Ineffective events := by
  intro ⟨op, state⟩ member
  obtain ⟨read, rfl⟩ := reads _ member
  rfl

variable {α β : Type} {request : Request} {wrap : α → Response} {events : History}

/-- The outline of a part of such a request. -/
abbrev OutlineRevised (request : Request) (wrap : α → Response) (p : Service α)
    (events : History) : Prop :=
  p.Outline exec (SendsRevision request)
    (fun events result => EndsRevised events (result.map wrap)) events

theorem outlineRevised_throw (exception : Exception) (ineffective : Ineffective events) :
    OutlineRevised request wrap (throw exception) events :=
  ineffective.refused exception

/-- Reads before the write. -/
theorem outlineRevised_first {p : Service β} {next : β → Service α} (only : p.Only IsRead)
    (reads : OnlyReads events)
    (rest : ∀ events value, OnlyReads events → OutlineRevised request wrap (next value) events) :
    OutlineRevised request wrap (p >>= next) events := by
  refine only.outline_bind OnlyReads ?_ reads rest fun _ _ reads => reads.ineffective.refused _
  rintro events op reads ⟨read, rfl⟩
  exact ⟨trivial, fun db => reads.cons⟩

/-- The write of such a request, and what follows: an entry and the answer, or,
if the write has found nothing, a refusal. -/
theorem outlineRevised_write {write : Command} {next : write.Rows → Service α}
    (reads : OnlyReads events) (wellFormed : request.WellFormed)
    (revision : request.revision = some write)
    (found : ∀ rows, write.foundNone rows = false → ∃ entry value,
      next rows = (do AuditService.log entry; return value) ∧ wrap value = write.response rows)
    (missed : ∀ rows events, write.foundNone rows = true → Ineffective events →
      OutlineRevised request wrap (next rows) events) :
    OutlineRevised request wrap (execute write >>= next) events := by
  refine (outline_execute _ _).mpr ⟨.inr ⟨reads, wellFormed, revision⟩, fun db => ?_⟩
  cases answered : (write.exec db).1 with
  | error error =>
      have none : takesEffect ⟨.command write, db⟩ = false := by
        simp [takesEffect, answered, Command.missed]
      exact (reads.ineffective.cons none).refused _
  | ok rows =>
      cases foundNone : write.foundNone rows with
      | true =>
          have none : takesEffect ⟨.command write, db⟩ = false := by
            simp [takesEffect, answered, Command.missed, foundNone]
          exact missed rows _ foundNone (reads.ineffective.cons none)
      | false =>
          obtain ⟨entry, value, closing, same⟩ := found rows foundNone
          simp only [closing]
          refine (AuditService.outline_log _ _).mpr ⟨.inl rfl, fun later => ⟨?_, ?_⟩⟩
          · have plain : write.isAudit = false := Request.isAudit_revision revision
            refine fun _ _ => ⟨⟨.command write, db⟩, by simp, ?_⟩
            simp [takesEffect, answered, Command.missed, foundNone, plain]
          -- The write is the only event that can have taken effect.
          intro other state others member takes answered'
          simp only [List.mem_cons] at member
          rcases member with entered | this | earlier
          · cases entered
            cases takes
          · cases this
            obtain rfl := Except.ok.inj (answered.symm.trans answered')
            exact congrArg Except.ok same
          · rw [reads.ineffective _ earlier] at takes
            cases takes

/-- The write of a deletion, which answers whether it has found the row. -/
theorem outlineRevised_delete {write : Command} {next : write.Rows → Service Unit}
    (reads : OnlyReads events) (wellFormed : request.WellFormed)
    (revision : request.revision = some write)
    (found : ∀ rows, write.foundNone rows = false →
      (∃ entry, next rows = AuditService.log entry) ∧ write.response rows = .none)
    (missed : ∀ rows events, write.foundNone rows = true → Ineffective events →
      OutlineRevised request (fun _ => .none) (next rows) events) :
    OutlineRevised request (fun _ => .none) (execute write >>= next) events := by
  refine outlineRevised_write reads wellFormed revision ?_ missed
  intro rows some
  obtain ⟨⟨entry, closing⟩, same⟩ := found rows some
  exact ⟨entry, (), closing.trans (Program.bind_done _).symm, same.symm⟩

section Requests

theorem UsersService.update_revised (id : ℕ) (dto : UpdateUserDto) (performedBy : ℕ) :
    OutlineRevised (.updateUser id dto performedBy) .user (UsersService.update id dto performedBy)
      [] := by
  unfold UsersService.update
  split_ifs with missing
  · exact outlineRevised_throw _ OnlyReads.nil.ineffective
  refine outlineRevised_first (UsersService.getOrThrow_reads _) .nil fun events before reads => ?_
  have supplied : dto.fullName.isDefined ∨ dto.role.isDefined := by
    simpa [or_iff_not_imp_left] using missing
  refine outlineRevised_write reads supplied rfl ?_ ?_
  · rintro (_ | updated) found
    · cases found
    · exact ⟨_, _, rfl, rfl⟩
  · rintro (_ | updated) events missed ineffective
    · exact outlineRevised_throw _ ineffective
    · cases missed

theorem ProjectsService.update_revised (id : ℕ) (dto : UpdateProjectDto) (performedBy : ℕ) :
    OutlineRevised (.updateProject id dto performedBy) .project
      (ProjectsService.update id dto performedBy) [] := by
  unfold ProjectsService.update
  split_ifs with missing
  · exact outlineRevised_throw _ OnlyReads.nil.ineffective
  refine outlineRevised_first (ProjectsService.getOrThrow_reads _) .nil
    fun events before reads => ?_
  have supplied : dto.name.isDefined ∨ dto.description.isDefined := by
    simpa [or_iff_not_imp_left] using missing
  refine outlineRevised_write reads supplied rfl ?_ ?_
  · rintro (_ | updated) found
    · cases found
    · exact ⟨_, _, rfl, rfl⟩
  · rintro (_ | updated) events missed ineffective
    · exact outlineRevised_throw _ ineffective
    · cases missed

theorem UsersService.delete_revised (id performedBy : ℕ) :
    OutlineRevised (.deleteUser id performedBy) (fun _ => .none)
      (UsersService.delete id performedBy) [] := by
  unfold UsersService.delete
  refine outlineRevised_first (UsersService.getOrThrow_reads _) .nil fun events before reads => ?_
  refine outlineRevised_delete reads trivial rfl ?_ ?_
  · rintro (_ | _) found
    · cases found
    · exact ⟨⟨_, rfl⟩, rfl⟩
  · rintro (_ | _) events missed ineffective
    · exact outlineRevised_throw _ ineffective
    · cases missed

theorem ProjectsService.softDelete_revised (id performedBy : ℕ) :
    OutlineRevised (.softDeleteProject id performedBy) (fun _ => .none)
      (ProjectsService.softDelete id performedBy) [] := by
  unfold ProjectsService.softDelete
  refine outlineRevised_first (ProjectsService.getOrThrow_reads _) .nil
    fun events before reads => ?_
  refine outlineRevised_delete reads trivial rfl ?_ ?_
  · rintro (_ | _) found
    · cases found
    · exact ⟨⟨_, rfl⟩, rfl⟩
  · rintro (_ | _) events missed ineffective
    · exact outlineRevised_throw _ ineffective
    · cases missed

theorem TicketsService.softDelete_revised (id performedBy : ℕ) :
    OutlineRevised (.softDeleteTicket id performedBy) (fun _ => .none)
      (TicketsService.softDelete id performedBy) [] := by
  unfold TicketsService.softDelete
  refine outlineRevised_first (TicketsService.getOrThrow_reads _) .nil fun events before reads => ?_
  refine outlineRevised_delete reads trivial rfl ?_ ?_
  · rintro (_ | _) found
    · cases found
    · exact ⟨⟨_, rfl⟩, rfl⟩
  · rintro (_ | _) events missed ineffective
    · exact outlineRevised_throw _ ineffective
    · cases missed

theorem DependenciesService.remove_revised (ticketId blockerId performedBy : ℕ) :
    OutlineRevised (.removeDependency ticketId blockerId performedBy) (fun _ => .none)
      (DependenciesService.remove ticketId blockerId performedBy) [] := by
  unfold DependenciesService.remove
  refine outlineRevised_delete .nil trivial rfl ?_ ?_
  · rintro (_ | _) found
    · cases found
    · exact ⟨⟨_, rfl⟩, rfl⟩
  · rintro (_ | _) events missed ineffective
    · exact outlineRevised_throw _ ineffective
    · cases missed

theorem TicketsService.update_revised (id : ℕ) (dto : UpdateTicketDto) (performedBy : ℕ) :
    OutlineRevised (.updateTicket id dto performedBy) .ticket
      (TicketsService.update id dto performedBy) [] := by
  unfold TicketsService.update
  split_ifs with missing unversioned
  · exact outlineRevised_throw _ OnlyReads.nil.ineffective
  · exact outlineRevised_throw _ OnlyReads.nil.ineffective
  refine outlineRevised_first (TicketsService.getOrThrow_reads _) .nil fun events before reads => ?_
  split_ifs
  · exact outlineRevised_throw _ reads.ineffective
  · exact outlineRevised_throw _ reads.ineffective
  refine outlineRevised_first (TicketsService.assertNoUnresolvedBlockers_reads _ _) reads
    fun events _ reads => ?_
  by_cases null : dto.assigneeId = .null
  · -- No user has the key `null`, so the assignee is not found.
    rw [null]
    exact ⟨trivial, fun db => (reads.ineffective.cons rfl).refused _⟩
  refine outlineRevised_first (TicketsService.assertAssigneeExists_reads _) reads
    fun events _ reads => ?_
  refine outlineRevised_write reads ⟨by simpa using missing, by simpa using unversioned, null⟩ rfl
    ?_ ?_
  · rintro (_ | updated) found
    · cases found
    · exact ⟨_, _, rfl, rfl⟩
  · rintro (_ | updated) events missed ineffective
    · refine (outline_select _ _).mpr ⟨trivial, fun db => ?_⟩
      exact outlineRevised_throw _ (ineffective.cons rfl)
    · cases missed

/-- **What a request that revises sends, and how it ends**: its write after
reads, and the answer of the write if that has taken effect. -/
theorem revision_outline [Bcrypt] [Unicode] {write : Command}
    (revision : request.revision = some write) (fuel : ℕ) :
    (request.program fuel).Outline exec (SendsRevision request) EndsRevised [] := by
  cases request with
  | updateUser id dto performedBy =>
      exact (Program.outline_map ..).mpr (UsersService.update_revised id dto performedBy)
  | deleteUser id performedBy =>
      exact (Program.outline_map ..).mpr (UsersService.delete_revised id performedBy)
  | updateProject id dto performedBy =>
      exact (Program.outline_map ..).mpr (ProjectsService.update_revised id dto performedBy)
  | softDeleteProject id performedBy =>
      exact (Program.outline_map ..).mpr (ProjectsService.softDelete_revised id performedBy)
  | updateTicket id dto performedBy =>
      exact (Program.outline_map ..).mpr (TicketsService.update_revised id dto performedBy)
  | softDeleteTicket id performedBy =>
      exact (Program.outline_map ..).mpr (TicketsService.softDelete_revised id performedBy)
  | removeDependency ticketId blockerId performedBy =>
      exact (Program.outline_map ..).mpr
        (DependenciesService.remove_revised ticketId blockerId performedBy)
  | _ => cases revision

end Requests

end Outlines

end IssueFlow
