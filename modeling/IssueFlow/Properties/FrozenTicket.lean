import IssueFlow.Database.Records
import IssueFlow.Properties.StoredMentions
import IssueFlow.Semantics.Sequence
import IssueFlow.System.TicketEffects

/-!
# A deleted ticket is frozen

Most services look up the ticket and find it deleted. A comment is edited or
deleted, and an attachment deleted, by its own key and the key of its ticket
alone, so these requests reach into a deleted ticket. As long as none of them
does, everything that is stored about the ticket stays as it was, and restoring
the ticket brings it back.

## Main definitions

* `Request.reaches` — a request that writes a comment or an attachment of a ticket
* `Input.spares` — anything else

## Main results

* `serve_recordsOf` — such a request leaves the records of a deleted ticket
* `serve_recordsOf_ne` — a request that reaches the ticket changes them
* `deleted_ticket_frozen` — both, along every run, and restoring
* `deleted_ticket_loses_comment` — a comment of a deleted ticket is deleted
-/

namespace IssueFlow

open Store Semantics JavaScript

/-- A request that neither restores the ticket nor deletes a user. -/
def Request.staysDeleted (id : ℕ) : Request → Bool
  | restoreTicket target _ => target ≠ id
  | deleteUser .. => false
  | _ => true

def Input.staysDeleted (id : ℕ) : Input → Bool
  | .request sent => sent.staysDeleted id
  | .advance _ => true

/-- Does the request write a stored comment of the ticket, or delete one, or
delete a stored attachment of it? -/
def Request.reaches (id : ℕ) (db : Db) : Request → Bool
  | updateComment ticketId commentId dto _ =>
      ticketId = id && (db.comments.get? commentId).any fun row =>
        row.ticketId = id && dto.version = .value row.version && !versionOverflows row.version
  | deleteComment ticketId commentId _ =>
      ticketId = id && (db.comments.get? commentId).any fun row => row.ticketId = id
  | deleteAttachment ticketId attachmentId _ =>
      ticketId = id && (db.attachments.get? attachmentId).any fun row => row.ticketId = id
  | _ => false

/-- Requests that do not reach the ticket, and the clock. -/
def Input.spares (id : ℕ) (db : Db) : Input → Bool
  | .request sent => !sent.reaches id db
  | .advance _ => true

/-! ### Requests that spare the ticket -/

section Spared

variable [Postgres] {db : Db} {id : ℕ} {request : Request}

omit [Postgres] in
/-- The one write of a request that spares the ticket is about another one. -/
theorem elsewhere_of_spared {write : Command} (may : request.MayWrite write)
    (checked : request.Checked db) (deleted : TicketsRepository.findById id db = none)
    (stays : request.staysDeleted id = true) (spared : request.reaches id db = false) :
    write.Elsewhere id db := by
  cases write with
  | deleteUser target =>
      obtain ⟨performedBy, rfl⟩ := Request.mayWrite_deleteUser may
      cases stays
  | createWithMentions input onCommitting =>
      obtain ⟨dto, performedBy, rfl⟩ := Request.mayWrite_createWithMentions may
      -- Comments are created on live tickets.
      rintro rfl
      have live : (TicketsRepository.findById input.ticketId db).isSome := checked.1
      rw [deleted] at live
      cases live
  | updateContentAndMentions target expectedVersion content mentionedUserIds onCommitting =>
      obtain ⟨ticketId, dto, performedBy, rfl, rfl⟩ :=
        Request.mayWrite_updateContentAndMentions may
      intro row stored version successor own
      obtain ⟨existing, found, same⟩ := checked
      obtain rfl := Option.some.inj (stored.symm.trans found)
      have given : dto.version = .value row.version := by
        cases supplied : dto.version with
        | value given =>
            rw [supplied] at version
            exact congrArg Field.value (Option.some.inj version)
        | undefined | null =>
            rw [supplied] at version
            cases version
      simp [Request.reaches, stored, own, same.symm.trans own, given, successor] at spared
  | deleteComment target =>
      obtain ⟨ticketId, performedBy, rfl⟩ := Request.mayWrite_deleteComment may
      intro row stored own
      obtain ⟨existing, found, same⟩ := checked
      obtain rfl := Option.some.inj (stored.symm.trans found)
      simp [Request.reaches, stored, own, same.symm.trans own] at spared
  | createAttachment input =>
      obtain ⟨file, uploaderId, uuid, disk, rfl⟩ := Request.mayWrite_createAttachment may
      rintro rfl
      have live : (TicketsRepository.findById input.ticketId db).isSome := checked
      rw [deleted] at live
      cases live
  | deleteAttachment target =>
      obtain ⟨ticketId, performedBy, rfl⟩ := Request.mayWrite_deleteAttachment may
      intro row stored own
      obtain ⟨existing, found, same⟩ := checked
      obtain rfl := Option.some.inj (stored.symm.trans found)
      simp [Request.reaches, stored, own, same.symm.trans own] at spared
  | _ => trivial

/-- Creating tickets leaves the comments and attachments. -/
theorem imported_sameDiscussion [Unicode] (id projectId : ℕ) (records : List CsvRecord) (db : Db) :
    SameDiscussion id db (CsvImportService.imported projectId records db) := by
  unfold CsvImportService.imported
  induction CsvImportService.inputs projectId records generalizing db with
  | nil => exact .refl id db
  | cons input inputs ih =>
      have first : SameDiscussion id db ((Command.createTicket input).exec db).2 :=
        Command.exec_sameDiscussion trivial
      exact first.trans (ih _)

omit [Postgres] in
/-- An escalation cycle leaves the comments and attachments. -/
theorem cycled_sameDiscussion (id : ℕ) (db : Db) :
    SameDiscussion id db (EscalationService.cycled db) := by
  unfold EscalationService.cycled
  generalize EscalationService.reached db = overdue
  induction overdue generalizing db with
  | nil => exact .refl id db
  | cons ticket overdue ih =>
      have first : SameDiscussion id db (EscalationService.escalated db ticket) := by
        unfold EscalationService.escalated
        cases EscalationService.decision ticket with
        | none => exact .refl id db
        | some change => exact .of_rows rfl rfl rfl
      exact first.trans (ih _)

variable [Bcrypt] [Unicode]

/-- A request that spares a deleted ticket leaves its comments and attachments. -/
theorem serve_sameDiscussion (deleted : TicketsRepository.findById id db = none)
    (stays : request.staysDeleted id = true) (spared : request.reaches id db = false) :
    SameDiscussion id db (serve request db).2 := by
  have effect := serve_effect request db
  generalize serve request db = outcome at effect
  cases effect with
  | rejected same => exact .of_rows same.comments same.commentMentions same.attachments
  | answered same nothing => exact .of_rows same.comments same.commentMentions same.attachments
  | @performed _ _ write rows after entries checked may primary executed found due =>
      have written : SameDiscussion id db (write.exec db).2 :=
        Command.exec_sameDiscussion (elsewhere_of_spared may checked deleted stays spared)
      obtain ⟨auditLogs, logged⟩ := Db.foldl_log entries after
      rw [executed] at written
      rw [logged]
      exact written.trans (.of_rows rfl rfl rfl)
  | @imported projectId performedBy records value entry due =>
      exact (imported_sameDiscussion id projectId records db).trans (.of_rows rfl rfl rfl)
  | escalated onward => exact cycled_sameDiscussion id db
  | stopped stops => exact cycled_sameDiscussion id db

omit [Bcrypt] [Unicode] in
/-- Nothing that happens to a deleted ticket changes its row, short of restoring
it. -/
theorem TicketEffect.eq_of_deleted {row row' : TicketRow}
    (effect : TicketEffect db request row row') (deleted : row.isLive = false)
    (stays : request.staysDeleted row.id = true) : row' = row := by
  cases effect with
  | kept => rfl
  | patched live version bound => simp [deleted] at live
  | cycled =>
      rw [EscalationService.cycledRow, if_neg]
      simp [TicketsRepository.isOverdueUnresolved, deleted]
  | softDeleted live => simp [deleted] at live
  | restored deleted => simp [Request.staysDeleted] at stays
  | unassigned assigned => cases stays

/-- **A request that spares a deleted ticket** leaves everything that is stored
about it. -/
theorem serve_recordsOf {row : TicketRow} (stored : db.tickets.get? id = some row)
    (deleted : row.isLive = false) (stays : request.staysDeleted id = true)
    (spared : request.reaches id db = false) :
    (serve request db).2.recordsOf id = db.recordsOf id := by
  obtain rfl : row.id = id := Table.key_of_get? stored
  obtain ⟨row', stored', effect⟩ := serve_ticket request stored
  obtain rfl := effect.eq_of_deleted deleted stays
  have hidden : TicketsRepository.findById row'.id db = none := by
    rw [TicketsRepository.findById, stored]
    simp [deleted]
  exact (serve_sameDiscussion hidden stays spared).recordsOf (stored'.trans stored.symm)

end Spared

/-! ### Requests that reach the ticket -/

section Reached

variable [Postgres] {db after : Db} {id : ℕ} {request : Request}

omit [Postgres] in
/-- A comment of the ticket that is gone, or written over. -/
theorem recordsOf_ne_of_comment {row : CommentRow} (stored : db.comments.get? row.id = some row)
    (own : row.ticketId = id) (gone : after.comments.get? row.id ≠ some row) :
    after.recordsOf id ≠ db.recordsOf id := by
  intro same
  have comments :
      CommentsRepository.findByTicket id after = CommentsRepository.findByTicket id db :=
    congrArg TicketRecords.comments same
  have member : row ∈ CommentsRepository.findByTicket id after := by
    rw [comments]
    exact List.mem_filter.mpr ⟨Table.mem_of_get? stored, decide_eq_true own⟩
  exact gone (stored_of_mem_findByTicket member).1

omit [Postgres] in
/-- An attachment of the ticket that is gone. -/
theorem recordsOf_ne_of_attachment {row : AttachmentRow}
    (stored : db.attachments.get? row.id = some row) (own : row.ticketId = id)
    (gone : after.attachments.get? row.id = none) : after.recordsOf id ≠ db.recordsOf id := by
  intro same
  have attachments :
      AttachmentsRepository.findByTicket id after = AttachmentsRepository.findByTicket id db :=
    congrArg TicketRecords.attachments same
  have member : row ∈ AttachmentsRepository.findByTicket id after := by
    rw [attachments]
    exact List.mem_filter.mpr ⟨Table.mem_of_get? stored, decide_eq_true own⟩
  have found : after.attachments.get? row.id = some row :=
    Table.get?_key (List.mem_filter.mp member).1
  rw [gone] at found
  cases found

/-- The comment of a request, read alone. -/
theorem CommentsService.run_getOrThrow {α : Type} {commentId : ℕ} {row : CommentRow}
    (stored : db.comments.get? commentId = some row) (next : CommentRow → Service α) :
    (getOrThrow commentId >>= next).run exec db = (next row).run exec db := by
  rw [getOrThrow, Program.bind_assoc, run_select, Query.eval, CommentsRepository.findById, stored]
  rfl

/-- Mentions that are resolved alone. -/
theorem CommentsService.run_resolveMentions {α : Type} (content : String)
    (next : List ℕ → Service α) (db : Db) :
    (resolveMentions content >>= next).run exec db =
      (next (resolvedIds content db)).run exec db := by
  unfold resolveMentions
  simp only
  split_ifs with empty
  · rw [resolvedIds_of_isEmpty empty]
    rfl
  · rfl

variable [Unicode] [Bcrypt]

/-- Deleting a comment of the ticket. -/
theorem serve_deleteComment {commentId : ℕ} {row : CommentRow}
    (stored : db.comments.get? commentId = some row) (performedBy : ℕ) :
    (serve (.deleteComment row.ticketId commentId performedBy) db).2.comments.get? commentId =
      none := by
  have ran : serve (.deleteComment row.ticketId commentId performedBy) db =
      ((fun _ => Response.none) <$>
        CommentsService.delete row.ticketId commentId performedBy).run exec db := rfl
  rw [ran, Program.run_map, CommentsService.delete, CommentsService.run_getOrThrow stored,
    if_neg (not_not.mpr rfl), run_execute]
  show (db.comments.remove _).get? commentId = none
  have key : row.id = commentId := Table.key_of_get? stored
  rw [Table.get?_remove, stored]
  simp [Option.filter, key]

/-- Deleting an attachment of the ticket. -/
theorem serve_deleteAttachment {attachmentId : ℕ} {row : AttachmentRow}
    (stored : db.attachments.get? attachmentId = some row) (performedBy : ℕ) :
    (serve (.deleteAttachment row.ticketId attachmentId performedBy) db).2.attachments.get?
      attachmentId = none := by
  have ran : serve (.deleteAttachment row.ticketId attachmentId performedBy) db =
      ((fun _ => Response.none) <$>
        AttachmentsService.delete row.ticketId attachmentId performedBy).run exec db := rfl
  have read : (Query.findAttachmentById attachmentId).eval db = some row := stored
  rw [ran, Program.run_map, AttachmentsService.delete, run_select, read]
  simp only
  rw [if_neg (not_not.mpr rfl), run_execute]
  show (db.attachments.remove _).get? attachmentId = none
  have key : row.id = attachmentId := Table.key_of_get? stored
  rw [Table.get?_remove, stored]
  simp [Option.filter, key]

/-- Editing a comment of the ticket over the version it has. -/
theorem serve_updateComment {commentId : ℕ} {row : CommentRow}
    (stored : db.comments.get? commentId = some row) {dto : UpdateCommentDto}
    (version : dto.version = .value row.version)
    (successor : versionOverflows row.version = false) (performedBy : ℕ) :
    (serve (.updateComment row.ticketId commentId dto performedBy) db).2.comments.get? commentId =
      some { row with
        content := dto.content
        version := row.version + 1
        updatedAt := db.now } := by
  have ran : serve (.updateComment row.ticketId commentId dto performedBy) db =
      (Response.comment <$>
        CommentsService.update row.ticketId commentId dto performedBy).run exec db := rfl
  have defined : ¬ (!dto.version.isDefined) = true := by simp [version, Field.isDefined]
  have expected : dto.version.toOption = some row.version := by rw [version]; rfl
  have matched : ((db.comments.get? commentId).filter fun row =>
      dto.version.toOption = some row.version) = some row := by
    rw [stored, Option.filter_some, if_pos (decide_eq_true expected)]
  rw [ran, Program.run_map, CommentsService.update, if_neg defined,
    CommentsService.run_getOrThrow stored, if_neg (not_not.mpr rfl),
    CommentsService.run_resolveMentions, run_execute, Command.exec,
    CommentsRepository.updateContentAndMentions_eq, matched]
  -- The resolved users are stored, and each is listed once.
  have distinct : ¬ ¬ (resolvedIds dto.content db).Nodup := not_not.mpr (List.nodup_dedup _)
  simp only [successor, Bool.false_eq_true, if_false, if_neg distinct,
    if_pos (all_resolvedIds dto.content db)]
  show (db.comments.set _).get? commentId = _
  rw [Table.get?_set, stored, if_pos]
  · rfl
  · exact (Table.key_of_get? stored).symm

/-- **A request that reaches the ticket** changes what is stored about it, deleted
or not. -/
theorem serve_recordsOf_ne (reached : request.reaches id db = true) :
    (serve request db).2.recordsOf id ≠ db.recordsOf id := by
  unfold Request.reaches at reached
  split at reached
  · rename_i ticketId commentId dto performedBy
    simp only [Bool.and_eq_true, decide_eq_true_eq, Option.any_eq_true, Bool.not_eq_true']
      at reached
    obtain ⟨rfl, row, stored, ⟨rfl, version⟩, successor⟩ := reached
    obtain rfl : row.id = commentId := Table.key_of_get? stored
    refine recordsOf_ne_of_comment stored rfl ?_
    rw [serve_updateComment stored version successor]
    intro same
    -- The version of the comment has gone up.
    have raised : row.version + 1 = row.version :=
      congrArg CommentRow.version (Option.some.inj same)
    omega
  · rename_i ticketId commentId performedBy
    simp only [Bool.and_eq_true, decide_eq_true_eq, Option.any_eq_true] at reached
    obtain ⟨rfl, row, stored, rfl⟩ := reached
    obtain rfl : row.id = commentId := Table.key_of_get? stored
    refine recordsOf_ne_of_comment stored rfl ?_
    rw [serve_deleteComment stored]
    intro same
    cases same
  · rename_i ticketId attachmentId performedBy
    simp only [Bool.and_eq_true, decide_eq_true_eq, Option.any_eq_true] at reached
    obtain ⟨rfl, row, stored, rfl⟩ := reached
    obtain rfl : row.id = attachmentId := Table.key_of_get? stored
    exact recordsOf_ne_of_attachment stored rfl (serve_deleteAttachment stored performedBy)
  · cases reached

end Reached

/-! ### Deleting and restoring -/

section Restored

variable [Postgres] [Bcrypt] [Unicode] {db : Db} {id : ℕ} {row : TicketRow}

omit [Bcrypt] [Unicode] in
/-- The ticket of a request, read alone. -/
theorem TicketsService.run_getOrThrow {α : Type} (id : ℕ) (next : TicketRow → Service α) (db : Db) :
    (getOrThrow id >>= next).run exec db =
      match TicketsRepository.findById id db with
      | some row => (next row).run exec db
      | none => (.error (.http .notFound s!"Ticket {id} not found"), db) := by
  rw [getOrThrow, Program.bind_assoc, run_select, Query.eval]
  cases TicketsRepository.findById id db <;> rfl

omit [Postgres] [Bcrypt] [Unicode] in
/-- A ticket row that is written and an entry about it: nothing else about the
ticket changes. -/
theorem recordsOf_written (new : TicketRow) (stored : db.tickets.get? id = some row)
    (key : new.id = row.id) (entry : AuditInsert) :
    (Db.log { db with tickets := db.tickets.set new } entry).recordsOf id =
      { db.recordsOf id with row := some new } := by
  have own : Keyed.key new = id := key.trans (Table.key_of_get? stored)
  have written : (db.tickets.set new).get? id = some new := by
    rw [Table.get?_set, if_pos own.symm, stored]
    rfl
  have same : SameDiscussion id db (Db.log { db with tickets := db.tickets.set new } entry) :=
    .of_rows rfl rfl rfl
  rw [Db.recordsOf, same.comments, same.mentions, same.attachments, Db.recordsOf,
    TicketsRepository.findByIdAnyState]
  exact congrArg (TicketRecords.mk · _ _ _) written

/-- Deleting a live ticket. -/
theorem serve_softDeleteTicket (live : TicketsRepository.findById id db = some row)
    (performedBy : ℕ) :
    (serve (.softDeleteTicket id performedBy) db).2.recordsOf id =
      { db.recordsOf id with
        row := some { row with deletedAt := some db.now, updatedAt := db.now } } := by
  have ran : serve (.softDeleteTicket id performedBy) db =
      ((fun _ => Response.none) <$> TicketsService.softDelete id performedBy).run exec db := rfl
  have stamped : (Command.softDeleteTicket id).exec db = (.ok true, { db with
      tickets := db.tickets.set { row with deletedAt := some db.now, updatedAt := db.now } }) := by
    have found : (db.tickets.get? id).filter TicketRow.isLive = some row := live
    simp only [Command.exec, TicketsRepository.softDelete, TicketsRepository.stamp_eq, found, ok]
  rw [ran, Program.run_map, TicketsService.softDelete, TicketsService.run_getOrThrow, live]
  simp only
  rw [run_execute, stamped]
  exact recordsOf_written { row with deletedAt := some db.now, updatedAt := db.now }
    (Option.filter_eq_some_iff.mp live).1 rfl _

/-- Only live tickets are deleted. -/
theorem findById_of_softDeleted {performedBy : ℕ} {response : Response}
    (succeeded : (serve (.softDeleteTicket id performedBy) db).1 = .ok response) :
    ∃ row, TicketsRepository.findById id db = some row := by
  have ran : serve (.softDeleteTicket id performedBy) db =
      ((fun _ => Response.none) <$> TicketsService.softDelete id performedBy).run exec db := rfl
  rw [ran, Program.run_map, TicketsService.softDelete, TicketsService.run_getOrThrow] at succeeded
  cases found : TicketsRepository.findById id db with
  | some row => exact ⟨row, rfl⟩
  | none =>
      rw [found] at succeeded
      cases succeeded

/-- Restoring a deleted ticket. -/
theorem serve_restoreTicket (stored : db.tickets.get? id = some row) (deleted : row.isLive = false)
    (performedBy : ℕ) :
    (serve (.restoreTicket id performedBy) db).1 = .ok .none ∧
      (serve (.restoreTicket id performedBy) db).2.recordsOf id =
        { db.recordsOf id with
          row := some { row with deletedAt := none, updatedAt := db.now } } := by
  have ran : serve (.restoreTicket id performedBy) db =
      ((fun _ => Response.none) <$> TicketsService.restore id performedBy).run exec db := rfl
  have read : (Query.findTicketByIdAnyState id).eval db = some row := stored
  have absent : ¬ row.deletedAt.isNone = true := Bool.eq_false_iff.mp deleted
  have stamped : (Command.restoreTicket id).exec db = (.ok true, { db with
      tickets := db.tickets.set { row with deletedAt := none, updatedAt := db.now } }) := by
    have found : (db.tickets.get? id).filter (fun row => !row.isLive) = some row := by
      rw [stored, Option.filter_some, if_pos (by simp [deleted])]
    simp only [Command.exec, TicketsRepository.restore, TicketsRepository.stamp_eq, found, ok]
  rw [ran, Program.run_map, TicketsService.restore, run_select, read]
  simp only
  rw [if_neg absent, run_execute, stamped]
  exact ⟨rfl, recordsOf_written { row with deletedAt := none, updatedAt := db.now } stored rfl _⟩

/-- **A deleted ticket is frozen until it is restored.** After a ticket was
deleted, the records of the ticket are the same in every state that is reached
exactly when no request of the run reaches into it; and then restoring brings
back the records from before the deletion. -/
theorem deleted_ticket_frozen {performedBy : ℕ} {response : Response}
    (succeeded : (serve (.softDeleteTicket id performedBy) db).1 = .ok response)
    {inputs : List Input} (stays : ∀ input ∈ inputs, input.staysDeleted id = true) :
    let deleted := (serve (.softDeleteTicket id performedBy) db).2
    let after := serveAll inputs deleted
    (Guarded (fun db input => Input.apply input db) (fun db input => input.spares id db = true)
        inputs deleted ↔
      ∀ reached, reached <+: inputs →
        (serveAll reached deleted).recordsOf id = deleted.recordsOf id) ∧
      (after.recordsOf id = deleted.recordsOf id → ∃ row,
        TicketsRepository.findById id db = some row ∧ ∀ restorer,
          (serve (.restoreTicket id restorer) after).1 = .ok .none ∧
            (serve (.restoreTicket id restorer) after).2.recordsOf id =
              { db.recordsOf id with row := some { row with updatedAt := after.now } }) := by
  obtain ⟨row, live⟩ := findById_of_softDeleted succeeded
  have records := serve_softDeleteTicket live performedBy
  generalize (serve (.softDeleteTicket id performedBy) db).2 = deleted at records
  -- A state with the records of the deleted ticket has its row.
  have found {state : Db} (same : state.recordsOf id = deleted.recordsOf id) :
      state.tickets.get? id = some { row with deletedAt := some db.now, updatedAt := db.now } :=
    congrArg TicketRecords.row (same.trans records)
  refine ⟨guarded_iff_observed (fun state : Db => state.recordsOf id) ?_, ?_⟩
  · intro state input member same
    cases input with
    | advance elapsed => exact iff_of_true rfl rfl
    | request sent =>
        constructor
        · intro unchanged
          by_contra reached
          refine serve_recordsOf_ne (?_ : sent.reaches id state = true) unchanged
          simpa [Input.spares] using reached
        · intro spared
          apply serve_recordsOf (found same) rfl (stays _ member)
          simpa [Input.spares] using spared
  · intro same
    refine ⟨row, live, fun restorer => ?_⟩
    obtain ⟨answer, restored⟩ := serve_restoreTicket (found same) rfl restorer
    refine ⟨answer, ?_⟩
    have back : row.deletedAt = none := by
      simpa [TicketRow.isLive] using (Option.filter_eq_some_iff.mp live).2
    rw [restored, same, records, ← back]

end Restored

/-! ### A comment of a deleted ticket -/

section Comment

open Sample

/-- A ticket with a comment. -/
def Sample.commentedTicket : Db :=
  serveAll (setup ++ [ticket .todo, .request (.createComment 1 ⟨1, "hello"⟩ 1)]) Db.empty

/-- A comment and a move that are refused, and a cycle. -/
def Sample.spared : List Input :=
  [.request (.createComment 1 ⟨1, "late"⟩ 1), .request (move 1 1 .inProgress), .advance 1000,
    .request .escalate]

theorem commentedTicket_frozen :
    let deleted := (serve (.softDeleteTicket 1 1) commentedTicket).2
    let after := serveAll spared deleted
    (Guarded (fun db input => Input.apply input db) (fun db input => input.spares 1 db = true)
        spared deleted ↔
      ∀ reached, reached <+: spared →
        (serveAll reached deleted).recordsOf 1 = deleted.recordsOf 1) ∧
      (after.recordsOf 1 = deleted.recordsOf 1 → ∃ row,
        TicketsRepository.findById 1 commentedTicket = some row ∧ ∀ restorer,
          (serve (.restoreTicket 1 restorer) after).1 = .ok .none ∧
            (serve (.restoreTicket 1 restorer) after).2.recordsOf 1 =
              { commentedTicket.recordsOf 1 with
                row := some { row with updatedAt := after.now } }) := by
  have succeeded : (serve (.softDeleteTicket 1 1) commentedTicket).1 = .ok .none := by
    decide +kernel
  exact deleted_ticket_frozen succeeded (by decide +kernel)

/-- The comment is deleted while the ticket is. -/
theorem deleted_ticket_loses_comment :
    let deleted := (serve (.softDeleteTicket 1 1) commentedTicket).2
    let after := serveAll [.request (.deleteComment 1 1 1)] deleted
    TicketsRepository.findById 1 deleted = none ∧ after.recordsOf 1 ≠ deleted.recordsOf 1 := by
  decide +kernel

end Comment

end IssueFlow
