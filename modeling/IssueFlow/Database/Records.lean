import IssueFlow.Database.Effects

/-!
# The records of a ticket

What the database holds about one ticket: its row, its comments with their
mention rows, and its attachments. A write that is about another ticket leaves
them alone.

## Main definitions

* `TicketRecords`, `Db.recordsOf` — what is stored about a ticket
* `SameDiscussion` — everything but the row is the same
* `Command.Elsewhere` — writes that are about another ticket

## Main results

* `Command.exec_sameDiscussion` — such a write leaves the comments, the mentions and the
  attachments of the ticket
-/

namespace IssueFlow

open Store Semantics

/-- What is stored about a ticket. -/
structure TicketRecords where
  row : Option TicketRow
  comments : List CommentRow
  mentions : List MentionRow
  attachments : List AttachmentRow
  deriving DecidableEq, Repr

/-- The mention rows of the comments of a ticket. -/
def mentionsOn (ticketId : ℕ) (db : Db) : List MentionRow :=
  db.commentMentions.filter fun mention =>
    (CommentsRepository.findByTicket ticketId db).any fun comment => comment.id = mention.commentId

def Db.recordsOf (id : ℕ) (db : Db) : TicketRecords where
  row := TicketsRepository.findByIdAnyState id db
  comments := CommentsRepository.findByTicket id db
  mentions := mentionsOn id db
  attachments := AttachmentsRepository.findByTicket id db

/-- The comments of a ticket, their mentions and the attachments are the same. -/
structure SameDiscussion (id : ℕ) (before after : Db) : Prop where
  comments : CommentsRepository.findByTicket id after = CommentsRepository.findByTicket id before
  mentions : mentionsOn id after = mentionsOn id before
  attachments :
    AttachmentsRepository.findByTicket id after = AttachmentsRepository.findByTicket id before

namespace SameDiscussion

variable {id : ℕ} {first second third db after : Db}

theorem refl (id : ℕ) (db : Db) : SameDiscussion id db db := ⟨rfl, rfl, rfl⟩

theorem trans (earlier : SameDiscussion id first second) (later : SameDiscussion id second third) :
    SameDiscussion id first third where
  comments := later.comments.trans earlier.comments
  mentions := later.mentions.trans earlier.mentions
  attachments := later.attachments.trans earlier.attachments

/-- Tables with the same rows. -/
theorem of_rows (comments : after.comments.rows = db.comments.rows)
    (mentions : after.commentMentions = db.commentMentions)
    (attachments : after.attachments.rows = db.attachments.rows) : SameDiscussion id db after where
  comments := congrArg (List.filter _) comments
  mentions := by
    rw [mentionsOn, CommentsRepository.findByTicket, comments, mentions]
    rfl
  attachments := congrArg (List.filter _) attachments

/-- With the same row, all records are the same. -/
theorem recordsOf (same : SameDiscussion id db after)
    (row : after.tickets.get? id = db.tickets.get? id) : after.recordsOf id = db.recordsOf id := by
  rw [Db.recordsOf, Db.recordsOf, same.comments, same.mentions, same.attachments,
    TicketsRepository.findByIdAnyState, TicketsRepository.findByIdAnyState, row]

end SameDiscussion

/-- A write that is not about the comments and attachments of the ticket. -/
def Command.Elsewhere (id : ℕ) (db : Db) : Command → Prop
  | createWithMentions input _ => input.ticketId ≠ id
  | updateContentAndMentions commentId expectedVersion .. =>
      ∀ row, db.comments.get? commentId = some row → expectedVersion = some row.version →
        versionOverflows row.version = false → row.ticketId ≠ id
  | deleteComment commentId => ∀ row, db.comments.get? commentId = some row → row.ticketId ≠ id
  | createAttachment input => input.ticketId ≠ id
  | deleteAttachment attachmentId =>
      ∀ row, db.attachments.get? attachmentId = some row → row.ticketId ≠ id
  -- The mentions of a user go with the user.
  | deleteUser _ => False
  | _ => True

section Writes

variable {id : ℕ} {db : Db}

/-- A comment of the ticket is stored. -/
theorem stored_of_mem_findByTicket {comment : CommentRow}
    (member : comment ∈ CommentsRepository.findByTicket id db) :
    db.comments.get? comment.id = some comment ∧ comment.ticketId = id := by
  obtain ⟨stored, own⟩ := List.mem_filter.mp member
  exact ⟨Table.get?_key stored, of_decide_eq_true own⟩

/-- The mention rows of other comments are not seen. -/
theorem filter_mentions_of_ne {comments : List CommentRow} {target : ℕ}
    (elsewhere : ∀ comment ∈ comments, comment.id ≠ target) (mentions : List MentionRow) :
    (mentions.filter fun mention => mention.commentId ≠ target).filter
        (fun mention => comments.any fun comment => comment.id = mention.commentId) =
      mentions.filter fun mention =>
        comments.any fun comment => comment.id = mention.commentId := by
  rw [List.filter_filter]
  apply List.filter_congr
  intro mention _
  by_cases same : mention.commentId = target
  · have unseen : (comments.any fun comment => comment.id = mention.commentId) = false := by
      rw [List.any_eq_false]
      intro comment member
      simpa [same] using elsewhere comment member
    rw [unseen, Bool.false_and]
  · simp [same]

/-- New mention rows of another comment are not seen. -/
theorem filter_newMentions_of_ne {comments : List CommentRow} {target : ℕ}
    (elsewhere : ∀ comment ∈ comments, comment.id ≠ target) (users : List ℕ) (now : Timestamp) :
    (users.map fun user => (⟨target, user, now⟩ : MentionRow)).filter
      (fun mention => comments.any fun comment => comment.id = mention.commentId) = [] := by
  rw [List.filter_eq_nil_iff]
  intro mention member
  obtain ⟨user, -, rfl⟩ := List.mem_map.mp member
  simpa using elsewhere

namespace SameDiscussion

/-- A new comment of another ticket. -/
theorem createdComment {input : CommentInput} (other : input.ticketId ≠ id) (users : List ℕ)
    (now : Timestamp) (auditLogs : Table AuditLogRow) :
    SameDiscussion id db
      { db with
        comments := db.comments.insert (ClientStatement.createdComment input.ticketId
          input.authorId input.content now) fun _ => rfl
        commentMentions := db.commentMentions ++
          users.map fun user => ⟨db.comments.next, user, now⟩
        auditLogs := auditLogs } := by
  have comments : CommentsRepository.findByTicket id
      { db with
        comments := db.comments.insert (ClientStatement.createdComment input.ticketId
          input.authorId input.content now) fun _ => rfl
        commentMentions := db.commentMentions ++
          users.map fun user => ⟨db.comments.next, user, now⟩
        auditLogs := auditLogs } = CommentsRepository.findByTicket id db :=
    Table.filter_insert _ _ (fun _ => rfl) (decide_eq_false other)
  refine ⟨comments, ?_, rfl⟩
  rw [mentionsOn, comments, List.filter_append, filter_newMentions_of_ne, List.append_nil,
    mentionsOn]
  -- The key of the new comment has not been drawn before.
  intro comment member
  exact (Table.lt_next_of_get? (stored_of_mem_findByTicket member).1).ne

/-- A comment of another ticket that is written over. -/
theorem writtenComment {old : CommentRow} (new : CommentRow) {target : ℕ}
    (stored : db.comments.get? target = some old) (other : old.ticketId ≠ id)
    (key : new.id = old.id) (ticketId : new.ticketId = old.ticketId) (users : List ℕ)
    (auditLogs : Table AuditLogRow) :
    SameDiscussion id db
      { db with
        comments := db.comments.set new
        commentMentions := (db.commentMentions.filter fun row => row.commentId ≠ target) ++
          users.map fun user => ⟨target, user, db.now⟩
        auditLogs := auditLogs } := by
  have own : old.id = target := Table.key_of_get? stored
  have found : db.comments.get? (Keyed.key new) = some old := by
    rw [← stored, ← own, ← key]
    rfl
  have comments : CommentsRepository.findByTicket id
      { db with
        comments := db.comments.set new
        commentMentions := (db.commentMentions.filter fun row => row.commentId ≠ target) ++
          users.map fun user => ⟨target, user, db.now⟩
        auditLogs := auditLogs } = CommentsRepository.findByTicket id db :=
    Table.filter_set _ found (decide_eq_false other) (decide_eq_false (ticketId ▸ other))
  -- A comment of the ticket has another key than the one that is written over.
  have elsewhere : ∀ comment ∈ CommentsRepository.findByTicket id db, comment.id ≠ target := by
    rintro comment member rfl
    obtain ⟨found, here⟩ := stored_of_mem_findByTicket member
    rw [stored] at found
    obtain rfl := Option.some.inj found
    exact other here
  refine ⟨comments, ?_, rfl⟩
  rw [mentionsOn, comments, List.filter_append, filter_mentions_of_ne elsewhere,
    filter_newMentions_of_ne elsewhere, List.append_nil, mentionsOn]

/-- A comment of another ticket that is deleted. -/
theorem deletedComment {target : ℕ}
    (elsewhere : ∀ row, db.comments.get? target = some row → row.ticketId ≠ id) :
    SameDiscussion id db (CommentsRepository.delete target db).2 := by
  have comments : CommentsRepository.findByTicket id (CommentsRepository.delete target db).2 =
      CommentsRepository.findByTicket id db := by
    apply Table.filter_remove
    intro row member removed
    have key : row.id = target := of_decide_eq_true removed
    exact decide_eq_false (elsewhere row (key ▸ Table.get?_key member))
  refine ⟨comments, ?_, rfl⟩
  rw [mentionsOn, comments, mentionsOn]
  apply filter_mentions_of_ne
  rintro comment member rfl
  obtain ⟨found, here⟩ := stored_of_mem_findByTicket member
  exact elsewhere comment found here

end SameDiscussion

variable [Postgres]

/-- **A write about another ticket** leaves the comments of the ticket, their
mentions and the attachments. -/
theorem Command.exec_sameDiscussion {write : Command} (elsewhere : write.Elsewhere id db) :
    SameDiscussion id db (write.exec db).2 := by
  have frame := write.exec_sameOutside db
  -- Most writes touch none of the three tables.
  have untouched (comments : .comments ∉ write.tables)
      (mentions : .commentMentions ∉ write.tables) (attachments : .attachments ∉ write.tables) :
      SameDiscussion id db (write.exec db).2 :=
    .of_rows (congrArg Table.rows (frame.comments comments)) (frame.commentMentions mentions)
      (congrArg Table.rows (frame.attachments attachments))
  cases write with
  | deleteUser target => exact elsewhere.elim
  | createWithMentions input onCommitting =>
      rcases CommentsRepository.createWithMentions_cases input onCommitting db with
        ⟨exception, after, executed⟩ | executed
      · rw [Command.exec, executed]
        exact .of_rows rfl rfl rfl
      · rw [Command.exec, executed]
        exact .createdComment elsewhere _ _ _
  | updateContentAndMentions target expectedVersion content mentionedUserIds onCommitting =>
      rw [Command.exec, CommentsRepository.updateContentAndMentions_eq]
      cases matched : (db.comments.get? target).filter fun row =>
          expectedVersion = some row.version with
      | none => exact .refl id db
      | some row =>
          obtain ⟨stored, version⟩ := Option.filter_eq_some_iff.mp matched
          have other := elsewhere row stored (of_decide_eq_true version)
          simp only
          split_ifs with overflows
          · exact .refl id db
          · -- The comment that is written over belongs to another ticket.
            have other := other (Bool.eq_false_of_not_eq_true overflows)
            let new :=
              { row with content := content, version := row.version + 1, updatedAt := db.now }
            exact .writtenComment new stored other rfl rfl _ _
          · exact .refl id db
          · exact .refl id db
  | deleteComment target => exact .deletedComment elsewhere
  | createAttachment input =>
      rcases AttachmentsRepository.create_cases input db with ⟨error, refused⟩ | created
      · rw [Command.exec, refused]
        exact .of_rows rfl rfl rfl
      · rw [Command.exec, created]
        refine ⟨rfl, rfl, ?_⟩
        exact Table.filter_insert _ _ (fun _ => rfl) (decide_eq_false elsewhere)
  | deleteAttachment target =>
      refine ⟨rfl, rfl, ?_⟩
      apply Table.filter_remove
      intro row member removed
      have key : row.id = target := of_decide_eq_true removed
      exact decide_eq_false (elsewhere row (key ▸ Table.get?_key member))
  | _ =>
      apply untouched
      all_goals simp [Command.tables]

end Writes

end IssueFlow
