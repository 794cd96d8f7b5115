import IssueFlow.Database.Schema
import IssueFlow.Semantics.Program
import Mathlib.Data.List.Sort

/-!
# The comments repository, the audit log and transactions

The statements of `comments.repository.ts`, and the audit insert that takes
part in their transactions. A transaction is a program over the statements of
one client; it is executed as a whole, and an error gives back the state from
before `BEGIN`. Keys that were drawn in it stay drawn.

## Main definitions

* `ClientStatement` — the statements sent inside a transaction
* `transaction` — `DatabaseService.transaction`
* `CommentsRepository.createWithMentions`,
  `CommentsRepository.updateContentAndMentions` — the two transactions

## Main results

* `CommentsRepository.createWithMentions_eq`,
  `CommentsRepository.updateContentAndMentions_eq` — what they do as a whole
-/

namespace IssueFlow

open Store Semantics

structure CommentInput where
  ticketId : ℕ
  authorId : ℕ
  content : String
  mentionedUserIds : List ℕ
  deriving DecidableEq, Repr

/-- A mention joined with its user. -/
structure MentionedUserRow where
  id : ℕ
  username : String
  fullName : String
  deriving DecidableEq, Repr

namespace AuditRepository

/-- `INSERT INTO audit_logs`. The table has no reference that could fail. The time
is `NOW()`, the start of the transaction; a transaction is one step here. -/
def insert (input : AuditInsert) (db : Db) : Except PgError Unit × Db :=
  (.ok (), { db with
    auditLogs := db.auditLogs.insert (fun id => { input with id := id, timestamp := db.now })
      fun _ => rfl })

end AuditRepository

/-! ### Transactions -/

/-- A statement sent through the client of a transaction. -/
inductive ClientStatement
  | insertComment (ticketId authorId : ℕ) (content : String)
  | updateContent (content : String) (id : ℕ) (expectedVersion : Option ℕ)
  | deleteMentions (commentId : ℕ)
  | insertMentions (commentId : ℕ) (mentionedUserIds : List ℕ)
  | insertAudit (input : AuditInsert)

namespace ClientStatement

/-- What a statement returns. -/
abbrev Rows : ClientStatement → Type
  | insertComment .. => CommentRow
  | updateContent .. => Option CommentRow
  | deleteMentions _ => Unit
  | insertMentions .. => Unit
  | insertAudit _ => Unit

abbrev Ans (statement : ClientStatement) : Type := Except PgError statement.Rows

/-- The row of a new comment. -/
def createdComment (ticketId authorId : ℕ) (content : String) (now : Timestamp) (id : ℕ) :
    CommentRow where
  id := id
  ticketId := ticketId
  authorId := authorId
  content := content
  version := 1
  createdAt := now
  updatedAt := now

/-- Execute one statement of a transaction. -/
def exec : (statement : ClientStatement) → Db → statement.Ans × Db
  | .insertComment ticketId authorId content, db =>
      if (db.tickets.get? ticketId).isSome && (db.users.get? authorId).isSome then
        (.ok (createdComment ticketId authorId content db.now db.comments.next), { db with
          comments := db.comments.insert (createdComment ticketId authorId content db.now)
            fun _ => rfl })
      else (.error .foreignKeyViolation, { db with comments := db.comments.skip })
  | .updateContent content id expectedVersion, db =>
      match (db.comments.get? id).filter fun row => expectedVersion = some row.version with
      | none => (.ok none, db)
      | some row =>
          let new :=
            { row with content := content, version := row.version + 1, updatedAt := db.now }
          if versionOverflows row.version then (.error .numericValueOutOfRange, db)
          else (.ok (some new), { db with comments := db.comments.set new })
  | .deleteMentions commentId, db =>
      (.ok (), { db with
        commentMentions := db.commentMentions.filter fun row => row.commentId ≠ commentId })
  | .insertMentions commentId mentionedUserIds, db =>
      if ¬ mentionedUserIds.Nodup ∨ ∃ row ∈ db.commentMentions,
          row.commentId = commentId ∧ row.mentionedUserId ∈ mentionedUserIds then
        (.error .uniqueViolation, db)
      else if (db.comments.get? commentId).isSome &&
          mentionedUserIds.all fun id => (db.users.get? id).isSome then
        (.ok (), { db with
          commentMentions := db.commentMentions ++
            mentionedUserIds.map fun id => ⟨commentId, id, db.now⟩ })
      else (.error .foreignKeyViolation, db)
  | .insertAudit input, db => AuditRepository.insert input db

end ClientStatement

/-- What runs between `BEGIN` and `COMMIT`. -/
abbrev Transaction (α : Type) := Program ClientStatement ClientStatement.Ans PgError α

/-- `client.query` -/
def ClientStatement.query (statement : ClientStatement) : Transaction statement.Rows :=
  .call statement .done

/-- The state after `ROLLBACK`: sequences are not rolled back. -/
def rollback (before after : Db) : Db :=
  { before with
    comments := before.comments.keepDrawn after.comments
    auditLogs := before.auditLogs.keepDrawn after.auditLogs }

/-- `DatabaseService.transaction` -/
def transaction {α : Type} (body : Transaction α) (db : Db) : Except PgError α × Db :=
  match body.run ClientStatement.exec db with
  | (.ok value, after) => (.ok value, after)
  | (.error exception, after) => (.error exception, rollback db after)

namespace CommentsRepository

def findById (id : ℕ) (db : Db) : Option CommentRow := db.comments.get? id

def findByTicket (ticketId : ℕ) (db : Db) : List CommentRow :=
  db.comments.rows.filter fun row => row.ticketId = ticketId

/-- The mentions of a comment, joined to users, by user id. -/
def findMentionedUsers (commentId : ℕ) (db : Db) : List MentionedUserRow :=
  (db.users.rows.filter fun user =>
    db.commentMentions.any fun row =>
      row.commentId = commentId && row.mentionedUserId = user.id).map
    fun user => ⟨user.id, user.username, user.fullName⟩

/-- The mentions of several comments, joined to users, by comment and user. -/
def findMentionedUsersForComments (commentIds : List ℕ) (db : Db) :
    List (ℕ × MentionedUserRow) :=
  let joined := (db.commentMentions.filter fun row => row.commentId ∈ commentIds).filterMap
    fun row => (db.users.get? row.mentionedUserId).map fun user =>
      (row.commentId, (⟨user.id, user.username, user.fullName⟩ : MentionedUserRow))
  joined.insertionSort fun first second =>
    first.1 < second.1 ∨ first.1 = second.1 ∧ first.2.id ≤ second.2.id

/-- Is the user mentioned in the comment? -/
def mentions (db : Db) (userId : ℕ) (comment : CommentRow) : Bool :=
  db.commentMentions.any fun row => row.commentId = comment.id && row.mentionedUserId = userId

/-- A page of the comments that mention a user, newest first. -/
def findCommentsMentioning (userId pageSize offset : ℕ) (db : Db) : List CommentRow :=
  let sorted := (db.comments.rows.filter (mentions db userId)).insertionSort fun first second =>
    second.createdAt < first.createdAt ∨
      first.createdAt = second.createdAt ∧ second.id ≤ first.id
  (sorted.drop offset).take pageSize

/-- `COUNT(*)` of the mentions of a user. -/
def countMentions (userId : ℕ) (db : Db) : ℕ :=
  (db.commentMentions.filter fun row => row.mentionedUserId = userId).length

/-- The mention rows of one comment, unless there are none to insert. -/
def writeMentions (commentId : ℕ) (mentionedUserIds : List ℕ) : Transaction Unit :=
  if mentionedUserIds.length > 0 then
    (ClientStatement.insertMentions commentId mentionedUserIds).query
  else pure ()

/-- Insert a comment with its mentions; `onCommitting` is the entry that is
logged in the same transaction. -/
def createWithMentions (input : CommentInput) (onCommitting : CommentRow → AuditInsert) :
    Transaction CommentRow := do
  let comment : CommentRow ←
    (ClientStatement.insertComment input.ticketId input.authorId input.content).query
  writeMentions comment.id input.mentionedUserIds
  let _ ← (ClientStatement.insertAudit (onCommitting comment)).query
  return comment

/-- The optimistic-lock UPDATE of a comment, with its mentions replaced. -/
def updateContentAndMentions (id : ℕ) (expectedVersion : Option ℕ) (content : String)
    (mentionedUserIds : List ℕ) (onCommitting : CommentRow → AuditInsert) :
    Transaction (Option CommentRow) := do
  let found : Option CommentRow ←
    (ClientStatement.updateContent content id expectedVersion).query
  match found with
  | none => return none
  | some updated =>
      let _ ← (ClientStatement.deleteMentions id).query
      writeMentions id mentionedUserIds
      let _ ← (ClientStatement.insertAudit (onCommitting updated)).query
      return some updated

/-- `DELETE FROM comments`; the mentions of the comment go with it. -/
def delete (id : ℕ) (db : Db) : Bool × Db :=
  ((db.comments.get? id).isSome, { db with
    comments := db.comments.remove fun row => row.id = id
    commentMentions := db.commentMentions.filter fun row => row.commentId ≠ id })

end CommentsRepository

/-! ### Transactions as a whole -/

/-- The tables a transaction on comments leaves alone. -/
structure SameOutsideComments (before after : Db) : Prop where
  users : after.users = before.users
  projects : after.projects = before.projects
  tickets : after.tickets = before.tickets
  ticketDependencies : after.ticketDependencies = before.ticketDependencies
  attachments : after.attachments = before.attachments
  tokenDenylist : after.tokenDenylist = before.tokenDenylist
  now : after.now = before.now

theorem SameOutsideComments.refl (db : Db) : SameOutsideComments db db :=
  ⟨rfl, rfl, rfl, rfl, rfl, rfl, rfl⟩

theorem SameOutsideComments.trans {first second third : Db}
    (before : SameOutsideComments first second) (after : SameOutsideComments second third) :
    SameOutsideComments first third where
  users := after.users.trans before.users
  projects := after.projects.trans before.projects
  tickets := after.tickets.trans before.tickets
  ticketDependencies := after.ticketDependencies.trans before.ticketDependencies
  attachments := after.attachments.trans before.attachments
  tokenDenylist := after.tokenDenylist.trans before.tokenDenylist
  now := after.now.trans before.now

theorem ClientStatement.exec_sameOutsideComments (statement : ClientStatement) (db : Db) :
    SameOutsideComments db (statement.exec db).2 := by
  cases statement with
  | insertComment ticketId authorId content =>
      simp only [exec]
      split_ifs <;> exact ⟨rfl, rfl, rfl, rfl, rfl, rfl, rfl⟩
  | updateContent content id expectedVersion =>
      simp only [exec]
      split
      · exact SameOutsideComments.refl db
      · split_ifs <;> exact ⟨rfl, rfl, rfl, rfl, rfl, rfl, rfl⟩
  | deleteMentions commentId => exact ⟨rfl, rfl, rfl, rfl, rfl, rfl, rfl⟩
  | insertMentions commentId mentionedUserIds =>
      simp only [exec]
      split_ifs <;> exact ⟨rfl, rfl, rfl, rfl, rfl, rfl, rfl⟩
  | insertAudit input => exact ⟨rfl, rfl, rfl, rfl, rfl, rfl, rfl⟩

/-- **A transaction touches comments, mentions and the audit log only.** -/
theorem transaction_sameOutsideComments {α : Type} (body : Transaction α) (db : Db) :
    SameOutsideComments db (transaction body db).2 := by
  have kept : SameOutsideComments db (body.run ClientStatement.exec db).2 :=
    Program.run_rel _ SameOutsideComments SameOutsideComments.refl
      (fun first second => first.trans second) ClientStatement.exec_sameOutsideComments body db
  simp only [transaction]
  split
  · next after finished => simpa only [finished] using kept
  · exact ⟨rfl, rfl, rfl, rfl, rfl, rfl, rfl⟩

private theorem keepDrawn_of_next_eq {ρ : Type} [Keyed ρ] {t later : Table ρ}
    (same : later.next = t.next) : t.keepDrawn later = t := by
  cases t
  simp only [Table.keepDrawn, Table.mk.injEq, true_and]
  exact same ▸ max_self _

/-- A transaction that drew no key leaves nothing behind when it rolls back. -/
theorem rollback_of_next_eq {before after : Db}
    (comments : after.comments.next = before.comments.next)
    (auditLogs : after.auditLogs.next = before.auditLogs.next) :
    rollback before after = before := by
  rw [rollback, keepDrawn_of_next_eq comments, keepDrawn_of_next_eq auditLogs]

namespace CommentsRepository

/-- The mention rows of a comment that has none yet. -/
private theorem run_writeMentions (commentId : ℕ) (db : Db) (mentionedUserIds : List ℕ)
    (found : (db.comments.get? commentId).isSome)
    (none : ∀ row ∈ db.commentMentions, row.commentId ≠ commentId) :
    (writeMentions commentId mentionedUserIds).run ClientStatement.exec db =
      if ¬ mentionedUserIds.Nodup then (.error .uniqueViolation, db)
      else if mentionedUserIds.all fun id => (db.users.get? id).isSome then
        (.ok (), { db with
          commentMentions := db.commentMentions ++
            mentionedUserIds.map fun user => ⟨commentId, user, db.now⟩ })
      else (.error .foreignKeyViolation, db) := by
  cases mentionedUserIds with
  | nil => simp [writeMentions]
  | cons first others =>
      have conflict : (¬ (first :: others).Nodup ∨ ∃ row ∈ db.commentMentions,
          row.commentId = commentId ∧ row.mentionedUserId ∈ first :: others) ↔
          ¬ (first :: others).Nodup :=
        or_iff_left fun ⟨row, member, same, _⟩ => none row member same
      simp only [writeMentions, List.length_cons, Nat.zero_lt_succ, gt_iff_lt, if_true,
        ClientStatement.query, Program.run_call, Program.run_done, ClientStatement.exec, found,
        Bool.true_and, conflict]

/-- **The transaction of a comment PATCH as a whole.** Either all of its writes
take effect or none. -/
theorem updateContentAndMentions_eq (id : ℕ) (expectedVersion : Option ℕ) (content : String)
    (mentionedUserIds : List ℕ) (onCommitting : CommentRow → AuditInsert) (db : Db) :
    transaction (updateContentAndMentions id expectedVersion content mentionedUserIds
        onCommitting) db =
      match (db.comments.get? id).filter fun row => expectedVersion = some row.version with
      | none => (.ok none, db)
      | some row =>
          let new :=
            { row with content := content, version := row.version + 1, updatedAt := db.now }
          if versionOverflows row.version then (.error .numericValueOutOfRange, db)
          else if ¬ mentionedUserIds.Nodup then (.error .uniqueViolation, db)
          else if mentionedUserIds.all fun id => (db.users.get? id).isSome then
            (.ok (some new), { db with
              comments := db.comments.set new
              commentMentions := (db.commentMentions.filter fun row => row.commentId ≠ id) ++
                mentionedUserIds.map fun user => ⟨id, user, db.now⟩
              auditLogs := db.auditLogs.insert
                (fun id => { onCommitting new with id := id, timestamp := db.now }) fun _ => rfl })
          else (.error .foreignKeyViolation, db) := by
  cases matched : (db.comments.get? id).filter fun row => expectedVersion = some row.version with
  | none =>
      simp [transaction, updateContentAndMentions, ClientStatement.query, ClientStatement.exec,
        matched]
  | some row =>
      obtain ⟨stored, -⟩ := Option.filter_eq_some_iff.mp matched
      have keyRow : Keyed.key row = id := Table.key_of_get? stored
      let new := { row with content := content, version := row.version + 1, updatedAt := db.now }
      have keyNew : Keyed.key new = id := keyRow
      -- The mention rows are replaced after the comment, which keeps its key.
      have mentionsWritten := run_writeMentions id
        { db with
          comments := db.comments.set new
          commentMentions := db.commentMentions.filter fun row => row.commentId ≠ id }
        mentionedUserIds (by rw [Table.get?_set, if_pos keyNew.symm, stored]; rfl) (by simp)
      simp only [transaction, updateContentAndMentions, ClientStatement.query,
        Program.call_bind, Program.run_call, ClientStatement.exec, matched, Program.run_bind]
      by_cases overflows : versionOverflows row.version = true
      · rw [if_pos overflows, if_pos overflows]
        exact congrArg (Prod.mk _) (rollback_of_next_eq rfl rfl)
      rw [if_neg overflows, if_neg overflows]
      simp only [Program.done_ok_bind, Program.run_done, Program.run_call, ClientStatement.exec,
        Program.run_bind]
      rw [mentionsWritten]
      split_ifs
      · -- The COMMIT, a name that is mentioned twice, and a user who does not exist.
        rfl
      · exact congrArg (Prod.mk _) (rollback_of_next_eq rfl rfl)
      · exact congrArg (Prod.mk _) (rollback_of_next_eq rfl rfl)

/-- Mention rows are appended or refused. -/
private theorem run_writeMentions_cases (commentId : ℕ) (mentionedUserIds : List ℕ) (db : Db) :
    (∃ exception, (writeMentions commentId mentionedUserIds).run ClientStatement.exec db =
        (.error exception, db)) ∨
      (writeMentions commentId mentionedUserIds).run ClientStatement.exec db =
        (.ok (), { db with
          commentMentions := db.commentMentions ++
            mentionedUserIds.map fun user => ⟨commentId, user, db.now⟩ }) := by
  cases mentionedUserIds with
  | nil => exact .inr (by simp [writeMentions])
  | cons first others =>
      have sent : (writeMentions commentId (first :: others)).run ClientStatement.exec db =
          (ClientStatement.insertMentions commentId (first :: others)).exec db := rfl
      rw [sent, ClientStatement.exec]
      split_ifs
      · exact .inl ⟨_, rfl⟩
      · exact .inr rfl
      · exact .inl ⟨_, rfl⟩

/-- **The transaction of a new comment as a whole.** -/
theorem createWithMentions_cases (input : CommentInput) (onCommitting : CommentRow → AuditInsert)
    (db : Db) :
    (∃ exception after, transaction (createWithMentions input onCommitting) db =
        (.error exception, rollback db after)) ∨
      let create :=
        ClientStatement.createdComment input.ticketId input.authorId input.content db.now
      let comment := create db.comments.next
      transaction (createWithMentions input onCommitting) db =
        (.ok comment, { db with
          comments := db.comments.insert create fun _ => rfl
          commentMentions := db.commentMentions ++
            input.mentionedUserIds.map fun user => ⟨comment.id, user, db.now⟩
          auditLogs := db.auditLogs.insert
            (fun id => { onCommitting comment with id := id, timestamp := db.now })
            fun _ => rfl }) := by
  simp only [transaction, createWithMentions, ClientStatement.query, Program.call_bind,
    Program.run_call, ClientStatement.exec]
  split_ifs with references
  · simp only [Program.done_ok_bind, Program.run_bind]
    -- What the mention rows are written to.
    let inserted : Db :=
      { db with comments := db.comments.insert (ClientStatement.createdComment input.ticketId
          input.authorId input.content db.now) fun _ => rfl }
    rcases run_writeMentions_cases db.comments.next input.mentionedUserIds inserted
      with ⟨exception, refused⟩ | written
    · refine .inl ⟨exception, inserted, ?_⟩
      simp only [ClientStatement.createdComment] at refused ⊢
      rw [refused]
    · refine .inr ?_
      simp only [ClientStatement.createdComment] at written ⊢
      rw [written]
      rfl
  · exact .inl ⟨.foreignKeyViolation, _, rfl⟩

/-- The transaction of a new comment in closed form, when no mention row refers
to the key that is drawn. -/
theorem createWithMentions_eq (input : CommentInput) (onCommitting : CommentRow → AuditInsert)
    (db : Db) (fresh : ∀ row ∈ db.commentMentions, row.commentId ≠ db.comments.next) :
    transaction (createWithMentions input onCommitting) db =
      let create :=
        ClientStatement.createdComment input.ticketId input.authorId input.content db.now
      let comment := create db.comments.next
      let inserted : Db := { db with comments := db.comments.insert create fun _ => rfl }
      if (db.tickets.get? input.ticketId).isSome && (db.users.get? input.authorId).isSome then
        if ¬ input.mentionedUserIds.Nodup then (.error .uniqueViolation, rollback db inserted)
        else if input.mentionedUserIds.all fun id => (db.users.get? id).isSome then
          (.ok comment, { inserted with
            commentMentions := db.commentMentions ++
              input.mentionedUserIds.map fun user => ⟨comment.id, user, db.now⟩
            auditLogs := db.auditLogs.insert
              (fun id => { onCommitting comment with id := id, timestamp := db.now })
              fun _ => rfl })
        else (.error .foreignKeyViolation, rollback db inserted)
      else (.error .foreignKeyViolation, rollback db { db with comments := db.comments.skip }) := by
  simp only [transaction, createWithMentions, ClientStatement.query, Program.call_bind,
    Program.run_call, ClientStatement.exec]
  by_cases references :
      ((db.tickets.get? input.ticketId).isSome && (db.users.get? input.authorId).isSome) = true
  · rw [if_pos references, if_pos references]
    simp only [Program.done_ok_bind, Program.run_bind]
    let create :=
      ClientStatement.createdComment input.ticketId input.authorId input.content db.now
    have keyed : ∀ id, Keyed.key (create id) = id := fun _ => rfl
    let inserted : Db := { db with comments := db.comments.insert create keyed }
    -- The new comment is there when its mentions refer to it.
    have stored : inserted.comments.get? db.comments.next = some (create db.comments.next) :=
      (Table.get?_insert create keyed).trans (if_pos rfl)
    have found : (inserted.comments.get? db.comments.next).isSome := Option.isSome_of_mem stored
    have written := run_writeMentions (create db.comments.next).id inserted input.mentionedUserIds
      found fresh
    rw [written]
    split_ifs <;> rfl
  · rw [if_neg references, if_neg references]
    rfl

end CommentsRepository

namespace TokenDenylistRepository

/-- `INSERT INTO token_denylist … ON CONFLICT (jti) DO NOTHING` -/
def revoke (jti : String) (userId : ℕ) (expiresAt : Timestamp) (db : Db) :
    Except PgError Unit × Db :=
  if db.tokenDenylist.any (·.jti = jti) then (.ok (), db)
  else if (db.users.get? userId).isSome then
    (.ok (), { db with
      tokenDenylist := db.tokenDenylist ++ [⟨jti, userId, expiresAt, db.now⟩] })
  else (.error .foreignKeyViolation, db)

/-- Is there a row for the token that has not expired? -/
def isRevoked (jti : String) (db : Db) : Bool :=
  db.tokenDenylist.any fun row => row.jti = jti && row.expiresAt > db.now

end TokenDenylistRepository

end IssueFlow
