import IssueFlow.Database.Pool
import IssueFlow.Properties.StoredMentions

/-!
# Comments are written as a whole

The transactions of a new comment and of an edited one, sent statement by
statement over a client of the pool, with any of the statements refused or the
connection broken at any place. Either the comments, their mentions and the
audit log are as before, or all of them are as the transaction says. A version
that is not the stored one changes nothing, and the client is always given
back.

## Main definitions

* `Untouched` — the three tables are as before
* `WrittenTogether` — a comment, its mentions and its audit entry are stored

## Main results

* `comment_writes_atomic` — both transactions, under any faults
-/

namespace IssueFlow

open Store Semantics CommentsRepository

/-- Comments, mentions and the audit log are as before. -/
structure Untouched (before after : Db) : Prop where
  comments : after.comments.rows = before.comments.rows
  commentMentions : after.commentMentions = before.commentMentions
  auditLogs : after.auditLogs.rows = before.auditLogs.rows

/-- The comment is stored, its mentions are exactly these users, and there is
one audit entry more. Nothing about other comments has changed. -/
structure WrittenTogether (comment : CommentRow) (mentionedUserIds : List ℕ) (entry : AuditInsert)
    (before after : Db) : Prop where
  stored : after.comments.get? comment.id = some comment
  otherComments : ∀ id, id ≠ comment.id → after.comments.get? id = before.comments.get? id
  mentions : (after.commentMentions.filter fun row => row.commentId = comment.id) =
    mentionedUserIds.map fun user => ⟨comment.id, user, before.now⟩
  otherMentions : (after.commentMentions.filter fun row => row.commentId ≠ comment.id) =
    before.commentMentions.filter fun row => row.commentId ≠ comment.id
  logged : after.auditLogs.rows = before.auditLogs.rows ++
    [{ entry with id := before.auditLogs.next, timestamp := before.now }]

/-- A new comment with what belongs to it. -/
def CreatedTogether (input : CommentInput) (onCommitting : CommentRow → AuditInsert)
    (comment : CommentRow) (before after : Db) : Prop :=
  (before.comments.get? comment.id = none ∧ comment.ticketId = input.ticketId ∧
    comment.authorId = input.authorId ∧ comment.content = input.content ∧ comment.version = 1) ∧
  WrittenTogether comment input.mentionedUserIds (onCommitting comment) before after

/-- An edited comment with what belongs to it. -/
def EditedTogether (id : ℕ) (expectedVersion : Option ℕ) (content : String)
    (mentionedUserIds : List ℕ) (onCommitting : CommentRow → AuditInsert) (comment : CommentRow)
    (before after : Db) : Prop :=
  (∃ old, before.comments.get? id = some old ∧ expectedVersion = some old.version ∧
    comment = { old with
      content := content
      version := old.version + 1
      updatedAt := before.now }) ∧
  WrittenTogether comment mentionedUserIds (onCommitting comment) before after

theorem Untouched.refl (db : Db) : Untouched db db := ⟨rfl, rfl, rfl⟩

section Mentions

variable {commentId : ℕ} {others : List MentionRow} {mentionedUserIds : List ℕ} {now : Timestamp}

/-- The mentions of one comment behind those of others. -/
theorem filter_commentId_append (none : ∀ row ∈ others, row.commentId ≠ commentId) :
    ((others ++ mentionedUserIds.map fun user => (⟨commentId, user, now⟩ : MentionRow)).filter
      fun row => row.commentId = commentId) =
      mentionedUserIds.map fun user => ⟨commentId, user, now⟩ := by
  have earlier : (others.filter fun row => row.commentId = commentId) = [] := by
    rw [List.filter_eq_nil_iff]
    intro row member same
    exact none row member (of_decide_eq_true same)
  rw [List.filter_append, earlier, List.nil_append, List.filter_eq_self]
  intro row member
  obtain ⟨user, -, rfl⟩ := List.mem_map.mp member
  exact decide_eq_true rfl

theorem filter_commentId_ne_append :
    ((others ++ mentionedUserIds.map fun user => (⟨commentId, user, now⟩ : MentionRow)).filter
      fun row => row.commentId ≠ commentId) =
      others.filter fun row => row.commentId ≠ commentId := by
  have later : ((mentionedUserIds.map fun user => (⟨commentId, user, now⟩ : MentionRow)).filter
      fun row => row.commentId ≠ commentId) = [] := by
    rw [List.filter_eq_nil_iff]
    intro row member other
    obtain ⟨user, -, rfl⟩ := List.mem_map.mp member
    exact of_decide_eq_true other rfl
  rw [List.filter_append, later, List.append_nil]

end Mentions

/-! ### The transactions that commit -/

/-- What a new comment leaves behind. -/
theorem createdTogether_of_committed {db after : Db} (sound : MentionsStored db)
    {input : CommentInput} {onCommitting : CommentRow → AuditInsert} {comment : CommentRow}
    (committed : transaction (createWithMentions input onCommitting) db = (.ok comment, after)) :
    CreatedTogether input onCommitting comment db after := by
  rcases createWithMentions_cases input onCommitting db with ⟨_, _, refused⟩ | stored
  · rw [refused] at committed
    cases committed
  rw [stored] at committed
  obtain ⟨same, rfl⟩ := Prod.mk.inj committed
  obtain rfl := Except.ok.inj same
  refine ⟨⟨Table.get?_of_next_le le_rfl, rfl, rfl, rfl, rfl⟩, ?_, ?_, ?_, ?_, rfl⟩
  · exact (Table.get?_insert _ fun _ => rfl).trans (if_pos rfl)
  · intro id other
    exact (Table.get?_insert _ fun _ => rfl).trans (if_neg other)
  · exact filter_commentId_append sound.fresh
  · exact filter_commentId_ne_append

/-- What an edited comment leaves behind, if there was one to be edited. -/
theorem editedTogether_of_committed {db after : Db} {id : ℕ} {expectedVersion : Option ℕ}
    {content : String} {mentionedUserIds : List ℕ} {onCommitting : CommentRow → AuditInsert}
    {found : Option CommentRow}
    (committed : transaction (updateContentAndMentions id expectedVersion content mentionedUserIds
      onCommitting) db = (.ok found, after)) :
    found = none ∧ after = db ∨ ∃ comment, found = some comment ∧
      EditedTogether id expectedVersion content mentionedUserIds onCommitting comment db after := by
  rw [updateContentAndMentions_eq] at committed
  cases matched : (db.comments.get? id).filter fun row => expectedVersion = some row.version with
  | none =>
      rw [matched] at committed
      cases committed
      exact .inl ⟨rfl, rfl⟩
  | some old =>
      obtain ⟨stored, version⟩ := Option.filter_eq_some_iff.mp matched
      rw [matched] at committed
      simp only at committed
      -- Of the three ends only the COMMIT returns a comment.
      split_ifs at committed
      all_goals cases committed
      obtain rfl : old.id = id := Table.key_of_get? stored
      refine .inr ⟨_, rfl, ⟨old, stored, of_decide_eq_true version, rfl⟩, ?_, ?_, ?_, ?_, rfl⟩
      · refine (Table.get?_set _).trans ((if_pos rfl).trans ?_)
        exact congrArg (Option.map _) stored
      · intro other different
        exact (Table.get?_set _).trans (if_neg different)
      · refine filter_commentId_append ?_
        intro row member
        exact of_decide_eq_true (List.mem_filter.mp member).2
      · refine filter_commentId_ne_append.trans ?_
        rw [List.filter_filter]
        simp only [Bool.and_self]

/-! ### Both transactions over the pool -/

/-- **Comments are written as a whole**, whichever statements fail and wherever
the connection breaks, and the client is given back exactly once. -/
theorem comment_writes_atomic (plan : ℕ → Option (Fault PgError)) {db : Db}
    (sound : MentionsStored db) :
    (∀ input onCommitting,
      (match DatabaseService.outcome plan (createWithMentions input onCommitting) db with
      | (.ok comment, after) => CreatedTogether input onCommitting comment db after
      | (.error _, after) => Untouched db after ∨
          ∃ comment, CreatedTogether input onCommitting comment db after) ∧
      (DatabaseService.events plan (createWithMentions input onCommitting) db).countP
        (·.op.isRelease) = if (plan 0).isNone then 1 else 0) ∧
    ∀ id expectedVersion content mentionedUserIds onCommitting,
      let update :=
        updateContentAndMentions id expectedVersion content mentionedUserIds onCommitting
      let Edited :=
        EditedTogether id expectedVersion content mentionedUserIds onCommitting
      (match DatabaseService.outcome plan update db with
      | (.ok (some comment), after) => Edited comment db after
      | (.ok none, after) => Untouched db after
      | (.error _, after) => Untouched db after ∨ ∃ comment, Edited comment db after) ∧
      ((∀ row, db.comments.get? id = some row → expectedVersion ≠ some row.version) →
        Untouched db (DatabaseService.outcome plan update db).2) ∧
      (DatabaseService.events plan update db).countP (·.op.isRelease) =
        if (plan 0).isNone then 1 else 0 := by
  constructor
  · intro input onCommitting
    refine ⟨?_, DatabaseService.released_once plan _ db⟩
    have atomic := DatabaseService.outcome_atomic (createWithMentions_strict input onCommitting)
      (createWithMentions_sendable input onCommitting) plan db
    generalize DatabaseService.outcome plan (createWithMentions input onCommitting) db = ended
      at atomic ⊢
    obtain ⟨result, after⟩ := ended
    cases result with
    | ok comment => exact createdTogether_of_committed sound atomic
    | error error =>
        rcases atomic with rfl | ⟨comment, committed⟩
        · exact .inl (.refl _)
        · exact .inr ⟨comment, createdTogether_of_committed sound committed⟩
  · intro id expectedVersion content mentionedUserIds onCommitting update Edited
    have atomic := DatabaseService.outcome_atomic
      (updateContentAndMentions_strict id expectedVersion content mentionedUserIds onCommitting)
      (updateContentAndMentions_sendable id expectedVersion content mentionedUserIds onCommitting)
      plan db
    refine ⟨?_, ?_, DatabaseService.released_once plan _ db⟩
    · generalize DatabaseService.outcome plan update db = ended at atomic ⊢
      obtain ⟨result, after⟩ := ended
      rcases result with error | found
      · rcases atomic with rfl | ⟨found, committed⟩
        · exact .inl (.refl _)
        · rcases editedTogether_of_committed committed with ⟨-, rfl⟩ | ⟨comment, -, edited⟩
          · exact .inl (.refl _)
          · exact .inr ⟨comment, edited⟩
      · rcases editedTogether_of_committed atomic with ⟨rfl, rfl⟩ | ⟨comment, rfl, edited⟩
        · exact .refl _
        · exact edited
    · -- An edit that has committed has found the version.
      intro stale
      have missed {found : Option CommentRow} {after : Db}
          (committed : transaction update db = (.ok found, after)) : Untouched db after := by
        rcases editedTogether_of_committed committed with
          ⟨-, rfl⟩ | ⟨_, -, ⟨row, stored, same, -⟩, -⟩
        · exact .refl _
        · exact absurd same (stale row stored)
      generalize DatabaseService.outcome plan update db = ended at atomic ⊢
      obtain ⟨result, after⟩ := ended
      cases result with
      | ok found => exact missed atomic
      | error error =>
          rcases atomic with rfl | ⟨found, committed⟩
          · exact .refl _
          · exact missed committed

section Refused

open Sample

/-- A ticket with a comment that mentions a user. -/
def Sample.mentionedRoot : Db :=
  serveAll (setup ++ [ticket .todo, .request (.createComment 1 ⟨1, "hello @root"⟩ 1)]) Db.empty

/-- The entry of a comment. -/
def Sample.commentEntry (comment : CommentRow) : AuditInsert where
  action := .create
  entityType := .comment
  entityId := comment.id
  performedBy := some 1
  actor := .user
  metadata := []

/-- The INSERT of the mentions is refused, or the connection breaks in the
`COMMIT`, or the version is stale. -/
theorem mentionedRoot_written_atomically :
    let create := createWithMentions ⟨1, 1, "ping @root", [1]⟩ commentEntry
    let refused : ℕ → Option (Fault PgError) := fun number =>
      if number = 3 then some (.refused .foreignKeyViolation) else none
    let broken : ℕ → Option (Fault PgError) := fun number =>
      if number = 5 then some (.lost true .connectionFailure) else none
    (∀ plan ∈ [refused, broken],
      match DatabaseService.outcome plan create mentionedRoot with
      | (.ok comment, after) =>
          CreatedTogether ⟨1, 1, "ping @root", [1]⟩ commentEntry comment mentionedRoot after
      | (.error _, after) => Untouched mentionedRoot after ∨ ∃ comment,
          CreatedTogether ⟨1, 1, "ping @root", [1]⟩ commentEntry comment mentionedRoot after) ∧
    Untouched mentionedRoot (DatabaseService.outcome (fun _ => none)
      (updateContentAndMentions 1 (some 2) "late" [1] commentEntry) mentionedRoot).2 := by
  intro create refused broken
  have sound : MentionsStored mentionedRoot := mentionsStored_serveAll _
  refine ⟨fun plan _ => ((comment_writes_atomic plan sound).1 _ _).1, ?_⟩
  refine ((comment_writes_atomic (fun _ => none) sound).2 1 (some 2) "late" [1] commentEntry).2.1 ?_
  intro row stored same
  have version : (mentionedRoot.comments.get? 1).map (·.version) = some 1 := by decide +kernel
  rw [stored] at version
  have first : row.version = 1 := Option.some.inj version
  rw [first] at same
  cases same

end Refused

end IssueFlow
